import ContractReplay.Proofs.Coercion.Steps
import ContractReplay.Proofs.Lists
import ContractReplay.Proofs.Schema.Registration

/-!
# Keys that two fields share

An object may hold a field under its wire name, under its field name, and under its wire
name in Pascal case or in camel case, tried in this order.  Registration keeps the wire
names of two fields apart, but not the wire name of one from the spellings of another: where
a conversion loses the boundary between two words, an entry that was meant for one field is
read as another one too.
-/

namespace ContractReplay

open Naming

/-- The spellings of a field, besides its wire name, under which an object may hold it. -/
def FieldOf.otherSpellings {σ : Type} (field : FieldOf σ) : List String :=
  [field.fieldName, pascalCase field.wireName, camelCase field.wireName]

namespace Coercion

open Schema

variable
  {catalog : Catalog} {path : Path} {members : Json.Members} {record : RecordSchema}
  {field other : FieldSchema} {key : String}

/-! ## The key of a field -/

theorem mem_candidates_iff :
    key ∈ field.candidates ↔ key = field.wireName ∨ key ∈ field.otherSpellings := by
  rw [FieldOf.candidates, fieldCandidates, List.mem_eraseDups, List.mem_cons,
    FieldOf.otherSpellings]

theorem memberKey?_eq_find? :
    memberKey? members field =
      (field.wireName :: field.otherSpellings).find? members.hasKey :=
  find?_eraseDups _ _

/--
A key other than its wire name is the one a field is read under exactly when an object has
it, has not the wire name, and has none of the spellings before it.
-/
theorem memberKey?_eq_some_iff
    (notWireName : field.wireName ≠ key) :
    memberKey? members field = some key ↔
      key ∈ members.keys ∧ field.wireName ∉ members.keys ∧
        ∃ earlier later, field.otherSpellings = earlier ++ key :: later ∧
          ∀ spelling ∈ earlier, spelling ∉ members.keys := by
  simp only [← Json.Members.hasKey_iff]
  rw [memberKey?_eq_find?, List.find?_cons]
  cases present : members.hasKey field.wireName with
  | true => simp [notWireName]
  | false =>
      show field.otherSpellings.find? members.hasKey = some key ↔ _
      rw [List.find?_eq_some_iff_append]
      simp

theorem memberKey?_eq_none_iff :
    memberKey? members field = none ↔ ∀ key ∈ members.keys, key ∉ field.candidates := by
  rw [memberKey?, List.find?_eq_none]
  simp only [Json.Members.hasKey_iff]
  exact ⟨fun none key held candidate => none key candidate held,
    fun none key candidate held => none key held candidate⟩

/-! ## The value of a field -/

/-- What a coerced object has as the value of a field is what the field was filled with. -/
theorem coerceField_of_coerceRecordAt
    (distinct : record.DistinctNames)
    (declared : field ∈ record.fields)
    {value : Record}
    (coerced : coerceRecordAt catalog path record (.object members) = .ok value) :
    coerceField catalog path members field = .ok (value.get? field.fieldName) := by
  rw [coerceRecordAt, map_eq_ok_iff] at coerced
  rcases coerced with ⟨slots, filled, isValue⟩
  rcases exists_slot_of_fillSlots filled declared with ⟨found, isFound, member⟩
  have sameSlots : value.slots = slots := by
    rw [← isValue]
  have slotNames : (value.slots.map (·.fieldName)).Nodup := by
    rw [sameSlots, (slotsFor_of_fillSlots filled).fieldNames_eq]
    exact distinct.fieldNames
  rw [← sameSlots] at member
  rw [isFound, RecordValueOf.get?_of_mem slotNames member]

/-- A field is unset where no spelling of it is there, or the first that is there has `null`. -/
theorem get?_eq_none_iff_of_coerceRecordAt
    (distinct : record.DistinctNames)
    (declared : field ∈ record.fields)
    {value : Record}
    (coerced : coerceRecordAt catalog path record (.object members) = .ok value) :
    value.get? field.fieldName = none ↔
      members.fieldValue? field = none ∨ members.fieldValue? field = some .null := by
  rcases coerceField_eq_ok_iff.mp (coerceField_of_coerceRecordAt distinct declared coerced) with
    ⟨unset, held⟩ | ⟨item, inner, held, notNull, -, set⟩
  · exact iff_of_true unset held
  · rw [set, held]
    simp [notNull]

/--
That an object has nothing but wire names of other fields of a record, none of them a
spelling of the field.
-/
def HoldsOnlyOthers (record : RecordSchema) (field : FieldSchema) (members : Json.Members) :
    Prop :=
  ∀ key ∈ members.keys,
    key ∉ field.otherSpellings ∧ ∃ other ∈ record.fields, other ≠ field ∧ other.wireName = key

/-- A field is unset where an object has nothing but wire names of other fields. -/
theorem coerceField_of_holdsOnlyOthers
    (distinct : record.DistinctNames)
    (declared : field ∈ record.fields)
    (onlyOthers : HoldsOnlyOthers record field members) :
    coerceField catalog path members field = .ok none := by
  have noKey : memberKey? members field = none := by
    rw [memberKey?_eq_none_iff]
    intro key held candidate
    rcases onlyOthers key held with ⟨notSpelled, other, otherDeclared, different, rfl⟩
    rcases mem_candidates_iff.mp candidate with isWireName | spelled
    · exact distinct.wireName_ne otherDeclared declared different isWireName
    · exact notSpelled spelled
  rw [coerceField, noKey]

/-! ## The wire name of another field -/

/--
Where each spelling of a field converts back to its name, the wire name of another field is
none of them.
-/
theorem wireName_not_mem_candidates
    (distinct : record.DistinctNames)
    (declared : field ∈ record.fields)
    (otherDeclared : other ∈ record.fields)
    (different : field ≠ other)
    (convertBack : ∀ spelling ∈ field.otherSpellings, snakeCase spelling = field.fieldName)
    (otherName : other.fieldName = snakeCase other.wireName) :
    other.wireName ∉ field.candidates := by
  intro candidate
  rcases mem_candidates_iff.mp candidate with isWireName | spelled
  · exact distinct.wireName_ne declared otherDeclared different isWireName.symm
  · apply distinct.fieldName_ne declared otherDeclared different
    rw [otherName, convertBack _ spelled]

/--
A field is filled from the entry under the wire name of another field exactly when that wire
name is a spelling of the field, and the object has neither the field's own wire name nor an
earlier spelling.  This never happens where the spellings of the field convert back to its
name; and a field is unset in an object that has nothing but wire names of other fields, none
of them a spelling of the field.
-/
theorem filled_under_other_wireName_iff
    {schemas : List Schema}
    (built : Catalog.ofSchemas schemas = .ok catalog)
    {name : String}
    (found : catalog.record name = .ok record)
    (declared : field ∈ record.fields)
    (otherDeclared : other ∈ record.fields)
    (different : field ≠ other)
    (members : Json.Members)
    (path : Path) :
    (memberKey? members field = some other.wireName ↔
        other.wireName ∈ members.keys ∧ field.wireName ∉ members.keys ∧
          ∃ earlier later, field.otherSpellings = earlier ++ other.wireName :: later ∧
            ∀ spelling ∈ earlier, spelling ∉ members.keys) ∧
      ((∀ spelling ∈ field.otherSpellings, snakeCase spelling = field.fieldName) →
        other.fieldName = snakeCase other.wireName →
          memberKey? members field ≠ some other.wireName) ∧
        (HoldsOnlyOthers record field members →
          coerceField catalog path members field = .ok none) ∧
          ∀ value,
            coerceRecordAt catalog path record (.object members) = .ok value →
              coerceField catalog path members field = .ok (value.get? field.fieldName) ∧
                (HoldsOnlyOthers record field members → value.get? field.fieldName = none) := by
  have distinct := Catalog.distinctNames_of_record built found
  refine ⟨?_, ?_, ?_, ?_⟩
  · exact memberKey?_eq_some_iff (distinct.wireName_ne declared otherDeclared different)
  · intro convertBack otherName isKey
    exact
      wireName_not_mem_candidates distinct declared otherDeclared different convertBack otherName
        (List.mem_of_find?_eq_some isKey)
  · exact coerceField_of_holdsOnlyOthers distinct declared
  · intro value coerced
    have filled := coerceField_of_coerceRecordAt distinct declared coerced
    refine ⟨filled, ?_⟩
    intro onlyOthers
    rw [coerceField_of_holdsOnlyOthers distinct declared onlyOthers, Except.ok.injEq] at filled
    exact filled.symm

end Coercion

namespace Demo

/-- A tag whose wire name starts with one small letter. -/
def smallTag : FieldSchema :=
  .ofWireName "eTag" (.scalar .string)

/-- A tag whose wire name is that of `smallTag` in Pascal case. -/
def capitalTag : FieldSchema :=
  .ofWireName "ETag" (.scalar .string)

/-- A field whose spellings convert back to its name. -/
def partSize : FieldSchema :=
  .ofWireName "size" (.scalar .integer)

/-- A record with two tags, which are told apart by their names and by their wire names. -/
def taggedPart : RecordSchema where
  name := "Part"
  fields := [smallTag, capitalTag, partSize]

/-- A catalog with that record. -/
def partCatalog : Catalog :=
  ⟨[.record taggedPart]⟩

/-- An object that has the wire name of one tag only. -/
def taggedJson : Json.Members :=
  [("ETag", .string "x")]

theorem partCatalog_built :
    Catalog.ofSchemas [.record taggedPart] = .ok partCatalog :=
  rfl

theorem partCatalog_record :
    partCatalog.record "Part" = .ok taggedPart :=
  rfl

theorem ne_capitalTag
    {field : FieldSchema}
    (wireName : field.wireName ≠ "ETag") :
    field ≠ capitalTag :=
  fun same => wireName (congrArg FieldOf.wireName same)

end Demo

namespace Coercion

open Demo

/-- One tag is filled from the entry of the other, and the size from none. -/
theorem filled_under_other_wireName_iff_taggedPart :
    memberKey? taggedJson smallTag = some capitalTag.wireName ∧
      memberKey? taggedJson partSize ≠ some capitalTag.wireName ∧
        ∃ value : Record,
          coerceRecordAt partCatalog rootPath taggedPart (.object taggedJson) = .ok value ∧
            value.get? partSize.fieldName = none := by
  have tagDeclared : smallTag ∈ taggedPart.fields := by simp [taggedPart]
  have otherDeclared : capitalTag ∈ taggedPart.fields := by simp [taggedPart]
  have sizeDeclared : partSize ∈ taggedPart.fields := by simp [taggedPart]
  have ofTag :=
    filled_under_other_wireName_iff partCatalog_built partCatalog_record tagDeclared otherDeclared
      (ne_capitalTag (by decide)) taggedJson rootPath
  have ofSize :=
    filled_under_other_wireName_iff partCatalog_built partCatalog_record sizeDeclared otherDeclared
      (ne_capitalTag (by decide)) taggedJson rootPath
  have onlyOthers : HoldsOnlyOthers taggedPart partSize taggedJson := by
    intro key held
    obtain rfl := List.mem_singleton.mp held
    exact ⟨by decide +kernel, capitalTag, otherDeclared, (ne_capitalTag (by decide)).symm, rfl⟩
  have coerced :
      coerceRecordAt partCatalog rootPath taggedPart (.object taggedJson) =
        .ok ⟨"Part",
          [⟨"e_tag", "eTag", some (.string "x")⟩, ⟨"etag", "ETag", some (.string "x")⟩,
            ⟨"size", "size", none⟩]⟩ := by
    rfl
  refine ⟨ofTag.1.mpr ?_, ofSize.2.1 ?_ ?_, _, coerced, (ofSize.2.2.2 _ coerced).2 onlyOthers⟩
  · exact
      ⟨by decide, by decide, [smallTag.fieldName], ["eTag"], by decide +kernel, by decide +kernel⟩
  · decide +kernel
  · decide +kernel

/-- Registration does not keep the wire name of a field from being read as another one. -/
theorem not_forall_wireName_not_read_elsewhere :
    ¬ ∀ (schemas : List Schema) (catalog : Catalog),
      Catalog.ofSchemas schemas = .ok catalog →
        ∀ name record, catalog.record name = .ok record →
          ∀ field ∈ record.fields, ∀ other ∈ record.fields, field ≠ other →
            ∀ members : Json.Members, memberKey? members field ≠ some other.wireName := by
  intro never
  have tagDeclared : smallTag ∈ taggedPart.fields := by simp [taggedPart]
  have otherDeclared : capitalTag ∈ taggedPart.fields := by simp [taggedPart]
  have isKey : memberKey? taggedJson smallTag = some capitalTag.wireName := by
    decide +kernel
  exact
    never _ _ partCatalog_built _ _ partCatalog_record smallTag tagDeclared capitalTag
      otherDeclared (ne_capitalTag (by decide)) taggedJson isKey

end Coercion

end ContractReplay
