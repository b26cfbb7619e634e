import ContractReplay.Proofs.Coercion.Conformance
import ContractReplay.Proofs.Coercion.WellTyped
import ContractReplay.Proofs.Difference.Alignment
import ContractReplay.Proofs.Schema.Registration

/-!
# The outline of a value

As far as one goes through the fields of record values, a value that was coerced and a well-typed
value have the slots that their schemas declare; what is inside lists, maps and scalars is not
looked at.  So the record values that are met in a comparison are values of records that can be
reached, and name their slots apart where these records do.  Only a union can make them values of
different records, and so have a field go by different wire names.
-/

namespace ContractReplay

open Coercion Schema

/-- That the record values to which one comes through fields have the slots that are declared. -/
inductive HasOutline (catalog : Catalog) : Schema → Typed → Prop where
  | leaf
      {schema : Schema}
      {value : Typed}
      (noRecord : ∀ record : Record, value ≠ .record record) :
      HasOutline catalog schema value
  | record
      {record : RecordSchema}
      {slots : List Slot}
      (names : SlotsFor record.fields slots)
      (each :
        ∀ field slot value, (field, slot) ∈ record.fields.zip slots →
          slot.value = some value → HasOutline catalog field.schema value) :
      HasOutline catalog (.record record) (.record ⟨record.name, slots⟩)
  | union
      {variants : List Schema}
      {variant : Schema}
      {value : Typed}
      (declared : variant ∈ variants)
      (outlined : HasOutline catalog variant value) :
      HasOutline catalog (.union variants) value
  | reference
      {name : String}
      {named : Named}
      {value : Typed}
      (resolved : catalog.resolve name = .ok named)
      (outlined : HasOutline catalog named.toSchema value) :
      HasOutline catalog (.reference name) value

variable {catalog : Catalog} {schema : Schema} {value : Typed}

/-! ## Values with an outline -/

/-- A well-typed value has the outline of its schema. -/
theorem WellTyped.hasOutline
    (typed : WellTyped catalog schema value) :
    HasOutline catalog schema value := by
  induction typed with
  | record names _ _ ih => exact .record names ih
  | union declared _ ih => exact .union declared ih
  | reference resolved _ ih => exact .reference resolved ih
  | _ => exact .leaf nofun

/-- A coerced value has the outline of its schema. -/
theorem Conforms.hasOutline
    {raw : Json}
    (conforming : Conforms catalog raw schema value) :
    HasOutline catalog schema value := by
  induction conforming with
  | @record record members slots names unset conforming notNull ih =>
      refine .record names ?_
      intro field slot inner paired set
      cases held : members.fieldValue? field with
      | none =>
          have isUnset := (unset field slot paired).mpr (.inl held)
          cases set.symm.trans isUnset
      | some item => exact ih field slot item inner paired held set
  | union first _ ih => exact .union first.mem ih
  | reference resolved _ ih => exact .reference resolved ih
  | _ => exact .leaf nofun

/-- A record value with its slots cleared keeps its outline. -/
theorem HasOutline.cleared
    {record : RecordSchema}
    {value : Record}
    (outlined : HasOutline catalog (.record record) (.record value)) :
    HasOutline catalog (.record record) (.record value.cleared) := by
  cases outlined with
  | leaf noRecord => exact absurd rfl (noRecord value)
  | @record _ slots names each =>
      refine .record ?_ ?_
      · rw [SlotsFor, List.map_map]
        exact names
      · intro field slot inner paired set
        rcases List.mem_map.mp (List.of_mem_zip paired).2 with ⟨other, -, rfl⟩
        cases set

/-! ## Record values that are met -/

/-- A record value with an outline is a value of a record that the schema reaches. -/
theorem HasOutline.exists_record
    {value : Record}
    (outlined : HasOutline catalog schema (.record value)) :
    ∃ record : RecordSchema,
      Reaches catalog schema (.record record) ∧
        HasOutline catalog (.record record) (.record value) := by
  generalize isValue : Typed.record value = typed at outlined
  induction outlined with
  | leaf noRecord => exact absurd isValue.symm (noRecord value)
  | record names each =>
      cases isValue
      exact ⟨_, .here, .record names each⟩
  | union declared _ ih =>
      rcases ih isValue with ⟨record, reached, outlined⟩
      exact ⟨record, (LeadsTo.variant declared).reaches.trans reached, outlined⟩
  | reference resolved _ ih =>
      rcases ih isValue with ⟨record, reached, outlined⟩
      exact ⟨record, (LeadsTo.reference resolved).reaches.trans reached, outlined⟩

theorem HasOutline.slotsFor
    {record : RecordSchema}
    {value : Record}
    (outlined : HasOutline catalog (.record record) (.record value)) :
    SlotsFor record.fields value.slots := by
  cases outlined with
  | leaf noRecord => exact absurd rfl (noRecord value)
  | record names => exact names

/-- A slot of a record value with an outline is that of a field, and has its names. -/
theorem HasOutline.exists_field
    {record : RecordSchema}
    {value : Record}
    (outlined : HasOutline catalog (.record record) (.record value))
    {slot : Slot}
    (member : slot ∈ value.slots) :
    ∃ field ∈ record.fields,
      (slot.fieldName = field.fieldName ∧ slot.wireName = field.wireName) ∧
        ∀ inner, slot.value = some inner → HasOutline catalog field.schema inner := by
  cases outlined with
  | leaf noRecord => exact absurd rfl (noRecord value)
  | record names each =>
      rcases exists_mem_zip names.length_eq member with ⟨field, paired⟩
      have sameNames := eq_of_mem_zip names paired
      rw [Prod.mk.injEq] at sameNames
      exact
        ⟨field, (List.of_mem_zip paired).1, sameNames,
          fun inner set => each field slot inner paired set⟩

theorem namesApart_of_slotsFor
    {record : RecordSchema}
    {value : Record}
    (distinct : record.DistinctNames)
    (names : SlotsFor record.fields value.slots) :
    value.NamesApart where
  fieldNames := by
    rw [names.fieldNames_eq]
    exact distinct.fieldNames
  wireNames := by
    rw [names.wireNames_eq]
    exact distinct.wireNames

/-- That every record that a schema reaches has distinct names. -/
def AllDistinct (catalog : Catalog) (schema : Schema) : Prop :=
  ∀ record : RecordSchema, Reaches catalog schema (.record record) → record.DistinctNames

theorem AllDistinct.of_reaches
    {other : Schema}
    (distinct : AllDistinct catalog schema)
    (reached : Reaches catalog schema other) :
    AllDistinct catalog other :=
  fun record inside => distinct record (reached.trans inside)

/-- Whether a schema by itself, without what it leads to, has no name twice. -/
def hasDistinctNames : Schema → Bool
  | .record declared => decide declared.DistinctNames
  | _ => true

/-- Going through a schema and the catalog once decides that all names reached are distinct. -/
theorem allDistinct_of_everywhere
    (every : everyNamed hasDistinctNames catalog = true)
    (inside : everywhere hasDistinctNames schema = true) :
    AllDistinct catalog schema :=
  fun _ reached => of_decide_eq_true (holds_of_reaches every inside reached)

/-- The record values that are met name their slots apart, where all records have distinct names. -/
theorem namedApart_of_hasOutline
    {leftSchema rightSchema : Schema}
    {expected actual : Typed}
    (leftDistinct : AllDistinct catalog leftSchema)
    (rightDistinct : AllDistinct catalog rightSchema)
    (leftOutlined : HasOutline catalog leftSchema expected)
    (rightOutlined : HasOutline catalog rightSchema actual) :
    NamedApart expected actual := by
  intro left right met
  induction met generalizing leftSchema rightSchema with
  | here left right =>
      rcases leftOutlined.exists_record with ⟨leftRecord, leftReached, leftOutlined⟩
      rcases rightOutlined.exists_record with ⟨rightRecord, rightReached, rightOutlined⟩
      exact
        ⟨namesApart_of_slotsFor (leftDistinct leftRecord leftReached) leftOutlined.slotsFor,
          namesApart_of_slotsFor (rightDistinct rightRecord rightReached) rightOutlined.slotsFor⟩
  | inside declared set found _ ih =>
      rcases leftOutlined.exists_record with ⟨leftRecord, leftReached, leftOutlined⟩
      rcases rightOutlined.exists_record with ⟨rightRecord, rightReached, rightOutlined⟩
      rcases leftOutlined.exists_field declared with ⟨leftField, isLeft, -, leftInner⟩
      rcases RecordValueOf.exists_slot_of_get? found with ⟨slot, member, -, otherSet⟩
      rcases rightOutlined.exists_field member with ⟨rightField, isRight, -, rightInner⟩
      exact
        ih (leftDistinct.of_reaches (leftReached.trans (LeadsTo.field isLeft).reaches))
          (rightDistinct.of_reaches (rightReached.trans (LeadsTo.field isRight).reaches))
          (leftInner _ set) (rightInner _ otherSet)

/-! ## Record values of one record -/

/-- That a schema reaches no union. -/
def UnionFree (catalog : Catalog) (schema : Schema) : Prop :=
  ∀ variants : List Schema, ¬ Reaches catalog schema (.union variants)

theorem UnionFree.of_reaches
    {other : Schema}
    (free : UnionFree catalog schema)
    (reached : Reaches catalog schema other) :
    UnionFree catalog other :=
  fun variants inside => free variants (reached.trans inside)

/-- Without a union on the way, record values of one schema are values of one record. -/
theorem HasOutline.exists_common_record
    {left right : Record}
    (free : UnionFree catalog schema)
    (leftOutlined : HasOutline catalog schema (.record left))
    (rightOutlined : HasOutline catalog schema (.record right)) :
    ∃ record : RecordSchema,
      Reaches catalog schema (.record record) ∧
        HasOutline catalog (.record record) (.record left) ∧
          HasOutline catalog (.record record) (.record right) := by
  generalize isLeft : Typed.record left = typed at leftOutlined
  induction leftOutlined with
  | leaf noRecord => exact absurd isLeft.symm (noRecord left)
  | record names each =>
      cases isLeft
      exact ⟨_, .here, .record names each, rightOutlined⟩
  | @union variants => exact absurd .here (free variants)
  | @reference name named _ resolved _ ih =>
      have leads : Reaches catalog (.reference name) named.toSchema :=
        (LeadsTo.reference resolved).reaches
      cases rightOutlined with
      | leaf noRecord => exact absurd rfl (noRecord right)
      | reference otherResolved outlined =>
          cases resolved.symm.trans otherResolved
          rcases ih (free.of_reaches leads) outlined isLeft with ⟨record, reached, both⟩
          exact ⟨record, leads.trans reached, both⟩

/-- In two values of a record with distinct names, slots of one field name are of one field. -/
theorem HasOutline.exists_common_field
    {record : RecordSchema}
    {left right : Record}
    (distinct : record.DistinctNames)
    (leftOutlined : HasOutline catalog (.record record) (.record left))
    (rightOutlined : HasOutline catalog (.record record) (.record right))
    {leftSlot rightSlot : Slot}
    (isLeft : leftSlot ∈ left.slots)
    (isRight : rightSlot ∈ right.slots)
    (sameField : leftSlot.fieldName = rightSlot.fieldName) :
    ∃ field ∈ record.fields,
      leftSlot.wireName = rightSlot.wireName ∧
        (∀ inner, leftSlot.value = some inner → HasOutline catalog field.schema inner) ∧
          ∀ inner, rightSlot.value = some inner → HasOutline catalog field.schema inner := by
  rcases leftOutlined.exists_field isLeft with ⟨field, isField, names, leftInner⟩
  rcases rightOutlined.exists_field isRight with ⟨other, isOther, otherNames, rightInner⟩
  obtain rfl : field = other := by
    apply List.inj_on_of_nodup_map distinct.fieldNames isField isOther
    rw [← names.1, ← otherNames.1, sameField]
  exact ⟨field, isField, names.2.trans otherNames.2.symm, leftInner, rightInner⟩

/-- Two values of a schema without unions share the wire names of all record values met. -/
theorem sharesWires_of_unionFree
    {expected actual : Typed}
    (distinct : AllDistinct catalog schema)
    (free : UnionFree catalog schema)
    (leftOutlined : HasOutline catalog schema expected)
    (rightOutlined : HasOutline catalog schema actual) :
    ∀ left right, Meets expected actual left right → left.SharesWires right := by
  intro left right met
  induction met generalizing schema with
  | here left right =>
      rcases leftOutlined.exists_common_record free rightOutlined with
        ⟨record, reached, leftRecord, rightRecord⟩
      intro leftSlot isLeft rightSlot isRight sameField _ _
      rcases
        leftRecord.exists_common_field (distinct record reached) rightRecord isLeft isRight
          sameField
        with ⟨_, -, sameWire, -⟩
      exact sameWire
  | inside declared set found _ ih =>
      rcases leftOutlined.exists_common_record free rightOutlined with
        ⟨record, reached, leftRecord, rightRecord⟩
      rcases RecordValueOf.exists_slot_of_get? found with ⟨other, member, sameField, otherSet⟩
      rcases
        leftRecord.exists_common_field (distinct record reached) rightRecord declared member
          sameField.symm
        with ⟨field, isField, -, leftInner, rightInner⟩
      have leads : Reaches catalog schema field.schema :=
        reached.trans (LeadsTo.field isField).reaches
      exact
        ih (distinct.of_reaches leads) (free.of_reaches leads) (leftInner _ set)
          (rightInner _ otherSet)

end ContractReplay
