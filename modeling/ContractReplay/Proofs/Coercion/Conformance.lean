import ContractReplay.Demo.Schemas
import ContractReplay.Proofs.Base64.Canonical
import ContractReplay.Proofs.Binary64.Integers
import ContractReplay.Proofs.Coercion.Steps

/-!
# Coerced values conform to their schemas

A typed value conforms to a schema, as the reading of a JSON value, by a relation with a
rule for every kind of schema.  `null` counts as no value in the fields of a record and
nowhere else: items of lists, entries of maps and variants of unions keep it.  Whatever
coercion returns stands in this relation, by induction on the JSON value; unions and
references keep the value, and are followed before its parts are looked at.
-/

namespace ContractReplay

open Coercion Schema

/--
That a typed value is what a JSON value means under a schema.

In the rule for maps, `source` gives the value of a member under each key; in the rule for
records, every declared field has its slot, and the slot is unset exactly where the first
candidate key that is there, if any, holds `null`.
-/
inductive Conforms (catalog : Catalog) : Json → Schema → Typed → Prop where
  | boolean (value : Bool) :
      Conforms catalog (.bool value) (.scalar .boolean) (.boolean value)
  | integer
      {number : Json.Number}
      {value : Int64}
      (read : number.toInt64? = some value) :
      Conforms catalog (.number number) (.scalar .integer) (.integer value)
  | float
      {number : Json.Number}
      {value : Binary64.Finite}
      (read : number.toBinary64 = .finite value) :
      Conforms catalog (.number number) (.scalar .float) (.float (.finite value))
  | string (text : String) :
      Conforms catalog (.string text) (.scalar .string) (.string text)
  | binary (bytes : List UInt8) :
      Conforms catalog (.string (Base64.encode bytes)) (.scalar .binary) (.binary bytes)
  | timestamp
      {text : String}
      {value : Timestamp}
      (read : Timestamp.ofText? text = some value) :
      Conforms catalog (.string text) (.scalar .timestamp) (.timestamp value)
  | json (value : Json) :
      Conforms catalog value (.scalar .json) (.json value)
  | enum
      {enumeration : EnumSchema}
      {symbol : String}
      (declared : symbol ∈ enumeration.symbols) :
      Conforms catalog (.string symbol) (.enum enumeration) (.enum enumeration.name symbol)
  | list
      {element : Schema}
      {items : List Json}
      {values : List Typed}
      (length : items.length = values.length)
      (conforming :
        ∀ item value, (item, value) ∈ items.zip values → Conforms catalog item element value) :
      Conforms catalog (.array items) (.list element) (.list values)
  | map
      {schema : Schema}
      {members : Json.Members}
      {entries : List (String × Typed)}
      (source : String → Json)
      (ascending : Typed.Ascending entries)
      (keys : ∀ key, key ∈ entries.map Prod.fst ↔ key ∈ members.keys)
      (held : ∀ key ∈ members.keys, (key, source key) ∈ members)
      (conforming :
        ∀ key value, (key, value) ∈ entries → Conforms catalog (source key) schema value) :
      Conforms catalog (.object members) (.map schema) (.map entries)
  | record
      {record : RecordSchema}
      {members : Json.Members}
      {slots : List Slot}
      (names : SlotsFor record.fields slots)
      (unset :
        ∀ field slot, (field, slot) ∈ record.fields.zip slots →
          (slot.value = none ↔
            members.fieldValue? field = none ∨ members.fieldValue? field = some .null))
      (conforming :
        ∀ field slot item value, (field, slot) ∈ record.fields.zip slots →
          members.fieldValue? field = some item → slot.value = some value →
            Conforms catalog item field.schema value)
      (notNull : ∀ slot ∈ slots, slot.value ≠ some (.json .null)) :
      Conforms catalog (.object members) (.record record) (.record ⟨record.name, slots⟩)
  | union
      {raw : Json}
      {variants before after : List Schema}
      {variant : Schema}
      {value : Typed}
      (first : FirstAccepting catalog raw variants before variant after)
      (conforming : Conforms catalog raw variant value) :
      Conforms catalog raw (.union variants) value
  | reference
      {raw : Json}
      {name : String}
      {named : Named}
      {value : Typed}
      (resolved : catalog.resolve name = .ok named)
      (conforming : Conforms catalog raw named.toSchema value) :
      Conforms catalog raw (.reference name) value

variable {catalog : Catalog} {raw : Json} {path : Path}

/-! ## Scalars and enumerations -/

theorem conforms_of_coerceScalar
    {kind : Scalar}
    {value : Typed}
    (coerced : coerceScalar path raw kind = .ok value) :
    Conforms catalog raw (.scalar kind) value := by
  cases kind with
  | boolean =>
      cases raw with
      | bool found =>
          cases coerced
          exact .boolean found
      | _ => cases coerced
  | integer =>
      cases raw with
      | number found =>
          simp only [coerceScalar] at coerced
          split at coerced
          · rename_i read
            cases coerced
            exact .integer read
          · cases coerced
      | _ => cases coerced
  | float =>
      cases raw with
      | number found =>
          rcases found.toBinary64_finite with ⟨finite, read⟩
          simp only [coerceScalar, read] at coerced
          cases coerced
          exact .float read
      | _ => cases coerced
  | string =>
      cases raw with
      | string found =>
          cases coerced
          exact .string found
      | _ => cases coerced
  | binary =>
      cases raw with
      | string found =>
          simp only [coerceScalar] at coerced
          split at coerced
          · rename_i bytes read
            cases coerced
            obtain rfl := Base64.decode_eq_ok_iff.mp read
            exact .binary bytes
          · cases coerced
      | _ => cases coerced
  | timestamp =>
      cases raw with
      | string found =>
          simp only [coerceScalar] at coerced
          split at coerced
          · rename_i read
            cases coerced
            exact .timestamp read
          · cases coerced
      | _ => cases coerced
  | json =>
      cases coerced
      exact .json raw

theorem conforms_of_coerceSymbol
    {enumeration : EnumSchema}
    {value : Typed}
    (coerced : coerceSymbol path raw enumeration = .ok value) :
    Conforms catalog raw (.enum enumeration) value := by
  cases raw with
  | string symbol =>
      rw [coerceSymbol] at coerced
      split_ifs at coerced with declared
      cases coerced
      exact .enum (by simpa [EnumSchema.contains] using declared)
  | _ => cases coerced

/-! ## Lists, maps and records -/

theorem conforms_list
    {element : Schema}
    {items : List Json}
    {values : List Typed}
    (conforming : List.Forall₂ (fun item value => Conforms catalog item element value)
      items values) :
    Conforms catalog (.array items) (.list element) (.list values) := by
  rcases List.forall₂_iff_zip.mp conforming with ⟨length, each⟩
  exact .list length fun item value member => each member

theorem exists_mem_left_of_forall₂
    {members : Json.Members}
    {pairs : List (String × Typed)}
    (meets : Json → Typed → Prop)
    (related :
      List.Forall₂ (fun member pair => pair.1 = member.1 ∧ meets member.2 pair.2) members pairs)
    {key : String}
    {value : Typed}
    (member : (key, value) ∈ pairs) :
    ∃ item, (key, item) ∈ members ∧ meets item value := by
  induction related with
  | nil => cases member
  | @cons first pair _ _ isFirst _ ih =>
      rcases List.mem_cons.mp member with rfl | inLater
      · rcases isFirst with ⟨rfl, meetsFirst⟩
        exact ⟨first.2, List.mem_cons_self, meetsFirst⟩
      · rcases ih inLater with ⟨item, isMember, meetsItem⟩
        exact ⟨item, List.mem_cons_of_mem _ isMember, meetsItem⟩

/--
Pairs of keys and values that conform to the members of an object make a map that conforms
to the object.  Where the object repeats a key, the map has the last of its values.
-/
theorem conforms_map
    {schema : Schema}
    {members : Json.Members}
    {pairs : List (String × Typed)}
    (conforming :
      List.Forall₂
        (fun member pair => pair.1 = member.1 ∧ Conforms catalog member.2 schema pair.2)
        members pairs) :
    Conforms catalog (.object members) (.map schema) (.ofEntries pairs) := by
  have samePairKeys : pairs.map Prod.fst = members.keys := by
    rw [Json.Members.keys]
    induction conforming with
    | nil => rfl
    | cons first _ ih => rw [List.map_cons, List.map_cons, first.1, ih]
  have sameKeys : ∀ key, key ∈ (Typed.insertAll pairs []).map Prod.fst ↔ key ∈ members.keys := by
    intro key
    rw [Typed.mem_keys_insertAll, samePairKeys]
    simp
  have ascending : Typed.Ascending (Typed.insertAll pairs []) :=
    Typed.ascending_insertAll pairs List.Pairwise.nil
  have sourced :
      ∀ key, ∃ item, key ∈ members.keys →
        (key, item) ∈ members ∧
          ∀ value, (key, value) ∈ Typed.insertAll pairs [] →
            Conforms catalog item schema value := by
    intro key
    by_cases present : key ∈ members.keys
    · rcases List.mem_map.mp ((sameKeys key).mpr present) with ⟨⟨_, value⟩, entry, rfl⟩
      have paired : (_, value) ∈ pairs := (Typed.mem_insertAll entry).resolve_right (by simp)
      rcases exists_mem_left_of_forall₂ (Conforms catalog · schema ·) conforming paired with
        ⟨item, member, conforms⟩
      refine ⟨item, fun _ => ⟨member, ?_⟩⟩
      intro other otherEntry
      rw [ascending.eq_of_mem otherEntry entry]
      exact conforms
    · exact ⟨.null, fun isKey => absurd isKey present⟩
  choose source isSource using sourced
  rw [Typed.ofEntries_eq]
  refine .map source ascending sameKeys (fun key present => (isSource key present).1) ?_
  intro key value entry
  have present := (sameKeys key).mp (List.mem_map.mpr ⟨_, entry, rfl⟩)
  exact (isSource key present).2 value entry

theorem eq_of_conforms_json
    {schema : Schema}
    {held : Json}
    (conforming : Conforms catalog raw schema (.json held)) :
    raw = held := by
  generalize isJson : Typed.json held = value at conforming
  induction conforming with
  | json value =>
      cases isJson
      rfl
  | union _ _ ih => exact ih isJson
  | reference _ _ ih => exact ih isJson
  | _ => cases isJson

/-- Slots that are filled from an object make a record value that conforms to the object. -/
theorem conforms_record
    {record : RecordSchema}
    {members : Json.Members}
    {slots : List Slot}
    (inside :
      ∀ key item, (key, item) ∈ members →
        ∀ place schema value, coerceAt catalog place schema item = .ok value →
          Conforms catalog item schema value)
    (filled : fillSlots (coerceField catalog path members) record.fields = .ok slots) :
    Conforms catalog (.object members) (.record record) (.record ⟨record.name, slots⟩) := by
  have related := fillSlots_eq_ok_iff.mp filled
  rcases List.forall₂_iff_zip.mp related with ⟨length, each⟩
  have conforming :
      ∀ field slot item value, (field, slot) ∈ record.fields.zip slots →
        members.fieldValue? field = some item → slot.value = some value →
          item ≠ .null ∧ Conforms catalog item field.schema value := by
    intro field slot item value paired held set
    rcases each paired with ⟨found, isFound, rfl⟩
    obtain rfl : found = some value := set
    rcases coerceField_eq_ok_iff.mp isFound with
      ⟨unset, -⟩ | ⟨other, typed, otherHeld, notNull, coerced, same⟩
    · cases unset
    · cases same
      obtain rfl : item = other := Option.some.inj (held.symm.trans otherHeld)
      rcases exists_mem_of_fieldValue? held with ⟨key, -, member⟩
      exact ⟨notNull, inside key item member _ _ _ coerced⟩
  refine .record (slotsFor_of_fillSlots filled) ?_ (fun field slot item value paired held set =>
    (conforming field slot item value paired held set).2) ?_
  · intro field slot paired
    rcases each paired with ⟨found, isFound, rfl⟩
    rcases coerceField_eq_ok_iff.mp isFound with
      ⟨unset, absent⟩ | ⟨item, value, held, notNull, -, rfl⟩
    · exact ⟨fun _ => absent, fun _ => unset⟩
    · simp [held, notNull]
  · intro slot member isNull
    rcases exists_mem_zip length member with ⟨field, paired⟩
    rcases each paired with ⟨found, isFound, isSlot⟩
    rcases coerceField_eq_ok_iff.mp isFound with
      ⟨rfl, -⟩ | ⟨item, value, held, notNull, -, rfl⟩
    · rw [isSlot] at isNull
      cases isNull
    · have conforms := (conforming field slot item value paired held (by rw [isSlot])).2
      rw [isSlot] at isNull
      cases isNull
      exact notNull (eq_of_conforms_json conforms)

/-! ## Unions and references -/

/-- What conforms to the schema that unions and references lead to conforms to them. -/
theorem conforms_of_head
    {schema : Schema}
    {found : Head}
    {value : Typed}
    (leads : head catalog raw path schema = .ok found)
    (conforming : Conforms catalog raw found.toSchema value) :
    Conforms catalog raw schema value := by
  induction schema with
  | union variants ih =>
      rcases head_union_eq_ok_iff.mp leads with ⟨variant, selected, variantLeads⟩
      rcases selectVariant_eq_some_iff.mp selected with ⟨before, after, first⟩
      exact .union first (ih variant first.mem variantLeads)
  | reference name =>
      rcases head_reference_eq_ok_iff.mp leads with ⟨named, resolved, rfl⟩
      rw [Head.toSchema_ofNamed] at conforming
      exact .reference resolved conforming
  | _ =>
      cases leads
      exact conforming

/-! ## Whole values -/

theorem conforms_of_coerceHead
    {found : Head}
    {value : Typed}
    (inside :
      ∀ part, Json.PartOf part raw →
        ∀ place schema value, coerceAt catalog place schema part = .ok value →
          Conforms catalog part schema value)
    (coerced : coerceHead catalog path raw found = .ok value) :
    Conforms catalog raw found.toSchema value := by
  cases found with
  | scalar kind => exact conforms_of_coerceScalar coerced
  | enum enumeration => exact conforms_of_coerceSymbol coerced
  | list element =>
      cases raw with
      | array items =>
          rw [coerceHead] at coerced
          rcases map_eq_ok_iff.mp coerced with ⟨values, itemsCoerced, rfl⟩
          rcases List.forall₂_iff_zip.mp (forall₂_of_coerceItems itemsCoerced) with ⟨length, each⟩
          refine conforms_list (List.forall₂_iff_zip.mpr ⟨length, ?_⟩)
          intro item value paired
          rcases each paired with ⟨place, itemCoerced⟩
          exact inside item (.item (List.of_mem_zip paired).1) place element value itemCoerced
      | _ => cases coerced
  | map schema =>
      cases raw with
      | object members =>
          rw [coerceHead] at coerced
          rcases map_eq_ok_iff.mp coerced with ⟨pairs, entriesCoerced, rfl⟩
          rcases List.forall₂_iff_zip.mp (forall₂_of_coerceEntries entriesCoerced) with
            ⟨length, each⟩
          refine conforms_map (List.forall₂_iff_zip.mpr ⟨length, ?_⟩)
          intro member pair paired
          rcases each paired with ⟨sameKey, place, itemCoerced⟩
          exact
            ⟨sameKey,
              inside member.2 (.member (List.of_mem_zip paired).1) place schema pair.2
                itemCoerced⟩
      | _ => cases coerced
  | record record =>
      cases raw with
      | object members =>
          rw [coerceHead, coerceRecordAt] at coerced
          rcases map_eq_ok_iff.mp coerced with ⟨found, recordFilled, rfl⟩
          rcases map_eq_ok_iff.mp recordFilled with ⟨slots, filled, rfl⟩
          exact conforms_record (fun key item member => inside item (.member member)) filled
      | _ => cases coerced

/-- Whatever coercion returns conforms to the schema. -/
theorem conforms_of_coerceAt
    {schema : Schema}
    {value : Typed}
    (coerced : coerceAt catalog path schema raw = .ok value) :
    Conforms catalog raw schema value := by
  induction raw using Json.part_induction generalizing path schema value with
  | step raw inside =>
      rcases coerceAt_eq_ok_iff.mp coerced with ⟨found, leads, headCoerced⟩
      apply conforms_of_head leads
      exact conforms_of_coerceHead
        (fun part isPart place schema value partCoerced => inside part isPart partCoerced)
        headCoerced

/-- What a value conforms to accepts the JSON value that it was read from. -/
theorem accepts_of_conforms
    {schema : Schema}
    {value : Typed}
    (conforming : Conforms catalog raw schema value) :
    accepts catalog raw schema = .ok true := by
  induction conforming with
  | integer read => simp [accepts, scalarAccepts, read]
  | binary bytes => simp [accepts, scalarAccepts, Base64.decode_encode, Except.toOption]
  | timestamp read => simp [accepts, scalarAccepts, read]
  | enum declared => simpa [accepts, enumAccepts, EnumSchema.contains] using declared
  | union first _ _ =>
      rw [accepts]
      exact anyAccepts_eq_true_iff.mpr ⟨_, _, _, first⟩
  | reference resolved _ ih => rw [accepts_reference resolved, ih]
  | _ => rfl

/-- What is read from a value whose objects have distinct keys holds such objects only. -/
theorem keysDistinct_of_conforms
    {schema : Schema}
    {value : Typed}
    (conforming : Conforms catalog raw schema value)
    (distinct : raw.KeysDistinct) :
    value.KeysDistinct := by
  induction conforming with
  | boolean value => exact .boolean value
  | integer => exact .integer _
  | float => exact .float _
  | string => exact .string _
  | binary => exact .binary _
  | timestamp => exact .timestamp _
  | enum => exact .enum _ _
  | json value => exact .json distinct
  | list length _ ih =>
      cases distinct with
      | array itemsDistinct =>
          apply Typed.KeysDistinct.list
          intro value isValue
          rcases exists_mem_zip length isValue with ⟨item, paired⟩
          exact ih item value paired (itemsDistinct item (List.of_mem_zip paired).1)
  | @map _ _ _ _ _ keys held _ ih =>
      cases distinct with
      | object _ valuesDistinct =>
          apply Typed.KeysDistinct.map
          intro key value entry
          have isKey := (keys key).mp (List.mem_map.mpr ⟨_, entry, rfl⟩)
          exact ih key value entry (valuesDistinct key _ (held key isKey))
  | @record record members slots names unset _ notNull ih =>
      cases distinct with
      | object _ valuesDistinct =>
          apply Typed.KeysDistinct.record
          intro slot isSlot value set
          rcases exists_mem_zip names.length_eq isSlot with ⟨field, paired⟩
          cases isHeld : members.fieldValue? field with
          | none => simp [(unset field slot paired).mpr (.inl isHeld)] at set
          | some item =>
              rcases exists_mem_of_fieldValue? isHeld with ⟨key, -, isMember⟩
              exact ih field slot item value paired isHeld set (valuesDistinct key item isMember)
  | union _ _ ih => exact ih distinct
  | reference _ _ ih => exact ih distinct

/--
Coercion is sound: under every catalog and every schema, a value that coercion returns
conforms to the schema, as the reading of the JSON value that it was coerced from.
-/
theorem coerce_conforms
    {schema : Schema}
    {value : Typed}
    (coerced : coerce catalog schema raw = .ok value) :
    Conforms catalog raw schema value :=
  conforms_of_coerceAt coerced

namespace Demo

/-- A record that holds a record of its own kind, a widget in a union, a list and a map. -/
def nestedJson : Json :=
  .object [
    ("choice", .object [("Name", .string "bolt"), ("price", .null)]),
    ("Dto", .object [("enum", .string "no"), ("datetime", .string "2024-02-29T10:00:00Z")]),
    ("array", .array [.number (.whole (.ofInt64 7)), .number (.whole (.ofInt64 9))]),
    ("map", .object [("right", .string "r"), ("left", .string "l")])]

/-- Slots of some fields, all of them unset. -/
def unsetSlots (names : List String) : List Slot :=
  names.map fun name => ⟨name, name, none⟩

/-- The widget in the union. -/
def boltWidget : Record :=
  ⟨"Widget", [⟨"id", "id", none⟩, ⟨"name", "name", some (.string "bolt")⟩,
    ⟨"price", "price", none⟩]⟩

/-- The time in the inner record. -/
def leapDay : Timestamp where
  year := 2024
  month := 2
  day := 29
  hour := 10
  minute := 0
  second := 0
  nanosecond := 0
  offset := 0
  isDate := by decide
  isTime := by decide
  isOffset := by decide

/-- The record inside the record. -/
def innerAny : Record :=
  ⟨"Any",
    unsetSlots ["string", "boolean", "double", "int32", "int64", "bytes"] ++
      ⟨"datetime", "datetime", some (.timestamp leapDay)⟩ ::
        unsetSlots ["object", "error", "dto"] ++
      ⟨"enum", "enum", some (.enum "Answer" "no")⟩ :: unsetSlots ["array", "map", "choice"]⟩

/-- The value of the record. -/
def nestedAny : Record :=
  ⟨"Any",
    unsetSlots [
      "string", "boolean", "double", "int32", "int64", "bytes", "datetime", "object", "error"] ++
      [⟨"dto", "dto", some (.record innerAny)⟩,
        ⟨"enum", "enum", none⟩,
        ⟨"array", "array", some (.list [.integer 7, .integer 9])⟩,
        ⟨"map", "map", some (.map [("left", .string "l"), ("right", .string "r")])⟩,
        ⟨"choice", "choice", some (.record boltWidget)⟩]⟩

end Demo

/-- A record of the demo service that refers to itself, with a union, a list and a map. -/
theorem coerce_conforms_nestedJson :
    coerce Demo.catalog (.reference "Any") Demo.nestedJson = .ok (.record Demo.nestedAny) ∧
      Conforms Demo.catalog Demo.nestedJson (.reference "Any") (.record Demo.nestedAny) := by
  have coerced :
      coerce Demo.catalog (.reference "Any") Demo.nestedJson = .ok (.record Demo.nestedAny) := by
    rfl
  exact ⟨coerced, coerce_conforms coerced⟩

end ContractReplay
