import ContractReplay.Proofs.Coercion.Conformance
import ContractReplay.Proofs.Coercion.WellTyped

/-!
# The types of values

A value has the type of a schema by what it is made of, whether or not its wire form can carry it:
years may have any number of digits and opaque JSON may be anything.  Coerced values have the
types of their schemas.  A record value starts with no slot set and keeps its type as slots are
set to values that have the types of their fields, which is how a service makes its responses.
-/

namespace ContractReplay

open Coercion Schema

/-- That a value is one of the values that a schema stands for, on the wire or not. -/
inductive HasType (catalog : Catalog) : Schema → Typed → Prop where
  | boolean (value : Bool) :
      HasType catalog (.scalar .boolean) (.boolean value)
  | integer (value : Int64) :
      HasType catalog (.scalar .integer) (.integer value)
  | float (value : Binary64.Finite) :
      HasType catalog (.scalar .float) (.float (.finite value))
  | string (text : String) :
      HasType catalog (.scalar .string) (.string text)
  | binary (bytes : List UInt8) :
      HasType catalog (.scalar .binary) (.binary bytes)
  | timestamp (value : Timestamp) :
      HasType catalog (.scalar .timestamp) (.timestamp value)
  | json (value : Json) :
      HasType catalog (.scalar .json) (.json value)
  | enum
      {enumeration : EnumSchema}
      {symbol : String}
      (declared : symbol ∈ enumeration.symbols) :
      HasType catalog (.enum enumeration) (.enum enumeration.name symbol)
  | list
      {element : Schema}
      {values : List Typed}
      (each : ∀ value ∈ values, HasType catalog element value) :
      HasType catalog (.list element) (.list values)
  | map
      {schema : Schema}
      {entries : List (String × Typed)}
      (ascending : Typed.Ascending entries)
      (each : ∀ key value, (key, value) ∈ entries → HasType catalog schema value) :
      HasType catalog (.map schema) (.map entries)
  | record
      {record : RecordSchema}
      {slots : List Slot}
      (names : SlotsFor record.fields slots)
      (each :
        ∀ field slot value, (field, slot) ∈ record.fields.zip slots →
          slot.value = some value → HasType catalog field.schema value)
      (notNull : ∀ slot ∈ slots, slot.value ≠ some (.json .null)) :
      HasType catalog (.record record) (.record ⟨record.name, slots⟩)
  | union
      {variants : List Schema}
      {variant : Schema}
      {value : Typed}
      (declared : variant ∈ variants)
      (typed : HasType catalog variant value) :
      HasType catalog (.union variants) value
  | reference
      {name : String}
      {named : Named}
      {value : Typed}
      (resolved : catalog.resolve name = .ok named)
      (typed : HasType catalog named.toSchema value) :
      HasType catalog (.reference name) value

variable {catalog : Catalog} {schema : Schema} {value : Typed}

/-! ## Values with a type -/

/-- A well-typed value, which the wire can carry, has the type. -/
theorem WellTyped.hasType
    (typed : WellTyped catalog schema value) :
    HasType catalog schema value := by
  induction typed with
  | boolean value => exact .boolean value
  | integer value => exact .integer value
  | float value => exact .float value
  | string text => exact .string text
  | binary bytes => exact .binary bytes
  | timestamp => exact .timestamp _
  | json => exact .json _
  | enum declared => exact .enum declared
  | list _ ih => exact .list ih
  | map ascending _ ih => exact .map ascending ih
  | record names _ notNull ih => exact .record names ih notNull
  | union declared _ ih => exact .union declared ih
  | reference resolved _ ih => exact .reference resolved ih

/-- A coerced value has the type of its schema. -/
theorem Conforms.hasType
    {raw : Json}
    (conforming : Conforms catalog raw schema value) :
    HasType catalog schema value := by
  induction conforming with
  | boolean value => exact .boolean value
  | integer => exact .integer _
  | float => exact .float _
  | string text => exact .string text
  | binary bytes => exact .binary bytes
  | timestamp => exact .timestamp _
  | json value => exact .json value
  | enum declared => exact .enum declared
  | list length _ ih =>
      refine .list fun value member => ?_
      rcases exists_mem_zip length member with ⟨item, paired⟩
      exact ih item value paired
  | map source ascending keys held _ ih => exact .map ascending ih
  | @record record members slots names unset _ notNull ih =>
      refine .record names ?_ notNull
      intro field slot inner paired set
      cases held : members.fieldValue? field with
      | none => cases set.symm.trans ((unset field slot paired).mpr (.inl held))
      | some item => exact ih field slot item inner paired held set
  | union first _ ih => exact .union first.mem ih
  | reference resolved _ ih => exact .reference resolved ih

/-! ## Record values -/

/-- That a slot is that of a field, and that a value in it has the type of the field. -/
structure FitsField (catalog : Catalog) (field : FieldSchema) (slot : Slot) : Prop where
  names : slot.fieldName = field.fieldName ∧ slot.wireName = field.wireName
  typed :
    ∀ inner, slot.value = some inner → HasType catalog field.schema inner ∧ inner ≠ .json .null

theorem slotsFor_of_fitsField
    {fields : List FieldSchema}
    {slots : List Slot}
    (fits : List.Forall₂ (FitsField catalog) fields slots) :
    SlotsFor fields slots := by
  rw [SlotsFor]
  induction fits with
  | nil => rfl
  | cons first _ ih => rw [List.map_cons, List.map_cons, first.names.1, first.names.2, ih]

/-- A record value has the type of a record when its slots fit the fields one by one. -/
theorem hasType_record_iff
    {record : RecordSchema}
    {value : Record} :
    HasType catalog (.record record) (.record value) ↔
      value.typeName = record.name ∧
        List.Forall₂ (FitsField catalog) record.fields value.slots := by
  constructor
  · intro typed
    cases typed with
    | @record _ slots names each notNull =>
        refine ⟨rfl, List.forall₂_iff_zip.mpr ⟨names.length_eq, ?_⟩⟩
        intro field slot paired
        have sameNames := eq_of_mem_zip names paired
        rw [Prod.mk.injEq] at sameNames
        refine ⟨sameNames, fun inner set => ⟨each field slot inner paired set, ?_⟩⟩
        rintro rfl
        exact notNull slot (List.of_mem_zip paired).2 set
  · rcases value with ⟨typeName, slots⟩
    rintro ⟨rfl, fits⟩
    rcases List.forall₂_iff_zip.mp fits with ⟨length, each⟩
    refine .record (slotsFor_of_fitsField fits) ?_ ?_
    · intro field slot inner paired set
      exact ((each paired).typed inner set).1
    · intro slot member isNull
      rcases exists_mem_zip length member with ⟨field, paired⟩
      exact ((each paired).typed _ isNull).2 rfl

/-- The value of a record with no slot set has the type of the record. -/
theorem hasType_empty
    (catalog : Catalog)
    (record : RecordSchema) :
    HasType catalog (.record record) (.record (.empty record)) := by
  refine hasType_record_iff.mpr ⟨rfl, ?_⟩
  rw [RecordValueOf.empty, List.forall₂_map_right_iff]
  exact List.forall₂_same.mpr fun field _ => ⟨⟨rfl, rfl⟩, nofun⟩

/-- The first slot of a name is that of the first field of this name. -/
theorem exists_setSlot?
    {fields : List FieldSchema}
    {slots : List Slot}
    {name : String}
    {field : FieldSchema}
    {inner : Option Typed}
    (fits : List.Forall₂ (FitsField catalog) fields slots)
    (isField : fields.find? (·.fieldName == name) = some field)
    (typed :
      ∀ found, inner = some found → HasType catalog field.schema found ∧ found ≠ .json .null) :
    ∃ changed, RecordValueOf.setSlot? name inner slots = some changed ∧
      List.Forall₂ (FitsField catalog) fields changed := by
  induction fits with
  | nil => cases isField
  | @cons first slot later others firstFits laterFit ih =>
      rw [List.find?_cons, ← firstFits.names.1] at isField
      rw [RecordValueOf.setSlot?]
      by_cases isFirst : slot.fieldName = name
      · rw [isFirst, beq_self_eq_true] at isField
        cases isField
        rw [if_pos isFirst]
        exact ⟨_, rfl, .cons ⟨firstFits.names, typed⟩ laterFit⟩
      · rw [beq_eq_false_iff_ne.mpr isFirst] at isField
        rcases ih isField with ⟨changed, isChanged, changedFit⟩
        rw [if_neg isFirst, isChanged]
        exact ⟨_, rfl, .cons firstFits changedFit⟩

namespace HasType

variable {record : RecordSchema} {found : Record}

/-- A record value keeps its type when a slot is set to a value of the type of its field. -/
theorem assign
    (typed : HasType catalog (.record record) (.record found))
    (name : String)
    (inner : Option Typed)
    {field : FieldSchema}
    (isField : record.field? name = some field)
    (innerTyped :
      ∀ value, inner = some value → HasType catalog field.schema value ∧ value ≠ .json .null) :
    HasType catalog (.record record) (.record (found.assign name inner)) := by
  rcases hasType_record_iff.mp typed with ⟨typeName, fits⟩
  rcases exists_setSlot? fits isField innerTyped with ⟨changed, isChanged, changedFit⟩
  rw [RecordValueOf.assign, RecordValueOf.set?, isChanged]
  exact hasType_record_iff.mpr ⟨typeName, changedFit⟩

theorem put
    (typed : HasType catalog (.record record) (.record found))
    (name : String)
    (inner : Typed)
    {field : FieldSchema}
    (isField : record.field? name = some field)
    (innerTyped : HasType catalog field.schema inner)
    (notNull : inner ≠ .json .null) :
    HasType catalog (.record record) (.record (found.put name inner)) := by
  apply typed.assign name (some inner) isField
  rintro value ⟨rfl⟩
  exact ⟨innerTyped, notNull⟩

/-- The value of a record of scalars, none of them opaque JSON, has no repeated key inside. -/
theorem keysDistinct_of_scalars
    (typed : HasType catalog (.record record) (.record found))
    (scalars : ∀ field ∈ record.fields, ∃ kind, kind ≠ .json ∧ field.schema = .scalar kind) :
    (Typed.record found).KeysDistinct := by
  rcases hasType_record_iff.mp typed with ⟨-, fits⟩
  rcases List.forall₂_iff_zip.mp fits with ⟨length, each⟩
  refine .record fun slot isSlot inner isSet => ?_
  rcases exists_mem_zip length isSlot with ⟨field, paired⟩
  rcases scalars field (List.of_mem_zip paired).1 with ⟨kind, notJson, isScalar⟩
  have innerTyped := ((each paired).typed inner isSet).1
  rw [isScalar] at innerTyped
  cases innerTyped with
  | boolean value => exact .boolean value
  | integer value => exact .integer value
  | float value => exact .float _
  | string text => exact .string text
  | binary bytes => exact .binary bytes
  | timestamp value => exact .timestamp value
  | json => exact absurd rfl notJson

end HasType

end ContractReplay
