import ContractReplay.Proofs.Coercion.ReadBack

/-!
# Well-typed values

A value is well-typed under a schema by what it is made of, wherever it came from: a
client makes such values without reading any JSON.  Their wire forms are coerced to the
same values where no unions can be reached.  With unions this fails, because a value of a
later variant may look like one of an earlier variant on the wire.
-/

namespace ContractReplay

open Coercion Schema

/--
That a value is one of the values that a schema stands for.

Objects have each key once: in the entries of a map because they ascend, and in opaque JSON
because objects that are read from a text do.
-/
inductive WellTyped (catalog : Catalog) : Schema → Typed → Prop where
  | boolean (value : Bool) :
      WellTyped catalog (.scalar .boolean) (.boolean value)
  | integer (value : Int64) :
      WellTyped catalog (.scalar .integer) (.integer value)
  | float (value : Binary64.Finite) :
      WellTyped catalog (.scalar .float) (.float (.finite value))
  | string (text : String) :
      WellTyped catalog (.scalar .string) (.string text)
  | binary (bytes : List UInt8) :
      WellTyped catalog (.scalar .binary) (.binary bytes)
  | timestamp
      {value : Timestamp}
      (plain : value.HasPlainYear) :
      WellTyped catalog (.scalar .timestamp) (.timestamp value)
  | json
      {value : Json}
      (distinct : value.KeysDistinct) :
      WellTyped catalog (.scalar .json) (.json value)
  | enum
      {enumeration : EnumSchema}
      {symbol : String}
      (declared : symbol ∈ enumeration.symbols) :
      WellTyped catalog (.enum enumeration) (.enum enumeration.name symbol)
  | list
      {element : Schema}
      {values : List Typed}
      (each : ∀ value ∈ values, WellTyped catalog element value) :
      WellTyped catalog (.list element) (.list values)
  | map
      {schema : Schema}
      {entries : List (String × Typed)}
      (ascending : Typed.Ascending entries)
      (each : ∀ key value, (key, value) ∈ entries → WellTyped catalog schema value) :
      WellTyped catalog (.map schema) (.map entries)
  | record
      {record : RecordSchema}
      {slots : List Slot}
      (names : SlotsFor record.fields slots)
      (each :
        ∀ field slot value, (field, slot) ∈ record.fields.zip slots →
          slot.value = some value → WellTyped catalog field.schema value)
      (notNull : ∀ slot ∈ slots, slot.value ≠ some (.json .null)) :
      WellTyped catalog (.record record) (.record ⟨record.name, slots⟩)
  | union
      {variants : List Schema}
      {variant : Schema}
      {value : Typed}
      (declared : variant ∈ variants)
      (typed : WellTyped catalog variant value) :
      WellTyped catalog (.union variants) value
  | reference
      {name : String}
      {named : Named}
      {value : Typed}
      (resolved : catalog.resolve name = .ok named)
      (typed : WellTyped catalog named.toSchema value) :
      WellTyped catalog (.reference name) value

/-- What everything that a schema reaches has to meet for well-typed values to be read back. -/
structure Straightforward (catalog : Catalog) (schema : Schema) : Prop where
  keysApart : ∀ record, Reaches catalog schema (.record record) → record.KeysApart
  noUnion : ∀ variants, ¬ Reaches catalog schema (.union variants)

variable {catalog : Catalog} {schema other : Schema} {value : Typed}

theorem Straightforward.of_leadsTo
    (straightforward : Straightforward catalog schema)
    (leads : LeadsTo catalog schema other) :
    Straightforward catalog other where
  keysApart record inside := straightforward.keysApart record (leads.reaches.trans inside)
  noUnion variants inside := straightforward.noUnion variants (leads.reaches.trans inside)

namespace WellTyped

theorem toWire_ne_null
    (typed : WellTyped catalog schema value)
    (notNull : value ≠ .json .null) :
    value.toWire ≠ .null := by
  induction typed with
  | json =>
      intro isNull
      exact notNull (congrArg Typed.json isNull)
  | union _ _ ih => exact ih notNull
  | reference _ _ ih => exact ih notNull
  | _ => exact Json.noConfusion

/-- The wire form of a well-typed value is read back. -/
theorem coerceAt_toWire
    (typed : WellTyped catalog schema value)
    (straightforward : Straightforward catalog schema) :
    ∀ path, coerceAt catalog path schema value.toWire = .ok value := by
  induction typed with
  | boolean | float | string =>
      intro path
      rfl
  | json distinct =>
      intro path
      rw [coerceAt_eq]
      rfl
  | integer value =>
      intro path
      exact coerceAt_toWire_integer value
  | binary bytes =>
      intro path
      exact coerceAt_toWire_binary bytes
  | timestamp plain =>
      intro path
      exact coerceAt_toWire_timestamp plain
  | enum declared =>
      intro path
      exact coerceAt_toWire_enum declared
  | @list element values each ih =>
      intro path
      apply coerceAt_toWire_list
      intro value member
      exact ih value member (straightforward.of_leadsTo (.element element))
  | @map schema entries ascending each ih =>
      intro path
      apply coerceAt_toWire_map ascending
      intro key value member
      exact ih key value member (straightforward.of_leadsTo (.value schema))
  | @record record slots names each notNull ih =>
      intro path
      apply coerceAt_toWire_record (straightforward.keysApart record .here) names
      intro field slot value paired set
      constructor
      · apply (each field slot value paired set).toWire_ne_null
        rintro rfl
        exact notNull slot (List.of_mem_zip paired).2 set
      · exact
          ih field slot value paired set
            (straightforward.of_leadsTo (.field (List.of_mem_zip paired).1))
  | @union variants variant value declared typed ih =>
      exact absurd Reaches.here (straightforward.noUnion variants)
  | reference resolved typed ih =>
      intro path
      rw [coerceAt_reference, resolved]
      exact ih (straightforward.of_leadsTo (.reference resolved)) path

theorem keysDistinct
    (typed : WellTyped catalog schema value) :
    value.KeysDistinct := by
  induction typed with
  | boolean value => exact .boolean value
  | integer value => exact .integer value
  | float value => exact .float _
  | string text => exact .string text
  | binary bytes => exact .binary bytes
  | timestamp plain => exact .timestamp _
  | json distinct => exact .json distinct
  | enum declared => exact .enum _ _
  | list _ ih => exact .list ih
  | map _ _ ih => exact .map ih
  | record names _ _ ih =>
      apply Typed.KeysDistinct.record
      intro slot isSlot value set
      rcases exists_mem_zip names.length_eq isSlot with ⟨field, paired⟩
      exact ih field slot value paired set
  | union _ _ ih => exact ih
  | reference _ _ ih => exact ih

end WellTyped

end ContractReplay
