import ContractReplay.Proofs.Base64.Canonical
import ContractReplay.Proofs.Coercion.Steps
import ContractReplay.Proofs.Timestamp.RoundTrip

/-!
# Reading wire forms back

The wire form of a list, of a map and of a record value is coerced to the same list, map
and record value, if this holds of what they are made of.  For records this needs their
keys to be apart: a field that is unset must not be found under the key of another one.
-/

namespace ContractReplay.Coercion

variable {catalog : Catalog} {path : Path}

/-! ## Scalars and enumerations -/

theorem toInt64?_ofInt64
    (value : Int64) :
    (Json.Whole.ofInt64 value).toInt64? = some value := by
  have below : value.toInt < 9223372036854775808 := value.toInt_lt
  rw [Json.Whole.toInt64?, Json.Whole.ofInt64, if_pos below, Int64.ofInt_toInt]

theorem coerceAt_toWire_integer
    (value : Int64) :
    coerceAt catalog path (.scalar .integer) (Typed.integer value).toWire =
      .ok (.integer value) := by
  simp [coerceAt_eq, head, coerceHead, coerceScalar, Typed.toWire, Json.Number.toInt64?,
    toInt64?_ofInt64]

theorem coerceAt_toWire_binary
    (bytes : List UInt8) :
    coerceAt catalog path (.scalar .binary) (Typed.binary bytes).toWire =
      .ok (.binary bytes) := by
  simp [coerceAt_eq, head, coerceHead, coerceScalar, Typed.toWire, Base64.decode_encode]

theorem coerceAt_toWire_timestamp
    {value : Timestamp}
    (plain : value.HasPlainYear) :
    coerceAt catalog path (.scalar .timestamp) (Typed.timestamp value).toWire =
      .ok (.timestamp value) := by
  simp [coerceAt_eq, head, coerceHead, coerceScalar, Typed.toWire, Timestamp.ofText?_text plain]

theorem coerceAt_toWire_enum
    {enumeration : EnumSchema}
    {symbol : String}
    (declared : symbol ∈ enumeration.symbols) :
    coerceAt catalog path (.enum enumeration) (Typed.enum enumeration.name symbol).toWire =
      .ok (.enum enumeration.name symbol) := by
  have contained : enumeration.contains symbol = true := by
    simpa [EnumSchema.contains] using declared
  simp [coerceAt_eq, head, coerceHead, coerceSymbol, Typed.toWire, contained]

/-! ## Lists and maps -/

theorem coerceAt_toWire_list
    {element : Schema}
    {values : List Typed}
    (each :
      ∀ value ∈ values, ∀ place, coerceAt catalog place element value.toWire = .ok value) :
    coerceAt catalog path (.list element) (Typed.list values).toWire = .ok (.list values) := by
  have items :
      coerceItems catalog path element 0 (values.map Typed.toWire) = .ok values :=
    coerceItems_of_forall₂ (List.forall₂_map_left_iff.mpr (List.forall₂_same.mpr each))
  rw [Typed.toWire, Typed.itemsToWire_eq_map, coerceAt_eq]
  exact map_eq_ok_iff.mpr ⟨values, items, rfl⟩

theorem coerceAt_toWire_map
    {schema : Schema}
    {entries : List (String × Typed)}
    (ascending : Typed.Ascending entries)
    (each :
      ∀ key value, (key, value) ∈ entries → ∀ place,
        coerceAt catalog place schema value.toWire = .ok value) :
    coerceAt catalog path (.map schema) (Typed.map entries).toWire = .ok (.map entries) := by
  have pairs :
      coerceEntries catalog path schema
          (entries.map fun entry => (entry.1, entry.2.toWire)) =
        .ok entries := by
    apply coerceEntries_of_forall₂
    apply List.forall₂_map_left_iff.mpr
    apply List.forall₂_same.mpr
    rintro ⟨key, value⟩ entry
    exact ⟨rfl, each key value entry⟩
  rw [Typed.toWire_map_of_ascending ascending, Typed.entriesToWire_eq_map, coerceAt_eq]
  exact map_eq_ok_iff.mpr ⟨entries, pairs, Typed.ofEntries_of_ascending ascending⟩

/-! ## Records -/

theorem wireName_mem_candidates
    (field : FieldSchema) :
    ∃ others, field.candidates = field.wireName :: others := by
  rw [FieldOf.candidates, Naming.fieldCandidates, List.eraseDups_cons]
  exact ⟨_, rfl⟩

/-- A slot that is set holds its field under the wire name of the field. -/
theorem fieldValue?_slotsToWire_set
    {fields : List FieldSchema}
    {slots : List Slot}
    (distinct : (fields.map (·.wireName)).Nodup)
    (names : SlotsFor fields slots)
    {field : FieldSchema}
    {slot : Slot}
    (paired : (field, slot) ∈ fields.zip slots)
    {value : Typed}
    (set : slot.value = some value) :
    Json.Members.fieldValue? (Typed.slotsToWire slots) field = some value.toWire := by
  have sameName : slot.wireName = field.wireName :=
    congrArg Prod.snd (eq_of_mem_zip names paired)
  have distinctKeys : (Json.Members.keys (Typed.slotsToWire slots)).Nodup := by
    rw [← names.wireNames_eq] at distinct
    exact (Typed.keys_slotsToWire_sublist slots).nodup distinct
  have member : (field.wireName, value.toWire) ∈ Typed.slotsToWire slots :=
    Typed.mem_slotsToWire.mpr
      ⟨slot, (List.of_mem_zip paired).2, sameName, value, set, rfl⟩
  rcases wireName_mem_candidates field with ⟨others, candidates⟩
  rw [Json.Members.fieldValue?, candidates, List.findSome?_cons,
    Json.Members.get?_of_mem distinctKeys member]

/-- A slot that is unset leaves nothing on the wire under any candidate key of its field. -/
theorem fieldValue?_slotsToWire_unset
    {record : RecordSchema}
    {slots : List Slot}
    (apart : record.KeysApart)
    (names : SlotsFor record.fields slots)
    {field : FieldSchema}
    {slot : Slot}
    (paired : (field, slot) ∈ record.fields.zip slots)
    (unset : slot.value = none) :
    Json.Members.fieldValue? (Typed.slotsToWire slots) field = none := by
  have sameName : slot.wireName = field.wireName :=
    congrArg Prod.snd (eq_of_mem_zip names paired)
  rw [Json.Members.fieldValue?, List.findSome?_eq_none_iff]
  intro key candidate
  apply Json.Members.get?_eq_none_iff.mpr
  intro present
  rcases List.mem_map.mp present with ⟨⟨name, wire⟩, member, rfl⟩
  rcases Typed.mem_slotsToWire.mp member with ⟨otherSlot, isOther, otherName, value, set, -⟩
  rcases exists_mem_zip names.length_eq isOther with ⟨other, otherPaired⟩
  have otherField : otherSlot.wireName = other.wireName :=
    congrArg Prod.snd (eq_of_mem_zip names otherPaired)
  by_cases same : other.wireName = field.wireName
  · -- Wire names are distinct, so the two slots are one, which is both set and unset.
    have isSlot : otherSlot = slot := by
      apply List.inj_on_of_nodup_map (f := (·.wireName)) _ isOther (List.of_mem_zip paired).2
      · rw [otherField, same, sameName]
      · rw [names.wireNames_eq]
        exact apart.distinct
    rw [isSlot, unset] at set
    cases set
  · refine apart.apart field (List.of_mem_zip paired).1
      other (List.of_mem_zip otherPaired).1 same ?_
    rw [← otherField, otherName]
    exact candidate

/-- The wire form of a record value is read back, if those of its set slots are. -/
theorem coerceRecordAt_toWire
    {record : RecordSchema}
    {slots : List Slot}
    (apart : record.KeysApart)
    (names : SlotsFor record.fields slots)
    (each :
      ∀ field slot value, (field, slot) ∈ record.fields.zip slots → slot.value = some value →
        value.toWire ≠ .null ∧
          ∀ place, coerceAt catalog place field.schema value.toWire = .ok value) :
    coerceRecordAt catalog path record (RecordValueOf.toWire ⟨record.name, slots⟩) =
      .ok ⟨record.name, slots⟩ := by
  have distinct : (slots.map (·.wireName)).Nodup := by
    rw [names.wireNames_eq]
    exact apart.distinct
  have filled :
      fillSlots (coerceField catalog path (Typed.slotsToWire slots)) record.fields =
        .ok slots := by
    refine fillSlots_eq_ok_iff.mpr (List.forall₂_iff_zip.mpr ⟨names.length_eq, ?_⟩)
    intro field slot paired
    rcases Prod.mk.inj (eq_of_mem_zip names paired) with ⟨sameField, sameWire⟩
    refine ⟨slot.value, ?_, ?_⟩
    · apply coerceField_eq_ok_iff.mpr
      cases content : slot.value with
      | none =>
          have absent := fieldValue?_slotsToWire_unset apart names paired content
          exact Or.inl ⟨rfl, Or.inl absent⟩
      | some value =>
          have held := fieldValue?_slotsToWire_set apart.distinct names paired content
          rcases each field slot value paired content with ⟨notNull, readBack⟩
          exact Or.inr ⟨value.toWire, value, held, notNull, readBack _, rfl⟩
    · rw [← sameField, ← sameWire]
  rw [RecordValueOf.toWire, Typed.toWire_record_of_nodup distinct, coerceRecordAt]
  exact map_eq_ok_iff.mpr ⟨slots, filled, rfl⟩

theorem coerceAt_toWire_record
    {record : RecordSchema}
    {slots : List Slot}
    (apart : record.KeysApart)
    (names : SlotsFor record.fields slots)
    (each :
      ∀ field slot value, (field, slot) ∈ record.fields.zip slots → slot.value = some value →
        value.toWire ≠ .null ∧
          ∀ place, coerceAt catalog place field.schema value.toWire = .ok value) :
    coerceAt catalog path (.record record) (Typed.record ⟨record.name, slots⟩).toWire =
      .ok (.record ⟨record.name, slots⟩) := by
  rw [coerceAt_record]
  exact map_eq_ok_iff.mpr ⟨_, coerceRecordAt_toWire apart names each, rfl⟩

end ContractReplay.Coercion
