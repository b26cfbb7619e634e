import ContractReplay.Proofs.Json.Values
import ContractReplay.Proofs.Lists
import ContractReplay.Proofs.Timestamp.RoundTrip
import ContractReplay.Typed.Record
import Mathlib.Data.List.Nodup

/-!
# Typed values and their wire forms

The entries of a map stand in ascending order of their keys, and such entries are put
together to the same map again.  On the wire, a list, a map and a record value become
the wire forms of what they hold; a record value leaves its unset slots out.  Where the
slots of a record value have distinct names, each is found under its own.  Objects on the
wire have each key once, as far as those in opaque JSON have.
-/

namespace ContractReplay.Typed

/-! ## Entries in ascending order -/

/-- Entries whose keys ascend strictly. -/
def Ascending (entries : List (String × Typed)) : Prop :=
  entries.Pairwise fun earlier later => earlier.1 < later.1

theorem lt_of_not_lt
    {left right : String}
    (different : left ≠ right)
    (notBelow : ¬ left < right) :
    right < left := by
  by_contra notAbove
  exact different (String.le_antisymm notAbove notBelow)

theorem mem_insertEntry
    {key name : String}
    {value other : Typed}
    {entries : List (String × Typed)}
    (member : (name, other) ∈ insertEntry key value entries) :
    (name = key ∧ other = value) ∨ (name, other) ∈ entries := by
  induction entries with
  | nil =>
      rw [insertEntry, List.mem_singleton] at member
      cases member
      exact Or.inl ⟨rfl, rfl⟩
  | cons first later ih =>
      rcases first with ⟨old, oldValue⟩
      rw [insertEntry] at member
      split_ifs at member with same below
      · rcases List.mem_cons.mp member with isFirst | member
        · cases isFirst
          exact Or.inl ⟨rfl, rfl⟩
        · exact Or.inr (List.mem_cons_of_mem _ member)
      · rcases List.mem_cons.mp member with isFirst | member
        · cases isFirst
          exact Or.inl ⟨rfl, rfl⟩
        · exact Or.inr member
      · rcases List.mem_cons.mp member with isFirst | member
        · exact Or.inr (List.mem_cons.mpr (Or.inl isFirst))
        · rcases ih member with newer | older
          · exact Or.inl newer
          · exact Or.inr (List.mem_cons_of_mem _ older)

/-- Putting an entry in adds its key to the keys. -/
theorem mem_keys_insertEntry
    {key name : String}
    {value : Typed}
    {entries : List (String × Typed)} :
    name ∈ (insertEntry key value entries).map Prod.fst ↔
      name = key ∨ name ∈ entries.map Prod.fst := by
  induction entries with
  | nil => simp [insertEntry]
  | cons first later ih =>
      rcases first with ⟨old, oldValue⟩
      rw [insertEntry]
      split_ifs with same below
      · simp [same]
      · simp
      · simp only [List.map_cons, List.mem_cons, ih]
        tauto

theorem ascending_insertEntry
    {entries : List (String × Typed)}
    (ascending : Ascending entries)
    (key : String)
    (value : Typed) :
    Ascending (insertEntry key value entries) := by
  induction entries with
  | nil => exact List.pairwise_singleton _ _
  | cons first later ih =>
      rcases first with ⟨old, oldValue⟩
      rcases List.pairwise_cons.mp ascending with ⟨below, laterAscending⟩
      rw [insertEntry]
      split_ifs with same before
      · subst same
        exact List.pairwise_cons.mpr ⟨below, laterAscending⟩
      · refine List.pairwise_cons.mpr ⟨?_, ascending⟩
        intro entry member
        rcases List.mem_cons.mp member with rfl | member
        · exact before
        · exact String.lt_trans before (below entry member)
      · refine List.pairwise_cons.mpr ⟨?_, ih laterAscending⟩
        rintro ⟨name, other⟩ member
        rcases mem_insertEntry member with ⟨rfl, -⟩ | member
        · exact lt_of_not_lt same before
        · exact below _ member

/-- The entries that result from putting pairs one after the other into some entries. -/
def insertAll (pairs entries : List (String × Typed)) : List (String × Typed) :=
  pairs.foldl (fun entries pair => insertEntry pair.1 pair.2 entries) entries

theorem ofEntries_eq
    (pairs : List (String × Typed)) :
    ofEntries pairs = .map (insertAll pairs []) :=
  rfl

theorem ascending_insertAll
    (pairs : List (String × Typed))
    {entries : List (String × Typed)}
    (ascending : Ascending entries) :
    Ascending (insertAll pairs entries) := by
  induction pairs generalizing entries with
  | nil => exact ascending
  | cons pair later ih => exact ih (ascending_insertEntry ascending pair.1 pair.2)

theorem mem_insertAll
    {pairs entries : List (String × Typed)}
    {entry : String × Typed}
    (member : entry ∈ insertAll pairs entries) :
    entry ∈ pairs ∨ entry ∈ entries := by
  induction pairs generalizing entries with
  | nil => exact Or.inr member
  | cons pair later ih =>
      rcases ih member with inLater | inEntries
      · exact Or.inl (List.mem_cons_of_mem _ inLater)
      · rcases mem_insertEntry inEntries with ⟨sameKey, sameValue⟩ | older
        · exact Or.inl (List.mem_cons.mpr (Or.inl (Prod.ext sameKey sameValue)))
        · exact Or.inr older

theorem mem_keys_insertAll
    {pairs entries : List (String × Typed)}
    {name : String} :
    name ∈ (insertAll pairs entries).map Prod.fst ↔
      name ∈ pairs.map Prod.fst ∨ name ∈ entries.map Prod.fst := by
  induction pairs generalizing entries with
  | nil => simp [insertAll]
  | cons pair later ih =>
      show name ∈ (insertAll later (insertEntry pair.1 pair.2 entries)).map Prod.fst ↔ _
      rw [ih, mem_keys_insertEntry, List.map_cons, List.mem_cons]
      tauto

theorem insertEntry_of_above
    {entries : List (String × Typed)}
    {key : String}
    (above : ∀ entry ∈ entries, entry.1 < key)
    (value : Typed) :
    insertEntry key value entries = entries ++ [(key, value)] := by
  induction entries with
  | nil => rfl
  | cons first later ih =>
      rcases first with ⟨old, oldValue⟩
      have oldBelow : old < key := above (old, oldValue) List.mem_cons_self
      have different : key ≠ old := by
        rintro rfl
        exact String.lt_irrefl key oldBelow
      rw [insertEntry, if_neg different, if_neg (String.lt_asymm oldBelow),
        ih fun entry member => above entry (List.mem_cons_of_mem _ member)]
      rfl

private theorem insertAll_append
    {pairs entries : List (String × Typed)}
    (ascending : Ascending (entries ++ pairs)) :
    insertAll pairs entries = entries ++ pairs := by
  induction pairs generalizing entries with
  | nil => exact (List.append_nil entries).symm
  | cons pair later ih =>
      have above : ∀ entry ∈ entries, entry.1 < pair.1 :=
        fun entry member =>
          (List.pairwise_append.mp ascending).2.2 entry member pair List.mem_cons_self
      show insertAll later (insertEntry pair.1 pair.2 entries) = _
      rw [insertEntry_of_above above, ih, List.append_assoc]
      · rfl
      · rw [List.append_assoc]
        exact ascending

/-- Entries in ascending order are put together to the map that has them. -/
theorem ofEntries_of_ascending
    {entries : List (String × Typed)}
    (ascending : Ascending entries) :
    ofEntries entries = .map entries := by
  have kept : insertAll entries [] = [] ++ entries := insertAll_append ascending
  rw [ofEntries_eq, kept, List.nil_append]

/-- Keys that ascend are distinct. -/
theorem Ascending.nodup
    {entries : List (String × Typed)}
    (ascending : Ascending entries) :
    (entries.map Prod.fst).Nodup := by
  rw [List.Nodup, List.pairwise_map]
  refine List.Pairwise.imp ?_ ascending
  intro earlier later below same
  rw [same] at below
  exact String.lt_irrefl _ below

theorem Ascending.eq_of_mem
    {entries : List (String × Typed)}
    (ascending : Ascending entries)
    {key : String}
    {left right : Typed}
    (leftMember : (key, left) ∈ entries)
    (rightMember : (key, right) ∈ entries) :
    left = right :=
  congrArg Prod.snd
    (List.inj_on_of_nodup_map ascending.nodup leftMember rightMember rfl)

/-! ## Wire forms of lists, maps and record values -/

theorem itemsToWire_eq_map
    (items : List Typed) :
    itemsToWire items = items.map toWire := by
  induction items with
  | nil => rfl
  | cons first later ih => rw [itemsToWire, ih, List.map_cons]

theorem entriesToWire_eq_map
    (entries : List (String × Typed)) :
    entriesToWire entries = entries.map fun entry => (entry.1, entry.2.toWire) := by
  induction entries with
  | nil => rfl
  | cons first later ih => rw [entriesToWire, ih, List.map_cons]

theorem keys_entriesToWire
    (entries : List (String × Typed)) :
    Json.Members.keys (entriesToWire entries) = entries.map Prod.fst := by
  rw [entriesToWire_eq_map, Json.Members.keys, List.map_map]
  rfl

theorem slotsToWire_cons_unset
    {slot : Slot}
    (unset : slot.value = none)
    (later : List Slot) :
    slotsToWire (slot :: later) = slotsToWire later := by
  rcases slot with ⟨fieldName, wireName, value⟩
  obtain rfl : value = none := unset
  rw [slotsToWire]

theorem slotsToWire_cons_set
    {slot : Slot}
    {value : Typed}
    (set : slot.value = some value)
    (later : List Slot) :
    slotsToWire (slot :: later) = (slot.wireName, value.toWire) :: slotsToWire later := by
  rcases slot with ⟨fieldName, wireName, content⟩
  obtain rfl : content = some value := set
  rw [slotsToWire]

theorem mem_slotsToWire
    {slots : List Slot}
    {key : String}
    {wire : Json} :
    (key, wire) ∈ slotsToWire slots ↔
      ∃ slot ∈ slots, slot.wireName = key ∧ ∃ value, slot.value = some value ∧
        value.toWire = wire := by
  induction slots with
  | nil => simp [slotsToWire]
  | cons first later ih =>
      cases content : first.value with
      | none =>
          rw [slotsToWire_cons_unset content, ih]
          simp [content]
      | some value =>
          rw [slotsToWire_cons_set content, List.mem_cons, ih]
          simp [content, eq_comm]

/-- The keys of set slots are among the wire names. -/
theorem keys_slotsToWire_sublist
    (slots : List Slot) :
    (Json.Members.keys (slotsToWire slots)).Sublist (slots.map (·.wireName)) := by
  induction slots with
  | nil => exact List.Sublist.slnil
  | cons first later ih =>
      cases content : first.value with
      | none =>
          rw [slotsToWire_cons_unset content]
          exact ih.cons _
      | some value =>
          rw [slotsToWire_cons_set content]
          exact ih.cons_cons _

theorem toWire_map_of_ascending
    {entries : List (String × Typed)}
    (ascending : Ascending entries) :
    toWire (.map entries) = .object (entriesToWire entries) := by
  rw [toWire, Json.Members.ofList_of_nodup]
  rw [keys_entriesToWire]
  exact ascending.nodup

theorem toWire_record_of_nodup
    {typeName : String}
    {slots : List Slot}
    (distinct : (slots.map (·.wireName)).Nodup) :
    toWire (.record ⟨typeName, slots⟩) = .object (slotsToWire slots) := by
  rw [toWire, Json.Members.ofList_of_nodup]
  exact (keys_slotsToWire_sublist slots).nodup distinct

/-! ## Keys of objects -/

/-- Values in which the objects of opaque JSON, at every depth, have distinct keys. -/
inductive KeysDistinct : Typed → Prop where
  | boolean (value : Bool) : KeysDistinct (.boolean value)
  | integer (value : Int64) : KeysDistinct (.integer value)
  | float (value : Binary64) : KeysDistinct (.float value)
  | string (value : String) : KeysDistinct (.string value)
  | binary (bytes : List UInt8) : KeysDistinct (.binary bytes)
  | timestamp (value : Timestamp) : KeysDistinct (.timestamp value)
  | enum (typeName symbol : String) : KeysDistinct (.enum typeName symbol)
  | json
      {value : Json}
      (distinct : value.KeysDistinct) :
      KeysDistinct (.json value)
  | list
      {items : List Typed}
      (each : ∀ item ∈ items, KeysDistinct item) :
      KeysDistinct (.list items)
  | map
      {entries : List (String × Typed)}
      (each : ∀ key value, (key, value) ∈ entries → KeysDistinct value) :
      KeysDistinct (.map entries)
  | record
      {record : Record}
      (each : ∀ slot ∈ record.slots, ∀ value, slot.value = some value → KeysDistinct value) :
      KeysDistinct (.record record)

theorem keysDistinct_record_iff
    {record : Record} :
    KeysDistinct (.record record) ↔
      ∀ slot ∈ record.slots, ∀ value, slot.value = some value → value.KeysDistinct := by
  constructor
  · intro distinct
    cases distinct with
    | record each => exact each
  · exact .record

/-- The objects in the wire form then have distinct keys as well. -/
theorem KeysDistinct.wire
    {value : Typed}
    (distinct : KeysDistinct value) :
    value.toWire.KeysDistinct := by
  induction distinct with
  | boolean value => exact .bool value
  | integer value => exact .number _
  | float value =>
      cases value with
      | finite value => exact .number _
      | nan | infinite => exact .null
  | string | binary | timestamp | enum => exact .string _
  | json distinct => exact distinct
  | list _ ih =>
      rw [toWire, itemsToWire_eq_map]
      apply Json.KeysDistinct.array
      intro wire member
      rcases List.mem_map.mp member with ⟨item, isItem, rfl⟩
      exact ih item isItem
  | map _ ih =>
      rw [toWire]
      refine .object (Json.Members.nodup_keys_ofList _) fun key wire member => ?_
      have isEntry := Json.Members.mem_of_mem_ofList member
      rw [entriesToWire_eq_map] at isEntry
      rcases List.mem_map.mp isEntry with ⟨⟨name, value⟩, entry, same⟩
      cases same
      exact ih name value entry
  | record _ ih =>
      rw [toWire]
      refine .object (Json.Members.nodup_keys_ofList _) fun key wire member => ?_
      rcases mem_slotsToWire.mp (Json.Members.mem_of_mem_ofList member) with
        ⟨slot, isSlot, -, value, set, rfl⟩
      exact ih slot isSlot value set

/-! ## Timestamps inside a value -/

mutual

/-- The timestamps in a value, at every depth. -/
def timestamps : Typed → List Timestamp
  | .timestamp value => [value]
  | .list items => timestampsOfItems items
  | .map entries => timestampsOfEntries entries
  | .record ⟨_, slots⟩ => timestampsOfSlots slots
  | _ => []

/-- The timestamps in some items. -/
def timestampsOfItems : List Typed → List Timestamp
  | [] => []
  | item :: later => timestamps item ++ timestampsOfItems later

/-- The timestamps in some entries. -/
def timestampsOfEntries : List (String × Typed) → List Timestamp
  | [] => []
  | (_, value) :: later => timestamps value ++ timestampsOfEntries later

/-- The timestamps in some slots. -/
def timestampsOfSlots : List (SlotOf Typed) → List Timestamp
  | [] => []
  | ⟨_, _, none⟩ :: later => timestampsOfSlots later
  | ⟨_, _, some value⟩ :: later => timestamps value ++ timestampsOfSlots later

end

/-- That the year of every timestamp in a value is written with four digits. -/
def PlainYears (value : Typed) : Prop :=
  ∀ timestamp ∈ value.timestamps, timestamp.HasPlainYear

instance (value : Typed) : Decidable value.PlainYears :=
  inferInstanceAs (Decidable (∀ timestamp ∈ value.timestamps, timestamp.HasPlainYear))

theorem PlainYears.item
    {items : List Typed}
    (plain : PlainYears (.list items))
    {item : Typed}
    (member : item ∈ items) :
    PlainYears item := by
  intro timestamp inside
  apply plain
  rw [timestamps]
  clear plain
  induction items with
  | nil => cases member
  | cons first later ih =>
      rw [timestampsOfItems, List.mem_append]
      rcases List.mem_cons.mp member with rfl | inLater
      · exact Or.inl inside
      · exact Or.inr (ih inLater)

theorem PlainYears.entry
    {entries : List (String × Typed)}
    (plain : PlainYears (.map entries))
    {key : String}
    {value : Typed}
    (member : (key, value) ∈ entries) :
    PlainYears value := by
  intro timestamp inside
  apply plain
  rw [timestamps]
  clear plain
  induction entries with
  | nil => cases member
  | cons first later ih =>
      rw [timestampsOfEntries, List.mem_append]
      rcases List.mem_cons.mp member with rfl | inLater
      · exact Or.inl inside
      · exact Or.inr (ih inLater)

theorem PlainYears.slot
    {typeName : String}
    {slots : List Slot}
    (plain : PlainYears (.record ⟨typeName, slots⟩))
    {slot : Slot}
    {value : Typed}
    (member : slot ∈ slots)
    (set : slot.value = some value) :
    PlainYears value := by
  intro timestamp inside
  apply plain
  rw [timestamps]
  clear plain
  induction slots with
  | nil => cases member
  | cons first later ih =>
      rcases first with ⟨fieldName, wireName, content⟩
      rcases List.mem_cons.mp member with rfl | inLater
      · obtain rfl : content = some value := set
        rw [timestampsOfSlots, List.mem_append]
        exact Or.inl inside
      · cases content with
        | none =>
            rw [timestampsOfSlots]
            exact ih inLater
        | some other =>
            rw [timestampsOfSlots, List.mem_append]
            exact Or.inr (ih inLater)

end ContractReplay.Typed

namespace ContractReplay.RecordValueOf

/-! ## Slots of a record value -/

theorem get?_of_mem
    {record : Record}
    (distinct : (record.slots.map (·.fieldName)).Nodup)
    {slot : Slot}
    (member : slot ∈ record.slots) :
    record.get? slot.fieldName = slot.value := by
  rw [get?, find?_key_of_nodup distinct member]
  rfl

theorem get?_of_not_declared
    {record : Record}
    {fieldName : String}
    (absent : ∀ slot ∈ record.slots, slot.fieldName ≠ fieldName) :
    record.get? fieldName = none := by
  have notFound : record.slots.find? (·.fieldName == fieldName) = none := by
    simpa [List.find?_eq_none] using absent
  rw [get?, notFound]
  rfl

end ContractReplay.RecordValueOf
