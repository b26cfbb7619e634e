import ContractReplay.Proofs.Difference.Alignment
import ContractReplay.Proofs.Difference.Enumeration

/-!
# Differences the other way round

The expected value leads a comparison: its fields are compared in their order, and of the actual
value only the set fields that it has besides.  When the two values change places, the fields come
in another order, and what was missing is now added.  Where the fields of record values have
distinct names, every field is compared once either way, so that the same differences are found
up to their order, each with its two sides exchanged.
-/

namespace ContractReplay

/-! ## Sides exchanged -/

namespace Difference

/-- A difference with its two sides exchanged. -/
def swapped (difference : Difference) : Difference where
  path := difference.path
  expected := difference.actual
  actual := difference.expected

@[simp]
theorem swapped_swapped
    (difference : Difference) :
    difference.swapped.swapped = difference :=
  rfl

end Difference

theorem map_swapped_wholeDifference?
    (path : Path)
    {expected actual : Option Typed}
    (expectedKeys : ∀ value, expected = some value → value.KeysDistinct)
    (actualKeys : ∀ value, actual = some value → value.KeysDistinct) :
    (wholeDifference? path expected actual).map Difference.swapped =
      wholeDifference? path actual expected := by
  rw [wholeDifference?, wholeDifference?, equalSides_comm expectedKeys actualKeys]
  split_ifs <;> rfl

/-! ## Distinct names of fields -/

namespace Typed

/-- The record values that one meets on the way through the fields of record values. -/
inductive Encloses : Typed → Record → Prop where
  | itself (record : Record) :
      Encloses (.record record) record
  | inSlot
      {record inner : Record}
      {slot : Slot}
      {value : Typed}
      (member : slot ∈ record.slots)
      (set : slot.value = some value)
      (inside : Encloses value inner) :
      Encloses (.record record) inner

/-- That the fields of every enclosed record value have distinct names. -/
def FieldsApart (value : Typed) : Prop :=
  ∀ record, value.Encloses record → (record.slots.map (·.fieldName)).Nodup

theorem fieldsApart_record_iff
    {record : Record} :
    FieldsApart (.record record) ↔
      (record.slots.map (·.fieldName)).Nodup ∧
        ∀ slot ∈ record.slots, ∀ value, slot.value = some value → value.FieldsApart := by
  constructor
  · intro apart
    refine ⟨apart record (.itself record), ?_⟩
    exact fun slot member value set inner inside => apart inner (.inSlot member set inside)
  · rintro ⟨names, each⟩ inner encloses
    cases encloses with
    | itself => exact names
    | inSlot member set inside => exact each _ member _ set inner inside

theorem fieldsApart_of_not_record
    {value : Typed}
    (noRecord : ∀ record : Record, value ≠ .record record) :
    value.FieldsApart := by
  intro inner encloses
  cases encloses with
  | itself => exact absurd rfl (noRecord _)
  | inSlot => exact absurd rfl (noRecord _)

theorem FieldsApart.names
    {record : Record}
    (apart : FieldsApart (.record record)) :
    (record.slots.map (·.fieldName)).Nodup :=
  (fieldsApart_record_iff.mp apart).1

theorem FieldsApart.field
    {record : Record}
    (apart : FieldsApart (.record record))
    {fieldName : String}
    {value : Typed}
    (found : record.get? fieldName = some value) :
    value.FieldsApart := by
  rcases RecordValueOf.exists_slot_of_get? found with ⟨slot, member, -, set⟩
  exact (fieldsApart_record_iff.mp apart).2 slot member value set

theorem KeysDistinct.field
    {record : Record}
    (distinct : KeysDistinct (.record record))
    {fieldName : String}
    {value : Typed}
    (found : record.get? fieldName = some value) :
    value.KeysDistinct := by
  rcases RecordValueOf.exists_slot_of_get? found with ⟨slot, member, -, set⟩
  exact keysDistinct_record_iff.mp distinct slot member value set

end Typed

/-! ## Fields in the order in which they are compared -/

namespace RecordValueOf

theorem declares_iff
    {record : Record}
    {fieldName : String} :
    record.declares fieldName = true ↔ fieldName ∈ record.slots.map (·.fieldName) := by
  simp [declares]

/-- The fields that are compared: the expected ones, and the actual ones that are not expected. -/
def comparedFields (expected actual : Record) : List String :=
  expected.slots.map (·.fieldName) ++
    (actual.slots.map (·.fieldName)).filter fun fieldName => !expected.declares fieldName

variable {expected actual : Record}

theorem mem_comparedFields_iff
    {fieldName : String} :
    fieldName ∈ comparedFields expected actual ↔
      expected.declares fieldName = true ∨ actual.declares fieldName = true := by
  rw [comparedFields, List.mem_append, List.mem_filter, declares_iff, declares_iff]
  simp only [Bool.not_eq_true', ← Bool.not_eq_true, declares_iff]
  tauto

theorem nodup_comparedFields
    (expectedNames : (expected.slots.map (·.fieldName)).Nodup)
    (actualNames : (actual.slots.map (·.fieldName)).Nodup) :
    (comparedFields expected actual).Nodup := by
  refine expectedNames.append (actualNames.filter _) ?_
  intro fieldName isExpected isAdded
  have undeclared := (List.mem_filter.mp isAdded).2
  rw [declares_iff.mpr isExpected] at undeclared
  cases undeclared

/-- The same fields are compared when the two record values change places. -/
theorem comparedFields_perm
    (expectedNames : (expected.slots.map (·.fieldName)).Nodup)
    (actualNames : (actual.slots.map (·.fieldName)).Nodup) :
    (comparedFields actual expected).Perm (comparedFields expected actual) := by
  rw [List.perm_ext_iff_of_nodup (nodup_comparedFields actualNames expectedNames)
    (nodup_comparedFields expectedNames actualNames)]
  intro fieldName
  rw [mem_comparedFields_iff, mem_comparedFields_iff, or_comm]

end RecordValueOf

namespace Difference

/-- Two record values differ field by field, where the fields of each have distinct names. -/
theorem list_records_eq_flatMap
    (path : Path)
    {expected actual : Record}
    (expectedNames : (expected.slots.map (·.fieldName)).Nodup)
    (actualNames : (actual.slots.map (·.fieldName)).Nodup) :
    list path (some (.record actual)) (some (.record expected)) =
      (RecordValueOf.comparedFields expected actual).flatMap fun fieldName =>
        list (path.add (.field fieldName)) (actual.get? fieldName) (expected.get? fieldName) := by
  rw [list_records, RecordValueOf.comparedFields, List.flatMap_append, List.filter_map,
    List.flatMap_map, List.flatMap_map]
  congr 1
  · apply List.flatMap_congr
    intro slot declared
    rw [RecordValueOf.get?_of_mem expectedNames declared]
  · -- An actual field that is not expected is compared even if it is unset, to no effect.
    have compared :
        ∀ slot ∈ actual.slots.filter fun slot => !expected.declares slot.fieldName,
          list (path.add (.field slot.fieldName)) (actual.get? slot.fieldName)
              (expected.get? slot.fieldName) =
            (wholeDifference? (path.add (.field slot.fieldName)) none slot.value).toList := by
      intro slot isAdded
      rcases List.mem_filter.mp isAdded with ⟨member, undeclared⟩
      rw [Bool.not_eq_true'] at undeclared
      rw [RecordValueOf.get?_of_mem actualNames member,
        RecordValueOf.get?_of_not_declared (RecordValueOf.declares_eq_false_iff.mp undeclared)]
      exact list_whole nofun
    refine Eq.trans ?_ (List.flatMap_congr compared).symm
    rw [← List.filterMap_eq_flatMap_toList, addedSlots, List.filterMap_filter,
      List.filterMap_filter]
    apply List.filterMap_congr
    intro slot _
    cases set : slot.value with
    | none => simp [wholeDifference?, equalSides]
    | some value => simp

/-! ## The values change places -/

theorem perm_list_whole
    {path : Path}
    {expected actual : Option Typed}
    (notBoth :
      ∀ left right, expected = some (.record left) → actual = some (.record right) → False)
    (expectedKeys : ∀ value, expected = some value → value.KeysDistinct)
    (actualKeys : ∀ value, actual = some value → value.KeysDistinct) :
    (list path expected actual).Perm ((list path actual expected).map swapped) := by
  rw [list_whole notBoth,
    list_whole fun left right isLeft isRight => notBoth right left isRight isLeft,
    ← Option.toList_map, map_swapped_wholeDifference? path expectedKeys actualKeys]

/--
Where the fields of all enclosed record values have distinct names, two values have the same
differences in both orders, with the sides exchanged.
-/
theorem perm_list_swapped
    {expected actual : Typed}
    (expectedApart : expected.FieldsApart)
    (actualApart : actual.FieldsApart)
    (expectedKeys : expected.KeysDistinct)
    (actualKeys : actual.KeysDistinct)
    (path : Path) :
    (list path (some expected) (some actual)).Perm
      ((list path (some actual) (some expected)).map swapped) := by
  induction expected using Typed.slot_induction generalizing actual path with
  | step expected ih =>
      by_cases both : ∃ left right, expected = .record left ∧ actual = .record right
      · rcases both with ⟨left, right, rfl, rfl⟩
        rw [list_records_eq_flatMap path expectedApart.names actualApart.names,
          list_records_eq_flatMap path actualApart.names expectedApart.names, List.map_flatMap]
        apply
          (RecordValueOf.comparedFields_perm expectedApart.names actualApart.names).flatMap
        intro fieldName _
        -- The comparison goes on inside only where both sides have the field set.
        by_cases bothSet :
            ∃ inner other, left.get? fieldName = some inner ∧ right.get? fieldName = some other
        · rcases bothSet with ⟨inner, other, expectedSet, actualSet⟩
          rcases RecordValueOf.exists_slot_of_get? expectedSet with ⟨slot, declared, -, set⟩
          rw [expectedSet, actualSet]
          exact
            ih left rfl slot declared inner set (expectedApart.field expectedSet)
              (actualApart.field actualSet) (expectedKeys.field expectedSet)
              (actualKeys.field actualSet) _
        · apply perm_list_whole
          · exact fun _ _ expectedSet actualSet => bothSet ⟨_, _, expectedSet, actualSet⟩
          · exact fun _ => expectedKeys.field
          · exact fun _ => actualKeys.field
      · apply perm_list_whole
        · intro left right isLeft isRight
          exact both ⟨left, right, Option.some.inj isLeft, Option.some.inj isRight⟩
        · rintro value ⟨⟩
          exact expectedKeys
        · rintro value ⟨⟩
          exact actualKeys

end Difference

/--
A comparison reports nothing in one direction only.  Where the fields of all enclosed record
values have distinct names, and so have the keys of opaque objects, the walk finds the same
differences when the two values change places, up to their order and with their sides exchanged.
-/
theorem Walk.start_symmetric
    {expected actual : Typed}
    (expectedApart : expected.FieldsApart)
    (actualApart : actual.FieldsApart)
    (expectedKeys : expected.KeysDistinct)
    (actualKeys : actual.KeysDistinct)
    (root : String) :
    (start root actual expected).toList.Perm
        ((start root expected actual).toList.map Difference.swapped) ∧
      ∀ difference,
        difference ∈ (start root actual expected).toList ↔
          difference.swapped ∈ (start root expected actual).toList := by
  have permuted :
      (start root actual expected).toList.Perm
        ((start root expected actual).toList.map Difference.swapped) := by
    rw [toList_start, toList_start]
    exact
      Difference.perm_list_swapped expectedApart actualApart expectedKeys actualKeys (.ofRoot root)
  refine ⟨permuted, fun difference => ?_⟩
  rw [permuted.mem_iff, List.mem_map]
  constructor
  · rintro ⟨other, found, rfl⟩
    exact found
  · exact fun found => ⟨difference.swapped, found, difference.swapped_swapped⟩

namespace Demo

/-- A shelf with a box, as it is expected. -/
def orderedShelf : Typed :=
  .record ⟨"Shelf", [
    ⟨"owner", "owner", some (.string "anna")⟩,
    ⟨"box", "box", some (.record ⟨"Box", [
      ⟨"size", "size", some (.integer 1)⟩,
      ⟨"label", "label", some (.string "a")⟩]⟩)⟩,
    ⟨"note", "note", none⟩]⟩

/-- A shelf of which the fields, and those of its box, are others and in another order. -/
def builtShelf : Typed :=
  .record ⟨"Shelf", [
    ⟨"room", "room", some (.string "cellar")⟩,
    ⟨"note", "note", some (.string "dry")⟩,
    ⟨"box", "box", some (.record ⟨"Box", [
      ⟨"depth", "depth", some (.integer 3)⟩,
      ⟨"label", "label", some (.string "a")⟩,
      ⟨"size", "size", some (.integer 2)⟩]⟩)⟩]⟩

theorem orderedShelf_fieldsApart : orderedShelf.FieldsApart := by
  simp [orderedShelf, Typed.fieldsApart_record_iff, Typed.fieldsApart_of_not_record]

theorem builtShelf_fieldsApart : builtShelf.FieldsApart := by
  simp [builtShelf, Typed.fieldsApart_record_iff, Typed.fieldsApart_of_not_record]

theorem orderedShelf_keysDistinct : orderedShelf.KeysDistinct := by
  simp [orderedShelf, Typed.keysDistinct_record_iff, Typed.KeysDistinct.string,
    Typed.KeysDistinct.integer]

theorem builtShelf_keysDistinct : builtShelf.KeysDistinct := by
  simp [builtShelf, Typed.keysDistinct_record_iff, Typed.KeysDistinct.string,
    Typed.KeysDistinct.integer]

end Demo

/-- The shelf that is built differs from the one that is expected in five fields, either way. -/
theorem Walk.start_symmetric_shelf :
    (start "value" Demo.orderedShelf Demo.builtShelf).toList.map Difference.line =
        ["value.owner expected: \"anna\" actual: <unset>",
          "value.box.size expected: 1 actual: 2",
          "value.box.depth expected: <unset> actual: 3",
          "value.note expected: <unset> actual: \"dry\"",
          "value.room expected: <unset> actual: \"cellar\""] ∧
      (start "value" Demo.builtShelf Demo.orderedShelf).toList.Perm
        ((start "value" Demo.orderedShelf Demo.builtShelf).toList.map Difference.swapped) := by
  constructor
  · rw [toList_start]
    decide +kernel
  · exact
      (Walk.start_symmetric Demo.orderedShelf_fieldsApart Demo.builtShelf_fieldsApart
        Demo.orderedShelf_keysDistinct Demo.builtShelf_keysDistinct "value").1

end ContractReplay
