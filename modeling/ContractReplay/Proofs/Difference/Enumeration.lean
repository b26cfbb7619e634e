import ContractReplay.Difference
import Mathlib.Data.List.Basic

/-!
# What a walk finds

A walk finds its differences one at a time from the pairs that it has still to look at.  All
that it finds is the recursively defined list of differences of each pending pair, one pair
after the other, and the first few that are taken from it are the first few of this list.
-/

namespace ContractReplay

namespace Difference

/-! ## The recursive definition -/

theorem listSlots_eq_flatMap
    (path : Path)
    (actual : Record)
    (slots : List Slot) :
    listSlots path actual slots =
      slots.flatMap fun slot =>
        list (path.add (.field slot.fieldName)) (actual.get? slot.fieldName) slot.value := by
  induction slots with
  | nil => rw [listSlots, List.flatMap_nil]
  | cons first later ih => rw [listSlots, ih, List.flatMap_cons]

/-- Two record values differ slot by slot. -/
theorem list_records
    (path : Path)
    (expected actual : Record) :
    list path (some (.record actual)) (some (.record expected)) =
      (expected.slots.flatMap fun slot =>
        list (path.add (.field slot.fieldName)) (actual.get? slot.fieldName) slot.value) ++
      (addedSlots expected actual).filterMap fun slot =>
        wholeDifference? (path.add (.field slot.fieldName)) none slot.value := by
  rcases expected with ⟨typeName, slots⟩
  rw [list, listSlots_eq_flatMap]

/-- Where one of two values is no record value, they differ as a whole. -/
theorem list_whole
    {path : Path}
    {expected actual : Option Typed}
    (notBoth :
      ∀ left right, expected = some (.record left) → actual = some (.record right) → False) :
    list path actual expected = (wholeDifference? path expected actual).toList := by
  cases expected with
  | none =>
      rw [list]
      rintro typeName slots ⟨⟩
  | some value =>
      cases value with
      | record left =>
          rcases left with ⟨typeName, slots⟩
          rw [list]
          rintro right rfl
          exact notBoth _ right rfl rfl
      | _ =>
          rw [list]
          rintro typeName slots ⟨⟩

end Difference

namespace Walk

open PendingPair

/-! ## Looking at a pair -/

/-- The differences of a pair. -/
def differencesOf (pair : PendingPair) : List Difference :=
  Difference.list pair.path pair.actual pair.expected

/-- A walk goes inside exactly two record values. -/
theorem records_of_look
    {pair : PendingPair}
    {pairs : List PendingPair}
    (looked : look pair = .inside pairs) :
    ∃ expected actual,
      pair.expected = some (.record expected) ∧ pair.actual = some (.record actual) ∧
        pairs = ofSlots pair.path expected actual := by
  rw [look] at looked
  split at looked
  · rename_i expected actual isExpected isActual
    cases looked
    exact ⟨expected, actual, isExpected, isActual, rfl⟩
  · cases looked

/-- The pairs of slots of two record values have the differences of the two. -/
theorem flatMap_ofSlots
    (path : Path)
    (expected actual : Record) :
    (ofSlots path expected actual).flatMap differencesOf =
      Difference.list path (some (.record actual)) (some (.record expected)) := by
  have added :
      ∀ slots : List Slot,
        (slots.map fun slot =>
            (⟨path.add (.field slot.fieldName), none, slot.value⟩ : PendingPair)).flatMap
          differencesOf =
        slots.filterMap fun slot =>
          wholeDifference? (path.add (.field slot.fieldName)) none slot.value := by
    intro slots
    rw [List.flatMap_map, List.filterMap_eq_flatMap_toList]
    congr 1
    funext slot
    exact Difference.list_whole nofun
  rw [ofSlots, List.flatMap_append, added, Difference.list_records, List.flatMap_map]
  rfl

theorem differencesOf_inside
    {pair : PendingPair}
    {pairs : List PendingPair}
    (looked : look pair = .inside pairs) :
    differencesOf pair = pairs.flatMap differencesOf := by
  rcases records_of_look looked with ⟨expected, actual, isExpected, isActual, rfl⟩
  rw [flatMap_ofSlots, differencesOf, isExpected, isActual]

theorem differencesOf_compared
    {pair : PendingPair}
    {difference : Option Difference}
    (looked : look pair = .compared difference) :
    differencesOf pair = difference.toList := by
  rw [look] at looked
  split at looked
  · cases looked
  · rename_i notBoth
    cases looked
    exact Difference.list_whole notBoth

/-! ## Everything that a walk finds -/

theorem listOf_inside
    {pair : PendingPair}
    {pairs : List PendingPair}
    (looked : look pair = .inside pairs)
    (later : List PendingPair) :
    listOf (pair :: later) = listOf (pairs ++ later) := by
  rw [listOf]
  split
  · rename_i others isInside
    cases looked.symm.trans isInside
    rfl
  · rename_i difference isCompared
    cases looked.symm.trans isCompared

theorem listOf_compared
    {pair : PendingPair}
    {difference : Option Difference}
    (looked : look pair = .compared difference)
    (later : List PendingPair) :
    listOf (pair :: later) = difference.toList ++ listOf later := by
  rw [listOf]
  split
  · rename_i others isInside
    cases looked.symm.trans isInside
  · rename_i other isCompared
    cases looked.symm.trans isCompared
    rfl

/-- What a walk finds is what there is to find at each of its pairs. -/
theorem listOf_eq_flatMap
    (pending : List PendingPair) :
    listOf pending = pending.flatMap differencesOf := by
  induction pending using listOf.induct with
  | case1 => rw [listOf, List.flatMap_nil]
  | case2 pair later pairs looked ih =>
      rw [listOf_inside looked, ih, List.flatMap_append, List.flatMap_cons,
        differencesOf_inside looked]
  | case3 pair later difference looked ih =>
      rw [listOf_compared looked, ih, List.flatMap_cons, differencesOf_compared looked]

theorem toList_start
    (root : String)
    (expected actual : Typed) :
    (start root expected actual).toList =
      Difference.list (.ofRoot root) (some actual) (some expected) := by
  rw [toList, start, listOf_eq_flatMap, List.flatMap_singleton]
  rfl

/-! ## One difference after the other -/

theorem nextOf_inside
    {pair : PendingPair}
    {pairs : List PendingPair}
    (looked : look pair = .inside pairs)
    (later : List PendingPair) :
    nextOf (pair :: later) = nextOf (pairs ++ later) := by
  rw [nextOf]
  split
  · rename_i others isInside
    cases looked.symm.trans isInside
    rfl
  all_goals
    rename_i isCompared
    cases looked.symm.trans isCompared

theorem nextOf_compared
    {pair : PendingPair}
    {difference : Option Difference}
    (looked : look pair = .compared difference)
    (later : List PendingPair) :
    nextOf (pair :: later) =
      (difference.map fun found => (found, ⟨later⟩)).or (nextOf later) := by
  rw [nextOf]
  split
  · rename_i others isInside
    cases looked.symm.trans isInside
  all_goals
    rename_i isCompared
    cases looked.symm.trans isCompared
    rfl

/-- The differences that a walk finds are the next one and those of the walk after it. -/
theorem listOf_eq_next
    (pending : List PendingPair) :
    listOf pending =
      match nextOf pending with
      | none => []
      | some (difference, later) => difference :: later.toList := by
  induction pending using listOf.induct with
  | case1 => rw [listOf, nextOf]
  | case2 pair later pairs looked ih =>
      rw [listOf_inside looked, nextOf_inside looked, ih]
  | case3 pair later difference looked ih =>
      rw [listOf_compared looked, nextOf_compared looked]
      cases difference with
      | none => exact ih
      | some found => rfl

/-- The first differences that are taken from a walk are the first of those that it finds. -/
theorem take_eq_take_toList
    (most : Nat)
    (walk : Walk) :
    walk.take most = walk.toList.take most := by
  induction most generalizing walk with
  | zero => rw [take, List.take_zero]
  | succ most ih =>
      rw [take, toList, listOf_eq_next, next]
      rcases nextOf walk.pending with _ | ⟨difference, later⟩
      · rfl
      · exact congrArg (difference :: ·) (ih later)

end Walk

end ContractReplay
