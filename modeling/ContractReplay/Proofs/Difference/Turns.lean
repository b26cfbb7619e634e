import ContractReplay.Proofs.Difference.Alignment
import ContractReplay.Proofs.Difference.Enumeration

/-!
# Turns of a walk

A walk keeps the pairs that it has still to look at on a stack, and in every turn it takes the
one on top.  For two record values it pushes the pairs of their slots, the added ones first and
both groups from the last slot to the first; any other pair is compared as a whole.  There are
only so many turns, and the differences that they bring, one after the other, are those of the
recursive definition.
-/

namespace ContractReplay

namespace Difference

/-! ## The recursive definition -/

/--
The equations of the recursive definition.  Two record values have the differences of the
expected slots, each of them beside the first actual slot of its field, and then one difference
for every set slot whose field the expected value does not declare.  Anything else has one
difference if the wire forms are unequal, and else none.
-/
structure Recursion (differences : Path → Option Typed → Option Typed → List Difference) :
    Prop where
  records :
    ∀ path (expected actual : Record),
      differences path (some (.record actual)) (some (.record expected)) =
        (expected.slots.flatMap fun slot =>
          differences (path.add (.field slot.fieldName)) (actual.get? slot.fieldName) slot.value) ++
        (addedSlots expected actual).map fun slot =>
          ⟨path.add (.field slot.fieldName), none, slot.value.map Typed.toWire⟩
  whole :
    ∀ path expected actual,
      (∀ left right, expected = some (.record left) → actual = some (.record right) → False) →
        differences path actual expected =
          if equalSides (expected.map Typed.toWire) (actual.map Typed.toWire) then []
          else [⟨path, expected.map Typed.toWire, actual.map Typed.toWire⟩]

theorem wholeDifference?_of_set
    (path : Path)
    {slot : Slot}
    (set : slot.value ≠ none) :
    wholeDifference? path none slot.value =
      some ⟨path, none, slot.value.map Typed.toWire⟩ := by
  rcases Option.ne_none_iff_exists'.mp set with ⟨value, isValue⟩
  rw [isValue]
  rfl

theorem toList_wholeDifference?
    (path : Path)
    (expected actual : Option Typed) :
    (wholeDifference? path expected actual).toList =
      if equalSides (expected.map Typed.toWire) (actual.map Typed.toWire) then []
      else [⟨path, expected.map Typed.toWire, actual.map Typed.toWire⟩] := by
  rw [wholeDifference?]
  split_ifs <;> rfl

theorem recursion_list :
    Recursion list where
  records := by
    intro path expected actual
    rw [list_records]
    congr 1
    rw [List.filterMap_eq_map_iff_forall_eq_some]
    intro slot added
    exact wholeDifference?_of_set _ (RecordValueOf.mem_addedSlots_iff.mp added).2.1
  whole := by
    intro path expected actual notBoth
    rw [list_whole notBoth, toList_wholeDifference?]

/-- The equations leave no choice. -/
theorem Recursion.eq_list
    {differences : Path → Option Typed → Option Typed → List Difference}
    (recursion : Recursion differences) :
    differences = list := by
  have sameWhole :
      ∀ path expected actual,
        (∀ left right, expected = some (.record left) → actual = some (.record right) → False) →
          differences path actual expected = list path actual expected := by
    intro path expected actual notBoth
    rw [recursion.whole path expected actual notBoth,
      recursion_list.whole path expected actual notBoth]
  have sameSet :
      ∀ (expected : Typed) path actual,
        differences path actual (some expected) = list path actual (some expected) := by
    intro expected
    induction expected using Typed.slot_induction with
    | step expected ih =>
        intro path actual
        by_cases both : ∃ left right, expected = .record left ∧ actual = some (.record right)
        · rcases both with ⟨left, right, rfl, rfl⟩
          rw [recursion.records, recursion_list.records]
          congr 1
          apply List.flatMap_congr
          intro slot declared
          cases set : slot.value with
          | none => exact sameWhole _ _ _ nofun
          | some inner => exact ih left rfl slot declared inner set _ _
        · apply sameWhole
          intro left right isLeft isRight
          exact both ⟨left, right, Option.some.inj isLeft, isRight⟩
  funext path actual expected
  cases expected with
  | none => exact sameWhole _ _ _ nofun
  | some value => exact sameSet value _ _

end Difference

/-! ## The stack -/

namespace PendingPair

/-- A stack on which the pairs of the added slots are pushed, the last slot first. -/
def pushAdded
    (path : Path)
    (expected actual : Record)
    (stack : List PendingPair) : List PendingPair :=
  actual.slots.foldr
    (fun slot stack =>
      if slot.value.isSome && !expected.declares slot.fieldName then
        ⟨path.add (.field slot.fieldName), none, slot.value⟩ :: stack
      else stack)
    stack

/-- A stack on which the pairs of the expected slots are pushed, the last slot first. -/
def pushDeclared
    (path : Path)
    (expected actual : Record)
    (stack : List PendingPair) : List PendingPair :=
  expected.slots.foldr
    (fun slot stack =>
      ⟨path.add (.field slot.fieldName), slot.value, actual.get? slot.fieldName⟩ :: stack)
    stack

theorem pushAdded_eq
    (path : Path)
    (expected actual : Record)
    (stack : List PendingPair) :
    pushAdded path expected actual stack =
      (addedSlots expected actual).map
        (fun slot => ⟨path.add (.field slot.fieldName), none, slot.value⟩) ++ stack := by
  rw [pushAdded, addedSlots]
  induction actual.slots with
  | nil => rfl
  | cons first later ih =>
      rw [List.foldr_cons, List.filter_cons, ih]
      split_ifs <;> rfl

/-- The pairs pushed last are looked at first: those of two record values, in order. -/
theorem pushDeclared_pushAdded
    (path : Path)
    (expected actual : Record)
    (stack : List PendingPair) :
    pushDeclared path expected actual (pushAdded path expected actual stack) =
      ofSlots path expected actual ++ stack := by
  rw [pushDeclared, pushAdded_eq, ofSlots, List.append_assoc]
  induction expected.slots with
  | nil => rfl
  | cons first later ih => rw [List.foldr_cons, ih, List.map_cons, List.cons_append]

end PendingPair

namespace Walk

open PendingPair

/--
A turn of a walk: what it finds at the pair on top of the stack, and the stack after it.
-/
inductive Turn : List PendingPair → Option Difference → List PendingPair → Prop where
  | inside
      (path : Path)
      (expected actual : Record)
      (stack : List PendingPair) :
      Turn (⟨path, some (.record expected), some (.record actual)⟩ :: stack) none
        (pushDeclared path expected actual (pushAdded path expected actual stack))
  | compared
      {path : Path}
      {expected actual : Option Typed}
      (notBoth :
        ∀ left right, expected = some (.record left) → actual = some (.record right) → False)
      (stack : List PendingPair) :
      Turn (⟨path, expected, actual⟩ :: stack) (wholeDifference? path expected actual) stack

theorem look_whole
    {path : Path}
    {expected actual : Option Typed}
    (notBoth :
      ∀ left right, expected = some (.record left) → actual = some (.record right) → False) :
    look ⟨path, expected, actual⟩ = .compared (wholeDifference? path expected actual) := by
  rw [look]
  split
  · rename_i left right isLeft isRight
    exact absurd isRight (notBoth left right isLeft)
  · rfl

/-- A turn can be taken as long as there is a pair on the stack. -/
theorem exists_turn
    (pair : PendingPair)
    (stack : List PendingPair) :
    ∃ found rest, Turn (pair :: stack) found rest := by
  rcases pair with ⟨path, expected, actual⟩
  by_cases both : ∃ left right, expected = some (.record left) ∧ actual = some (.record right)
  · rcases both with ⟨left, right, rfl, rfl⟩
    exact ⟨_, _, .inside path left right stack⟩
  · refine ⟨_, _, .compared ?_ stack⟩
    exact fun left right isLeft isRight => both ⟨left, right, isLeft, isRight⟩

/-- No walk takes turns without end. -/
theorem wellFounded_turns :
    WellFounded fun rest stack => ∃ found, Turn stack found rest := by
  have lighter :
      ∀ rest stack, (∃ found, Turn stack found rest) →
        Prod.Lex (· < ·) (· < ·) (totalWeight rest, rest.length)
          (totalWeight stack, stack.length) := by
    rintro rest stack ⟨found, turn⟩
    cases turn with
    | inside path expected actual stack =>
        rw [pushDeclared_pushAdded]
        exact inside_decreases rfl
    | compared notBoth stack => exact compared_decreases _ _
  have wellFounded := (Prod.lex Nat.lt_wfRel Nat.lt_wfRel).wf
  exact Subrelation.wf (lighter _ _) (InvImage.wf _ wellFounded)

/-- The next difference is the one that a turn finds, or else the next one after the turn. -/
theorem nextOf_of_turn
    {stack rest : List PendingPair}
    {found : Option Difference}
    (turn : Turn stack found rest) :
    nextOf stack = (found.map fun difference => (difference, ⟨rest⟩)).or (nextOf rest) := by
  cases turn with
  | inside path expected actual =>
      rw [pushDeclared_pushAdded]
      exact nextOf_inside rfl _
  | compared notBoth => exact nextOf_compared (look_whole notBoth) _

/-! ## One difference after the other -/

/-- The differences that a walk gives one after the other until there is none. -/
inductive Yields : Walk → List Difference → Prop where
  | ended
      {walk : Walk}
      (noNext : walk.next = none) :
      Yields walk []
  | found
      {walk later : Walk}
      {difference : Difference}
      {differences : List Difference}
      (isNext : walk.next = some (difference, later))
      (rest : Yields later differences) :
      Yields walk (difference :: differences)

theorem Yields.eq_toList
    {walk : Walk}
    {differences : List Difference}
    (yields : walk.Yields differences) :
    differences = walk.toList := by
  induction yields with
  | ended noNext =>
      rw [next] at noNext
      rw [toList, listOf_eq_next, noNext]
  | found isNext _ ih =>
      rw [next] at isNext
      rw [toList, listOf_eq_next, isNext, ih]

theorem yields_toList
    (walk : Walk) :
    walk.Yields walk.toList := by
  generalize same : walk.toList = differences
  induction differences generalizing walk with
  | nil =>
      rw [toList, listOf_eq_next] at same
      split at same
      · exact .ended ‹_›
      · cases same
  | cons difference differences ih =>
      rw [toList, listOf_eq_next] at same
      split at same
      · cases same
      · cases same
        exact .found ‹_› (ih _ rfl)

theorem yields_iff
    {walk : Walk}
    {differences : List Difference} :
    walk.Yields differences ↔ differences = walk.toList := by
  constructor
  · exact Yields.eq_toList
  · rintro rfl
    exact yields_toList walk

/--
The walk through two values gives the differences of the recursive definition one after the other,
and then no more.  Its turns come to an end, whatever is on the stack; each goes on from the pair
on top, and the next difference is the first that a turn finds.
-/
theorem start_yields_iff
    (root : String)
    (expected actual : Typed) :
    (∀ differences,
        (start root expected actual).Yields differences ↔
          differences = Difference.list (.ofRoot root) (some actual) (some expected)) ∧
      (Difference.Recursion Difference.list ∧
        ∀ differences, Difference.Recursion differences → differences = Difference.list) ∧
        (WellFounded fun rest stack => ∃ found, Turn stack found rest) ∧
          nextOf [] = none ∧
            ∀ pair later, ∃ found rest, Turn (pair :: later) found rest ∧
              nextOf (pair :: later) =
                (found.map fun difference => (difference, ⟨rest⟩)).or (nextOf rest) := by
  refine
    ⟨fun differences => ?_, ⟨Difference.recursion_list, fun _ => Difference.Recursion.eq_list⟩,
      wellFounded_turns, ?_, ?_⟩
  · rw [yields_iff, toList_start]
  · rw [nextOf]
  · intro pair later
    rcases exists_turn pair later with ⟨found, rest, turn⟩
    exact ⟨found, rest, turn, nextOf_of_turn turn⟩

end Walk

end ContractReplay
