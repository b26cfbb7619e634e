import ContractReplay.Path
import ContractReplay.Typed.Record

/-!
# Differences of typed values

Where two values are both record values, their slots are compared one by one, by
the names of their fields: first the slots of the expected value in order, then
the set slots that only the actual value has.  Anything else is compared as a
whole by its wire form.  The differences are found one at a time, by a walk that
keeps the pairs it still has to look at, so that a caller who wants only the
first few pays for no more.
-/

namespace ContractReplay

/-- A place where the wire forms of two values differ; a side that is unset has none. -/
structure Difference where
  path : Path
  expected : Option Json
  actual : Option Json

/-- The text for a slot that is unset. -/
def unsetText : String := "<unset>"

/-- The text of one side of a difference. -/
def sideText : Option Json → String
  | some value => value.compact
  | none => unsetText

/-- The line that tells of a difference. -/
def Difference.line (difference : Difference) : String :=
  difference.path.text ++ " expected: " ++ sideText difference.expected ++ " actual: " ++
    sideText difference.actual

/-- Whether two wire forms are equal; an unset side equals only an unset side. -/
def equalSides : Option Json → Option Json → Bool
  | none, none => true
  | some left, some right => left.equal right
  | _, _ => false

/-- The difference of two values that are compared as a whole, if there is one. -/
def wholeDifference? (path : Path) (expected actual : Option Typed) : Option Difference :=
  if equalSides (expected.map Typed.toWire) (actual.map Typed.toWire) then none
  else some ⟨path, expected.map Typed.toWire, actual.map Typed.toWire⟩

/-- Whether a record value has a slot for a field. -/
def RecordValueOf.declares (record : Record) (fieldName : String) : Bool :=
  record.slots.any (·.fieldName == fieldName)

/-- The set slots of the actual value for which the expected one has no slot. -/
def addedSlots (expected actual : Record) : List Slot :=
  actual.slots.filter fun slot => slot.value.isSome && !expected.declares slot.fieldName

/-! ## The recursive definition -/

namespace Difference

mutual

/-- The differences of two values, of which either may be unset. -/
def list (path : Path) (actual : Option Typed) : Option Typed → List Difference
  | some (.record ⟨typeName, slots⟩) =>
    match actual with
    | some (.record found) =>
      listSlots path found slots ++
        (addedSlots ⟨typeName, slots⟩ found).filterMap fun slot =>
          wholeDifference? (path.add (.field slot.fieldName)) none slot.value
    | other => (wholeDifference? path (some (.record ⟨typeName, slots⟩)) other).toList
  | expected => (wholeDifference? path expected actual).toList

/-- The differences of the slots of the expected value from those of the actual one. -/
def listSlots (path : Path) (actual : Record) : List (SlotOf Typed) → List Difference
  | [] => []
  | ⟨fieldName, _, value⟩ :: later =>
    list (path.add (.field fieldName)) (actual.get? fieldName) value ++
      listSlots path actual later

end

end Difference

/-! ## The walk -/

namespace Typed

mutual

/-- The number of values that one meets on the way through record values inside record values. -/
def extent : Typed → Nat
  | .record ⟨_, slots⟩ => 1 + slotsExtent slots
  | _ => 1

/-- The number of values that one meets in some slots. -/
def slotsExtent : List (SlotOf Typed) → Nat
  | [] => 0
  | ⟨_, _, none⟩ :: later => slotsExtent later
  | ⟨_, _, some value⟩ :: later => extent value + slotsExtent later

end

end Typed

/-- A pair of values that a walk has still to look at. -/
structure PendingPair where
  path : Path
  expected : Option Typed
  actual : Option Typed

namespace PendingPair

/-- The pairs of slots of two record values, in the order in which they are looked at. -/
def ofSlots (path : Path) (expected actual : Record) : List PendingPair :=
  (expected.slots.map fun slot =>
    ⟨path.add (.field slot.fieldName), slot.value, actual.get? slot.fieldName⟩) ++
  (addedSlots expected actual).map fun slot =>
    ⟨path.add (.field slot.fieldName), none, slot.value⟩

/-- The extent of the expected value of a pair. -/
def weight (pair : PendingPair) : Nat :=
  match pair.expected with
  | none => 0
  | some value => value.extent

/-- The extent of the expected values of some pairs together. -/
def totalWeight : List PendingPair → Nat
  | [] => 0
  | pair :: later => weight pair + totalWeight later

theorem totalWeight_append
    (first second : List PendingPair) :
    totalWeight (first ++ second) = totalWeight first + totalWeight second := by
  induction first with
  | nil => simp [totalWeight]
  | cons pair later ih =>
    rw [List.cons_append, totalWeight, totalWeight, ih, Nat.add_assoc]

/-- The slots of a record value weigh less than the record value. -/
theorem totalWeight_ofSlots_lt
    (path : Path)
    (expected actual : Record) :
    totalWeight (ofSlots path expected actual) < (Typed.record expected).extent := by
  have added :
      ∀ slots : List Slot,
        totalWeight (slots.map fun slot =>
          (⟨path.add (.field slot.fieldName), none, slot.value⟩ : PendingPair)) = 0 := by
    intro slots
    induction slots with
    | nil => rfl
    | cons slot later ih =>
      simp only [totalWeight, List.map_cons] at ih ⊢
      simp only [weight, ih]
  have declared :
      ∀ slots : List Slot,
        totalWeight (slots.map fun slot =>
          (⟨path.add (.field slot.fieldName), slot.value, actual.get? slot.fieldName⟩ :
            PendingPair)) = Typed.slotsExtent slots := by
    intro slots
    induction slots with
    | nil => rfl
    | cons slot later ih =>
      obtain ⟨fieldName, wireName, value⟩ := slot
      simp only [totalWeight, List.map_cons] at ih ⊢
      rw [ih]
      cases value <;> simp [weight, Typed.slotsExtent]
  obtain ⟨typeName, slots⟩ := expected
  rw [ofSlots, totalWeight_append, added, declared, Typed.extent]
  simp

end PendingPair

/-- The pairs that a walk has still to look at, the next one first. -/
structure Walk where
  pending : List PendingPair

namespace Walk

open PendingPair

/-- The walk through a pair of values. -/
def start (root : String) (expected actual : Typed) : Walk :=
  ⟨[⟨.ofRoot root, some expected, some actual⟩]⟩

/-- What a look at a pair brings: more pairs to look at, or the outcome of a comparison. -/
inductive Look where
  | inside (pairs : List PendingPair)
  | compared (difference : Option Difference)

/-- A look at a pair. -/
def look (pair : PendingPair) : Look :=
  match pair.expected, pair.actual with
  | some (.record expected), some (.record actual) => .inside (ofSlots pair.path expected actual)
  | expected, actual => .compared (wholeDifference? pair.path expected actual)

theorem look_inside_lighter
    {pair : PendingPair}
    {pairs : List PendingPair}
    (looked : look pair = .inside pairs) :
    totalWeight pairs < weight pair := by
  unfold look at looked
  split at looked
  · rename_i expected actual expectedIs actualIs
    cases looked
    rw [weight, expectedIs]
    exact totalWeight_ofSlots_lt _ _ _
  · cases looked

theorem inside_decreases
    {pair : PendingPair}
    {pairs later : List PendingPair}
    (looked : look pair = .inside pairs) :
    Prod.Lex (· < ·) (· < ·) (totalWeight (pairs ++ later), (pairs ++ later).length)
      (totalWeight (pair :: later), (pair :: later).length) := by
  apply Prod.Lex.left
  have lighter := look_inside_lighter looked
  rw [totalWeight_append]
  simp only [totalWeight]
  omega

theorem compared_decreases
    (pair : PendingPair)
    (later : List PendingPair) :
    Prod.Lex (· < ·) (· < ·) (totalWeight later, later.length)
      (totalWeight (pair :: later), (pair :: later).length) := by
  have total : totalWeight (pair :: later) = weight pair + totalWeight later := by
    simp [totalWeight]
  rw [total]
  by_cases light : weight pair = 0
  · rw [light, Nat.zero_add]
    apply Prod.Lex.right
    simp
  · apply Prod.Lex.left
    omega

/-- The next difference, and the walk after it. -/
def nextOf (pending : List PendingPair) : Option (Difference × Walk) :=
  match pending with
  | [] => none
  | pair :: later =>
    match _ : look pair with
    | .inside pairs => nextOf (pairs ++ later)
    | .compared (some difference) => some (difference, ⟨later⟩)
    | .compared none => nextOf later
termination_by (totalWeight pending, pending.length)
decreasing_by
  · exact inside_decreases ‹_›
  · exact compared_decreases _ _

/-- The next difference, and the walk after it. -/
def next (walk : Walk) : Option (Difference × Walk) :=
  nextOf walk.pending

/-- The first differences of a walk, up to a number of them. -/
def take : Nat → Walk → List Difference
  | 0, _ => []
  | most + 1, walk =>
    match walk.next with
    | none => []
    | some (difference, later) => difference :: take most later

/-- All the differences that some pairs lead to. -/
def listOf (pending : List PendingPair) : List Difference :=
  match pending with
  | [] => []
  | pair :: later =>
    match _ : look pair with
    | .inside pairs => listOf (pairs ++ later)
    | .compared difference => difference.toList ++ listOf later
termination_by (totalWeight pending, pending.length)
decreasing_by
  · exact inside_decreases ‹_›
  · exact compared_decreases _ _

/-- All the differences of a walk. -/
def toList (walk : Walk) : List Difference :=
  listOf walk.pending

end Walk

end ContractReplay
