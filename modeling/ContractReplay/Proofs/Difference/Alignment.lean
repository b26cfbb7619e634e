import ContractReplay.Proofs.Typed.WireEquality

/-!
# Record values side by side

A comparison goes side by side through the fields of record values and meets others there.  Where
two record values name their fields alike, the wire form of each has under a wire name what the
slot of the same field holds, so that their wire forms are equal exactly when the sides of every
field of the expected one are equal and the actual one has no set field besides.  That they are
equal then is also so where only the fields that are set in both go by one wire name.
-/

namespace ContractReplay

/-! ## Record values inside record values -/

namespace Typed

theorem extent_le_slotsExtent
    {slots : List Slot}
    {slot : Slot}
    {value : Typed}
    (member : slot ∈ slots)
    (set : slot.value = some value) :
    value.extent ≤ slotsExtent slots := by
  induction slots with
  | nil => cases member
  | cons first later ih =>
      rcases first with ⟨fieldName, wireName, content⟩
      rcases List.mem_cons.mp member with rfl | inLater
      · obtain rfl : content = some value := set
        rw [slotsExtent]
        exact Nat.le_add_right _ _
      · have fits := ih inLater
        cases content with
        | none => rwa [slotsExtent]
        | some other =>
            rw [slotsExtent]
            exact Nat.le_add_left_of_le fits

/-- Induction on a value, given what is to be shown for the values of its slots. -/
@[elab_as_elim]
theorem slot_induction
    {motive : Typed → Prop}
    (step :
      ∀ value,
        (∀ record : Record, value = .record record → ∀ slot ∈ record.slots, ∀ inner,
          slot.value = some inner → motive inner) →
        motive value)
    (value : Typed) :
    motive value := by
  induction size : value.extent using Nat.strongRecOn generalizing value with
  | _ size ih =>
      apply step
      rintro ⟨typeName, slots⟩ rfl slot member inner set
      refine ih inner.extent ?_ inner rfl
      rw [← size, extent]
      have fits : inner.extent ≤ slotsExtent slots := extent_le_slotsExtent member set
      omega

end Typed

/-! ## Record values that name their fields alike -/

/--
Record values each of which names its fields apart, and which agree on the two names of the
fields that they share.
-/
structure RecordValueOf.Comparable (left right : Record) : Prop where
  leftFields : (left.slots.map (·.fieldName)).Nodup
  leftWires : (left.slots.map (·.wireName)).Nodup
  rightFields : (right.slots.map (·.fieldName)).Nodup
  rightWires : (right.slots.map (·.wireName)).Nodup
  sameNames :
    ∀ leftSlot ∈ left.slots, ∀ rightSlot ∈ right.slots,
      leftSlot.fieldName = rightSlot.fieldName ↔ leftSlot.wireName = rightSlot.wireName

/-- A record value that names its slots apart, by their fields and on the wire. -/
structure RecordValueOf.NamesApart (record : Record) : Prop where
  fieldNames : (record.slots.map (·.fieldName)).Nodup
  wireNames : (record.slots.map (·.wireName)).Nodup

/-- That a field which is set in two record values has the same wire name in both. -/
def RecordValueOf.SharesWires (left right : Record) : Prop :=
  ∀ leftSlot ∈ left.slots, ∀ rightSlot ∈ right.slots,
    leftSlot.fieldName = rightSlot.fieldName → leftSlot.value ≠ none →
      rightSlot.value ≠ none → leftSlot.wireName = rightSlot.wireName

/-- The pairs of record values that one meets on the way through the fields of two values. -/
inductive Meets : Typed → Typed → Record → Record → Prop where
  | here (left right : Record) :
      Meets (.record left) (.record right) left right
  | inside
      {left right innerLeft innerRight : Record}
      {slot : Slot}
      {expected actual : Typed}
      (declared : slot ∈ left.slots)
      (set : slot.value = some expected)
      (found : right.get? slot.fieldName = some actual)
      (met : Meets expected actual innerLeft innerRight) :
      Meets (.record left) (.record right) innerLeft innerRight

/-- That all record values that are met side by side name their fields alike. -/
def Aligned (expected actual : Typed) : Prop :=
  ∀ left right, Meets expected actual left right → left.Comparable right

/-- That all record values that are met side by side name their slots apart. -/
def NamedApart (expected actual : Typed) : Prop :=
  ∀ left right, Meets expected actual left right → left.NamesApart ∧ right.NamesApart

theorem NamedApart.inside
    {left right : Record}
    (apart : NamedApart (.record left) (.record right))
    {slot : Slot}
    {expected actual : Typed}
    (declared : slot ∈ left.slots)
    (set : slot.value = some expected)
    (found : right.get? slot.fieldName = some actual) :
    NamedApart expected actual :=
  fun innerLeft innerRight met => apart innerLeft innerRight (.inside declared set found met)

namespace Aligned

theorem inside
    {left right : Record}
    (aligned : Aligned (.record left) (.record right))
    {slot : Slot}
    {expected actual : Typed}
    (declared : slot ∈ left.slots)
    (set : slot.value = some expected)
    (found : right.get? slot.fieldName = some actual) :
    Aligned expected actual :=
  fun innerLeft innerRight met => aligned innerLeft innerRight (.inside declared set found met)

theorem records
    {left right : Record}
    (comparable : left.Comparable right)
    (inside :
      ∀ slot ∈ left.slots, ∀ expected actual,
        slot.value = some expected → right.get? slot.fieldName = some actual →
          Aligned expected actual) :
    Aligned (.record left) (.record right) := by
  intro innerLeft innerRight met
  cases met with
  | here => exact comparable
  | inside declared set found met =>
      exact inside _ declared _ _ set found innerLeft innerRight met

/-- Where the expected value is no record value, no record values are met. -/
theorem of_not_record
    {expected actual : Typed}
    (noRecord : ∀ record : Record, expected ≠ .record record) :
    Aligned expected actual := by
  intro innerLeft innerRight met
  cases met with
  | here => exact absurd rfl (noRecord _)
  | inside => exact absurd rfl (noRecord _)

end Aligned

namespace RecordValueOf

theorem declares_eq_false_iff
    {record : Record}
    {fieldName : String} :
    record.declares fieldName = false ↔ ∀ slot ∈ record.slots, slot.fieldName ≠ fieldName := by
  simp [declares]

theorem declares_of_mem
    {record : Record}
    {slot : Slot}
    (member : slot ∈ record.slots) :
    record.declares slot.fieldName = true := by
  rw [declares, List.any_eq_true]
  exact ⟨slot, member, beq_self_eq_true _⟩

/-- An added slot is set, and its field is declared by the actual value alone. -/
theorem mem_addedSlots_iff
    {expected actual : Record}
    {slot : Slot} :
    slot ∈ addedSlots expected actual ↔
      slot ∈ actual.slots ∧ slot.value ≠ none ∧ expected.declares slot.fieldName = false := by
  simp [addedSlots, Option.isSome_iff_ne_none]

theorem addedSlots_eq_nil_iff
    {expected actual : Record} :
    addedSlots expected actual = [] ↔
      ∀ slot ∈ actual.slots, expected.declares slot.fieldName = false → slot.value = none := by
  rw [List.eq_nil_iff_forall_not_mem]
  simp only [mem_addedSlots_iff, not_and, not_imp_not]

variable {left right : Record}

theorem exists_slot_of_get?
    {record : Record}
    {fieldName : String}
    {value : Typed}
    (found : record.get? fieldName = some value) :
    ∃ slot ∈ record.slots, slot.fieldName = fieldName ∧ slot.value = some value := by
  rw [get?, Option.bind_eq_some_iff] at found
  rcases found with ⟨slot, isSlot, set⟩
  have sameField := List.find?_some isSlot
  exact ⟨slot, List.mem_of_find?_eq_some isSlot, beq_iff_eq.mp sameField, set⟩

theorem ne_none_iff_of_equalSides
    {left right : Option Typed}
    (equal : equalSides (left.map Typed.toWire) (right.map Typed.toWire) = true) :
    left ≠ none ↔ right ≠ none := by
  have together := isSome_of_equalSides equal
  rw [Option.isSome_map, Option.isSome_map] at together
  rw [← Option.isSome_iff_ne_none, ← Option.isSome_iff_ne_none, together]

/-- That two slots have the same wire name and equal sides. -/
def EqualSlots (left right : Slot) : Prop :=
  left.wireName = right.wireName ∧
    equalSides (left.value.map Typed.toWire) (right.value.map Typed.toWire) = true

section

variable
  (shares : left.SharesWires right)
  (equalFields :
    ∀ slot ∈ left.slots,
      equalSides (slot.value.map Typed.toWire)
        ((right.get? slot.fieldName).map Typed.toWire) = true)

include shares equalFields

/-- A set slot of the expected value stands beside an equal one of the actual value. -/
theorem exists_equalSlots_right
    {slot : Slot}
    (member : slot ∈ left.slots)
    (set : slot.value ≠ none) :
    ∃ other ∈ right.slots, EqualSlots slot other := by
  have equal := equalFields slot member
  have held := (ne_none_iff_of_equalSides equal).mp set
  rcases Option.ne_none_iff_exists'.mp held with ⟨value, found⟩
  rcases exists_slot_of_get? found with ⟨other, isOther, sameField, otherHeld⟩
  rw [found, ← otherHeld] at equal
  have otherSet := (ne_none_iff_of_equalSides equal).mp set
  exact ⟨other, isOther, shares slot member other isOther sameField.symm set otherSet, equal⟩

/-- A set slot of the actual value stands beside an equal one of the expected value. -/
theorem exists_equalSlots_left
    (rightNames : right.NamesApart)
    (notAdded : addedSlots left right = [])
    {slot : Slot}
    (member : slot ∈ right.slots)
    (set : slot.value ≠ none) :
    ∃ other ∈ left.slots, EqualSlots other slot := by
  by_cases declared : ∃ other ∈ left.slots, other.fieldName = slot.fieldName
  · rcases declared with ⟨other, isOther, sameField⟩
    have equal := equalFields other isOther
    rw [sameField, get?_of_mem rightNames.fieldNames member] at equal
    have otherSet := (ne_none_iff_of_equalSides equal).mpr set
    exact ⟨other, isOther, shares other isOther slot member sameField otherSet set, equal⟩
  · refine absurd (addedSlots_eq_nil_iff.mp notAdded slot member ?_) set
    exact declares_eq_false_iff.mpr fun other isOther same => declared ⟨other, isOther, same⟩

end

/--
Two record values that name their slots apart, and share the wire names of the fields that are
set in both, have equal wire forms when the sides of every expected field are equal and the
actual value has no set field besides.
-/
theorem equal_toWire_of_sharesWires
    (leftNames : left.NamesApart)
    (rightNames : right.NamesApart)
    (shares : left.SharesWires right)
    (equalFields :
      ∀ slot ∈ left.slots,
        equalSides (slot.value.map Typed.toWire)
          ((right.get? slot.fieldName).map Typed.toWire) = true)
    (notAdded : addedSlots left right = []) :
    (Typed.toWire (.record left)).equal (Typed.toWire (.record right)) = true := by
  rw [Typed.equal_record_iff leftNames.wireNames rightNames.wireNames]
  intro key
  by_cases onLeft : ∃ slot ∈ left.slots, slot.wireName = key ∧ slot.value ≠ none
  · rcases onLeft with ⟨slot, member, rfl, set⟩
    rcases exists_equalSlots_right shares equalFields member set with
      ⟨other, isOther, sameWire, equal⟩
    rw [Typed.get?_slotsToWire leftNames.wireNames member, sameWire,
      Typed.get?_slotsToWire rightNames.wireNames isOther]
    exact equal
  · have onRight : ¬ ∃ slot ∈ right.slots, slot.wireName = key ∧ slot.value ≠ none := by
      rintro ⟨slot, member, rfl, set⟩
      rcases exists_equalSlots_left shares equalFields rightNames notAdded member set with
        ⟨other, isOther, equal⟩
      exact onLeft ⟨other, isOther, equal.1, (ne_none_iff_of_equalSides equal.2).mpr set⟩
    rw [Typed.get?_slotsToWire_of_unset onLeft, Typed.get?_slotsToWire_of_unset onRight]
    rfl

namespace Comparable

theorem leftNames
    (comparable : left.Comparable right) :
    left.NamesApart :=
  ⟨comparable.leftFields, comparable.leftWires⟩

theorem rightNames
    (comparable : left.Comparable right) :
    right.NamesApart :=
  ⟨comparable.rightFields, comparable.rightWires⟩

theorem sharesWires
    (comparable : left.Comparable right) :
    left.SharesWires right :=
  fun leftSlot isLeft rightSlot isRight sameField _ _ =>
    (comparable.sameNames leftSlot isLeft rightSlot isRight).mp sameField

/-- Under the wire name of a slot of the expected value, the actual one has the same field. -/
theorem get?_slotsToWire_right
    (comparable : left.Comparable right)
    {slot : Slot}
    (member : slot ∈ left.slots) :
    Json.Members.get? slot.wireName (Typed.slotsToWire right.slots) =
      (right.get? slot.fieldName).map Typed.toWire := by
  by_cases shared : ∃ other ∈ right.slots, other.fieldName = slot.fieldName
  · rcases shared with ⟨other, isOther, sameField⟩
    have sameWire := (comparable.sameNames slot member other isOther).mp sameField.symm
    rw [← sameField, get?_of_mem comparable.rightFields isOther, sameWire,
      Typed.get?_slotsToWire comparable.rightWires isOther]
  · have absent : ∀ other ∈ right.slots, other.fieldName ≠ slot.fieldName :=
      fun other isOther same => shared ⟨other, isOther, same⟩
    rw [get?_of_not_declared absent, Typed.get?_slotsToWire_of_not_mem]
    · rfl
    · intro other isOther sameWire
      exact absent other isOther
        ((comparable.sameNames slot member other isOther).mpr sameWire.symm).symm

/-- A slot whose field the expected value does not declare has nothing to stand beside. -/
theorem get?_slotsToWire_left
    (comparable : left.Comparable right)
    {slot : Slot}
    (member : slot ∈ right.slots)
    (undeclared : left.declares slot.fieldName = false) :
    Json.Members.get? slot.wireName (Typed.slotsToWire left.slots) = none := by
  apply Typed.get?_slotsToWire_of_not_mem
  intro other isOther sameWire
  have sameField := (comparable.sameNames other isOther slot member).mpr sameWire
  exact declares_eq_false_iff.mp undeclared other isOther sameField

/--
Two record values have equal wire forms when the sides of every expected field are equal and
the actual value has no set field besides.
-/
theorem equal_toWire_iff
    (comparable : left.Comparable right) :
    (Typed.toWire (.record left)).equal (Typed.toWire (.record right)) = true ↔
      (∀ slot ∈ left.slots,
          equalSides (slot.value.map Typed.toWire)
            ((right.get? slot.fieldName).map Typed.toWire) = true) ∧
        addedSlots left right = [] := by
  constructor
  · intro equal
    have equalUnder := (Typed.equal_record_iff comparable.leftWires comparable.rightWires).mp equal
    rw [addedSlots_eq_nil_iff]
    constructor
    · intro slot member
      rw [← comparable.get?_slotsToWire_right member,
        ← Typed.get?_slotsToWire comparable.leftWires member]
      exact equalUnder slot.wireName
    · intro slot member undeclared
      have equal := equalUnder slot.wireName
      rw [comparable.get?_slotsToWire_left member undeclared, equalSides_none_left_iff,
        Typed.get?_slotsToWire comparable.rightWires member, Option.map_eq_none_iff] at equal
      exact equal
  · rintro ⟨equalFields, notAdded⟩
    exact
      equal_toWire_of_sharesWires comparable.leftNames comparable.rightNames
        comparable.sharesWires equalFields notAdded

end Comparable

end RecordValueOf

theorem Aligned.namedApart
    {expected actual : Typed}
    (aligned : Aligned expected actual) :
    NamedApart expected actual :=
  fun left right met => ⟨(aligned left right met).leftNames, (aligned left right met).rightNames⟩

end ContractReplay
