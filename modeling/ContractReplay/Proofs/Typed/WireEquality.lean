import ContractReplay.Difference
import ContractReplay.Proofs.Coercion.Steps
import Mathlib.Data.List.Perm.Subperm

/-!
# Equality of wire forms

Two objects with distinct keys are equal exactly when they have equal values, or none at all,
under every key.  The wire form of a record value whose wire names are distinct has under the
wire name of a slot what the slot holds, so two such wire forms are equal exactly when the slots
agree by their wire names.  Equality of values with distinct keys is symmetric.
-/

namespace ContractReplay

/-! ## Sides of a comparison -/

theorem isSome_of_equalSides
    {left right : Option Json}
    (equal : equalSides left right = true) :
    left.isSome = right.isSome := by
  cases left <;> cases right <;> first | rfl | cases equal

/-- An unset side is equal to an unset side only. -/
theorem equalSides_none_left_iff
    {right : Option Json} :
    equalSides none right = true ↔ right = none := by
  cases right <;> simp [equalSides]

/-- The two sides of an equality of set values. -/
theorem equalSides_some_left_iff
    {left : Json}
    {right : Option Json} :
    equalSides (some left) right = true ↔
      ∃ other, right = some other ∧ left.equal other = true := by
  cases right <;> simp [equalSides]

namespace Json

/-! ## Objects -/

theorem equalMembers_eq_true_iff
    {lefts rights : Members} :
    equalMembers lefts rights = true ↔
      ∀ key left, (key, left) ∈ lefts →
        ∃ right, Members.get? key rights = some right ∧ left.equal right = true := by
  constructor
  · intro equal
    induction lefts with
    | nil => exact fun key left member => nomatch member
    | cons first later ih =>
        rcases first with ⟨name, value⟩
        rw [equalMembers, Bool.and_eq_true] at equal
        rcases equal with ⟨firstEqual, laterEqual⟩
        intro key left member
        rcases List.mem_cons.mp member with isFirst | inLater
        · cases isFirst
          split at firstEqual
          · exact ⟨_, ‹_›, firstEqual⟩
          · cases firstEqual
        · exact ih laterEqual key left inLater
  · exact equalMembers_of_forall

theorem Members.mem_keys_iff_isSome
    {members : Members}
    {key : String} :
    key ∈ members.keys ↔ (get? key members).isSome = true := by
  rw [← not_iff_not, ← get?_eq_none_iff, Bool.not_eq_true, Option.isSome_eq_false_iff,
    Option.isNone_iff_eq_none]

/-- Objects with distinct keys are equal when they have equal sides under every key. -/
theorem equal_object_iff
    {lefts rights : Members}
    (leftDistinct : lefts.keys.Nodup)
    (rightDistinct : rights.keys.Nodup) :
    equal (.object lefts) (.object rights) = true ↔
      ∀ key, equalSides (Members.get? key lefts) (Members.get? key rights) = true := by
  rw [equal, Bool.and_eq_true, beq_iff_eq, equalMembers_eq_true_iff]
  constructor
  · rintro ⟨sameLength, found⟩ key
    have keysFound : lefts.keys ⊆ rights.keys := by
      intro name isKey
      rcases List.mem_map.mp isKey with ⟨⟨_, left⟩, member, rfl⟩
      rcases found _ left member with ⟨right, isRight, -⟩
      exact Members.mem_keys_of_mem (Members.mem_of_get? isRight)
    -- No key is left over on the right, since the keys are distinct and as many as on the left.
    have allKeys : rights.keys ⊆ lefts.keys := by
      refine ((leftDistinct.subperm keysFound).perm_of_length_le ?_).symm.subset
      simp [Members.keys, sameLength]
    cases held : Members.get? key lefts with
    | some left =>
        rcases found key left (Members.mem_of_get? held) with ⟨right, isRight, equal⟩
        rw [isRight]
        exact equal
    | none =>
        have absent : key ∉ rights.keys :=
          fun isKey => Members.get?_eq_none_iff.mp held (allKeys isKey)
        rw [Members.get?_eq_none_iff.mpr absent]
        rfl
  · intro equalUnder
    constructor
    · have sameKeys : lefts.keys.Perm rights.keys := by
        rw [List.perm_ext_iff_of_nodup leftDistinct rightDistinct]
        intro key
        rw [Members.mem_keys_iff_isSome, Members.mem_keys_iff_isSome,
          isSome_of_equalSides (equalUnder key)]
      simpa [Members.keys] using sameKeys.length_eq
    · intro key left member
      have equal := equalUnder key
      rw [Members.get?_of_mem leftDistinct member] at equal
      exact equalSides_some_left_iff.mp equal

/-! ## The other way round -/

theorem Number.equal_comm
    (left right : Number) :
    left.equal right = right.equal left := by
  cases left <;> cases right
  · simp only [Number.equal, BEq.comm]
  · rfl
  · rfl
  · simp only [Number.equal, Binary64.Finite.equal, Bool.and_comm, BEq.comm]

theorem equalItems_comm
    {lefts rights : List Json}
    (each : ∀ left ∈ lefts, ∀ right ∈ rights, left.equal right = right.equal left) :
    equalItems lefts rights = equalItems rights lefts := by
  induction lefts generalizing rights with
  | nil => cases rights <;> rfl
  | cons left lefts ih =>
      cases rights with
      | nil => rfl
      | cons right rights =>
          rw [List.forall_mem_cons] at each
          have laterEach : ∀ left ∈ lefts, ∀ right ∈ rights, left.equal right = right.equal left :=
            fun left isLeft right isRight =>
              each.2 left isLeft right (List.mem_cons_of_mem _ isRight)
          rw [equalItems, equalItems, each.1 right List.mem_cons_self, ih laterEach]

/-- Values whose objects have distinct keys are equal in both orders or in neither. -/
theorem equal_comm
    {left right : Json}
    (leftDistinct : left.KeysDistinct)
    (rightDistinct : right.KeysDistinct) :
    left.equal right = right.equal left := by
  induction leftDistinct generalizing right with
  | null => cases right <;> rfl
  | bool value => cases right <;> simp only [equal, BEq.comm]
  | number value =>
      cases right with
      | number other => exact value.equal_comm other
      | _ => rfl
  | string value => cases right <;> simp only [equal, BEq.comm]
  | array _ ih =>
      cases rightDistinct with
      | array rightInside =>
          rw [equal, equal]
          exact equalItems_comm fun left isLeft right isRight =>
            ih left isLeft (rightInside right isRight)
      | _ => rfl
  | @object lefts leftKeys _ ih =>
      cases rightDistinct with
      | @object rights rightKeys rightInside =>
          rw [Bool.eq_iff_iff, equal_object_iff leftKeys rightKeys,
            equal_object_iff rightKeys leftKeys]
          apply forall_congr'
          intro key
          cases isLeft : Members.get? key lefts <;> cases isRight : Members.get? key rights
          · rfl
          · rfl
          · rfl
          · rename_i item other
            have inLefts := Members.mem_of_get? isLeft
            have inRights := Members.mem_of_get? isRight
            rw [equalSides, equalSides, ih key item inLefts (rightInside key other inRights)]
      | _ => rfl

end Json

theorem equalSides_comm
    {left right : Option Typed}
    (leftDistinct : ∀ value, left = some value → value.KeysDistinct)
    (rightDistinct : ∀ value, right = some value → value.KeysDistinct) :
    equalSides (left.map Typed.toWire) (right.map Typed.toWire) =
      equalSides (right.map Typed.toWire) (left.map Typed.toWire) := by
  cases left <;> cases right
  · rfl
  · rfl
  · rfl
  · exact Json.equal_comm (leftDistinct _ rfl).wire (rightDistinct _ rfl).wire

namespace Typed

/-! ## Record values -/

/-- Under a key that is the wire name of no set slot, a wire form has nothing. -/
theorem get?_slotsToWire_of_unset
    {slots : List Slot}
    {key : String}
    (unset : ¬ ∃ slot ∈ slots, slot.wireName = key ∧ slot.value ≠ none) :
    Json.Members.get? key (slotsToWire slots) = none := by
  apply Json.Members.get?_eq_none_iff.mpr
  intro isKey
  rcases List.mem_map.mp isKey with ⟨⟨name, wire⟩, present, rfl⟩
  rcases mem_slotsToWire.mp present with ⟨slot, member, sameName, value, set, -⟩
  refine unset ⟨slot, member, sameName, ?_⟩
  rw [set]
  exact Option.some_ne_none value

/-- Under the wire name of a slot, the wire form of a record value has what the slot holds. -/
theorem get?_slotsToWire
    {slots : List Slot}
    (distinct : (slots.map (·.wireName)).Nodup)
    {slot : Slot}
    (member : slot ∈ slots) :
    Json.Members.get? slot.wireName (slotsToWire slots) = slot.value.map toWire := by
  have distinctKeys : (Json.Members.keys (slotsToWire slots)).Nodup :=
    (keys_slotsToWire_sublist slots).nodup distinct
  cases content : slot.value with
  | some value =>
      exact
        Json.Members.get?_of_mem distinctKeys
          (mem_slotsToWire.mpr ⟨slot, member, rfl, value, content, rfl⟩)
  | none =>
      apply get?_slotsToWire_of_unset
      rintro ⟨other, isOther, sameName, set⟩
      have isSlot : other = slot := List.inj_on_of_nodup_map distinct isOther member sameName
      rw [isSlot, content] at set
      exact set rfl

theorem get?_slotsToWire_of_not_mem
    {slots : List Slot}
    {key : String}
    (absent : ∀ slot ∈ slots, slot.wireName ≠ key) :
    Json.Members.get? key (slotsToWire slots) = none :=
  get?_slotsToWire_of_unset fun ⟨slot, member, same, _⟩ => absent slot member same

/-- Record values with distinct wire names have equal wire forms when they do under every key. -/
theorem equal_record_iff
    {left right : Record}
    (leftDistinct : (left.slots.map (·.wireName)).Nodup)
    (rightDistinct : (right.slots.map (·.wireName)).Nodup) :
    (toWire (.record left)).equal (toWire (.record right)) = true ↔
      ∀ key,
        equalSides (Json.Members.get? key (slotsToWire left.slots))
          (Json.Members.get? key (slotsToWire right.slots)) = true := by
  rcases left with ⟨leftType, lefts⟩
  rcases right with ⟨rightType, rights⟩
  rw [toWire_record_of_nodup leftDistinct, toWire_record_of_nodup rightDistinct]
  exact
    Json.equal_object_iff ((keys_slotsToWire_sublist lefts).nodup leftDistinct)
      ((keys_slotsToWire_sublist rights).nodup rightDistinct)

/-- Record values with the same distinct wire names are compared slot by slot. -/
theorem equal_record_iff_forall₂
    {leftType rightType : String}
    {lefts rights : List Slot}
    (sameNames : rights.map (·.wireName) = lefts.map (·.wireName))
    (distinct : (lefts.map (·.wireName)).Nodup) :
    (toWire (.record ⟨leftType, lefts⟩)).equal (toWire (.record ⟨rightType, rights⟩)) = true ↔
      List.Forall₂
        (fun left right =>
          equalSides (left.value.map toWire) (right.value.map toWire) = true)
        lefts rights := by
  have rightDistinct : (rights.map (·.wireName)).Nodup := sameNames ▸ distinct
  have sameLength : rights.length = lefts.length := by
    simpa using congrArg List.length sameNames
  rw [equal_record_iff distinct rightDistinct, List.forall₂_iff_zip]
  constructor
  · refine fun equalUnder => ⟨sameLength.symm, ?_⟩
    intro left right paired
    have sameName : right.wireName = left.wireName := Coercion.eq_of_mem_zip sameNames paired
    have equal := equalUnder left.wireName
    rw [get?_slotsToWire distinct (List.of_mem_zip paired).1, ← sameName,
      get?_slotsToWire rightDistinct (List.of_mem_zip paired).2] at equal
    exact equal
  · rintro ⟨-, equalPaired⟩ key
    by_cases isName : key ∈ rights.map (·.wireName)
    · rcases List.mem_map.mp isName with ⟨right, isRight, rfl⟩
      rcases Coercion.exists_mem_zip sameLength.symm isRight with ⟨left, paired⟩
      have sameName : right.wireName = left.wireName := Coercion.eq_of_mem_zip sameNames paired
      rw [get?_slotsToWire rightDistinct isRight, sameName,
        get?_slotsToWire distinct (List.of_mem_zip paired).1]
      exact equalPaired paired
    · rw [get?_slotsToWire_of_not_mem, get?_slotsToWire_of_not_mem]
      · rfl
      · exact fun slot member same => isName (List.mem_map.mpr ⟨slot, member, same⟩)
      · rw [sameNames] at isName
        exact fun slot member same => isName (List.mem_map.mpr ⟨slot, member, same⟩)

end Typed

/-! ## Record values with no slot set -/

theorem Json.Members.insert_ne_nil
    (key : String)
    (value : Json)
    (members : Members) :
    insert key value members ≠ [] := by
  cases members with
  | nil =>
      rw [insert]
      exact List.cons_ne_nil _ _
  | cons first later =>
      rw [insert]
      split_ifs <;> exact List.cons_ne_nil _ _

theorem Json.Members.ofList_eq_nil_iff
    {pairs : List (String × Json)} :
    ofList pairs = [] ↔ pairs = [] := by
  rcases List.eq_nil_or_concat pairs with rfl | ⟨earlier, last, rfl⟩
  · exact iff_of_true rfl rfl
  · refine iff_of_false ?_ (by simp)
    rw [ofList, List.concat_eq_append, List.foldl_append]
    exact insert_ne_nil _ _ _

theorem Typed.slotsToWire_eq_nil_iff
    {slots : List Slot} :
    slotsToWire slots = [] ↔ ∀ slot ∈ slots, slot.value = none := by
  induction slots with
  | nil => simp [slotsToWire]
  | cons first later ih =>
      rcases first with ⟨fieldName, wireName, _ | value⟩ <;> simp [slotsToWire, ih]

namespace RecordValueOf

theorem isEmpty_iff
    {record : Record} :
    record.isEmpty = true ↔ ∀ slot ∈ record.slots, slot.value = none := by
  simp [isEmpty]

theorem toWire_cleared
    (record : Record) :
    record.cleared.toWire = .object [] := by
  have noMembers : Typed.slotsToWire record.cleared.slots = [] := by
    rw [Typed.slotsToWire_eq_nil_iff, cleared]
    simp
  rw [toWire, Typed.toWire, noMembers]
  rfl

/-- A record value has the wire form of the cleared one only if no slot is set. -/
theorem equal_cleared_iff
    {record : Record} :
    record.cleared.toWire.equal record.toWire = true ↔ record.isEmpty = true := by
  rw [toWire_cleared, toWire, Typed.toWire, Json.equal, isEmpty_iff,
    ← Typed.slotsToWire_eq_nil_iff, ← Json.Members.ofList_eq_nil_iff]
  cases Json.Members.ofList (Typed.slotsToWire record.slots) with
  | nil => exact iff_of_true rfl rfl
  | cons first later => exact iff_of_false (by simp) (List.cons_ne_nil _ _)

end RecordValueOf

end ContractReplay
