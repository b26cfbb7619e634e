import ContractReplay.Proofs.Typed.WireEquality
import Mathlib.Data.List.Perm.Basic

/-!
# Values up to the order of their members

Two JSON values are reordered forms of each other when they are equal but for the order in which
their objects, at any depth, have their members.  Neither look-up in an object with distinct
keys nor equality with a third value sees the order.
-/

namespace ContractReplay

/-! ## Lists in another order -/

/-- That some arrangement of a list is related item by item to another list. -/
def Rearranged
    {α β : Type}
    (related : α → β → Prop)
    (lefts : List α)
    (rights : List β) : Prop :=
  ∃ arranged, lefts.Perm arranged ∧ List.Forall₂ related arranged rights

namespace Rearranged

variable {α β : Type} {related : α → β → Prop} {lefts : List α} {rights : List β}

theorem of_forall₂
    (paired : List.Forall₂ related lefts rights) :
    Rearranged related lefts rights :=
  ⟨lefts, .refl lefts, paired⟩

/-- The second list may be arranged in place of the first. -/
theorem exists_arranged_right
    (rearranged : Rearranged related lefts rights) :
    ∃ arranged, List.Forall₂ related lefts arranged ∧ arranged.Perm rights := by
  rcases rearranged with ⟨arranged, permuted, paired⟩
  exact List.perm_comp_forall₂ permuted paired

theorem flip
    (rearranged : Rearranged related lefts rights) :
    Rearranged (fun right left => related left right) rights lefts := by
  rcases rearranged.exists_arranged_right with ⟨arranged, paired, permuted⟩
  exact ⟨arranged, permuted.symm, paired.flip⟩

theorem of_perm_left
    {others : List α}
    (permuted : others.Perm lefts)
    (rearranged : Rearranged related lefts rights) :
    Rearranged related others rights := by
  rcases rearranged with ⟨arranged, isArranged, paired⟩
  exact ⟨arranged, permuted.trans isArranged, paired⟩

theorem of_perm_right
    {others : List β}
    (permuted : rights.Perm others)
    (rearranged : Rearranged related lefts rights) :
    Rearranged related lefts others :=
  (rearranged.flip.of_perm_left permuted.symm).flip

theorem length_eq
    (rearranged : Rearranged related lefts rights) :
    lefts.length = rights.length := by
  rcases rearranged with ⟨arranged, permuted, paired⟩
  exact permuted.length_eq.trans paired.length_eq

theorem exists_mem_right
    (rearranged : Rearranged related lefts rights)
    {left : α}
    (member : left ∈ lefts) :
    ∃ right ∈ rights, related left right := by
  rcases rearranged with ⟨arranged, permuted, paired⟩
  rcases List.forall₂_iff_zip.mp paired with ⟨sameLength, each⟩
  rw [permuted.mem_iff, ← List.map_fst_zip (Nat.le_of_eq sameLength)] at member
  rcases List.mem_map.mp member with ⟨⟨_, right⟩, together, rfl⟩
  exact ⟨right, (List.of_mem_zip together).2, each together⟩

end Rearranged

/-- Item by item, what stands in one relation to a list is met by what stands in another. -/
theorem exists_forall₂_of_forall₂
    {α β γ δ : Type}
    {related : α → β → Prop}
    {leftRole : α → γ → Prop}
    (rightRole : β → δ → Prop)
    (met : γ → δ → Prop)
    {lefts : List α}
    {rights : List β}
    {values : List γ}
    (paired : List.Forall₂ related lefts rights)
    (roles : List.Forall₂ leftRole lefts values)
    (meets :
      ∀ left ∈ lefts, ∀ right value, related left right → leftRole left value →
        ∃ other, rightRole right other ∧ met value other) :
    ∃ others, List.Forall₂ rightRole rights others ∧ List.Forall₂ met values others := by
  induction paired generalizing values with
  | nil =>
      cases roles
      exact ⟨[], .nil, .nil⟩
  | cons firstRelated _ ih =>
      cases roles with
      | cons firstRole laterRoles =>
          rw [List.forall_mem_cons] at meets
          rcases meets.1 _ _ firstRelated firstRole with ⟨other, hasRole, isMet⟩
          rcases ih laterRoles meets.2 with ⟨others, haveRoles, areMet⟩
          exact ⟨other :: others, .cons hasRole haveRoles, .cons isMet areMet⟩

namespace Json

/-! ## Reordered values -/

/-- Values that are equal but for the order of the members of their objects, at any depth. -/
inductive Reordered : Json → Json → Prop where
  | null : Reordered .null .null
  | bool (value : Bool) : Reordered (.bool value) (.bool value)
  | number (value : Number) : Reordered (.number value) (.number value)
  | string (value : String) : Reordered (.string value) (.string value)
  | array
      {lefts rights : List Json}
      (items : List.Forall₂ Reordered lefts rights) :
      Reordered (.array lefts) (.array rights)
  | object
      {lefts arranged rights : Members}
      (permuted : lefts.Perm arranged)
      (sameKeys : arranged.map Prod.fst = rights.map Prod.fst)
      (values : List.Forall₂ Reordered (arranged.map Prod.snd) (rights.map Prod.snd)) :
      Reordered (.object lefts) (.object rights)

/-- Members with the same key and reordered values. -/
def SameMember (left right : String × Json) : Prop :=
  left.1 = right.1 ∧ Reordered left.2 right.2

theorem forall₂_sameMember_iff
    {lefts rights : List (String × Json)} :
    List.Forall₂ SameMember lefts rights ↔
      lefts.map Prod.fst = rights.map Prod.fst ∧
        List.Forall₂ Reordered (lefts.map Prod.snd) (rights.map Prod.snd) := by
  induction lefts generalizing rights with
  | nil => cases rights <;> simp
  | cons left lefts ih =>
      cases rights with
      | nil => simp
      | cons right rights =>
          simp only [List.forall₂_cons, List.map_cons, List.cons.injEq, SameMember, ih]
          tauto

theorem reordered_object_iff
    {lefts rights : Members} :
    Reordered (.object lefts) (.object rights) ↔ Rearranged SameMember lefts rights := by
  constructor
  · intro reordered
    cases reordered with
    | object permuted sameKeys values =>
        exact ⟨_, permuted, forall₂_sameMember_iff.mpr ⟨sameKeys, values⟩⟩
  · rintro ⟨arranged, permuted, members⟩
    rcases forall₂_sameMember_iff.mp members with ⟨sameKeys, values⟩
    exact .object permuted sameKeys values

theorem Reordered.refl
    (value : Json) :
    value.Reordered value := by
  induction value using part_induction with
  | step value inside =>
      cases value with
      | null => exact .null
      | bool value => exact .bool value
      | number value => exact .number value
      | string value => exact .string value
      | array items =>
          exact .array (List.forall₂_same.mpr fun item member => inside item (.item member))
      | object members =>
          rw [reordered_object_iff]
          apply Rearranged.of_forall₂
          apply List.forall₂_same.mpr
          rintro ⟨key, item⟩ member
          exact ⟨rfl, inside item (.member member)⟩

theorem Reordered.symm
    {left right : Json}
    (reordered : left.Reordered right) :
    right.Reordered left := by
  induction left using part_induction generalizing right with
  | step left inside =>
      cases reordered with
      | null => exact .null
      | bool value => exact .bool value
      | number value => exact .number value
      | string value => exact .string value
      | array items =>
          rcases List.forall₂_iff_zip.mp items with ⟨sameLength, each⟩
          refine .array (List.Forall₂.flip (List.forall₂_iff_zip.mpr ⟨sameLength, ?_⟩))
          intro item other together
          exact inside item (.item (List.of_mem_zip together).1) (each together)
      | object permuted sameKeys values =>
          have members := forall₂_sameMember_iff.mpr ⟨sameKeys, values⟩
          rcases List.forall₂_iff_zip.mp members with ⟨sameLength, each⟩
          rw [reordered_object_iff]
          apply Rearranged.flip
          refine ⟨_, permuted, List.forall₂_iff_zip.mpr ⟨sameLength, ?_⟩⟩
          rintro ⟨key, item⟩ other together
          have member := permuted.mem_iff.mpr (List.of_mem_zip together).1
          exact ⟨(each together).1.symm, inside item (.member member) (each together).2⟩

/-! ## Looking members up -/

theorem keys_perm_of_rearranged
    {lefts rights : Members}
    (rearranged : Rearranged SameMember lefts rights) :
    (Members.keys lefts).Perm (Members.keys rights) := by
  rcases rearranged with ⟨arranged, permuted, members⟩
  have sameKeys := (forall₂_sameMember_iff.mp members).1
  rw [Members.keys, Members.keys, ← sameKeys]
  exact permuted.map Prod.fst

/-- Under every key, objects with distinct keys have reordered values or none. -/
theorem Members.get?_of_rearranged
    {lefts rights : Members}
    (distinct : lefts.keys.Nodup)
    (rearranged : Rearranged SameMember lefts rights)
    (key : String) :
    Option.Rel Reordered (get? key lefts) (get? key rights) := by
  have rightDistinct := (keys_perm_of_rearranged rearranged).nodup_iff.mp distinct
  cases held : get? key lefts with
  | none =>
      have absent : get? key rights = none := by
        rw [get?_eq_none_iff, ← (keys_perm_of_rearranged rearranged).mem_iff]
        exact get?_eq_none_iff.mp held
      rw [absent]
      exact .none
  | some left =>
      rcases rearranged.exists_mem_right (mem_of_get? held) with ⟨⟨_, right⟩, member, rfl, same⟩
      rw [get?_of_mem rightDistinct member]
      exact .some same

/-- The values that a field is read from are reordered too. -/
theorem Members.fieldValue?_of_rearranged
    {lefts rights : Members}
    (distinct : lefts.keys.Nodup)
    (rearranged : Rearranged SameMember lefts rights)
    (field : FieldSchema) :
    Option.Rel Reordered (lefts.fieldValue? field) (rights.fieldValue? field) := by
  rw [fieldValue?, fieldValue?]
  induction field.candidates with
  | nil => exact .none
  | cons key later ih =>
      rw [List.findSome?_cons, List.findSome?_cons]
      have underKey := get?_of_rearranged distinct rearranged key
      generalize get? key lefts = left, get? key rights = right at underKey
      cases underKey with
      | none => exact ih
      | some same => exact .some same

/-- The keys of a reordered value are distinct as well. -/
theorem Reordered.keysDistinct
    {left right : Json}
    (reordered : left.Reordered right)
    (distinct : left.KeysDistinct) :
    right.KeysDistinct := by
  induction distinct generalizing right with
  | array _ ih =>
      cases reordered with
      | array items =>
          apply KeysDistinct.array
          intro other member
          rcases (Rearranged.of_forall₂ items).flip.exists_mem_right member with
            ⟨item, isItem, same⟩
          exact ih item isItem same
  | object distinct _ ih =>
      cases right with
      | object rights =>
          have rearranged := reordered_object_iff.mp reordered
          refine .object ((keys_perm_of_rearranged rearranged).nodup_iff.mp distinct) ?_
          intro key other member
          rcases rearranged.flip.exists_mem_right member with ⟨⟨name, item⟩, isMember, -, same⟩
          exact ih name item isMember same
      | _ => cases reordered
  | _ =>
      cases reordered
      constructor

/-! ## Equality with a third value -/

theorem equalItems_of_forall₂
    {lefts rights : List Json}
    (same :
      List.Forall₂ (fun left right => ∀ other, left.equal other = right.equal other)
        lefts rights)
    (others : List Json) :
    equalItems lefts others = equalItems rights others := by
  induction same generalizing others with
  | nil => rfl
  | cons first _ ih =>
      cases others with
      | nil => rw [equalItems, equalItems] <;> simp
      | cons other later => rw [equalItems, equalItems, first, ih]

/-- A value is equal to another exactly when a reordered form of it is. -/
theorem Reordered.equal_eq
    {left right : Json}
    (reordered : left.Reordered right)
    (other : Json) :
    left.equal other = right.equal other := by
  induction left using part_induction generalizing right other with
  | step left inside =>
      cases reordered with
      | array items =>
          rcases List.forall₂_iff_zip.mp items with ⟨sameLength, each⟩
          cases other with
          | array others =>
              rw [equal, equal]
              refine equalItems_of_forall₂ (List.forall₂_iff_zip.mpr ⟨sameLength, ?_⟩) others
              intro item same together
              exact inside item (.item (List.of_mem_zip together).1) (each together)
          | _ => rfl
      | @object lefts _ rights permuted sameKeys values =>
          have rearranged := reordered_object_iff.mp (.object permuted sameKeys values)
          cases other with
          | object others =>
              rw [equal, equal, rearranged.length_eq, Bool.eq_iff_iff, Bool.and_eq_true,
                Bool.and_eq_true, equalMembers_eq_true_iff, equalMembers_eq_true_iff]
              apply and_congr_right'
              constructor
              · intro found key right member
                rcases rearranged.flip.exists_mem_right member with
                  ⟨⟨_, left⟩, isLeft, rfl, same⟩
                rcases found _ left isLeft with ⟨third, isThird, equal⟩
                exact ⟨third, isThird, (inside left (.member isLeft) same third).symm.trans equal⟩
              · intro found key left member
                rcases rearranged.exists_mem_right member with ⟨⟨_, right⟩, isRight, rfl, same⟩
                rcases found _ right isRight with ⟨third, isThird, equal⟩
                exact ⟨third, isThird, (inside left (.member member) same third).trans equal⟩
          | _ => rfl
      | _ => rfl

/-! ## Objects that are put together -/

theorem Members.insert_of_forall₂
    {lefts rights : Members}
    (members : List.Forall₂ SameMember lefts rights)
    {left right : Json}
    (same : left.Reordered right)
    (key : String) :
    List.Forall₂ SameMember (insert key left lefts) (insert key right rights) := by
  induction members with
  | nil => exact .cons ⟨rfl, same⟩ .nil
  | @cons first other later others firstSame laterSame ih =>
      rcases first with ⟨name, old⟩
      rcases other with ⟨otherName, otherOld⟩
      obtain rfl : name = otherName := firstSame.1
      rw [insert, insert]
      split_ifs with isKey
      · exact .cons ⟨rfl, same⟩ laterSame
      · exact .cons firstSame ih

/-- Members put together from reordered values under the same keys are the same so. -/
theorem Members.ofList_of_forall₂
    {lefts rights : List (String × Json)}
    (members : List.Forall₂ SameMember lefts rights) :
    List.Forall₂ SameMember (ofList lefts) (ofList rights) := by
  have grown :
      ∀ {older others : Members},
        List.Forall₂ SameMember older others →
          List.Forall₂ SameMember
            (lefts.foldl (fun members pair => insert pair.1 pair.2 members) older)
            (rights.foldl (fun members pair => insert pair.1 pair.2 members) others) := by
    induction members with
    | nil => exact id
    | @cons left right _ _ first _ ih =>
        intro older others olderSame
        rw [List.foldl_cons, List.foldl_cons, first.1]
        exact ih (insert_of_forall₂ olderSame first.2 right.1)
  exact grown .nil

end Json

end ContractReplay
