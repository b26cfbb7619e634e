import Mathlib.Data.List.Induction
import Mathlib.Data.List.Nodup
import Mathlib.Tactic.Common

/-!
# Searching lists

Where the keys of the items of a list are distinct, an item is found under its key.  A scan that
gives up at the first item without a property either finds such an item, with the property held
by all items before it, or finds that the property holds of all items.  A list without its
duplicates keeps every item where it occurs first.  A value that may be absent is a list of at
most one item.
-/

namespace ContractReplay

/-- Where keys are distinct, an item is the one that is found under its key. -/
theorem find?_key_of_nodup
    {α : Type}
    {key : α → String}
    {items : List α}
    (distinct : (items.map key).Nodup)
    {item : α}
    (member : item ∈ items) :
    items.find? (fun other => key other == key item) = some item := by
  cases found : items.find? (fun other => key other == key item) with
  | none =>
      have absent := List.find?_eq_none.mp found item member
      simp at absent
  | some other =>
      have sameKey : key other = key item := by
        simpa using List.find?_some found
      rw [List.inj_on_of_nodup_map distinct (List.mem_of_find?_eq_some found) member sameKey]

/-- An item with a value gives it, where the items before it give the same value or none. -/
theorem findSome?_of_agreeing
    {α β : Type}
    {value? : α → Option β}
    {before after : List α}
    {item : α}
    {value : β}
    (agreeing : ∀ other ∈ before, value? other = none ∨ value? other = some value)
    (has : value? item = some value) :
    (before ++ item :: after).findSome? value? = some value := by
  induction before with
  | nil => rw [List.nil_append, List.findSome?_cons, has]
  | cons first later ih =>
      rw [List.forall_mem_cons] at agreeing
      rw [List.cons_append, List.findSome?_cons]
      rcases agreeing.1 with without | same
      · rw [without]
        exact ih agreeing.2
      · rw [same]

/-- A search comes to the same end with functions that agree on the items. -/
theorem findSome?_congr
    {α β : Type}
    {value? other? : α → Option β}
    {items : List α}
    (same : ∀ item ∈ items, value? item = other? item) :
    items.findSome? value? = items.findSome? other? := by
  induction items with
  | nil => rfl
  | cons first later ih =>
      rw [List.forall_mem_cons] at same
      rw [List.findSome?_cons, List.findSome?_cons, same.1, ih same.2]

/-! ## The first item that fails -/

/-- The first item of a list of which a property does not hold. -/
inductive FirstFailing {α : Type} (property : α → Prop) : List α → α → Prop where
  | here
      {item : α}
      {later : List α}
      (fails : ¬ property item) :
      FirstFailing property (item :: later) item
  | later
      {earlier item : α}
      {later : List α}
      (holds : property earlier)
      (first : FirstFailing property later item) :
      FirstFailing property (earlier :: later) item

section

variable {α : Type} {property : α → Prop} {earlier item : α} {later : List α}

theorem FirstFailing.mem
    {items : List α}
    (first : FirstFailing property items item) :
    item ∈ items := by
  induction first with
  | here _ => exact List.mem_cons_self
  | later _ _ ih => exact List.mem_cons_of_mem _ ih

theorem FirstFailing.fails
    {items : List α}
    (first : FirstFailing property items item) :
    ¬ property item := by
  induction first with
  | here fails => exact fails
  | later _ _ ih => exact ih

/-- Properties that the same items have fail first at the same item. -/
theorem FirstFailing.congr
    {other : α → Prop}
    {items : List α}
    (first : FirstFailing property items item)
    (same : ∀ item ∈ items, property item ↔ other item) :
    FirstFailing other items item := by
  induction first with
  | here fails =>
      rw [List.forall_mem_cons] at same
      exact .here (mt same.1.mpr fails)
  | later holds _ ih =>
      rw [List.forall_mem_cons] at same
      exact .later (same.1.mp holds) (ih same.2)

theorem not_firstFailing_nil :
    ¬ FirstFailing property [] item :=
  nofun

theorem firstFailing_cons_of_holds
    (holds : property earlier) :
    FirstFailing property (earlier :: later) item ↔ FirstFailing property later item := by
  constructor
  · intro first
    cases first with
    | here fails => exact absurd holds fails
    | later _ first => exact first
  · exact .later holds

theorem firstFailing_cons_of_fails
    (fails : ¬ property earlier) :
    FirstFailing property (earlier :: later) item ↔ item = earlier := by
  constructor
  · intro first
    cases first with
    | here _ => rfl
    | later holds _ => exact absurd holds fails
  · rintro rfl
    exact .here fails

theorem exists_firstFailing_of_not_forall
    {items : List α}
    (notAll : ¬ ∀ item ∈ items, property item) :
    ∃ item, FirstFailing property items item := by
  induction items with
  | nil => exact absurd (by simp) notAll
  | cons earlier later ih =>
      by_cases holds : property earlier
      · rw [List.forall_mem_cons, and_iff_right holds] at notAll
        rcases ih notAll with ⟨item, first⟩
        exact ⟨item, .later holds first⟩
      · exact ⟨earlier, .here holds⟩

end

/--
Where a property of lists holds at first and not at last, there is a first item that it does not
hold with.
-/
theorem exists_first_failing_prefix
    {α : Type}
    (holds : List α → Prop)
    (nil : holds [])
    (items : List α)
    (fails : ¬ holds items) :
    ∃ before item after,
      items = before ++ item :: after ∧ holds before ∧ ¬ holds (before ++ [item]) := by
  induction items using List.reverseRecOn with
  | nil => exact absurd nil fails
  | append_singleton earlier last ih =>
      by_cases earlierHold : holds earlier
      · exact ⟨earlier, last, [], rfl, earlierHold, fails⟩
      · rcases ih earlierHold with ⟨before, item, after, rfl, beforeHold, itemFails⟩
        exact ⟨before, item, after ++ [last], by simp, beforeHold, itemFails⟩

/--
A scan that goes on past the items that are fine fails at the first one that is not, where it
counts the items from a position on.
-/
theorem scan_fails_iff
    {α : Type}
    (fine : α → Prop)
    (failsAt : Nat → α → Prop)
    (fails : Nat → List α → Prop)
    (nil : ∀ position, ¬ fails position [])
    (cons :
      ∀ position first later,
        fails position (first :: later) ↔
          failsAt position first ∨ (fine first ∧ fails (position + 1) later))
    (position : Nat)
    (items : List α) :
    fails position items ↔
      ∃ before item after,
        items = before ++ item :: after ∧
          (∀ earlier ∈ before, fine earlier) ∧ failsAt (position + before.length) item := by
  induction items generalizing position with
  | nil => exact iff_of_false (nil position) (by simp)
  | cons first later ih =>
      rw [cons, ih]
      constructor
      · rintro (here | ⟨firstFine, before, item, after, rfl, beforeFine, there⟩)
        · exact ⟨[], first, later, rfl, by simp, here⟩
        · have allFine := List.forall_mem_cons.mpr ⟨firstFine, beforeFine⟩
          refine ⟨first :: before, item, after, rfl, allFine, ?_⟩
          rwa [List.length_cons, Nat.add_comm before.length, ← Nat.add_assoc]
      · rintro ⟨before, item, after, split, beforeFine, there⟩
        cases before with
        | nil =>
            cases split
            exact .inl there
        | cons _ before =>
            cases split
            rw [List.length_cons, Nat.add_comm before.length, ← Nat.add_assoc] at there
            rw [List.forall_mem_cons] at beforeFine
            exact .inr ⟨beforeFine.1, before, item, after, rfl, beforeFine.2, there⟩

/-! ## The last item that has a property -/

theorem exists_last_of_mem
    {α : Type}
    {property : α → Prop}
    {items : List α}
    (found : ∃ item ∈ items, property item) :
    ∃ before item after,
      items = before ++ item :: after ∧ property item ∧ ∀ other ∈ after, ¬ property other := by
  induction items with
  | nil => simp at found
  | cons first later ih =>
      by_cases inLater : ∃ item ∈ later, property item
      · rcases ih inLater with ⟨before, item, after, split, holds, isLast⟩
        exact ⟨first :: before, item, after, by rw [split, List.cons_append], holds, isLast⟩
      · rcases found with ⟨item, member, holds⟩
        rcases List.mem_cons.mp member with rfl | member
        · exact ⟨[], item, later, rfl, holds, fun other isLater has =>
            inLater ⟨other, isLater, has⟩⟩
        · exact absurd ⟨item, member, holds⟩ inLater

/-! ## Lists without their duplicates -/

section

variable {α : Type} [BEq α]

/-- Induction on a list as its duplicates are erased: the items equal to the first one go first. -/
theorem eraseDups_induction
    {motive : List α → Prop}
    (nil : motive [])
    (cons :
      ∀ first later, motive (later.filter fun other => !other == first) → motive (first :: later)) :
    ∀ items, motive items
  | [] => nil
  | first :: later => by
      have shorter : (later.filter fun other => !other == first).length < later.length + 1 :=
        Nat.lt_succ_of_le (List.length_filter_le _ _)
      exact cons first later (eraseDups_induction nil cons _)
termination_by items => items.length

variable [LawfulBEq α]

theorem nodup_eraseDups
    (items : List α) :
    items.eraseDups.Nodup := by
  induction items using eraseDups_induction with
  | nil => simp
  | cons first later ih =>
      rw [List.eraseDups_cons, List.nodup_cons, List.mem_eraseDups]
      exact ⟨by simp, ih⟩

theorem eraseDups_of_nodup
    {items : List α}
    (distinct : items.Nodup) :
    items.eraseDups = items := by
  induction items with
  | nil => rfl
  | cons first later ih =>
      rcases List.nodup_cons.mp distinct with ⟨isNew, laterDistinct⟩
      have kept : (later.filter fun other => !other == first) = later := by
        rw [List.filter_eq_self]
        intro other member
        simpa using fun same : other = first => isNew (same ▸ member)
      rw [List.eraseDups_cons, kept, ih laterDistinct]

/-- The first item with a property is still there. -/
theorem find?_eraseDups
    (property : α → Bool)
    (items : List α) :
    items.eraseDups.find? property = items.find? property := by
  induction items using eraseDups_induction with
  | nil => simp
  | cons first later ih =>
      rw [List.eraseDups_cons, List.find?_cons, List.find?_cons]
      cases has : property first with
      | true => rfl
      | false =>
          show (later.filter fun other => !other == first).eraseDups.find? property = _
          rw [ih, List.find?_filter]
          congr 1
          funext other
          by_cases same : other = first
          · simp [same, has]
          · simp [same]

/-- The first item with a value still gives its value. -/
theorem findSome?_eraseDups
    {β : Type}
    (value? : α → Option β)
    (items : List α) :
    items.eraseDups.findSome? value? = items.findSome? value? := by
  induction items using eraseDups_induction with
  | nil => simp
  | cons first later ih =>
      rw [List.eraseDups_cons, List.findSome?_cons, List.findSome?_cons]
      cases has : value? first with
      | some value => rfl
      | none =>
          have skipped :
              (later.filter fun other => !other == first).findSome? value? =
                later.findSome? value? := by
            clear ih
            induction later with
            | nil => rfl
            | cons other rest ih =>
                by_cases same : other = first
                · simp [same, has, ih]
                · simp [same, List.findSome?_cons, ih]
          exact ih.trans skipped

/-- The duplicates of a first part may be erased before those of the whole. -/
theorem eraseDups_append_eraseDups
    (firsts others : List α) :
    (firsts.eraseDups ++ others).eraseDups = (firsts ++ others).eraseDups := by
  have sameOthers : others.removeAll firsts.eraseDups = others.removeAll firsts := by
    apply List.filter_congr
    intro other _
    simp
  rw [List.eraseDups_append, List.eraseDups_append, sameOthers,
    eraseDups_of_nodup (nodup_eraseDups firsts)]

end

/-! ## Values that may be absent -/

theorem forall₂_toList_map
    {α β γ : Type}
    {related : β → γ → Prop}
    {value? : Option α}
    {left : α → β}
    {right : α → γ}
    (each : ∀ value, value? = some value → related (left value) (right value)) :
    List.Forall₂ related (value?.map left).toList (value?.map right).toList := by
  cases value? with
  | none => exact .nil
  | some value => exact .cons (each value rfl) .nil

end ContractReplay
