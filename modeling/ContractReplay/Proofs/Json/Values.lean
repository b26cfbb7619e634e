import ContractReplay.Json.Basic
import Mathlib.Tactic.Common

/-!
# The structure of JSON values

The keys of an object that was read from a text are distinct: every member is found
under its key, putting the members into an empty object one by one gives them again,
and a value all of whose objects are like this is equal to itself.  The parts of a
value are less deep than the value, which is what recursion into it goes by.  A value
is regular within some levels when it is no deeper and its objects are like this.
-/

namespace ContractReplay.Json

theorem isNull_iff
    {value : Json} :
    value.isNull = true ↔ value = .null := by
  cases value <;> simp [isNull]

/-! ## Members -/

namespace Members

/-- The keys of some members, in order. -/
def keys (members : Members) : List String :=
  members.map Prod.fst

theorem mem_keys_of_mem
    {members : Members}
    {key : String}
    {value : Json}
    (member : (key, value) ∈ members) :
    key ∈ members.keys :=
  List.mem_map.mpr ⟨(key, value), member, rfl⟩

theorem hasKey_iff
    {members : Members}
    {key : String} :
    members.hasKey key = true ↔ key ∈ members.keys := by
  simp [hasKey, keys]

theorem mem_of_get?
    {members : Members}
    {key : String}
    {value : Json}
    (found : get? key members = some value) :
    (key, value) ∈ members := by
  induction members with
  | nil => cases found
  | cons first later ih =>
      rcases first with ⟨name, old⟩
      rw [get?] at found
      split_ifs at found with same
      · cases found
        rw [same]
        exact List.mem_cons_self
      · exact List.mem_cons_of_mem _ (ih found)

theorem get?_eq_none_iff
    {members : Members}
    {key : String} :
    get? key members = none ↔ key ∉ members.keys := by
  induction members with
  | nil => simp [get?, keys]
  | cons first later ih =>
      rcases first with ⟨name, old⟩
      rw [get?, keys, List.map_cons, List.mem_cons, not_or]
      split_ifs with same
      · simp [same]
      · rw [ih]
        constructor
        · exact fun absent => ⟨fun equal => same equal.symm, absent⟩
        · exact fun absent => absent.2

/-- Where keys are distinct, every member is found under its key. -/
theorem get?_of_mem
    {members : Members}
    (distinct : members.keys.Nodup)
    {key : String}
    {value : Json}
    (member : (key, value) ∈ members) :
    get? key members = some value := by
  induction members with
  | nil => cases member
  | cons first later ih =>
      rcases first with ⟨name, old⟩
      rw [keys, List.map_cons, List.nodup_cons] at distinct
      rw [get?]
      rcases List.mem_cons.mp member with isFirst | member
      · cases isFirst
        rw [if_pos rfl]
      · have different : name ≠ key := by
          rintro rfl
          exact distinct.1 (mem_keys_of_mem member)
        rw [if_neg different]
        exact ih distinct.2 member

theorem insert_of_not_mem
    {members : Members}
    {key : String}
    (absent : key ∉ members.keys)
    (value : Json) :
    insert key value members = members ++ [(key, value)] := by
  induction members with
  | nil => rfl
  | cons first later ih =>
      rcases first with ⟨name, old⟩
      rw [keys, List.map_cons, List.mem_cons, not_or] at absent
      rw [insert, if_neg (fun same => absent.1 same.symm), ih absent.2]
      rfl

/-- What is put under a key is found there. -/
theorem get?_insert_self
    (key : String)
    (value : Json)
    (members : Members) :
    get? key (insert key value members) = some value := by
  induction members with
  | nil => simp [insert, get?]
  | cons first later ih =>
      rcases first with ⟨name, old⟩
      rw [insert]
      split_ifs with same
      · rw [get?, if_pos same]
      · rw [get?, if_neg same, ih]

/-- Under every other key, the same is found as before. -/
theorem get?_insert_of_ne
    {key other : String}
    (different : other ≠ key)
    (value : Json)
    (members : Members) :
    get? other (insert key value members) = get? other members := by
  induction members with
  | nil => simp [insert, get?, different.symm]
  | cons first later ih =>
      rcases first with ⟨name, old⟩
      rw [insert]
      split_ifs with same
      · rw [get?, get?, same, if_neg different.symm, if_neg different.symm]
      · rw [get?, get?, ih]

private theorem foldl_insert
    (pairs : List (String × Json))
    (members : Members)
    (distinct : (members ++ pairs).keys.Nodup) :
    pairs.foldl (fun members pair => insert pair.1 pair.2 members) members =
      members ++ pairs := by
  induction pairs generalizing members with
  | nil => simp
  | cons pair later ih =>
      have absent : pair.1 ∉ members.keys := by
        rw [keys, List.map_append, List.map_cons, List.nodup_append] at distinct
        intro present
        exact distinct.2.2 pair.1 present pair.1 List.mem_cons_self rfl
      rw [List.foldl_cons, insert_of_not_mem absent, ih]
      · simp
      · simpa using distinct

/-- Members with distinct keys are the members that result from putting them in one by one. -/
theorem ofList_of_nodup
    {pairs : List (String × Json)}
    (distinct : keys pairs |>.Nodup) :
    ofList pairs = pairs := by
  rw [ofList, foldl_insert pairs [] (by simpa using distinct)]
  rfl

theorem keys_insert_of_mem
    {members : Members}
    {key : String}
    (present : key ∈ members.keys)
    (value : Json) :
    (insert key value members).keys = members.keys := by
  induction members with
  | nil => cases present
  | cons first later ih =>
      rcases first with ⟨name, old⟩
      rw [insert]
      split_ifs with same
      · rfl
      · have inLater := (List.mem_cons.mp present).resolve_left (Ne.symm same)
        exact congrArg (name :: ·) (ih inLater)

theorem nodup_keys_insert
    {members : Members}
    (distinct : members.keys.Nodup)
    (key : String)
    (value : Json) :
    (insert key value members).keys.Nodup := by
  by_cases present : key ∈ members.keys
  · rwa [keys_insert_of_mem present]
  · rw [insert_of_not_mem present, keys, List.map_append, List.nodup_append]
    refine ⟨distinct, by simp, ?_⟩
    rintro name isKey other isOther rfl
    obtain rfl := List.mem_singleton.mp isOther
    exact present isKey

/-- Members that are put in one by one have distinct keys. -/
theorem nodup_keys_ofList
    (pairs : List (String × Json)) :
    (ofList pairs).keys.Nodup := by
  have kept :
      ∀ members : Members, members.keys.Nodup →
        List.Nodup
          (keys (pairs.foldl (fun members pair => insert pair.1 pair.2 members) members)) := by
    induction pairs with
    | nil => exact fun _ distinct => distinct
    | cons pair later ih => exact fun _ distinct => ih _ (nodup_keys_insert distinct _ _)
  exact kept [] List.nodup_nil

theorem mem_of_mem_insert
    {members : Members}
    {key name : String}
    {value other : Json}
    (member : (name, other) ∈ insert key value members) :
    (name, other) ∈ members ∨ (name = key ∧ other = value) := by
  induction members with
  | nil =>
      rw [insert, List.mem_singleton] at member
      cases member
      exact Or.inr ⟨rfl, rfl⟩
  | cons first later ih =>
      rcases first with ⟨old, oldValue⟩
      rw [insert] at member
      split_ifs at member with same
      · rcases List.mem_cons.mp member with isFirst | member
        · cases isFirst
          exact Or.inr ⟨same, rfl⟩
        · exact Or.inl (List.mem_cons_of_mem _ member)
      · rcases List.mem_cons.mp member with isFirst | member
        · cases isFirst
          exact Or.inl List.mem_cons_self
        · rcases ih member with older | newer
          · exact Or.inl (List.mem_cons_of_mem _ older)
          · exact Or.inr newer

/-- Putting pairs into an empty object brings in nothing else. -/
theorem mem_of_mem_ofList
    {pairs : List (String × Json)}
    {key : String}
    {value : Json}
    (member : (key, value) ∈ ofList pairs) :
    (key, value) ∈ pairs := by
  have grown :
      ∀ (later : List (String × Json)) (members : Members),
        (key, value) ∈ later.foldl (fun members pair => insert pair.1 pair.2 members) members →
          (key, value) ∈ members ∨ (key, value) ∈ later := by
    intro later
    induction later with
    | nil =>
        intro members inside
        exact Or.inl inside
    | cons pair later ih =>
        intro members inside
        rcases ih _ inside with earlier | inLater
        · rcases mem_of_mem_insert earlier with older | ⟨rfl, rfl⟩
          · exact Or.inl older
          · exact Or.inr List.mem_cons_self
        · exact Or.inr (List.mem_cons_of_mem _ inLater)
  rcases grown pairs [] member with nothing | inPairs
  · cases nothing
  · exact inPairs

end Members

/-! ## Equality of a value with itself -/

/-- Values whose objects, at every depth, have distinct keys. -/
inductive KeysDistinct : Json → Prop where
  | null : KeysDistinct .null
  | bool (value : Bool) : KeysDistinct (.bool value)
  | number (value : Number) : KeysDistinct (.number value)
  | string (value : String) : KeysDistinct (.string value)
  | array {items : List Json}
      (inside : ∀ item ∈ items, KeysDistinct item) :
      KeysDistinct (.array items)
  | object {members : Members}
      (distinct : members.keys.Nodup)
      (inside : ∀ key item, (key, item) ∈ members → KeysDistinct item) :
      KeysDistinct (.object members)

theorem Number.equal_self
    (number : Number) :
    number.equal number = true := by
  cases number with
  | whole value => simp [Number.equal]
  | float value => simp [Number.equal, Binary64.Finite.equal]

theorem equalItems_self
    (items : List Json)
    (selfEqual : ∀ item ∈ items, item.equal item = true) :
    equalItems items items = true := by
  induction items with
  | nil => rfl
  | cons first later ih =>
      rw [equalItems, selfEqual first List.mem_cons_self, Bool.true_and]
      exact ih fun item member => selfEqual item (List.mem_cons_of_mem _ member)

theorem equalMembers_of_forall
    {lefts rights : Members}
    (found :
      ∀ key left, (key, left) ∈ lefts →
        ∃ right, Members.get? key rights = some right ∧ left.equal right = true) :
    equalMembers lefts rights = true := by
  induction lefts with
  | nil => rw [equalMembers]
  | cons first later ih =>
      rcases first with ⟨key, left⟩
      rcases found key left List.mem_cons_self with ⟨right, isRight, equal⟩
      rw [equalMembers, isRight]
      simp only [equal, Bool.true_and]
      exact ih fun name other member => found name other (List.mem_cons_of_mem _ member)

/-- A value whose objects have distinct keys is equal to itself. -/
theorem equal_self
    {value : Json}
    (distinct : value.KeysDistinct) :
    value.equal value = true := by
  induction distinct with
  | null => rfl
  | bool value => simp [equal]
  | number value =>
      rw [equal]
      exact value.equal_self
  | string value => simp [equal]
  | array _ ih =>
      rw [equal]
      exact equalItems_self _ ih
  | object distinct _ ih =>
      rw [equal, beq_self_eq_true, Bool.true_and]
      apply equalMembers_of_forall
      intro key item member
      exact ⟨item, Members.get?_of_mem distinct member, ih key item member⟩

/-! ## Depth -/

theorem depthItems_le_iff
    {items : List Json}
    {bound : Nat} :
    depth.depthItems items ≤ bound ↔ ∀ item ∈ items, item.depth ≤ bound := by
  induction items with
  | nil => simp [depth.depthItems]
  | cons first later ih =>
      rw [depth.depthItems, Nat.max_le, ih, List.forall_mem_cons]

theorem depthMembers_le_iff
    {members : Members}
    {bound : Nat} :
    depth.depthMembers members ≤ bound ↔
      ∀ key item, (key, item) ∈ members → item.depth ≤ bound := by
  induction members with
  | nil => simp [depth.depthMembers]
  | cons first later ih =>
      rcases first with ⟨name, value⟩
      rw [depth.depthMembers, Nat.max_le, ih]
      constructor
      · rintro ⟨firstFits, laterFit⟩ key item member
        rcases List.mem_cons.mp member with isFirst | member
        · cases isFirst
          exact firstFits
        · exact laterFit key item member
      · intro fit
        exact
          ⟨fit name value List.mem_cons_self,
            fun key item member => fit key item (List.mem_cons_of_mem _ member)⟩

/-- An array is no deeper than one that has an item as deep for each of its items. -/
theorem depth_array_le
    {shallow deep : List Json}
    (fits : ∀ item ∈ shallow, ∃ other ∈ deep, item.depth ≤ other.depth) :
    depth (.array shallow) ≤ depth (.array deep) := by
  rw [depth, depth, Nat.add_le_add_iff_left, depthItems_le_iff]
  intro item member
  rcases fits item member with ⟨other, isOther, deeper⟩
  exact Nat.le_trans deeper (depthItems_le_iff.mp (Nat.le_refl _) other isOther)

/-- An object is no deeper than one that has a value as deep for each of its values. -/
theorem depth_object_le
    {shallow deep : Members}
    (fits :
      ∀ key item, (key, item) ∈ shallow →
        ∃ name other, (name, other) ∈ deep ∧ item.depth ≤ other.depth) :
    depth (.object shallow) ≤ depth (.object deep) := by
  rw [depth, depth, Nat.add_le_add_iff_left, depthMembers_le_iff]
  intro key item member
  rcases fits key item member with ⟨name, other, isOther, deeper⟩
  exact Nat.le_trans deeper (depthMembers_le_iff.mp (Nat.le_refl _) name other isOther)

/-- The items of an array and the values of the members of an object. -/
inductive PartOf : Json → Json → Prop where
  | item
      {items : List Json}
      {item : Json}
      (member : item ∈ items) :
      PartOf item (.array items)
  | member
      {members : Members}
      {key : String}
      {item : Json}
      (member : (key, item) ∈ members) :
      PartOf item (.object members)

theorem PartOf.depth_lt
    {part whole : Json}
    (isPart : PartOf part whole) :
    part.depth < whole.depth := by
  cases isPart with
  | @item items item member =>
      have fits := depthItems_le_iff.mp (Nat.le_refl (depth.depthItems items)) part member
      rw [depth]
      omega
  | @member members key item member =>
      have fits :=
        depthMembers_le_iff.mp (Nat.le_refl (depth.depthMembers members)) key part member
      rw [depth]
      omega

/-- Induction on a value, given what is to be shown for its parts. -/
@[elab_as_elim]
theorem part_induction
    {motive : Json → Prop}
    (step : ∀ whole, (∀ part, PartOf part whole → motive part) → motive whole)
    (value : Json) :
    motive value := by
  induction level : value.depth using Nat.strongRecOn generalizing value with
  | _ level ih =>
      apply step
      intro part isPart
      apply ih part.depth _ part rfl
      rw [← level]
      exact isPart.depth_lt

/-! ## Regular values -/

/-- Members with distinct keys, all of whose values have a property. -/
structure Members.Tidy (property : Json → Prop) (members : Members) : Prop where
  distinct : members.keys.Nodup
  each : ∀ key value, (key, value) ∈ members → property value

theorem Members.Tidy.nil
    {property : Json → Prop} :
    Members.Tidy property [] where
  distinct := List.nodup_nil
  each := by simp

theorem Members.Tidy.insert
    {property : Json → Prop}
    {members : Members}
    (tidy : members.Tidy property)
    (key : String)
    {value : Json}
    (holds : property value) :
    (Members.insert key value members).Tidy property where
  distinct := nodup_keys_insert tidy.distinct key value
  each name other member := by
    rcases mem_of_mem_insert member with older | ⟨rfl, rfl⟩
    · exact tidy.each name other older
    · exact holds

/-- Values of a depth within a number of levels, whose objects have distinct keys. -/
structure Regular (levels : Nat) (value : Json) : Prop where
  fits : value.depth ≤ levels
  distinct : value.KeysDistinct

theorem regular_array_iff
    {levels : Nat}
    {items : List Json} :
    Regular levels (.array items) ↔
      ∃ inner, levels = inner + 1 ∧ ∀ item ∈ items, Regular inner item := by
  constructor
  · intro regular
    have fits := regular.fits
    rw [depth] at fits
    have itemsFit := depthItems_le_iff.mp (by omega : depth.depthItems items ≤ levels - 1)
    cases regular.distinct with
    | array inside =>
        exact ⟨levels - 1, by omega, fun item member => ⟨itemsFit item member, inside item member⟩⟩
  · rintro ⟨inner, rfl, each⟩
    have itemsFit := depthItems_le_iff.mpr fun item member => (each item member).fits
    refine ⟨?_, .array fun item member => (each item member).distinct⟩
    rw [depth]
    omega

theorem regular_object_iff
    {levels : Nat}
    {members : Members} :
    Regular levels (.object members) ↔
      ∃ inner, levels = inner + 1 ∧ members.Tidy (Regular inner) := by
  constructor
  · intro regular
    have fits := regular.fits
    rw [depth] at fits
    have valuesFit := depthMembers_le_iff.mp (by omega : depth.depthMembers members ≤ levels - 1)
    cases regular.distinct with
    | object distinct inside =>
        refine ⟨levels - 1, by omega, distinct, fun key value member => ?_⟩
        exact ⟨valuesFit key value member, inside key value member⟩
  · rintro ⟨inner, rfl, tidy⟩
    have valuesFit := depthMembers_le_iff.mpr fun key value member =>
      (tidy.each key value member).fits
    refine
      ⟨?_, .object tidy.distinct fun key value member => (tidy.each key value member).distinct⟩
    rw [depth]
    omega

end ContractReplay.Json
