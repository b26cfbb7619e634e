import ContractReplay.Proofs.Difference.Alignment
import ContractReplay.Proofs.Difference.Enumeration

/-!
# Differences and the verdict

The verdict on two values compares their whole wire forms, where a record value is keyed by
wire names; the walk that explains the verdict goes side by side through the fields of record
values.  Where the record values that it meets name their fields alike, it finds nothing exactly
when the wire forms are equal; it finds something in unequal ones already where the fields that
are set in both go by one wire name.  Where record values name their slots apart, each difference
that it finds stands at the end of a path of fields where the two sides have unequal wire forms.
-/

namespace ContractReplay

/-! ## No difference without unequal wire forms -/

theorem wholeDifference?_eq_none_iff
    {path : Path}
    {expected actual : Option Typed} :
    wholeDifference? path expected actual = none ↔
      equalSides (expected.map Typed.toWire) (actual.map Typed.toWire) = true := by
  rw [wholeDifference?]
  split_ifs with equal
  · exact iff_of_true rfl equal
  · exact iff_of_false nofun equal

namespace Difference

/-- Two record values have no differences when none of their slots has and none was added. -/
theorem list_records_eq_nil_iff
    {path : Path}
    {expected actual : Record} :
    list path (some (.record actual)) (some (.record expected)) = [] ↔
      (∀ slot ∈ expected.slots,
          list (path.add (.field slot.fieldName)) (actual.get? slot.fieldName) slot.value = []) ∧
        addedSlots expected actual = [] := by
  have shown :
      ∀ slot ∈ addedSlots expected actual,
        wholeDifference? (path.add (.field slot.fieldName)) none slot.value ≠ none := by
    intro slot added
    rw [Ne, wholeDifference?_eq_none_iff, Option.map_none, equalSides_none_left_iff,
      Option.map_eq_none_iff]
    exact (RecordValueOf.mem_addedSlots_iff.mp added).2.1
  rw [list_records, List.append_eq_nil_iff, List.flatMap_eq_nil_iff, List.filterMap_eq_nil_iff]
  apply and_congr_right
  intro noDifference
  constructor
  · intro hidden
    apply List.eq_nil_iff_forall_not_mem.mpr
    intro slot added
    exact shown slot added (hidden slot added)
  · intro notAdded slot added
    rw [notAdded] at added
    cases added

/-- Values that are not both record values have no differences when their sides are equal. -/
theorem list_whole_eq_nil_iff
    {path : Path}
    {expected actual : Option Typed}
    (notBoth :
      ∀ left right, expected = some (.record left) → actual = some (.record right) → False) :
    list path actual expected = [] ↔
      equalSides (expected.map Typed.toWire) (actual.map Typed.toWire) = true := by
  rw [list_whole notBoth, Option.toList_eq_nil_iff, wholeDifference?_eq_none_iff]

/--
Where record values name their slots apart and share the wire names of what is set in both,
values without differences are equal.
-/
theorem equal_of_list_eq_nil
    {expected actual : Typed}
    (apart : NamedApart expected actual)
    (shares : ∀ left right, Meets expected actual left right → left.SharesWires right)
    {path : Path}
    (noDifference : list path (some actual) (some expected) = []) :
    expected.toWire.equal actual.toWire = true := by
  induction expected using Typed.slot_induction generalizing actual path with
  | step expected ih =>
      by_cases both : ∃ left right, expected = .record left ∧ actual = .record right
      · rcases both with ⟨left, right, rfl, rfl⟩
        have ⟨leftNames, rightNames⟩ := apart left right (.here left right)
        rcases list_records_eq_nil_iff.mp noDifference with ⟨noneInside, notAdded⟩
        refine
          RecordValueOf.equal_toWire_of_sharesWires leftNames rightNames
            (shares left right (.here left right)) ?_ notAdded
        intro slot declared
        have noneHere := noneInside slot declared
        cases set : slot.value with
        | none =>
            rw [set] at noneHere
            refine (list_whole_eq_nil_iff ?_).mp noneHere
            exact nofun
        | some inner =>
            cases found : right.get? slot.fieldName with
            | none =>
                rw [set, found] at noneHere
                refine (list_whole_eq_nil_iff ?_).mp noneHere
                exact nofun
            | some other =>
                rw [set, found] at noneHere
                have sharesInside :
                    ∀ innerLeft innerRight, Meets inner other innerLeft innerRight →
                      innerLeft.SharesWires innerRight :=
                  fun innerLeft innerRight met =>
                    shares innerLeft innerRight (.inside declared set found met)
                exact
                  ih left rfl slot declared inner set (apart.inside declared set found)
                    sharesInside noneHere
      · refine (list_whole_eq_nil_iff ?_).mp noDifference
        intro left right isLeft isRight
        exact both ⟨left, right, Option.some.inj isLeft, Option.some.inj isRight⟩

/-- Where record values name their fields alike, values without differences are equal. -/
theorem list_eq_nil_iff
    {expected actual : Typed}
    (aligned : Aligned expected actual)
    (path : Path) :
    list path (some actual) (some expected) = [] ↔
      expected.toWire.equal actual.toWire = true := by
  -- The induction goes into the expected value, as the walk does: the actual one only follows.
  induction expected using Typed.slot_induction generalizing actual path with
  | step expected ih =>
      by_cases both : ∃ left right, expected = .record left ∧ actual = .record right
      · rcases both with ⟨left, right, rfl, rfl⟩
        have comparable := aligned left right (.here left right)
        rw [list_records_eq_nil_iff, comparable.equal_toWire_iff]
        refine and_congr_left' (forall₂_congr fun slot declared => ?_)
        cases set : slot.value with
        | none => exact list_whole_eq_nil_iff nofun
        | some inner =>
            cases found : right.get? slot.fieldName with
            | none => exact list_whole_eq_nil_iff nofun
            | some other =>
                exact ih left rfl slot declared inner set (aligned.inside declared set found) _
      · apply list_whole_eq_nil_iff
        intro left right isLeft isRight
        exact both ⟨left, right, Option.some.inj isLeft, Option.some.inj isRight⟩

end Difference

/-! ## Every difference has its place -/

namespace Path

/-- The place that one comes to from a place through some fields. -/
def through (path : Path) (fields : List String) : Path :=
  ⟨path.root, path.steps ++ fields.map .field⟩

@[simp]
theorem through_nil
    (path : Path) :
    path.through [] = path := by
  rw [through, List.map_nil, List.append_nil]

theorem through_cons
    (path : Path)
    (fieldName : String)
    (later : List String) :
    path.through (fieldName :: later) = (path.add (.field fieldName)).through later := by
  rw [through, through, add, List.map_cons, List.append_cons]

theorem text_through_ofRoot
    (root : String)
    (fields : List String) :
    ((ofRoot root).through fields).text = ".".intercalate (root :: fields) := by
  induction fields generalizing root with
  | nil => rw [through_nil, String.intercalate_singleton, text, ofRoot, List.foldl_nil]
  | cons fieldName later ih =>
      have nextRoot :
          ((ofRoot root).through (fieldName :: later)).text =
            ((ofRoot (root ++ ("." ++ fieldName))).through later).text := rfl
      rw [nextRoot, ih, String.intercalate_cons_cons, ← String.append_assoc,
        String.intercalate_cons_append]

end Path

/--
That fields lead from two sides to two others.  At every step both sides are record values of
which at least one declares the field; a side without it is unset from there.
-/
inductive Along :
    List String → Option Typed → Option Typed → Option Typed → Option Typed → Prop where
  | here (expected actual : Option Typed) :
      Along [] expected actual expected actual
  | step
      {left right : Record}
      {fieldName : String}
      {later : List String}
      {expected actual : Option Typed}
      (declared : left.declares fieldName = true ∨ right.declares fieldName = true)
      (rest : Along later (left.get? fieldName) (right.get? fieldName) expected actual) :
      Along (fieldName :: later) (some (.record left)) (some (.record right)) expected actual

namespace Along

variable {left right : Record}

/-- Through a field that the expected value declares. -/
theorem declared
    (leftNames : left.NamesApart)
    {slot : Slot}
    (member : slot ∈ left.slots)
    {later : List String}
    {expected actual : Option Typed}
    (rest : Along later slot.value (right.get? slot.fieldName) expected actual) :
    Along (slot.fieldName :: later) (some (.record left)) (some (.record right))
      expected actual := by
  refine .step (.inl (RecordValueOf.declares_of_mem member)) ?_
  rwa [RecordValueOf.get?_of_mem leftNames.fieldNames member]

/-- To a field that the actual value alone declares. -/
theorem added
    (rightNames : right.NamesApart)
    {slot : Slot}
    (isAdded : slot ∈ addedSlots left right) :
    Along [slot.fieldName] (some (.record left)) (some (.record right)) none slot.value := by
  rcases RecordValueOf.mem_addedSlots_iff.mp isAdded with ⟨member, -, undeclared⟩
  refine .step (.inr (RecordValueOf.declares_of_mem member)) ?_
  rw [RecordValueOf.get?_of_not_declared (RecordValueOf.declares_eq_false_iff.mp undeclared),
    RecordValueOf.get?_of_mem rightNames.fieldNames member]
  exact .here _ _

end Along

namespace Difference

/-- That a difference is of two sides at a place, where they have unequal wire forms. -/
structure Shows
    (difference : Difference)
    (path : Path)
    (left right : Option Typed) : Prop where
  path : difference.path = path
  expected : difference.expected = left.map Typed.toWire
  actual : difference.actual = right.map Typed.toWire
  unequal : equalSides (left.map Typed.toWire) (right.map Typed.toWire) = false

theorem shows_of_wholeDifference?
    {difference : Difference}
    {path : Path}
    {left right : Option Typed}
    (found : wholeDifference? path left right = some difference) :
    difference.Shows path left right := by
  rw [wholeDifference?] at found
  split_ifs at found with equal
  cases found
  exact ⟨rfl, rfl, rfl, Bool.eq_false_iff.mpr equal⟩

theorem shows_of_mem_list_whole
    {difference : Difference}
    {path : Path}
    {expected actual : Option Typed}
    (notBoth :
      ∀ left right, expected = some (.record left) → actual = some (.record right) → False)
    (found : difference ∈ list path actual expected) :
    difference.Shows path expected actual := by
  rw [list_whole notBoth, Option.mem_toList] at found
  exact shows_of_wholeDifference? found

/-- Fields lead to every difference from the place where the comparison starts. -/
theorem exists_along_of_mem_list
    {expected actual : Typed}
    (apart : NamedApart expected actual)
    (path : Path)
    {difference : Difference}
    (found : difference ∈ list path (some actual) (some expected)) :
    ∃ fields left right,
      Along fields (some expected) (some actual) left right ∧
        difference.Shows (path.through fields) left right := by
  induction expected using Typed.slot_induction generalizing actual path with
  | step expected ih =>
      by_cases both : ∃ left right, expected = .record left ∧ actual = .record right
      · rcases both with ⟨left, right, rfl, rfl⟩
        have ⟨leftNames, rightNames⟩ := apart left right (.here left right)
        rw [list_records] at found
        rcases List.mem_append.mp found with inSlots | inAdded
        · rcases List.mem_flatMap.mp inSlots with ⟨slot, declared, inSlot⟩
          -- The walk goes on only where both sides are set; elsewhere it has come to its end.
          by_cases bothSet :
              ∃ inner other, slot.value = some inner ∧ right.get? slot.fieldName = some other
          · rcases bothSet with ⟨inner, other, set, held⟩
            rw [set, held] at inSlot
            rcases
              ih left rfl slot declared inner set (apart.inside declared set held) _ inSlot
              with ⟨later, expectedEnd, actualEnd, along, shows⟩
            rw [← Path.through_cons] at shows
            rw [← set, ← held] at along
            exact ⟨_, expectedEnd, actualEnd, along.declared leftNames declared, shows⟩
          · refine ⟨_, _, _, (Along.here _ _).declared leftNames declared, ?_⟩
            rw [Path.through_cons, Path.through_nil]
            apply shows_of_mem_list_whole _ inSlot
            exact fun _ _ set held => bothSet ⟨_, _, set, held⟩
        · rcases List.mem_filterMap.mp inAdded with ⟨slot, isAdded, whole⟩
          refine ⟨_, _, _, Along.added rightNames isAdded, ?_⟩
          rw [Path.through_cons, Path.through_nil]
          exact shows_of_wholeDifference? whole
      · refine ⟨[], some expected, some actual, .here _ _, ?_⟩
        rw [Path.through_nil]
        apply shows_of_mem_list_whole _ found
        intro left right isLeft isRight
        exact both ⟨left, right, Option.some.inj isLeft, Option.some.inj isRight⟩

/--
That a difference is told of at the end of a path of fields, and tells of the two sides that
have unequal wire forms there.
-/
structure StandsAt
    (difference : Difference)
    (root : String)
    (fields : List String)
    (left right : Option Typed) : Prop where
  path : difference.path.text = ".".intercalate (root :: fields)
  expected : sideText difference.expected = (left.map Typed.repr).getD "<unset>"
  actual : sideText difference.actual = (right.map Typed.repr).getD "<unset>"
  unequal : equalSides (left.map Typed.toWire) (right.map Typed.toWire) = false

theorem sideText_toWire
    (side : Option Typed) :
    sideText (side.map Typed.toWire) = (side.map Typed.repr).getD "<unset>" := by
  cases side <;> rfl

theorem Shows.standsAt
    {difference : Difference}
    {root : String}
    {fields : List String}
    {left right : Option Typed}
    (shows : difference.Shows ((Path.ofRoot root).through fields) left right) :
    difference.StandsAt root fields left right where
  path := by rw [shows.path, Path.text_through_ofRoot]
  expected := by rw [shows.expected, sideText_toWire]
  actual := by rw [shows.actual, sideText_toWire]
  unequal := shows.unequal

end Difference

/--
The walk decides what the verdict decides, and explains it.  Where all record values that are
met side by side name their fields alike, it finds nothing exactly when the two values have equal
wire forms.  What it finds stands at the end of a path of declared fields, with the two sides
that have unequal wire forms there; and to take some of it is to take the first of it.
-/
theorem Walk.start_explains_verdict
    {expected actual : Typed}
    (aligned : Aligned expected actual)
    (root : String) :
    ((start root expected actual).toList = [] ↔
        expected.toWire.equal actual.toWire = true) ∧
      (∀ difference ∈ (start root expected actual).toList,
        ∃ fields left right,
          Along fields (some expected) (some actual) left right ∧
            difference.StandsAt root fields left right) ∧
      ∀ most,
        (start root expected actual).take most =
          (start root expected actual).toList.take most := by
  refine ⟨?_, ?_, fun most => take_eq_take_toList most _⟩
  · rw [toList_start]
    exact Difference.list_eq_nil_iff aligned _
  · intro difference found
    rw [toList_start] at found
    rcases Difference.exists_along_of_mem_list aligned.namedApart _ found with
      ⟨fields, left, right, along, shows⟩
    exact ⟨fields, left, right, along, shows.standsAt⟩

namespace Demo

/-- A parcel that holds a widget. -/
def parcel (name : String) : Record :=
  ⟨"Parcel",
    [⟨"note", "note", none⟩,
      ⟨"content", "contents", some (.record ⟨"Widget", [⟨"name", "name", some (.string name)⟩]⟩)⟩]⟩

/-- A letter that holds a widget, with other slots than a parcel. -/
def letter (name : String) : Record :=
  ⟨"Letter",
    [⟨"content", "contents",
      some (.record ⟨"Widget", [⟨"id", "id", none⟩, ⟨"name", "name", some (.string name)⟩]⟩)⟩]⟩

theorem parcel_aligned_letter
    (packed sent : String) :
    Aligned (.record (parcel packed)) (.record (letter sent)) := by
  refine .records (by constructor <;> simp [parcel, letter]) ?_
  intro slot declared expected actual set found
  simp only [parcel, List.mem_cons, List.not_mem_nil, or_false] at declared
  rcases declared with rfl | rfl
  · cases set
  · cases set
    cases found
    refine .records (by constructor <;> simp) ?_
    intro inner isInner value other innerSet _
    obtain rfl := List.mem_singleton.mp isInner
    cases innerSet
    exact .of_not_record nofun

end Demo

/-- The same widget makes no difference, and another one does. -/
theorem Walk.start_explains_verdict_letter :
    (start "value" (.record (Demo.parcel "cap")) (.record (Demo.letter "cap"))).toList = [] ∧
      (start "value" (.record (Demo.parcel "cap")) (.record (Demo.letter "hat"))).toList ≠ [] := by
  constructor
  · rw [(Walk.start_explains_verdict (Demo.parcel_aligned_letter "cap" "cap") "value").1]
    decide
  · rw [Ne, (Walk.start_explains_verdict (Demo.parcel_aligned_letter "cap" "hat") "value").1]
    decide

end ContractReplay
