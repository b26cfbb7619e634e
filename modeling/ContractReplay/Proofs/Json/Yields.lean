import ContractReplay.Json.Decoder
import ContractReplay.Proofs.Json.Reading
import Mathlib.Data.List.TakeWhile

/-!
# What readers yield

A property of the values of a reader carries over to the arrays, objects and records that are made
of them.  Whatever a reader of values yields is no deeper than its levels allow, and the keys of
its objects are distinct, because a key that comes again takes the place of the one before.  A
value that may be absent is never present as `null`.
-/

namespace ContractReplay.Json

variable {α β σ : Type} {property : α → Prop}

/-- That everything a reader reads has a property. -/
structure Yields (reader : Reader α) (property : α → Prop) : Prop where
  holds :
    ∀ {text rest : List Char} {value : α}, reader.run text = .ok (value, rest) → property value

namespace Yields

theorem map
    {reader : Reader α}
    {change : α → β}
    {changed : β → Prop}
    (yields : Yields reader fun value => changed (change value)) :
    Yields (reader.map change) changed where
  holds {text rest value} read := by
    simp only [Reader.map] at read
    split at read
    · rename_i inner
      cases read
      exact yields.holds inner
    · cases read

theorem afterColon
    {reader : Reader α}
    (yields : Yields reader property) :
    Yields reader.afterColon property where
  holds {text rest value} read := by
    simp only [Reader.afterColon] at read
    split at read
    · exact yields.holds read
    · cases read

theorem fail
    (failure : ReadError) :
    Yields (Reader.fail failure) property where
  holds := nofun

/-- What is read from a whole text is what the reader yields. -/
theorem readAll
    {reader : Reader α}
    (yields : Yields reader property)
    {text : String}
    {value : α}
    (read : reader.readAll text = .ok value) :
    property value := by
  rw [Reader.readAll] at read
  split at read
  · cases read
  · rename_i valueRead
    split at read
    · cases read
      exact yields.holds valueRead
    · cases read

end Yields

/-! ## Arrays and objects -/

theorem forall_of_readItems
    {item : Reader α}
    (yields : Yields item property)
    {first : Bool}
    {text rest : List Char}
    {values : List α}
    (read : readItems item first text = .ok (values, rest)) :
    ∀ value ∈ values, property value := by
  fun_induction readItems item first text generalizing values with
  | case2 =>
      cases read
      simp
  | case5 _ _ _ _ _ _ itemRead _ _ laterRead ih =>
      cases read
      rw [List.forall_mem_cons]
      exact ⟨yields.holds itemRead, ih laterRead⟩
  | _ => cases read

theorem forall_of_readArray
    {inner : Option (Reader α)}
    (yields : ∀ item, inner = some item → Yields item property)
    {text rest : List Char}
    {values : List α}
    (read : readArray inner text = .ok (values, rest)) :
    ∀ value ∈ values, property value := by
  cases inner with
  | none => cases read
  | some item => exact forall_of_readItems (yields item rfl) read

theorem yields_listReader
    {inner : Option (Reader α)}
    (yields : ∀ item, inner = some item → Yields item property) :
    Yields (listReader inner) fun values => ∀ value ∈ values, property value where
  holds {text rest values} read := by
    simp only [listReader] at read
    split at read
    · exact forall_of_readArray yields read
    · cases read

/-- What every member of an object preserves holds after all of them. -/
theorem holds_of_readMembers
    {member : σ → String → Reader σ}
    {invariant : σ → Prop}
    (preserved : ∀ state key, invariant state → Yields (member state key) invariant)
    {first : Bool}
    {state final : σ}
    (holds : invariant state)
    {text rest : List Char}
    (read : readMembers member first state text = .ok (final, rest)) :
    invariant final := by
  fun_induction readMembers member first state text with
  | case2 =>
      cases read
      exact holds
  | case4 _ _ _ _ _ _ _ _ memberRead ih =>
      exact ih ((preserved _ _ holds).holds memberRead) read
  | _ => cases read

theorem tidy_of_readObject
    {inner : Option (Reader Json)}
    {property : Json → Prop}
    (yields : ∀ item, inner = some item → Yields item property)
    {text rest : List Char}
    {members : Members}
    (read : readObject inner text = .ok (members, rest)) :
    members.Tidy property := by
  cases inner with
  | none => cases read
  | some item =>
      have preserved :
          ∀ state key, Members.Tidy property state →
            Yields (memberReader item state key) (Members.Tidy property) := by
        intro state key tidy
        have inserted : Yields item fun value => (Members.insert key value state).Tidy property :=
          ⟨fun read => tidy.insert key ((yields item rfl).holds read)⟩
        exact inserted.map.afterColon
      exact holds_of_readMembers preserved .nil read

/-! ## Values -/

theorem regular_of_readLiteral
    {value found : Json}
    {levels : Nat}
    (regular : Regular levels value)
    {letters text rest : List Char}
    (read : readLiteral value letters text = .ok (found, rest)) :
    Regular levels found := by
  rw [readLiteral] at read
  split at read
  · cases read
    exact regular
  · cases read

theorem regular_of_readScalar
    (levels : Nat)
    {value : Json}
    {text rest : List Char}
    (read : readScalar text = .ok (value, rest)) :
    Regular levels value := by
  cases text with
  | nil => cases read
  | cons first later =>
      rw [readScalar] at read
      split_ifs at read
      · exact regular_of_readLiteral ⟨Nat.zero_le _, .null⟩ read
      · exact regular_of_readLiteral ⟨Nat.zero_le _, .bool true⟩ read
      · exact regular_of_readLiteral ⟨Nat.zero_le _, .bool false⟩ read
      · split at read
        · cases read
          exact ⟨Nat.zero_le _, .string _⟩
        · cases read
      · split at read
        · cases read
          exact ⟨Nat.zero_le _, .number _⟩
        · cases read
      · split at read
        · cases read
          exact ⟨Nat.zero_le _, .number _⟩
        · cases read

theorem yields_valueReader
    {inner : Option (Reader Json)}
    {property : Json → Prop}
    (scalar :
      ∀ {text rest value}, readScalar text = .ok (value, rest) → property value)
    (array :
      ∀ {text rest items}, readArray inner text = .ok (items, rest) → property (.array items))
    (object :
      ∀ {text rest members}, readObject inner text = .ok (members, rest) →
        property (.object members)) :
    Yields (valueReader inner) property where
  holds {text rest value} read := by
    simp only [valueReader] at read
    split at read
    · split at read
      · rename_i itemsRead
        cases read
        exact array itemsRead
      · cases read
    · split at read
      · rename_i membersRead
        cases read
        exact object membersRead
      · cases read
    · split at read
      · rename_i scalarRead
        cases read
        exact scalar scalarRead
      · cases read

/-- A reader of values with a number of levels yields values that are regular within these. -/
theorem yields_reader
    (levels : Nat) :
    Yields (reader levels) (Regular levels) := by
  induction levels with
  | zero => exact yields_valueReader (regular_of_readScalar 0) nofun nofun
  | succ levels ih =>
      have inner : ∀ item, some (reader levels) = some item → Yields item (Regular levels) := by
        rintro item ⟨⟩
        exact ih
      exact
        yields_valueReader (regular_of_readScalar (levels + 1))
          (fun read => regular_array_iff.mpr ⟨levels, rfl, forall_of_readArray inner read⟩)
          (fun read => regular_object_iff.mpr ⟨levels, rfl, tidy_of_readObject inner read⟩)

/-- A reader of whole objects yields the members of a regular object. -/
theorem yields_membersReader
    (levels : Nat) :
    Yields (membersReader (innerReader levels)) fun members =>
      Regular levels (.object members) where
  holds {text rest members} read := by
    simp only [membersReader] at read
    split at read
    · cases levels with
      | zero => cases read
      | succ levels =>
          have inner : ∀ item, some (reader levels) = some item → Yields item (Regular levels) := by
            rintro item ⟨⟩
            exact yields_reader levels
          exact regular_object_iff.mpr ⟨levels, rfl, tidy_of_readObject inner read⟩
    · cases read

/-! ## Values that may be absent -/

theorem skipBlank_skipBlank
    (text : List Char) :
    skipBlank (skipBlank text) = skipBlank text :=
  List.dropWhile_eq_self_iff.mpr (List.dropWhile_get_zero_not _ text)

theorem exists_of_readScalar_null
    {text rest : List Char}
    (read : readScalar text = .ok (.null, rest)) :
    ∃ later, text = 'n' :: later := by
  cases text with
  | nil => cases read
  | cons first later =>
      by_cases isNull : first = 'n'
      · exact ⟨later, by rw [isNull]⟩
      · rw [readScalar, if_neg isNull] at read
        split_ifs at read
        all_goals
          try rw [readLiteral] at read
          split at read <;> cases read

/-- What is read as `null` starts as `null` does. -/
theorem exists_of_run_null
    {levels : Nat}
    {text rest : List Char}
    (read : (reader levels).run text = .ok (.null, rest)) :
    ∃ later, skipBlank text = 'n' :: later := by
  rw [reader_eq_valueReader] at read
  simp only [valueReader] at read
  split at read
  · split at read <;> cases read
  · split at read <;> cases read
  · split at read
    · rename_i scalarRead
      cases read
      exact exists_of_readScalar_null scalarRead
    · cases read

/-- A value that may be absent is never present as `null`. -/
theorem yields_optionalReader
    (levels : Nat) :
    Yields (optionalReader (reader levels)) fun value? =>
      ∀ value, value? = some value → value ≠ .null ∧ Regular levels value where
  holds {text rest value?} read := by
    simp only [optionalReader] at read
    split at read
    · split at read
      · cases read
        rintro value ⟨⟩
      · cases read
    · rename_i notNull
      split at read
      · rename_i value _ valueRead
        cases read
        rintro _ ⟨⟩
        refine ⟨?_, (yields_reader levels).holds valueRead⟩
        rintro rfl
        rcases exists_of_run_null valueRead with ⟨later, start⟩
        rw [skipBlank_skipBlank] at start
        exact notNull later start
      · cases read

/-! ## Records -/

namespace Shape

variable {shape : Shape α}

theorem holds_of_readInOrder
    {index : Nat}
    {value record : α}
    {text rest : List Char}
    {fields : List (Field α)}
    (keeps :
      ∀ field ∈ fields, Yields field.decoder.reader fun change =>
        ∀ value, property value → property (change value))
    (holds : property value)
    (read : shape.readInOrder index value text fields = .ok (record, rest)) :
    property record := by
  fun_induction readInOrder shape index value text fields with
  | case1 =>
      cases read
      exact holds
  | case4 _ _ _ _ _ _ _ _ complete =>
      cases read
      rw [withoutRest] at complete
      split at complete
      · cases complete
      · cases complete
        exact holds
  | case7 _ value _ field later _ _ change _ fieldRead ih =>
      rw [List.forall_mem_cons] at keeps
      exact ih keeps.2 (keeps.1.holds fieldRead value holds) read
  | _ => cases read

/-- What holds of a record and is kept by every field holds of what is read as a record. -/
theorem yields_record
    (name : String)
    (blank : property shape.blank)
    (keeps :
      ∀ field ∈ shape.fields, Yields field.decoder.reader fun change =>
        ∀ value, property value → property (change value)) :
    Yields (Shape.reader name (some shape)) property where
  holds {text rest record} read := by
    have preserved :
        ∀ (progress : Progress α) (key : String), property progress.value →
          Yields (shape.memberReader progress key) fun next => property next.value := by
      intro progress key holds
      rw [memberReader]
      split
      · exact .afterColon (.map ⟨fun _ => holds⟩)
      · rename_i field isField
        split_ifs
        · exact .fail _
        · have kept := keeps field (List.mem_of_find?_eq_some isField)
          exact .afterColon (.map ⟨fun read => kept.holds read progress.value holds⟩)
    simp only [Shape.reader] at read
    split at read
    · exact holds_of_readInOrder keeps blank read
    · split at read
      · cases read
      · rename_i progress _ membersRead
        have holds := holds_of_readMembers preserved blank membersRead
        split at read
        · rename_i finished
          cases read
          rw [finish] at finished
          split at finished
          · cases finished
          · cases finished
            exact holds
        · cases read
    · cases read

end Shape

end ContractReplay.Json
