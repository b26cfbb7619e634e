import ContractReplay.Proofs.Json.Reading

/-!
# Layouts of JSON text

The compact and the indented text of a value are two layouts of the same tokens: they differ in
the white space before an item or a member, behind a colon and before a closing bracket.  In any
such layout a value is read again, provided that its numbers are whole and that it is regular
within the levels of the reader.
-/

namespace ContractReplay.Json

open Decimal

/-! ## How the text of a value starts -/

/-- The kind of the values whose text starts with a character. -/
def kindFrom? (first : Char) : Option Kind :=
  if first = 'n' then some .null
  else if first = 't' ∨ first = 'f' then some .boolean
  else if first = '"' then some .string
  else if first = '-' ∨ first.isDigit then some .number
  else if first = '[' then some .array
  else if first = '\x7b' then some .object
  else none

/-- A character with which the text of a value starts is not white space. -/
theorem notBlank_of_kindFrom?
    {first : Char}
    {kind : Kind}
    (isKind : kindFrom? first = some kind) :
    isBlankChar first = false := by
  by_contra isBlank
  simp only [isBlankChar, Bool.not_eq_false, Bool.or_eq_true, beq_iff_eq] at isBlank
  rcases isBlank with ((rfl | rfl) | rfl) | rfl <;> cases isKind

theorem ne_closing_of_kindFrom?
    {first : Char}
    {kind : Kind}
    (isKind : kindFrom? first = some kind) :
    first ≠ ']' := by
  rintro rfl
  cases isKind

theorem kind_of_depth_eq_zero
    {value : Json}
    (isScalar : value.depth = 0) :
    value.kind ≠ .array ∧ value.kind ≠ .object := by
  cases value with
  | array items => simp [depth] at isScalar
  | object members => simp [depth] at isScalar
  | _ => simp [kind]

theorem exists_head_spellInt
    (value : Int) :
    ∃ first later, spellInt value = first :: later ∧ kindFrom? first = some .number := by
  rw [spellInt]
  split_ifs with isNegative
  · exact ⟨'-', _, rfl, by decide⟩
  · cases spelled : Nat.toDigits 10 value.natAbs with
    | nil => exact absurd spelled Nat.toDigits_ne_nil
    | cons first later =>
        have isDigit := toDigits_isDigit value.natAbs first (by simp [spelled])
        have different : ∀ {other : Char}, other.isDigit = false → first ≠ other := by
          rintro other notDigit rfl
          rw [notDigit] at isDigit
          cases isDigit
        refine ⟨first, later, rfl, ?_⟩
        rw [kindFrom?, if_neg (different (by decide)),
          if_neg (not_or.mpr ⟨different (by decide), different (by decide)⟩),
          if_neg (different (by decide)), if_pos (.inr isDigit)]

/-! ## Layouts -/

/-- Values all of whose numbers, at every depth, are whole. -/
inductive AllWhole : Json → Prop where
  | null : AllWhole .null
  | bool (value : Bool) : AllWhole (.bool value)
  | number (whole : Whole) : AllWhole (.number (.whole whole))
  | string (value : String) : AllWhole (.string value)
  | array {items : List Json}
      (inside : ∀ item ∈ items, AllWhole item) :
      AllWhole (.array items)
  | object {members : Members}
      (inside : ∀ key item, (key, item) ∈ members → AllWhole item) :
      AllWhole (.object members)

/-- A way to write values at levels of nesting: scalars as they are, white space between tokens. -/
structure Layout where
  text : Nat → Json → List Char
  gap : Nat → List Char
  colon : List Char
  isGap : ∀ level, IsGap (gap level)
  isColon : IsGap colon
  text_scalar : ∀ level value, value.depth = 0 → text level value = write value
  text_array :
    ∀ level items, ∃ closing, IsGap closing ∧
      text level (.array items) =
        '[' :: (separated (gap (level + 1)) true (items.map (text (level + 1))) ++
          (closing ++ [']']))
  text_object :
    ∀ level members, ∃ closing, IsGap closing ∧
      text level (.object members) =
        '\x7b' ::
          (separated (gap (level + 1)) true
            ((pieces colon (text (level + 1)) members).map memberText) ++ (closing ++ ['\x7d']))

theorem writeItems_eq_separated
    (items : List Json) :
    writeItems items = separated [] false (items.map write) ++ [']'] := by
  induction items with
  | nil => rfl
  | cons item later ih => simp [writeItems, separated, ih]

theorem writeMembers_eq_separated
    (members : Members) :
    writeMembers members =
      separated [] false ((pieces [] write members).map memberText) ++ ['\x7d'] := by
  induction members with
  | nil => rfl
  | cons member later ih => simp [writeMembers, separated, pieces, memberText, afterKey, ih]

theorem writeIndentedItems_eq_separated
    (level : Nat)
    (items : List Json) :
    writeIndentedItems level items =
      separated (newLine (level + 1)) false (items.map (writeIndented (level + 1))) ++
        (newLine level ++ [']']) := by
  induction items with
  | nil => rfl
  | cons item later ih => simp [writeIndentedItems, separated, ih]

theorem writeIndentedMembers_eq_separated
    (level : Nat)
    (members : Members) :
    writeIndentedMembers level members =
      separated (newLine (level + 1)) false
        ((pieces [' '] (writeIndented (level + 1)) members).map memberText) ++
        (newLine level ++ ['\x7d']) := by
  induction members with
  | nil => rfl
  | cons member later ih =>
      simp [writeIndentedMembers, separated, pieces, memberText, afterKey, ih]

namespace Layout

/-- The layout without any white space. -/
def compact : Layout where
  text _ := write
  gap _ := []
  colon := []
  isGap _ := isGap_nil
  isColon := isGap_nil
  text_scalar _ _ _ := rfl
  text_array _ items := by
    refine ⟨[], isGap_nil, ?_⟩
    cases items with
    | nil => simp [write, separated]
    | cons item later => simp [write, separated, writeItems_eq_separated]
  text_object _ members := by
    refine ⟨[], isGap_nil, ?_⟩
    cases members with
    | nil => simp [write, separated, pieces]
    | cons member later =>
        simp [write, separated, pieces, memberText, afterKey, writeMembers_eq_separated]

/-- The layout with every item and member on a line of its own. -/
def indented : Layout where
  text := writeIndented
  gap := newLine
  colon := [' ']
  isGap := isGap_newLine
  isColon := by simp [IsGap, isBlankChar]
  text_scalar level value isScalar := by
    cases value with
    | array items => simp [depth] at isScalar
    | object members => simp [depth] at isScalar
    | _ => simp [writeIndented]
  text_array level items := by
    cases items with
    | nil => exact ⟨[], isGap_nil, by simp [writeIndented, separated]⟩
    | cons item later =>
        exact
          ⟨newLine level, isGap_newLine level,
            by simp [writeIndented, separated, writeIndentedItems_eq_separated]⟩
  text_object level members := by
    cases members with
    | nil => exact ⟨[], isGap_nil, by simp [writeIndented, separated, pieces]⟩
    | cons member later =>
        exact
          ⟨newLine level, isGap_newLine level,
            by simp [writeIndented, separated, pieces, memberText, afterKey,
              writeIndentedMembers_eq_separated]⟩

variable (layout : Layout) {value : Json} {levels : Nat}

/-- The text of a value starts as its kind says. -/
theorem exists_head
    (whole : value.AllWhole)
    (level : Nat) :
    ∃ first later,
      layout.text level value = first :: later ∧ kindFrom? first = some value.kind := by
  cases whole with
  | null => exact ⟨'n', _, layout.text_scalar level .null rfl, rfl⟩
  | bool value =>
      rw [layout.text_scalar level (.bool value) rfl]
      cases value with
      | true => exact ⟨'t', _, rfl, rfl⟩
      | false => exact ⟨'f', _, rfl, rfl⟩
  | number whole =>
      rw [layout.text_scalar level (.number (.whole whole)) rfl]
      exact exists_head_spellInt whole.value
  | string value =>
      rw [layout.text_scalar level (.string value) rfl]
      exact ⟨'"', _, rfl, rfl⟩
  | @array items _ =>
      rcases layout.text_array level items with ⟨closing, -, isText⟩
      exact ⟨'[', _, isText, rfl⟩
  | @object members _ =>
      rcases layout.text_object level members with ⟨closing, -, isText⟩
      exact ⟨'\x7b', _, isText, rfl⟩

theorem readScalar_text
    (whole : value.AllWhole)
    (isScalar : value.depth = 0)
    (level : Nat) :
    ∀ {rest}, EndsNumeral rest →
      readScalar (layout.text level value ++ rest) = .ok (value, rest) := by
  intro rest ends
  rw [layout.text_scalar level value isScalar]
  cases whole with
  | null => rfl
  | bool value => cases value <;> rfl
  | number whole => exact readScalar_spellInt whole ends
  | string value => exact readScalar_writeString value rest
  | array _ => simp [depth] at isScalar
  | object _ => simp [depth] at isScalar

theorem reads_scalar
    (whole : value.AllWhole)
    (isScalar : value.depth = 0)
    (level : Nat) :
    Reads (Json.reader levels) (layout.text level value) value := by
  have read : ∀ {rest}, EndsNumeral rest → _ := layout.readScalar_text whole isScalar level
  rcases layout.exists_head whole level with ⟨first, later, isText, isKind⟩
  rw [isText] at read
  rw [isText, reader_eq_valueReader]
  refine Reads.scalar (notBlank_of_kindFrom? isKind) ⟨ne_closing_of_kindFrom? isKind, ?_, ?_⟩ read
  · rintro rfl
    exact (kind_of_depth_eq_zero isScalar).1 (Option.some.inj isKind).symm
  · rintro rfl
    exact (kind_of_depth_eq_zero isScalar).2 (Option.some.inj isKind).symm

theorem reads_string
    (expected text : String)
    (level : Nat) :
    Reads (stringReader expected) (layout.text level (.string text)) text := by
  rw [layout.text_scalar level (.string text) rfl]
  exact Json.reads_string expected text

theorem reads_array
    {α : Type}
    {item : Reader α}
    {items : List Json}
    {values : List α}
    {level : Nat}
    (each :
      List.Forall₂ (fun item' value => Reads item (layout.text (level + 1) item') value)
        items values) :
    Reads (listReader (some item)) (layout.text level (.array items)) values := by
  rcases layout.text_array level items with ⟨closing, isClosing, isText⟩
  rw [isText]
  exact reads_list (List.forall₂_map_left_iff.mpr each) (layout.isGap _) isClosing

theorem reads_object
    {item : Reader Json}
    {members : Members}
    {level : Nat}
    (distinct : members.keys.Nodup)
    (each :
      ∀ key value, (key, value) ∈ members → Reads item (layout.text (level + 1) value) value) :
    Reads (membersReader (some item)) (layout.text level (.object members)) members := by
  rcases layout.text_object level members with ⟨closing, isClosing, isText⟩
  have gathers := gathers_members layout.isColon distinct each
  rw [isText]
  exact reads_members gathers (layout.isGap (level + 1)) isClosing

/-- A value in a layout is read again. -/
theorem reads
    (whole : value.AllWhole)
    (regular : Regular levels value)
    (level : Nat) :
    Reads (Json.reader levels) (layout.text level value) value := by
  induction whole generalizing levels level with
  | null => exact layout.reads_scalar .null rfl level
  | bool value => exact layout.reads_scalar (.bool value) rfl level
  | number whole => exact layout.reads_scalar (.number whole) rfl level
  | string value => exact layout.reads_scalar (.string value) rfl level
  | @array items _ ih =>
      rcases regular_array_iff.mp regular with ⟨inner, rfl, each⟩
      have reads : Reads (listReader (some (Json.reader inner))) _ items :=
        layout.reads_array (List.forall₂_same.mpr fun item member =>
          ih item member (each item member) (level + 1))
      rcases layout.text_array level items with ⟨closing, -, isText⟩
      rw [isText] at reads ⊢
      exact reads.array
  | @object members _ ih =>
      rcases regular_object_iff.mp regular with ⟨inner, rfl, tidy⟩
      have reads : Reads (membersReader (some (Json.reader inner))) _ members :=
        layout.reads_object tidy.distinct fun key value member =>
          ih key value member (tidy.each key value member) (level + 1)
      rcases layout.text_object level members with ⟨closing, -, isText⟩
      rw [isText] at reads ⊢
      exact reads.object

/-- The members of an object in a layout are read again. -/
theorem reads_members
    {members : Members}
    (whole : ∀ key value, (key, value) ∈ members → value.AllWhole)
    (regular : Regular levels (.object members))
    (level : Nat) :
    Reads (membersReader (innerReader levels)) (layout.text level (.object members)) members := by
  rcases regular_object_iff.mp regular with ⟨inner, rfl, tidy⟩
  exact layout.reads_object tidy.distinct fun key value member =>
    layout.reads (whole key value member) (tidy.each key value member) (level + 1)

/-- A value that is not `null` is read again where it might be absent. -/
theorem reads_optional
    (notNull : value ≠ .null)
    (whole : value.AllWhole)
    (regular : Regular levels value)
    (level : Nat) :
    Reads (optionalReader (Json.reader levels)) (layout.text level value) (some value) := by
  refine (layout.reads whole regular level).optional ?_
  rintro first later isText rfl
  rcases layout.exists_head whole level with ⟨head, tail, isHead, isKind⟩
  rw [isText] at isHead
  cases isHead
  have isNull : value.kind = .null := (Option.some.inj isKind).symm
  cases value with
  | null => exact notNull rfl
  | _ => cases isNull

/-- A text that holds a value in a layout holds this value. -/
theorem parse_text
    (whole : value.AllWhole)
    (regular : Regular maxLevels value) :
    parse (String.ofList (layout.text 0 value)) = .ok value :=
  (layout.reads whole regular 0).readAll

end Layout

end ContractReplay.Json
