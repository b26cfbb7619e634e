import ContractReplay.Json.Reader

/-!
# Passing over values

A value that nobody asked for is passed over without being kept.  Its text must
still be JSON text, but it may be nested to any depth, its numbers may lie
outside every range, and its strings may hold lone surrogates.  The brackets that
are open are kept on a stack, and every step takes at least one character.
-/

namespace ContractReplay.Json

/-- The kinds of brackets that hold values. -/
inductive Bracket where
  | list
  | object
deriving DecidableEq

/-- The error at the end of a text inside a bracket. -/
def Bracket.endInside : Bracket → SyntaxError
  | .list => .endInList
  | .object => .endInObject

/-- The error where neither a comma nor the closing bracket follows a value. -/
def Bracket.expectedCommaOrEnd : Bracket → SyntaxError
  | .list => .expectedListCommaOrEnd
  | .object => .expectedObjectCommaOrEnd

/-- The closing character of a bracket. -/
def Bracket.closing : Bracket → Char
  | .list => ']'
  | .object => '\x7d'

/-- The text after a scalar that is not kept. -/
def skipScalar : List Char → Except SyntaxError (List Char)
  | [] => .error .endInValue
  | char :: later =>
    if char = 'n' then readLetters ['u', 'l', 'l'] later
    else if char = 't' then readLetters ['r', 'u', 'e'] later
    else if char = 'f' then readLetters ['a', 'l', 's', 'e'] later
    else if char = '"' then (readString false later).map Prod.snd
    else if char = '-' then (lexNumeral .invalidNumber true later).map Prod.snd
    else if char.isDigit then (lexNumeral .invalidNumber false (char :: later)).map Prod.snd
    else .error .expectedValue

theorem shorter_of_map_snd
    {α : Type}
    {result : Except SyntaxError (α × List Char)}
    {text rest : List Char}
    (shorter : ∀ {value}, result = .ok (value, rest) → rest.length < text.length)
    (mapped : result.map Prod.snd = .ok rest) :
    rest.length < text.length := by
  cases result with
  | error failure => cases mapped
  | ok pair =>
    obtain ⟨value, last⟩ := pair
    cases mapped
    exact shorter rfl

theorem skipScalar_shorter
    {text rest : List Char}
    (skipped : skipScalar text = .ok rest) :
    rest.length < text.length := by
  unfold skipScalar at skipped
  split at skipped
  · cases skipped
  · rename_i char later
    simp only [List.length_cons]
    split at skipped
    · have bound := readLetters_length_le skipped
      omega
    split at skipped
    · have bound := readLetters_length_le skipped
      omega
    split at skipped
    · have bound := readLetters_length_le skipped
      omega
    split at skipped
    · have shorter := shorter_of_map_snd readString_shorter skipped
      omega
    split at skipped
    · have shorter := shorter_of_map_snd lexNumeral_shorter skipped
      omega
    split at skipped
    · have shorter := shorter_of_map_snd lexNumeral_shorter skipped
      simp only [List.length_cons] at shorter
      omega
    · cases skipped

/-- Where in the text of a value one stands. -/
inductive Position where
  | value
  | key
  | afterValue

/--
The text after the value at a position; the open brackets are given from the
innermost out, and the value ends with the outermost of them.
-/
def skipFrom
    (position : Position)
    (enclosing : List Bracket)
    (text : List Char) : Except SyntaxError (List Char) :=
  match position with
  | .value =>
    match _ : skipBlank text with
    | '[' :: inside =>
      match _ : skipBlank inside with
      | [] => .error .endInList
      | ']' :: rest => skipFrom .afterValue enclosing rest
      | start => skipFrom .value (.list :: enclosing) start
    | '\x7b' :: inside =>
      match _ : skipBlank inside with
      | [] => .error .endInObject
      | '\x7d' :: rest => skipFrom .afterValue enclosing rest
      | start => skipFrom .key (.object :: enclosing) start
    | start =>
      match _ : skipScalar start with
      | .ok rest => skipFrom .afterValue enclosing rest
      | .error failure => .error failure
  | .key =>
    match _ : skipBlank text with
    | [] => .error .endInObject
    | '"' :: inside =>
      match _ : readString false inside with
      | .error failure => .error failure
      | .ok (_, afterKey) =>
        match _ : readColon afterKey with
        | .ok rest => skipFrom .value enclosing rest
        | .error failure => .error failure
    | _ => .error .keyNotString
  | .afterValue =>
    match enclosing with
    | [] => .ok text
    | bracket :: outer =>
      match _ : skipBlank text with
      | [] => .error bracket.endInside
      | char :: rest =>
        if char = ',' then
          match bracket with
          | .list => skipFrom .value (bracket :: outer) rest
          | .object => skipFrom .key (bracket :: outer) rest
        else if char = bracket.closing then skipFrom .afterValue outer rest
        else .error bracket.expectedCommaOrEnd
termination_by text.length
decreasing_by
  · have outer := skipBlank_cons_shorter ‹skipBlank text = _›
    have inner := skipBlank_cons_shorter ‹skipBlank inside = _›
    omega
  · have outer := skipBlank_cons_shorter ‹skipBlank text = _›
    have inner := skipBlank_length_le inside
    rw [‹skipBlank inside = _›] at inner
    omega
  · have outer := skipBlank_cons_shorter ‹skipBlank text = _›
    have inner := skipBlank_cons_shorter ‹skipBlank inside = _›
    omega
  · have outer := skipBlank_cons_shorter ‹skipBlank text = _›
    have inner := skipBlank_length_le inside
    rw [‹skipBlank inside = _›] at inner
    omega
  · have bound := skipBlank_length_le text
    rw [‹skipBlank text = _›] at bound
    have shorter := skipScalar_shorter ‹skipScalar start = _›
    omega
  · have outer := skipBlank_cons_shorter ‹skipBlank text = _›
    have inner := readString_shorter ‹readString false inside = _›
    have last := readColon_shorter ‹readColon afterKey = _›
    omega
  all_goals exact skipBlank_cons_shorter ‹skipBlank text = _›

/-- A value or a key takes at least one character, and what follows a value at least none. -/
theorem skipFrom_shorter
    {position : Position}
    {enclosing : List Bracket}
    {text rest : List Char}
    (skipped : skipFrom position enclosing text = .ok rest) :
    rest.length ≤ text.length ∧ (position ≠ .afterValue → rest.length < text.length) := by
  fun_induction skipFrom position enclosing text with
  | case2 _ _ _ outer _ inner ih =>
    have first := skipBlank_cons_shorter outer
    have second := skipBlank_cons_shorter inner
    have bound := (ih skipped).1
    exact ⟨by omega, fun _ => by omega⟩
  | case3 _ _ inside outer _ _ ih =>
    have first := skipBlank_cons_shorter outer
    have second := skipBlank_length_le inside
    have bound := (ih skipped).1
    exact ⟨by omega, fun _ => by omega⟩
  | case5 _ _ _ outer _ inner ih =>
    have first := skipBlank_cons_shorter outer
    have second := skipBlank_cons_shorter inner
    have bound := (ih skipped).1
    exact ⟨by omega, fun _ => by omega⟩
  | case6 _ _ inside outer _ _ ih =>
    have first := skipBlank_cons_shorter outer
    have second := skipBlank_length_le inside
    have bound := (ih skipped).1
    exact ⟨by omega, fun _ => by omega⟩
  | case7 _ text _ _ _ scalar ih =>
    have first := skipBlank_length_le text
    have second := skipScalar_shorter scalar
    have bound := (ih skipped).1
    exact ⟨by omega, fun _ => by omega⟩
  | case11 _ _ _ outer _ _ key _ colon ih =>
    have first := skipBlank_cons_shorter outer
    have second := readString_shorter key
    have third := readColon_shorter colon
    have bound := (ih skipped).1
    exact ⟨by omega, fun _ => by omega⟩
  | case14 =>
    cases skipped
    exact ⟨Nat.le_refl _, fun away => absurd rfl away⟩
  | case16 _ _ _ comma ih | case17 _ _ _ comma ih =>
    have first := skipBlank_cons_shorter comma
    have bound := (ih skipped).1
    exact ⟨by omega, fun _ => by omega⟩
  | case18 _ _ _ _ closing _ ih =>
    have first := skipBlank_cons_shorter closing
    have bound := (ih skipped).1
    exact ⟨by omega, fun _ => by omega⟩
  | _ => cases skipped

/-- The reader that passes over a value. -/
def skipper : Reader Unit where
  run := fun text =>
    match skipFrom .value [] text with
    | .ok rest => .ok ((), rest)
    | .error failure => .error (.malformed failure)
  progress := by
    intro text rest value read
    split at read
    · rename_i skipped
      cases read
      exact (skipFrom_shorter skipped).2 nofun
    · cases read

end ContractReplay.Json
