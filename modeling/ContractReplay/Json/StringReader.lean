import ContractReplay.Json.ReadError

/-!
# Strings of a JSON text

A string is read from the character after its opening quote.  An escape of the
form `\u` names a 16-bit unit; where strings are kept, the units of a surrogate
pair must stand together, and where they are only passed over, any unit will do.
-/

namespace ContractReplay.Json

/-- The value of a hexadecimal digit. -/
def hexDigit? (char : Char) : Option Nat :=
  if char.isDigit then some (char.toNat - '0'.toNat)
  else if 'a' ≤ char ∧ char ≤ 'f' then some (char.toNat - 'a'.toNat + 10)
  else if 'A' ≤ char ∧ char ≤ 'F' then some (char.toNat - 'A'.toNat + 10)
  else none

/-- The number that four hexadecimal digits spell. -/
def hexUnit? (first second third fourth : Char) : Option Nat := do
  let a ← hexDigit? first
  let b ← hexDigit? second
  let c ← hexDigit? third
  let d ← hexDigit? fourth
  return ((a * 16 + b) * 16 + c) * 16 + d

/-- The number of bytes of a list of characters in UTF-8. -/
def byteCount (text : List Char) : Nat :=
  text.foldl (fun count char => count + char.utf8Size) 0

/-- The unit of a `\u` escape; a text of fewer than four bytes ends in the middle of it. -/
def readUnit : List Char → Except SyntaxError (Nat × List Char)
  | first :: second :: third :: fourth :: rest =>
    match hexUnit? first second third fourth with
    | some unit => .ok (unit, rest)
    | none => .error .invalidEscape
  | short => if byteCount short < 4 then .error .endInString else .error .invalidEscape

/-- The character of an escape of one letter. -/
def letterEscape? (letter : Char) : Option Char :=
  if letter = '"' then some '"'
  else if letter = '\\' then some '\\'
  else if letter = '/' then some '/'
  else if letter = 'b' then some '\x08'
  else if letter = 'f' then some '\x0c'
  else if letter = 'n' then some '\n'
  else if letter = 'r' then some '\r'
  else if letter = 't' then some '\t'
  else none

/-- Whether a unit is the first half of a surrogate pair. -/
def isLeadingSurrogate (unit : Nat) : Bool :=
  0xD800 ≤ unit && unit ≤ 0xDBFF

/-- Whether a unit is the second half of a surrogate pair. -/
def isTrailingSurrogate (unit : Nat) : Bool :=
  0xDC00 ≤ unit && unit ≤ 0xDFFF

/-- The character of a surrogate pair. -/
def surrogatePair (leading trailing : Nat) : Char :=
  Char.ofNat ((leading - 0xD800) * 1024 + (trailing - 0xDC00) + 0x10000)

/-- The character of a surrogate pair whose first half was just read. -/
def readTrailing (leading : Nat) : List Char → Except SyntaxError (Char × List Char)
  | [] => .error .endInString
  | ['\\'] => .error .endInString
  | '\\' :: 'u' :: later =>
    match readUnit later with
    | .error failure => .error failure
    | .ok (trailing, rest) =>
      if isTrailingSurrogate trailing then .ok (surrogatePair leading trailing, rest)
      else .error .loneSurrogate
  | _ => .error .brokenSurrogatePair

/-- The character of a `\u` escape; `paired` asks for whole surrogate pairs. -/
def readUnicodeEscape
    (paired : Bool)
    (text : List Char) : Except SyntaxError (Char × List Char) :=
  match readUnit text with
  | .error failure => .error failure
  | .ok (unit, rest) =>
    if paired && isTrailingSurrogate unit then .error .loneSurrogate
    else if paired && isLeadingSurrogate unit then readTrailing unit rest
    else .ok (Char.ofNat unit, rest)

/-- The character of an escape, from the character after the backslash. -/
def readEscape (paired : Bool) : List Char → Except SyntaxError (Char × List Char)
  | [] => .error .endInString
  | letter :: later =>
    match letterEscape? letter with
    | some char => .ok (char, later)
    | none =>
      if letter = 'u' then readUnicodeEscape paired later else .error .invalidEscape

theorem readUnit_shorter
    {text rest : List Char}
    {unit : Nat}
    (read : readUnit text = .ok (unit, rest)) :
    rest.length < text.length := by
  unfold readUnit at read
  split at read
  · split at read
    · cases read
      simp only [List.length_cons]
      omega
    · cases read
  · split at read <;> cases read

theorem readTrailing_shorter
    {leading : Nat}
    {text rest : List Char}
    {char : Char}
    (read : readTrailing leading text = .ok (char, rest)) :
    rest.length < text.length := by
  unfold readTrailing at read
  split at read
  · cases read
  · cases read
  · split at read
    · cases read
    · rename_i unitRead
      split at read
      · simp only [Except.ok.injEq, Prod.mk.injEq] at read
        obtain ⟨-, rfl⟩ := read
        have shorter := readUnit_shorter unitRead
        simp only [List.length_cons]
        omega
      · cases read
  · cases read

theorem readUnicodeEscape_shorter
    {paired : Bool}
    {text rest : List Char}
    {char : Char}
    (read : readUnicodeEscape paired text = .ok (char, rest)) :
    rest.length < text.length := by
  unfold readUnicodeEscape at read
  split at read
  · cases read
  · rename_i unitRead
    have shorter := readUnit_shorter unitRead
    split at read
    · cases read
    · split at read
      · have further := readTrailing_shorter read
        omega
      · cases read
        exact shorter

/-- An escape takes at least one character after its backslash. -/
theorem readEscape_shorter
    {paired : Bool}
    {text rest : List Char}
    {char : Char}
    (read : readEscape paired text = .ok (char, rest)) :
    rest.length < text.length := by
  unfold readEscape at read
  split at read
  · cases read
  · split at read
    · cases read
      simp
    · split at read
      · have shorter := readUnicodeEscape_shorter read
        simp only [List.length_cons]
        omega
      · cases read

/-- The characters of a string up to its closing quote, and what follows the quote. -/
def readString (paired : Bool) : List Char → Except SyntaxError (List Char × List Char)
  | [] => .error .endInString
  | char :: later =>
    if char = '"' then .ok ([], later)
    else if char = '\\' then
      match _ : readEscape paired later with
      | .error failure => .error failure
      | .ok (escaped, rest) =>
        match readString paired rest with
        | .error failure => .error failure
        | .ok (chars, last) => .ok (escaped :: chars, last)
    else if char.toNat < 32 then .error .controlCharacter
    else
      match readString paired later with
      | .error failure => .error failure
      | .ok (chars, last) => .ok (char :: chars, last)
termination_by text => text.length
decreasing_by
  · have shorter := readEscape_shorter ‹readEscape paired later = _›
    simp only [List.length_cons]
    omega
  · simp

/-- A string takes at least its closing quote. -/
theorem readString_shorter
    {paired : Bool}
    {text rest : List Char}
    {chars : List Char}
    (read : readString paired text = .ok (chars, rest)) :
    rest.length < text.length := by
  fun_induction readString paired text generalizing chars with
  | case2 =>
    cases read
    simp
  | case5 _ _ _ escape _ _ later _ ih =>
    cases read
    have shorter := readEscape_shorter escape
    have further := ih later
    simp only [List.length_cons]
    omega
  | case8 _ _ _ _ _ _ _ later ih =>
    cases read
    have further := ih later
    simp only [List.length_cons]
    omega
  | _ => cases read

end ContractReplay.Json
