import ContractReplay.Json.Reader
import ContractReplay.Proofs.Decimal.Digits
import Mathlib.Tactic.SplitIfs

/-!
# Scalars are read back

A string is read from its spelling character by character, whichever escape a character has.  A
whole number is read from its spelling when the text goes on with something that no numeral goes
on with: all its digits are gathered, because the number fits 64 bits.
-/

namespace ContractReplay.Json

open Decimal

/-! ## Strings -/

theorem hexDigit?_digitChar :
    ∀ digit < 16, hexDigit? (Nat.digitChar digit) = some digit := by
  decide

/-- A unit below 256 is read from two zeros and its two digits. -/
theorem readUnit_spelled
    {unit : Nat}
    (small : unit < 256)
    (rest : List Char) :
    readUnit ('0' :: '0' :: Nat.digitChar (unit / 16) :: Nat.digitChar (unit % 16) :: rest) =
      .ok (unit, rest) := by
  have first : hexDigit? '0' = some 0 := by decide
  have third := hexDigit?_digitChar (unit / 16) (by omega)
  have fourth := hexDigit?_digitChar (unit % 16) (by omega)
  have isUnit :
      hexUnit? '0' '0' (Nat.digitChar (unit / 16)) (Nat.digitChar (unit % 16)) = some unit := by
    simp only [hexUnit?, first, third, fourth, Option.bind_eq_bind, Option.bind_some]
    exact congrArg some (by omega)
  rw [readUnit, isUnit]

theorem readUnicodeEscape_spelled
    {char : Char}
    (control : char.toNat < 32)
    (rest : List Char) :
    readUnicodeEscape true
        ('0' :: '0' :: Nat.digitChar (char.toNat / 16) :: Nat.digitChar (char.toNat % 16) :: rest) =
      .ok (char, rest) := by
  have notTrailing : isTrailingSurrogate char.toNat = false := by
    simp only [isTrailingSurrogate, Bool.and_eq_false_iff, decide_eq_false_iff_not]
    omega
  have notLeading : isLeadingSurrogate char.toNat = false := by
    simp only [isLeadingSurrogate, Bool.and_eq_false_iff, decide_eq_false_iff_not]
    omega
  rw [readUnicodeEscape, readUnit_spelled (by omega)]
  simp [notTrailing, notLeading]

theorem readString_escape
    {char : Char}
    {chars text rest last : List Char}
    (escape : readEscape true text = .ok (char, rest))
    (read : readString true rest = .ok (chars, last)) :
    readString true ('\\' :: text) = .ok (char :: chars, last) := by
  rw [readString, if_neg (by decide), if_pos rfl]
  split
  · rename_i failed
    rw [escape] at failed
    cases failed
  · rename_i escapes
    rw [escape] at escapes
    cases escapes
    rw [read]

theorem readString_plain
    {char : Char}
    {chars text last : List Char}
    (notQuote : char ≠ '"')
    (notBackslash : char ≠ '\\')
    (notControl : ¬ char.toNat < 32)
    (read : readString true text = .ok (chars, last)) :
    readString true (char :: text) = .ok (char :: chars, last) := by
  rw [readString, if_neg notQuote, if_neg notBackslash, if_neg notControl, read]

/-- A character is read from its spelling. -/
theorem readString_escapeChar
    (char : Char)
    {chars later last : List Char}
    (read : readString true later = .ok (chars, last)) :
    readString true (escapeChar char ++ later) = .ok (char :: chars, last) := by
  rw [escapeChar]
  split_ifs with quote backslash backspace tab lineFeed formFeed carriageReturn control
  · rw [quote]
    exact readString_escape rfl read
  · rw [backslash]
    exact readString_escape rfl read
  · rw [backspace]
    exact readString_escape rfl read
  · rw [tab]
    exact readString_escape rfl read
  · rw [lineFeed]
    exact readString_escape rfl read
  · rw [formFeed]
    exact readString_escape rfl read
  · rw [carriageReturn]
    exact readString_escape rfl read
  · exact readString_escape (readUnicodeEscape_spelled control later) read
  · exact readString_plain quote backslash control read

/-- A string is read from its spelling, up to the closing quote. -/
theorem readString_spelled
    (chars rest : List Char) :
    readString true (chars.flatMap escapeChar ++ '"' :: rest) = .ok (chars, rest) := by
  induction chars with
  | nil => rw [List.flatMap_nil, List.nil_append, readString, if_pos rfl]
  | cons char later ih =>
      rw [List.flatMap_cons, List.append_assoc]
      exact readString_escapeChar char ih

/-! ## Whole numbers -/

/-- A text that goes on with something that no numeral without fraction goes on with. -/
def EndsNumeral (rest : List Char) : Prop :=
  ∀ char later, rest = char :: later →
    char.isDigit = false ∧ char ≠ '.' ∧ char ≠ 'e' ∧ char ≠ 'E'

variable {rest : List Char} {cut : SyntaxError} {negative : Bool}

theorem EndsNumeral.startsUndigited
    (ends : EndsNumeral rest) :
    StartsUndigited rest :=
  fun char later isRest => (ends char later isRest).1

theorem lexDigits_toDigits
    (number : Nat)
    (undigited : StartsUndigited rest) :
    lexDigits cut (Nat.toDigits 10 number ++ rest) =
      .ok ((Nat.toDigits 10 number).map digitOf, rest) := by
  have taken := takeDigits_run _ rest (toDigits_isDigit number) undigited
  cases spelled : (Nat.toDigits 10 number).map digitOf with
  | nil => exact absurd (List.map_eq_nil_iff.mp spelled) Nat.toDigits_ne_nil
  | cons first later =>
      rw [spelled] at taken
      rw [lexDigits, taken]

theorem lexWhole_toDigits
    (number : Nat)
    (undigited : StartsUndigited rest) :
    lexWhole cut (Nat.toDigits 10 number ++ rest) =
      .ok ((Nat.toDigits 10 number).map digitOf, rest) := by
  rw [lexWhole, lexDigits_toDigits number undigited]
  split
  · rename_i leadingZero
    have spelled := congrArg Prod.fst (Except.ok.inj leadingZero)
    cases eq_nil_of_leading_zero spelled
  · rfl

theorem lexFraction_of_ends
    (ends : EndsNumeral rest) :
    lexFraction cut rest = .ok ([], rest) := by
  cases rest with
  | nil => rfl
  | cons char later =>
      rw [lexFraction]
      rintro rest ⟨⟩
      exact (ends '.' later rfl).2.1 rfl

theorem lexExponent_of_ends
    (ends : EndsNumeral rest) :
    lexExponent cut rest = .ok (none, rest) := by
  cases rest with
  | nil => rfl
  | cons char later =>
      rcases ends char later rfl with ⟨-, -, notSmall, notCapital⟩
      rw [lexExponent, if_neg (by simp [notSmall, notCapital])]

theorem lexNumeral_toDigits
    (number : Nat)
    (ends : EndsNumeral rest) :
    lexNumeral cut negative (Nat.toDigits 10 number ++ rest) =
      .ok (⟨negative, (Nat.toDigits 10 number).map digitOf, [], none⟩, rest) := by
  rw [lexNumeral, lexWhole_toDigits number ends.startsUndigited]
  simp only [lexFraction_of_ends ends, lexExponent_of_ends ends]

/-- Digits of a number that fits 64 bits are gathered to the last. -/
theorem gather_of_fits
    {significand : Nat}
    {digits : List Nat}
    (fits : digits.foldl (fun value digit => 10 * value + digit) significand < Nat.pow 2 64) :
    gather significand digits =
      (digits.foldl (fun value digit => 10 * value + digit) significand, []) := by
  induction digits generalizing significand with
  | nil => rfl
  | cons digit later ih =>
      have grows :
          ∀ (others : List Nat) (start : Nat),
            start ≤ others.foldl (fun value digit => 10 * value + digit) start := by
        intro others
        induction others with
        | nil => exact fun _ => Nat.le_refl _
        | cons other others ih =>
            intro start
            exact Nat.le_trans (by omega) (ih (10 * start + other))
      rw [List.foldl_cons] at fits
      rw [gather, if_pos (Nat.lt_of_le_of_lt (grows later _) fits), ih fits, List.foldl_cons]

/-- The digits of a whole number after its sign name the number. -/
theorem number?_toDigits
    {number : Nat}
    {whole : Whole}
    (isValue : whole.value = if negative then -Int.ofNat number else Int.ofNat number)
    (notNegativeZero : ¬ (negative = true ∧ number = 0)) :
    Numeral.number? ⟨negative, (Nat.toDigits 10 number).map digitOf, [], none⟩ =
      some (.whole whole) := by
  have fits : number < Nat.pow 2 64 := by
    have lower := whole.lower
    have upper := whole.upper
    rw [isValue] at lower upper
    have power : Nat.pow 2 64 = 18446744073709551616 := rfl
    rw [power]
    simp only [Int.ofNat_eq_natCast] at lower upper
    cases negative with
    | false =>
        simp only [Bool.false_eq_true, if_false] at upper
        omega
    | true =>
        simp only [if_true] at lower
        omega
  have spelled : ((Nat.toDigits 10 number).map digitOf).foldl
      (fun value digit => 10 * value + digit) 0 = number := ofDigits_toDigits number
  have gathered : gather 0 ((Nat.toDigits 10 number).map digitOf) = (number, []) := by
    rw [gather_of_fits (by rwa [spelled]), spelled]
  have ofValue : Whole.ofInt? whole.value = some whole := by
    rw [Whole.ofInt?, dif_pos ⟨whole.lower, whole.upper⟩]
  have notBoth : (negative && number == 0) = false := by
    simpa using notNegativeZero
  simp only [Numeral.number?, gathered, gather, List.isEmpty_nil, notBoth, Bool.and_true,
    Bool.not_false, if_true, ← isValue, ofValue]

theorem readNumber_toDigits
    {number : Nat}
    {whole : Whole}
    (isValue : whole.value = if negative then -Int.ofNat number else Int.ofNat number)
    (notNegativeZero : ¬ (negative = true ∧ number = 0))
    (ends : EndsNumeral rest) :
    readNumber negative (Nat.toDigits 10 number ++ rest) = .ok (.whole whole, rest) := by
  rw [readNumber, lexNumeral_toDigits number ends]
  simp only [number?_toDigits isValue notNegativeZero]

/-! ## The spelling of a scalar -/

/-- A digit is not the first character of any scalar but a number. -/
theorem readScalar_digit
    {first : Char}
    {later : List Char}
    {value : Number}
    (isDigit : first.isDigit)
    (read : readNumber false (first :: later) = .ok (value, rest)) :
    readScalar (first :: later) = .ok (.number value, rest) := by
  have different : ∀ {other : Char}, other.isDigit = false → first ≠ other := by
    rintro other notDigit rfl
    rw [notDigit] at isDigit
    cases isDigit
  rw [readScalar, if_neg (different (by decide)), if_neg (different (by decide)),
    if_neg (different (by decide)), if_neg (different (by decide)),
    if_neg (different (by decide)), if_pos isDigit, read]

theorem readScalar_spellInt
    (whole : Whole)
    (ends : EndsNumeral rest) :
    readScalar (spellInt whole.value ++ rest) = .ok (.number (.whole whole), rest) := by
  rw [spellInt]
  split_ifs with isNegative
  · have isValue : whole.value = -Int.ofNat whole.value.natAbs := by
      rw [Int.ofNat_eq_natCast]
      omega
    have read : readNumber true (Nat.toDigits 10 whole.value.natAbs ++ rest) = _ :=
      readNumber_toDigits isValue (by omega) ends
    simp [readScalar, read]
  · have isValue : whole.value = Int.ofNat whole.value.natAbs := by
      rw [Int.ofNat_eq_natCast]
      omega
    have read : readNumber false (Nat.toDigits 10 whole.value.natAbs ++ rest) = _ :=
      readNumber_toDigits isValue (by simp) ends
    have isDigit := toDigits_isDigit whole.value.natAbs
    cases spelled : Nat.toDigits 10 whole.value.natAbs with
    | nil => exact absurd spelled Nat.toDigits_ne_nil
    | cons first later =>
        rw [spelled] at read isDigit
        rw [List.cons_append] at read ⊢
        exact readScalar_digit (isDigit first List.mem_cons_self) read

theorem readScalar_writeString
    (text : String)
    (rest : List Char) :
    readScalar (writeString text ++ rest) = .ok (.string text, rest) := by
  have read := readString_spelled text.toList rest
  simp [writeString, readScalar, read]

end ContractReplay.Json
