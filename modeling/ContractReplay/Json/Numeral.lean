import ContractReplay.Decimal.Digits
import ContractReplay.Json.ReadError
import ContractReplay.Json.Number

/-!
# Numerals of a JSON text

A numeral without fraction and exponent names the whole number it spells as
long as that fits 64 bits.  Any other numeral names a float, by a rule that
rounds more than once: the digits are gathered in 64 bits, digits that no longer
fit are dropped, the gathered number is rounded, and then it is multiplied or
divided by a rounded power of ten.
-/

namespace ContractReplay.Json

open Decimal

/-- The parts of a numeral: its sign, its digits before and after the point, and its exponent. -/
structure Numeral where
  negative : Bool
  whole : List Nat
  fraction : List Nat
  exponent : Option (Bool × List Nat)

/-! ## Lexical form -/

/-- At least one digit; `cut` is the error at the end of the text. -/
def lexDigits
    (cut : SyntaxError)
    (text : List Char) : Except SyntaxError (List Nat × List Char) :=
  match takeDigits text with
  | ([], []) => .error cut
  | ([], _ :: _) => .error .invalidNumber
  | (digit :: digits, rest) => .ok (digit :: digits, rest)

/-- The digits before the point: a leading zero stands alone. -/
def lexWhole
    (cut : SyntaxError)
    (text : List Char) : Except SyntaxError (List Nat × List Char) :=
  match lexDigits cut text with
  | .ok (0 :: _ :: _, _) => .error .invalidNumber
  | other => other

/-- The digits after the point, if there is a point. -/
def lexFraction
    (cut : SyntaxError) : List Char → Except SyntaxError (List Nat × List Char)
  | '.' :: later => lexDigits cut later
  | later => .ok ([], later)

/-- The sign of an exponent, `true` for a minus, and the rest. -/
def lexExponentSign : List Char → Bool × List Char
  | '-' :: later => (true, later)
  | '+' :: later => (false, later)
  | later => (false, later)

/-- The sign and the digits of the exponent, if there is one. -/
def lexExponent
    (cut : SyntaxError) : List Char → Except SyntaxError (Option (Bool × List Nat) × List Char)
  | [] => .ok (none, [])
  | mark :: later =>
    if mark = 'e' || mark = 'E' then
      match lexDigits cut (lexExponentSign later).2 with
      | .ok (digits, rest) => .ok (some ((lexExponentSign later).1, digits), rest)
      | .error failure => .error failure
    else .ok (none, mark :: later)

/-- A numeral after its sign. -/
def lexNumeral
    (cut : SyntaxError)
    (negative : Bool)
    (text : List Char) : Except SyntaxError (Numeral × List Char) :=
  match lexWhole cut text with
  | .error failure => .error failure
  | .ok (whole, afterWhole) =>
    match lexFraction cut afterWhole with
    | .error failure => .error failure
    | .ok (fraction, afterFraction) =>
      match lexExponent cut afterFraction with
      | .error failure => .error failure
      | .ok (exponent, rest) => .ok (⟨negative, whole, fraction, exponent⟩, rest)

theorem lexDigits_shorter
    {cut : SyntaxError}
    {text rest : List Char}
    {digits : List Nat}
    (lexed : lexDigits cut text = .ok (digits, rest)) :
    rest.length < text.length := by
  have total := takeDigits_length text
  unfold lexDigits at lexed
  split at lexed
  · cases lexed
  · cases lexed
  · rename_i equation
    cases lexed
    rw [equation] at total
    simp only [List.length_cons] at total
    omega

theorem lexWhole_shorter
    {cut : SyntaxError}
    {text rest : List Char}
    {digits : List Nat}
    (lexed : lexWhole cut text = .ok (digits, rest)) :
    rest.length < text.length := by
  unfold lexWhole at lexed
  split at lexed
  · cases lexed
  · exact lexDigits_shorter lexed

theorem lexFraction_length_le
    {cut : SyntaxError}
    {text rest : List Char}
    {digits : List Nat}
    (lexed : lexFraction cut text = .ok (digits, rest)) :
    rest.length ≤ text.length := by
  unfold lexFraction at lexed
  split at lexed
  · have shorter := lexDigits_shorter lexed
    simp only [List.length_cons]
    omega
  · cases lexed
    exact Nat.le_refl _

theorem lexExponentSign_length_le
    (text : List Char) :
    (lexExponentSign text).2.length ≤ text.length := by
  unfold lexExponentSign
  split <;> simp

theorem lexExponent_length_le
    {cut : SyntaxError}
    {text rest : List Char}
    {exponent : Option (Bool × List Nat)}
    (lexed : lexExponent cut text = .ok (exponent, rest)) :
    rest.length ≤ text.length := by
  unfold lexExponent at lexed
  split at lexed
  · cases lexed
    exact Nat.le_refl _
  · rename_i mark later
    split at lexed
    · split at lexed
      · rename_i digitsLexed
        cases lexed
        have shorter := lexDigits_shorter digitsLexed
        have bounded := lexExponentSign_length_le later
        simp only [List.length_cons]
        omega
      · cases lexed
    · cases lexed
      exact Nat.le_refl _

/-- A numeral takes at least one character. -/
theorem lexNumeral_shorter
    {cut : SyntaxError}
    {negative : Bool}
    {text rest : List Char}
    {numeral : Numeral}
    (lexed : lexNumeral cut negative text = .ok (numeral, rest)) :
    rest.length < text.length := by
  unfold lexNumeral at lexed
  split at lexed
  · cases lexed
  · rename_i wholeLexed
    split at lexed
    · cases lexed
    · rename_i fractionLexed
      split at lexed
      · cases lexed
      · rename_i exponentLexed
        cases lexed
        have first := lexWhole_shorter wholeLexed
        have second := lexFraction_length_le fractionLexed
        have third := lexExponent_length_le exponentLexed
        omega

/-! ## Value -/

/-- The digits gathered so far continued as long as the number fits 64 bits, and those left over. -/
def gather (significand : Nat) : List Nat → Nat × List Nat
  | [] => (significand, [])
  | digit :: later =>
    if 10 * significand + digit < Nat.pow 2 64 then gather (10 * significand + digit) later
    else (significand, digit :: later)

/-- The rounded power of ten. -/
def powerOfTen (exponent : Nat) : Option Binary64.Finite :=
  (Binary64.ofNat false (Nat.pow 10 exponent)).finite?

/-- The most decimal places by which one multiplication or division moves the point. -/
def placesPerStep : Nat := 308

/-- A finite number divided by a power of ten in one step. -/
def shrinkOnce (number : Binary64.Finite) (places : Nat) : Option Binary64.Finite :=
  (powerOfTen places).bind fun power => (number.over power).finite?

/-- A finite number divided a number of times by the greatest power of ten; zero stays as it is. -/
def shrinkSteps : Nat → Binary64.Finite → Option Binary64.Finite
  | 0, value => some value
  | steps + 1, value =>
    if value.isZero then some value
    else (shrinkOnce value placesPerStep).bind (shrinkSteps steps)

/-- A finite number divided by a power of ten, in whole steps and a last one for the rest. -/
def shrink (number : Binary64.Finite) (places : Nat) : Option Binary64.Finite :=
  let steps := (places - 1) / placesPerStep
  (shrinkSteps steps number).bind fun rounded =>
    if rounded.isZero then some rounded else shrinkOnce rounded (places - steps * placesPerStep)

/-- A finite number multiplied by a power of ten, unless the result is infinite. -/
def grow (number : Binary64.Finite) (places : Nat) : Option Binary64.Finite :=
  if places ≤ placesPerStep then
    (powerOfTen places).bind fun power => (number.times power).finite?
  else if number.isZero then some number
  else none

/-- The float that a gathered number and a decimal exponent name, if it is in range. -/
def floatOf
    (negative : Bool)
    (significand : Nat)
    (exponent : Int) : Option Binary64.Finite :=
  (Binary64.ofNat negative significand).finite?.bind fun number =>
    if 0 ≤ exponent then grow number exponent.toNat else shrink number (-exponent).toNat

/-- The greatest value of an exponent that is read digit by digit. -/
def exponentLimit : Nat := Nat.pow 2 31 - 1

/-- The number that a numeral names, if it is in range. -/
def Numeral.number? (numeral : Numeral) : Option Number :=
  let (whole, dropped) := gather 0 numeral.whole
  let (significand, unread) := gather whole numeral.fraction
  let places : Int :=
    Int.ofNat dropped.length - Int.ofNat (numeral.fraction.length - unread.length)
  let signed : Int := if numeral.negative then -Int.ofNat whole else Int.ofNat whole
  match numeral.exponent with
  | some (negativeExponent, digits) =>
    let exponent := ofDigits digits
    if exponent ≤ exponentLimit then
      (floatOf numeral.negative significand
        (if negativeExponent then places - exponent else places + exponent)).map .float
    else if significand = 0 || negativeExponent then some (.float (.zero numeral.negative))
    else none
  | none =>
    if numeral.fraction.isEmpty && dropped.isEmpty && !(numeral.negative && whole == 0) then
      match Whole.ofInt? signed with
      | some fitting => some (.whole fitting)
      | none => (floatOf numeral.negative whole 0).map .float
    else (floatOf numeral.negative significand places).map .float

end ContractReplay.Json
