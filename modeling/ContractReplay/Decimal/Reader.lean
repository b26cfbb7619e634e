import ContractReplay.Binary64.Rounding
import ContractReplay.Decimal.Digits

/-!
# Decimal spellings of binary64 numbers

The reader takes an optional sign and then a decimal with an optional fraction
and exponent, or the name of an infinity or of the datum that is not a number,
and rounds correctly.
-/

namespace ContractReplay.Decimal

/-- A sign at the front of a list of characters, `true` for a minus, and the rest. -/
def takeSign : List Char → Bool × List Char
  | '-' :: later => (true, later)
  | '+' :: later => (false, later)
  | later => (false, later)

/-- The exponent that a whole list of characters spells, with nothing for no exponent at all. -/
def exponent? : List Char → Option Int
  | [] => some 0
  | mark :: later =>
    if mark = 'e' || mark = 'E' then
      let (negative, digits) := takeSign later
      match takeDigits digits with
      | ([], _) => none
      | (spelled, []) => some (if negative then -Int.ofNat (ofDigits spelled) else ofDigits spelled)
      | (_, _ :: _) => none
    else none

/-- The digits of a fraction after its point, if there is one, and the rest. -/
def takeFraction : List Char → List Nat × List Char
  | '.' :: later => takeDigits later
  | later => ([], later)

/--
The number with these digits and this power of ten; exponents that leave no
doubt about the result are decided without writing the power out.
-/
def roundDecimal (negative : Bool) (digits : List Nat) (exponent : Int) : Binary64 :=
  let value := ofDigits digits
  if value = 0 then .finite (.zero negative)
  else if 400 < exponent then .infinite negative
  else if exponent + Int.ofNat digits.length < -400 then .finite (.zero negative)
  else Binary64.ofDecimal negative value exponent

/-- The number that a whole unsigned list of characters spells. -/
def unsigned? (negative : Bool) (text : List Char) : Option Binary64 :=
  match String.ofList (text.map Char.toLower) with
  | "nan" => some .nan
  | "inf" => some (.infinite negative)
  | "infinity" => some (.infinite negative)
  | _ =>
    let (whole, later) := takeDigits text
    let (fraction, last) := takeFraction later
    if whole.isEmpty && fraction.isEmpty then none
    else
      (exponent? last).map fun exponent =>
        roundDecimal negative (whole ++ fraction) (exponent - Int.ofNat fraction.length)

/-- The binary64 datum that a text spells, correctly rounded. -/
def ofText? (text : String) : Option Binary64 :=
  let (negative, unsigned) := takeSign text.toList
  unsigned? negative unsigned

end ContractReplay.Decimal
