import ContractReplay.Binary64.Rounding
import ContractReplay.Decimal.Shortest

/-!
# JSON numbers

A JSON number is a whole number of 64 bits, signed or unsigned, or a finite
binary64 number.  The two kinds are kept apart: `1` and `1.0` differ.
-/

namespace ContractReplay

namespace Json

/-- A whole number that fits 64 bits, with a sign or without one. -/
structure Whole where
  value : Int
  lower : -9223372036854775808 ≤ value
  upper : value < 18446744073709551616
deriving DecidableEq

/-- The whole number of a natural number below `2 ^ 64`, if it is one. -/
def Whole.ofInt? (value : Int) : Option Whole :=
  if bounds : -9223372036854775808 ≤ value ∧ value < 18446744073709551616 then
    some ⟨value, bounds.1, bounds.2⟩
  else none

/-- The signed 64-bit number with the same value, if there is one. -/
def Whole.toInt64? (whole : Whole) : Option Int64 :=
  if whole.value < 9223372036854775808 then some (Int64.ofInt whole.value) else none

/-- The whole number with the value of a signed 64-bit number. -/
def Whole.ofInt64 (value : Int64) : Whole where
  value := value.toInt
  lower := value.le_toInt
  upper := by
    have := value.toInt_lt
    omega

/-- A number of a JSON text. -/
inductive Number where
  | whole (value : Whole)
  | float (value : Binary64.Finite)
deriving DecidableEq

/-- Numbers are equal when they are of one kind and have the same value. -/
def Number.equal : Number → Number → Bool
  | .whole left, .whole right => left == right
  | .float left, .float right => left.equal right
  | _, _ => false

/-- The signed 64-bit value of a whole number; a float has none. -/
def Number.toInt64? : Number → Option Int64
  | .whole value => value.toInt64?
  | .float _ => none

/-- The nearest binary64 number. -/
def Number.toBinary64 : Number → Binary64
  | .whole value => Binary64.ofInt value.value
  | .float value => .finite value

/-! ## Spelling -/

/-- The characters of an integer in base ten. -/
def spellInt (value : Int) : List Char :=
  if value < 0 then '-' :: Nat.toDigits 10 value.natAbs else Nat.toDigits 10 value.natAbs

/--
The layout of a positive decimal: positional, always with a fraction, when its
leading digit stands between the fifth decimal place and the sixteenth place
before the point, and otherwise scientific with a signed exponent.
-/
def spellPositional (point : Decimal.Positional) : List Char :=
  let digits := Nat.toDigits 10 point.digits
  let leading := point.exponent + Int.ofNat digits.length - 1
  if -5 ≤ leading ∧ leading ≤ 15 then
    if 0 ≤ point.exponent then digits ++ List.replicate point.exponent.toNat '0' ++ ['.', '0']
    else if 0 ≤ leading then
      digits.take (leading.toNat + 1) ++ '.' :: digits.drop (leading.toNat + 1)
    else '0' :: '.' :: List.replicate ((-leading).toNat - 1) '0' ++ digits
  else
    let fraction := digits.drop 1
    digits.take 1 ++ (if fraction.isEmpty then [] else '.' :: fraction) ++
      'e' :: (if leading < 0 then [] else ['+']) ++ spellInt leading

/-- The spelling of a finite number: the fewest digits that identify it. -/
def spellFinite (number : Binary64.Finite) : List Char :=
  (if number.negative then ['-'] else []) ++
    if number.isZero then ['0', '.', '0'] else spellPositional (Decimal.shortest number)

/-- The spelling of a number. -/
def Number.spell : Number → List Char
  | .whole value => spellInt value.value
  | .float value => spellFinite value

end Json

end ContractReplay
