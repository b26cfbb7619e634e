/-!
# Binary64 numbers

A finite binary64 number is a sign, a significand and a power of two.  The
representation is canonical: the significand uses all its bits unless the
exponent is already the least one, so two finite numbers have the same value
exactly when they are the same, the two zeros apart.
-/

namespace ContractReplay

namespace Binary64

/-- The least exponent of a finite number. -/
def leastExponent : Int := -1074

/-- The greatest exponent of a finite number. -/
def greatestExponent : Int := 971

/--
A finite number: its absolute value is `significand * 2 ^ exponent`, and
`negative` is its sign, which zero has too.
-/
structure Finite where
  negative : Bool
  significand : Nat
  exponent : Int
  significand_lt : significand < Nat.pow 2 53
  exponent_ge : leastExponent ≤ exponent
  exponent_le : exponent ≤ greatestExponent
  canonical : Nat.pow 2 52 ≤ significand ∨ exponent = leastExponent
deriving DecidableEq

/-- Zero with a given sign. -/
def Finite.zero (negative : Bool) : Finite where
  negative := negative
  significand := 0
  exponent := leastExponent
  significand_lt := by decide
  exponent_ge := by decide
  exponent_le := by decide
  canonical := Or.inr rfl

/-- Whether a number is one of the two zeros. -/
def Finite.isZero (number : Finite) : Bool :=
  number.significand == 0

/-- Whether two finite numbers have the same value; the two zeros do. -/
def Finite.equal (left right : Finite) : Bool :=
  (left.isZero && right.isZero) || left == right

end Binary64

/-- A binary64 datum: a finite number, one of the two infinities, or not a number. -/
inductive Binary64 where
  | nan
  | infinite (negative : Bool)
  | finite (value : Binary64.Finite)
deriving DecidableEq

namespace Binary64

/-- Whether two data compare as equal; one that is not a number equals nothing. -/
def equal : Binary64 → Binary64 → Bool
  | .infinite left, .infinite right => left == right
  | .finite left, .finite right => left.equal right
  | _, _ => false

/-- The finite number of a datum that is one. -/
def finite? : Binary64 → Option Finite
  | .finite value => some value
  | _ => none

/-- The number with these parts if they are canonical and in range, and otherwise an infinity. -/
def ofParts
    (negative : Bool)
    (significand : Nat)
    (exponent : Int) : Binary64 :=
  if bounds :
      (significand < Nat.pow 2 53 ∧ leastExponent ≤ exponent) ∧ exponent ≤ greatestExponent ∧
        (Nat.pow 2 52 ≤ significand ∨ exponent = leastExponent) then
    .finite
      { negative := negative
        significand := significand
        exponent := exponent
        significand_lt := bounds.1.1
        exponent_ge := bounds.1.2
        exponent_le := bounds.2.1
        canonical := bounds.2.2 }
  else .infinite negative

end Binary64

end ContractReplay
