import ContractReplay.Binary64.Basic

/-!
# Correct rounding

Every operation here takes the exact value, as a quotient of natural numbers
times a power of two, to the nearest binary64 number; a value half-way between
two neighbours goes to the one with the even significand, and a value past the
greatest finite number goes to the infinity of its sign.
-/

namespace ContractReplay.Binary64

/-- The natural number nearest to a quotient, ties to the even one. -/
def roundedQuotient (numerator denominator : Nat) : Nat :=
  let quotient := numerator / denominator
  let twice := 2 * (numerator % denominator)
  if twice < denominator then quotient
  else if denominator < twice then quotient + 1
  else quotient + quotient % 2

/-- The numerator and denominator of a quotient times a power of two. -/
def scaled (numerator denominator : Nat) (shift : Int) : Nat × Nat :=
  if 0 ≤ shift then (numerator * Nat.pow 2 shift.toNat, denominator)
  else (numerator, denominator * Nat.pow 2 (-shift).toNat)

/-- The exponent of the greatest power of two that is at most a positive quotient. -/
def binaryExponent (numerator denominator : Nat) : Int :=
  let estimate : Int := Int.ofNat numerator.log2 - Int.ofNat denominator.log2
  let (above, below) := scaled numerator denominator (-estimate)
  if above < below then estimate - 1 else estimate

/-- The binary64 number nearest to the quotient of two natural numbers. -/
def ofRatio
    (negative : Bool)
    (numerator denominator : Nat) : Binary64 :=
  if numerator = 0 then .finite (.zero negative)
  else
    let exponent := max leastExponent (binaryExponent numerator denominator - 52)
    let (above, below) := scaled numerator denominator (-exponent)
    let significand := roundedQuotient above below
    if significand = Nat.pow 2 53 then ofParts negative (Nat.pow 2 52) (exponent + 1)
    else ofParts negative significand exponent

/-- The binary64 number nearest to a quotient times a power of two. -/
def ofScaledRatio
    (negative : Bool)
    (numerator denominator : Nat)
    (shift : Int) : Binary64 :=
  let (above, below) := scaled numerator denominator shift
  ofRatio negative above below

/-- The binary64 number nearest to a natural number with a sign. -/
def ofNat (negative : Bool) (value : Nat) : Binary64 :=
  ofRatio negative value 1

/-- The binary64 number nearest to an integer. -/
def ofInt (value : Int) : Binary64 :=
  ofNat (decide (value < 0)) value.natAbs

/-- The binary64 number nearest to a natural number times a power of ten. -/
def ofDecimal
    (negative : Bool)
    (digits : Nat)
    (exponent : Int) : Binary64 :=
  if 0 ≤ exponent then ofRatio negative (digits * Nat.pow 10 exponent.toNat) 1
  else ofRatio negative digits (Nat.pow 10 (-exponent).toNat)

/-- The rounded product of two finite numbers. -/
def Finite.times (left right : Finite) : Binary64 :=
  ofScaledRatio (left.negative != right.negative)
    (left.significand * right.significand) 1 (left.exponent + right.exponent)

/-- The rounded quotient of two finite numbers, of which the second is not zero. -/
def Finite.over (left right : Finite) : Binary64 :=
  ofScaledRatio (left.negative != right.negative)
    left.significand right.significand (left.exponent - right.exponent)

end ContractReplay.Binary64
