import ContractReplay.Binary64.Basic

/-!
# The fewest digits that identify a number

Among the decimals that lie in the rounding interval of a finite binary64
number, those with the fewest digits are taken, and of these the one nearest to
the number; if two are equally near, the one whose last digit is even.  The
search goes through the decimal grids from coarse to fine, and on each looks at
the two points around the number.
-/

namespace ContractReplay.Decimal

open Binary64

/-- A positive decimal: its value is `digits * 10 ^ exponent`. -/
structure Positional where
  digits : Nat
  exponent : Int
deriving DecidableEq

/--
The reals that round to a positive number, in units of a quarter of the last
place of its significand; the ends belong to it when the significand is even.
-/
structure Interval where
  low : Nat
  middle : Nat
  high : Nat
  unit : Int
  closed : Bool

/-- The interval of the reals that round to the absolute value of a number other than zero. -/
def roundingInterval (number : Finite) : Interval where
  low :=
    if number.significand = Nat.pow 2 52 && leastExponent < number.exponent then
      4 * number.significand - 1
    else 4 * number.significand - 2
  middle := 4 * number.significand
  high := 4 * number.significand + 2
  unit := number.exponent - 2
  closed := number.significand % 2 == 0

/-- Two naturals whose order is that of `left * 2 ^ binary` and `right * 10 ^ decimal`. -/
def commonScale (left : Nat) (binary : Int) (right : Nat) (decimal : Int) : Nat × Nat :=
  (left * Nat.pow 2 binary.toNat * Nat.pow 10 (-decimal).toNat,
    right * Nat.pow 10 decimal.toNat * Nat.pow 2 (-binary).toNat)

/-- Whether a decimal lies in an interval. -/
def Interval.contains (interval : Interval) (point : Positional) : Bool :=
  let (low, aboveLow) := commonScale interval.low interval.unit point.digits point.exponent
  let (high, belowHigh) := commonScale interval.high interval.unit point.digits point.exponent
  if interval.closed then low ≤ aboveLow && belowHigh ≤ high
  else low < aboveLow && belowHigh < high

/-- The greatest multiple of a power of ten, given by its factor, that is at most the middle. -/
def Interval.floorOn (interval : Interval) (exponent : Int) : Nat :=
  interval.middle * Nat.pow 2 interval.unit.toNat * Nat.pow 10 (-exponent).toNat /
    (Nat.pow 10 exponent.toNat * Nat.pow 2 (-interval.unit).toNat)

/-- The one of two neighbours on a grid that is nearer to the middle, ties to the even one. -/
def Interval.nearer (interval : Interval) (exponent : Int) (factor : Nat) : Nat :=
  let (twice, sum) := commonScale (2 * interval.middle) interval.unit (2 * factor + 1) exponent
  if twice < sum then factor
  else if sum < twice then factor + 1
  else factor + factor % 2

/-- The point of a grid that identifies the number, if the grid has one. -/
def Interval.pointOn (interval : Interval) (exponent : Int) : Option Positional :=
  let factor := interval.floorOn exponent
  let below : Positional := ⟨factor, exponent⟩
  let above : Positional := ⟨factor + 1, exponent⟩
  match interval.contains below, interval.contains above with
  | true, true => some ⟨interval.nearer exponent factor, exponent⟩
  | true, false => some below
  | false, true => some above
  | false, false => none

/--
The exponent of the coarsest grid worth a look: the number is below the power
of ten after it.
-/
def Interval.leadingExponent (interval : Interval) : Int :=
  let bits := Int.ofNat interval.middle.log2 + interval.unit
  bits * 30103 / 100000 + 1

/-- The decimal without trailing zeros among its digits. -/
def Positional.stripped (point : Positional) : Positional :=
  if 0 < point.digits ∧ point.digits % 10 = 0 then
    stripped ⟨point.digits / 10, point.exponent + 1⟩
  else point
termination_by point.digits
decreasing_by omega

/--
The shortest decimal that identifies the absolute value of a number other than
zero; twenty grids are enough for the seventeen digits that always identify it.
-/
def shortest (number : Finite) : Positional :=
  let interval := roundingInterval number
  let start := interval.leadingExponent
  let grids := (List.range 20).map fun step => start - Int.ofNat step
  let exact : Positional := ⟨interval.floorOn (min interval.unit 0), min interval.unit 0⟩
  ((grids.findSome? interval.pointOn).getD exact).stripped

end ContractReplay.Decimal
