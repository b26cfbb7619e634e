import ContractReplay.Json.Number
import Mathlib.Algebra.Group.Nat.Defs
import Mathlib.Tactic.Common

/-!
# Whole numbers of 64 bits become finite numbers

The significand of a rounded natural number has 53 bits, or one more when rounding
carries, and its exponent is far below the greatest one.  So the binary64 number
nearest to a number of a JSON text is never an infinity.
-/

namespace ContractReplay.Binary64

theorem ofParts_finite
    (negative : Bool)
    {significand : Nat}
    {exponent : Int}
    (significand_lt : significand < 2 ^ 53)
    (exponent_ge : leastExponent ≤ exponent)
    (exponent_le : exponent ≤ greatestExponent)
    (canonical : 2 ^ 52 ≤ significand) :
    ∃ number, ofParts negative significand exponent = .finite number := by
  rw [ofParts, dif_pos ⟨⟨significand_lt, exponent_ge⟩, exponent_le, Or.inl canonical⟩]
  exact ⟨_, rfl⟩

/-- Rounding a quotient keeps its whole part or goes up by one. -/
theorem roundedQuotient_bounds
    (numerator denominator : Nat) :
    numerator / denominator ≤ roundedQuotient numerator denominator ∧
      roundedQuotient numerator denominator ≤ numerator / denominator + 1 := by
  simp only [roundedQuotient]
  split_ifs <;> omega

/-- Powers of two that a natural number is scaled by go to its numerator or its denominator. -/
theorem scaled_natural
    (value : Nat)
    (shift : Int) :
    scaled value 1 shift = (value * 2 ^ shift.toNat, 2 ^ (-shift).toNat) := by
  rw [scaled, Nat.pow_eq, Nat.pow_eq]
  split_ifs with upwards
  · have noDenominator : (-shift).toNat = 0 := by
      omega
    rw [noDenominator, Nat.pow_zero]
  · have noNumerator : shift.toNat = 0 := by
      omega
    rw [noNumerator, Nat.pow_zero, Nat.mul_one, Nat.one_mul]

/-- The binary exponent of a natural number is its logarithm. -/
theorem binaryExponent_natural
    {value : Nat}
    (positive : value ≠ 0) :
    binaryExponent value 1 = Int.ofNat value.log2 := by
  have noLogarithm : Nat.log2 1 = 0 := by
    decide
  have downwards : (-(Int.ofNat value.log2 - Int.ofNat 0)).toNat = 0 := by
    simp only [Int.ofNat_eq_natCast]
    omega
  have exponent : (- -(Int.ofNat value.log2 - Int.ofNat 0)).toNat = value.log2 := by
    simp only [Int.ofNat_eq_natCast]
    omega
  have atLeast : ¬ value * 2 ^ 0 < 2 ^ value.log2 := by
    have power := Nat.log2_self_le positive
    omega
  simp only [binaryExponent, noLogarithm, scaled_natural, downwards, exponent, if_neg atLeast]
  exact Int.sub_zero _

/-- Scaled to its exponent, a natural number is a quotient of 53 bits. -/
theorem scaled_quotient
    {value : Nat}
    (positive : value ≠ 0) :
    2 ^ 52 ≤ value * 2 ^ (52 - value.log2) / 2 ^ (value.log2 - 52) ∧
      value * 2 ^ (52 - value.log2) / 2 ^ (value.log2 - 52) < 2 ^ 53 := by
  have lower := Nat.log2_self_le positive
  have upper : value < 2 ^ (value.log2 + 1) :=
    Nat.lt_log2_self
  have split : (52 - value.log2) + value.log2 = 52 + (value.log2 - 52) := by
    omega
  have scaledLower : 2 ^ 52 * 2 ^ (value.log2 - 52) ≤ value * 2 ^ (52 - value.log2) := by
    calc
      2 ^ 52 * 2 ^ (value.log2 - 52) = 2 ^ (52 - value.log2) * 2 ^ value.log2 := by
        rw [← Nat.pow_add, ← Nat.pow_add, split]
      _ ≤ 2 ^ (52 - value.log2) * value := Nat.mul_le_mul_left _ lower
      _ = value * 2 ^ (52 - value.log2) := Nat.mul_comm _ _
  have scaledUpper : value * 2 ^ (52 - value.log2) < 2 ^ 53 * 2 ^ (value.log2 - 52) := by
    calc
      value * 2 ^ (52 - value.log2) < 2 ^ (value.log2 + 1) * 2 ^ (52 - value.log2) :=
        Nat.mul_lt_mul_of_pos_right upper (Nat.two_pow_pos _)
      _ = 2 ^ 53 * 2 ^ (value.log2 - 52) := by
        rw [← Nat.pow_add, ← Nat.pow_add]
        congr 1
        omega
  constructor
  · exact (Nat.le_div_iff_mul_le (Nat.two_pow_pos _)).mpr scaledLower
  · exact (Nat.div_lt_iff_lt_mul (Nat.two_pow_pos _)).mpr scaledUpper

/-- The number nearest to a natural number of 64 bits is finite. -/
theorem ofNat_finite
    (negative : Bool)
    {value : Nat}
    (small : value < 2 ^ 64) :
    ∃ number, ofNat negative value = .finite number := by
  by_cases isZero : value = 0
  · rw [ofNat, ofRatio, if_pos isZero]
    exact ⟨_, rfl⟩
  · have logarithm : value.log2 < 64 :=
      (Nat.log2_lt isZero).mpr small
    have exponent :
        max leastExponent (Int.ofNat value.log2 - 52) = Int.ofNat value.log2 - 52 := by
      simp only [leastExponent, Int.ofNat_eq_natCast]
      omega
    have upwards : (-(Int.ofNat value.log2 - 52)).toNat = 52 - value.log2 := by
      simp only [Int.ofNat_eq_natCast]
      omega
    have downwards : (- -(Int.ofNat value.log2 - 52)).toNat = value.log2 - 52 := by
      simp only [Int.ofNat_eq_natCast]
      omega
    rcases scaled_quotient isZero with ⟨quotientLower, quotientUpper⟩
    rcases roundedQuotient_bounds (value * 2 ^ (52 - value.log2)) (2 ^ (value.log2 - 52)) with
      ⟨roundedLower, roundedUpper⟩
    have exponentLower : leastExponent ≤ Int.ofNat value.log2 - 52 := by
      simp only [leastExponent, Int.ofNat_eq_natCast]
      omega
    have exponentUpper : Int.ofNat value.log2 - 52 + 1 ≤ greatestExponent := by
      simp only [greatestExponent, Int.ofNat_eq_natCast]
      omega
    simp only [ofNat, ofRatio, if_neg isZero, binaryExponent_natural isZero, exponent,
      scaled_natural, upwards, downwards, Nat.pow_eq]
    split_ifs with carried
    · exact ofParts_finite negative (by decide) (by omega) exponentUpper (by decide)
    · exact ofParts_finite negative (by omega) exponentLower (by omega) (by omega)

theorem ofInt_finite
    {value : Int}
    (small : value.natAbs < 2 ^ 64) :
    ∃ number, ofInt value = .finite number :=
  ofNat_finite _ small

end ContractReplay.Binary64

namespace ContractReplay.Json

/-- The binary64 number nearest to a number of a JSON text is finite. -/
theorem Number.toBinary64_finite
    (number : Number) :
    ∃ value, number.toBinary64 = .finite value := by
  cases number with
  | whole whole =>
      have lower := whole.lower
      have upper := whole.upper
      exact Binary64.ofInt_finite (by omega)
  | float value => exact ⟨value, rfl⟩

end ContractReplay.Json
