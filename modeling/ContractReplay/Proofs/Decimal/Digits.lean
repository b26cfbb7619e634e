import ContractReplay.Decimal.Digits
import Mathlib.Data.List.Basic

/-!
# Digits of a spelled number

The digits that are taken from the front of a text are all those of a run that ends where the
text goes on without a digit.  Spelled in base ten, a number is read again from its digits, and
only zero has a spelling that starts with a zero.
-/

namespace ContractReplay.Decimal

/-! ## Runs of digits -/

/-- The value of a decimal digit, given that the character is one. -/
def digitOf (char : Char) : Nat :=
  char.toNat - '0'.toNat

theorem digitValue?_of_isDigit
    {char : Char}
    (isDigit : char.isDigit) :
    digitValue? char = some (digitOf char) := by
  rw [digitValue?, if_pos isDigit]
  rfl

/-- The digits of a run spell the number that core reads from the characters. -/
theorem ofDigits_map_digitOf
    (run : List Char) :
    ofDigits (run.map digitOf) = Nat.ofDigitChars 10 run 0 := by
  rw [ofDigits, List.foldl_map, Nat.ofDigitChars_eq_foldl]
  rfl

/-- A text that does not start with a digit. -/
def StartsUndigited (text : List Char) : Prop :=
  ∀ char later, text = char :: later → char.isDigit = false

theorem takeDigits_undigited
    {rest : List Char}
    (undigited : StartsUndigited rest) :
    takeDigits rest = ([], rest) := by
  cases rest with
  | nil => rfl
  | cons char later =>
      rw [takeDigits, digitValue?, if_neg]
      simp [undigited char later rfl]

theorem takeDigits_run
    (run rest : List Char)
    (digits : ∀ char ∈ run, char.isDigit)
    (undigited : StartsUndigited rest) :
    takeDigits (run ++ rest) = (run.map digitOf, rest) := by
  induction run with
  | nil => exact takeDigits_undigited undigited
  | cons char later ih =>
      have laterTaken := ih fun other member => digits other (by simp [member])
      rw [List.cons_append, takeDigits, digitValue?_of_isDigit (digits char (by simp)),
        laterTaken]
      rfl

/-! ## Spelled numbers -/

theorem toDigits_isDigit
    (number : Nat) :
    ∀ char ∈ Nat.toDigits 10 number, char.isDigit :=
  fun _ member => Nat.isDigit_of_mem_toDigits (by decide) (by decide) member

theorem ofDigits_toDigits
    (number : Nat) :
    ofDigits ((Nat.toDigits 10 number).map digitOf) = number := by
  rw [ofDigits_map_digitOf, Nat.ofDigitChars_ten_toDigits]

/-- Only the spelling of zero starts with a zero. -/
theorem eq_zero_of_head?_toDigits
    {number : Nat}
    (startsWithZero : (Nat.toDigits 10 number).head? = some '0') :
    number = 0 := by
  induction number using Nat.strongRecOn with
  | _ number ih =>
      rcases Nat.lt_or_ge number 10 with small | large
      · rw [Nat.toDigits_of_lt_base small] at startsWithZero
        have onlyZero : ∀ digit < 10, [Nat.digitChar digit].head? = some '0' → digit = 0 := by
          decide
        exact onlyZero number small startsWithZero
      · have shorter : number / 10 < number := Nat.div_lt_self (by omega) (by decide)
        rw [Nat.toDigits_of_base_le (by decide) large,
          List.head?_append_of_ne_nil _ Nat.toDigits_ne_nil] at startsWithZero
        have tenthIsZero := ih (number / 10) shorter startsWithZero
        omega

theorem eq_zero_char_of_digitOf
    {char : Char}
    (isDigit : char.isDigit)
    (isZero : digitOf char = 0) :
    char = '0' := by
  rw [Char.isDigit_iff_toNat] at isDigit
  rw [digitOf, Nat.sub_eq_zero_iff_le] at isZero
  exact Char.toNat_inj.mp (Nat.le_antisymm isZero isDigit.1)

/-- A leading zero stands alone. -/
theorem eq_nil_of_leading_zero
    {number : Nat}
    {later : List Nat}
    (spelled : (Nat.toDigits 10 number).map digitOf = 0 :: later) :
    later = [] := by
  rcases List.map_eq_cons_iff.mp spelled with ⟨first, others, isSpelled, isZero, rfl⟩
  have isDigit := toDigits_isDigit number first (by simp [isSpelled])
  obtain rfl := eq_zero_char_of_digitOf isDigit isZero
  have startsWithZero : (Nat.toDigits 10 number).head? = some '0' := by
    rw [isSpelled, List.head?_cons]
  obtain rfl := eq_zero_of_head?_toDigits startsWithZero
  cases isSpelled
  rfl

end ContractReplay.Decimal
