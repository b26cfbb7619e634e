/-!
# Runs of decimal digits
-/

namespace ContractReplay.Decimal

/-- The value of a decimal digit. -/
def digitValue? (char : Char) : Option Nat :=
  if char.isDigit then some (char.toNat - '0'.toNat) else none

/-- The digits at the front of a list of characters, and the rest. -/
def takeDigits : List Char → List Nat × List Char
  | [] => ([], [])
  | char :: later =>
    match digitValue? char with
    | some digit => (digit :: (takeDigits later).1, (takeDigits later).2)
    | none => ([], char :: later)

/-- Every digit taken shortens the rest. -/
theorem takeDigits_length
    (text : List Char) :
    (takeDigits text).1.length + (takeDigits text).2.length = text.length := by
  induction text with
  | nil => rfl
  | cons char later ih =>
    rw [takeDigits]
    split
    · simp only [List.length_cons]
      omega
    · simp

/-- The number that a list of digits spells in base ten. -/
def ofDigits (digits : List Nat) : Nat :=
  digits.foldl (fun value digit => 10 * value + digit) 0

end ContractReplay.Decimal
