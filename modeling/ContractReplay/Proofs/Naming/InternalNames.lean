import ContractReplay.Naming
import Mathlib.Tactic.Common

/-!
# Internal names

The name under which a client declares a member is the external name in snake case, marked
where that is a reserved word.  A marked name is never reserved, so no member is ever declared
under a reserved word.  Raising the first letter of an external name before it is converted
changes nothing, unless a capital follows that letter directly: then the raised name has one
boundary less.
-/

namespace ContractReplay.Naming

open Text

/-! ## Letter case of ASCII characters -/

/-- Names that are written with ASCII characters alone. -/
def IsAscii (name : String) : Prop :=
  ∀ char ∈ name.toList, char.toNat < 128

instance (name : String) : Decidable (IsAscii name) :=
  List.decidableBAll (fun char : Char => char.toNat < 128) name.toList

/-- What holds of the first 128 characters holds of every ASCII character. -/
theorem of_forall_ascii
    (holds : Char → Prop)
    (small : ∀ code < 128, holds (Char.ofNat code))
    {char : Char}
    (ascii : char.toNat < 128) :
    holds char := by
  simpa using small char.toNat ascii

theorem lowerChar_ascii
    {char : Char}
    (ascii : char.toNat < 128) :
    lowerChar char = [char.toLower] :=
  of_forall_ascii (fun char => lowerChar char = [char.toLower])
    (by decide +kernel) ascii

theorem upperChar_ascii
    {char : Char}
    (ascii : char.toNat < 128) :
    upperChar char = [char.toUpper] :=
  of_forall_ascii (fun char => upperChar char = [char.toUpper])
    (by decide +kernel) ascii

/-- A raised ASCII character is no small letter, and is lowered like the character itself. -/
theorem raised_ascii
    {char : Char}
    (ascii : char.toNat < 128) :
    char.toUpper.isLower = false ∧ lowerChar char.toUpper = lowerChar char :=
  of_forall_ascii
    (fun char => char.toUpper.isLower = false ∧ lowerChar char.toUpper = lowerChar char)
    (by decide +kernel) ascii

/-- No capital is lowered to an underscore. -/
theorem lowerChar_capital
    {char : Char}
    (ascii : char.toNat < 128)
    (capital : char.isUpper = true) :
    ∃ letter, lowerChar char = [letter] ∧ letter ≠ '_' := by
  refine ⟨char.toLower, lowerChar_ascii ascii, ?_⟩
  revert capital
  exact
    of_forall_ascii (fun char => char.isUpper = true → char.toLower ≠ '_')
      (by decide +kernel) ascii

/-! ## Reserved words -/

theorem not_isReserved_escaped
    (name : String) :
    isReserved (escaped name) = false := by
  have unmarked : ∀ word ∈ reservedWords, word.toList.getLast? ≠ some '_' := by
    decide +kernel
  rw [← Bool.not_eq_true, isReserved, List.contains_iff_mem]
  intro reserved
  apply unmarked _ reserved
  simp [escaped, String.toList_append]

/-- No member is declared under a reserved word. -/
theorem not_isReserved_internalName
    (external : String) :
    isReserved (internalName external) = false := by
  rw [internalName]
  split_ifs with reserved
  · exact not_isReserved_escaped _
  · exact Bool.not_eq_true _ ▸ reserved

/-! ## Raising the first letter -/

/-- Names that start with a small letter directly followed by a capital, such as `eTag`. -/
def startsHumped (name : String) : Bool :=
  match name.toList with
  | first :: second :: _ => first.isLower && second.isUpper
  | _ => false

theorem snakeCase_of_toList
    {name : String}
    {first : Char}
    {later : List Char}
    (chars : name.toList = first :: later) :
    (snakeCase name).toList = lowerChar first ++ snakeChars first.isLower later := by
  rw [snakeCase, chars, snakeChars, Bool.false_and]
  simp

theorem snakeCase_upperFirst_of_toList
    {name : String}
    {first : Char}
    {later : List Char}
    (chars : name.toList = first :: later)
    (ascii : first.toNat < 128) :
    (snakeCase (upperFirst name)).toList = lowerChar first ++ snakeChars false later := by
  rcases raised_ascii ascii with ⟨notSmall, sameLowered⟩
  have raised : (upperFirst name).toList = first.toUpper :: later := by
    simp [upperFirst, chars, upperChar_ascii ascii]
  rw [snakeCase_of_toList raised, notSmall, sameLowered]

/-- Before a character that is no capital it does not matter what came earlier. -/
theorem snakeChars_of_not_capital
    {afterSmall : Bool}
    {chars : List Char}
    (noCapital : ∀ char ∈ chars.head?, (afterSmall && char.isUpper) = false) :
    snakeChars afterSmall chars = snakeChars false chars := by
  cases chars with
  | nil => rfl
  | cons first later =>
      rw [snakeChars, snakeChars, noCapital first rfl]
      rfl

/-- Raising the first letter changes no name but those that start humped. -/
theorem snakeCase_upperFirst
    {name : String}
    (ascii : IsAscii name)
    (level : startsHumped name = false) :
    snakeCase (upperFirst name) = snakeCase name := by
  apply String.toList_injective
  cases chars : name.toList with
  | nil => rw [upperFirst, chars, snakeCase, snakeCase, chars]; rfl
  | cons first later =>
      have firstAscii : first.toNat < 128 := ascii first (by rw [chars]; exact List.mem_cons_self)
      have noBoundary : ∀ char ∈ later.head?, (first.isLower && char.isUpper) = false := by
        intro second isSecond
        cases later with
        | nil => cases isSecond
        | cons other rest =>
            cases isSecond
            rw [startsHumped, chars] at level
            exact level
      rw [snakeCase_upperFirst_of_toList chars firstAscii, snakeCase_of_toList chars,
        snakeChars_of_not_capital noBoundary]

/-- A name that starts humped has a boundary after its first letter. -/
theorem internalName_of_hump
    {name : String}
    {first second : Char}
    {later : List Char}
    (chars : name.toList = first :: second :: later)
    (ascii : first.toNat < 128)
    (small : first.isLower = true)
    (capital : second.isUpper = true) :
    ∃ rest, (internalName name).toList = first.toLower :: '_' :: rest := by
  have converted := snakeCase_of_toList chars
  rw [lowerChar_ascii ascii, small, snakeChars, capital] at converted
  rw [internalName]
  split_ifs with reserved
  · exact ⟨_, by rw [escaped, String.toList_append, converted]; rfl⟩
  · exact ⟨_, converted⟩

/-- Once its first letter is raised, the name has no boundary there. -/
theorem snakeCase_upperFirst_of_hump
    {name : String}
    {first second : Char}
    {later : List Char}
    (chars : name.toList = first :: second :: later)
    (firstAscii : first.toNat < 128)
    (secondAscii : second.toNat < 128)
    (capital : second.isUpper = true) :
    ∃ letter rest,
      letter ≠ '_' ∧
        (snakeCase (upperFirst name)).toList = first.toLower :: letter :: rest := by
  rcases lowerChar_capital secondAscii capital with ⟨letter, lowered, isLetter⟩
  have converted := snakeCase_upperFirst_of_toList chars firstAscii
  rw [lowerChar_ascii firstAscii, snakeChars, lowered] at converted
  exact ⟨letter, _, isLetter, converted⟩

/-- No candidate for a name that starts humped is the name under which it is declared. -/
theorem internalName_not_mem_methodCandidates
    {name : String}
    (ascii : IsAscii name)
    (humped : startsHumped name = true) :
    internalName name ∉ methodCandidates name := by
  rw [startsHumped] at humped
  split at humped
  · rename_i first second later chars
    rcases Bool.and_eq_true_iff.mp humped with ⟨small, capital⟩
    have firstAscii : first.toNat < 128 := ascii first (by simp [chars])
    have secondAscii : second.toNat < 128 := ascii second (by simp [chars])
    rcases internalName_of_hump chars firstAscii small capital with ⟨declaredRest, declared⟩
    rcases snakeCase_upperFirst_of_hump chars firstAscii secondAscii capital with
      ⟨letter, triedRest, isLetter, tried⟩
    intro candidate
    simp only [methodCandidates, List.mem_cons, List.not_mem_nil, or_false] at candidate
    rcases candidate with same | same
    · rw [same, tried] at declared
      simp [isLetter] at declared
    · rw [same, escaped, String.toList_append, tried] at declared
      simp [isLetter] at declared
  · cases humped

end ContractReplay.Naming
