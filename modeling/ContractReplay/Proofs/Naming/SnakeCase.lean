import ContractReplay.Proofs.Naming.InternalNames
import ContractReplay.Proofs.Text.LowerCase

/-!
# Names in snake case

A name in snake case is written in characters that are lowered to themselves.  Such a name is in
snake case already, since none of its characters is a capital before which a boundary could
stand.  So the conversion changes nothing when it is done again, nor does the mark of a reserved
word bring anything in that it would change.

Where the boundaries stand is told by the name as it was written: before a capital that follows a
small letter directly, both of them ASCII, whatever its neighbours are lowered to.
-/

namespace ContractReplay.Naming

open Text

/-! ## Lowered names -/

/-- Names all of whose characters are lowered to themselves. -/
def IsLowered (name : String) : Prop :=
  ∀ char ∈ name.toList, lowerChar char = [char]

/-- A character that is lowered to itself is no ASCII capital. -/
theorem not_isUpper_of_lowerChar_eq
    {char : Char}
    (lowered : lowerChar char = [char]) :
    char.isUpper = false := by
  rw [← Bool.not_eq_true]
  intro capital
  have atMostZ : char.toNat ≤ 'Z'.toNat := (of_decide_eq_true capital).2
  have ascii : char.toNat < 128 := Nat.lt_of_le_of_lt atMostZ (by decide)
  have changed : char.isUpper = true → lowerChar char ≠ [char] :=
    of_forall_ascii (fun char => char.isUpper = true → lowerChar char ≠ [char])
      (by decide +kernel) ascii
  exact changed capital lowered

theorem snakeChars_of_lowered
    {chars : List Char}
    (lowered : ∀ char ∈ chars, lowerChar char = [char])
    (afterSmall : Bool) :
    snakeChars afterSmall chars = chars := by
  induction chars generalizing afterSmall with
  | nil => rfl
  | cons first later ih =>
      rw [List.forall_mem_cons] at lowered
      rw [snakeChars, not_isUpper_of_lowerChar_eq lowered.1, Bool.and_false, lowered.1,
        ih lowered.2]
      rfl

theorem snakeCase_of_isLowered
    {name : String}
    (lowered : IsLowered name) :
    snakeCase name = name := by
  rw [snakeCase, snakeChars_of_lowered lowered, String.ofList_toList]

/-! ## Converted names -/

theorem lowered_of_mem_snakeChars
    {afterSmall : Bool}
    {chars : List Char}
    {letter : Char}
    (member : letter ∈ snakeChars afterSmall chars) :
    lowerChar letter = [letter] := by
  induction chars generalizing afterSmall with
  | nil => cases member
  | cons first later ih =>
      rw [snakeChars, List.mem_append, List.mem_append] at member
      rcases member with boundary | ofFirst | ofLater
      · split_ifs at boundary
        · rw [List.mem_singleton.mp boundary]
          decide +kernel
        · cases boundary
      · exact lowerChar_of_mem_lowerChar ofFirst
      · exact ih ofLater

theorem isLowered_snakeCase
    (name : String) :
    IsLowered (snakeCase name) := by
  intro letter member
  rw [snakeCase, String.toList_ofList] at member
  exact lowered_of_mem_snakeChars member

theorem IsLowered.escaped
    {name : String}
    (lowered : IsLowered name) :
    IsLowered (escaped name) := by
  intro letter member
  rw [Naming.escaped, String.toList_append, List.mem_append] at member
  rcases member with inName | isMark
  · exact lowered letter inName
  · rw [List.mem_singleton.mp isMark]
    decide +kernel

@[simp]
theorem snakeCase_snakeCase
    (name : String) :
    snakeCase (snakeCase name) = snakeCase name :=
  snakeCase_of_isLowered (isLowered_snakeCase name)

/-! ## Internal names of converted names -/

/-- A name and its snake-case form stand for the same member. -/
theorem internalName_snakeCase
    (external : String) :
    internalName (snakeCase external) = internalName external := by
  rw [internalName, internalName, snakeCase_snakeCase]

/-- An internal name stands for the member that is declared under it. -/
theorem internalName_internalName
    (external : String) :
    internalName (internalName external) = internalName external := by
  have lowered : IsLowered (internalName external) := by
    rw [internalName]
    split_ifs
    · exact (isLowered_snakeCase external).escaped
    · exact isLowered_snakeCase external
  rw [internalName, snakeCase_of_isLowered lowered, not_isReserved_internalName]
  rfl

/-! ## Boundaries -/

/-- Whether a boundary stands before an index: an ASCII capital after an ASCII small letter. -/
def boundaryBefore (chars : List Char) : Nat → Bool
  | 0 => false
  | index + 1 => chars[index]?.any Char.isLower && chars[index + 1]?.any Char.isUpper

/-- What the character at an index becomes: its lower-case form, with a boundary's underscore. -/
def pieceAt (chars : List Char) (index : Fin chars.length) : List Char :=
  (if boundaryBefore chars index then ['_'] else []) ++ lowerChar chars[index]

theorem flatMap_finRange_succ
    {α : Type}
    {size : Nat}
    (piece : Fin (size + 1) → List α) :
    (List.finRange (size + 1)).flatMap piece =
      piece 0 ++ (List.finRange size).flatMap fun index => piece index.succ := by
  rw [List.finRange_succ, List.flatMap_cons, List.flatMap_map]

/-- After a character, the rest of a name becomes the pieces at the indices past that character. -/
theorem snakeChars_after
    (before : Char)
    (later : List Char) :
    snakeChars before.isLower later =
      (List.finRange later.length).flatMap fun index => pieceAt (before :: later) index.succ := by
  induction later generalizing before with
  | nil => rfl
  | cons first rest ih =>
      rw [snakeChars, ih, ← List.append_assoc]
      refine Eq.trans ?_ (flatMap_finRange_succ _).symm
      -- What stands past the first two characters is told by the second of them alone.
      rfl

/-- A name in snake case is the pieces at all of its indices. -/
theorem toList_snakeCase
    (name : String) :
    (snakeCase name).toList =
      (List.finRange name.toList.length).flatMap (pieceAt name.toList) := by
  rw [snakeCase, String.toList_ofList]
  cases name.toList with
  | nil => rfl
  | cons first later =>
      rw [snakeChars, snakeChars_after, ← List.append_assoc]
      refine Eq.trans ?_ (flatMap_finRange_succ _).symm
      rfl

/--
Snake case is a normal form.  A name in snake case is its characters in lower case, one after the
other, with one underscore before every capital that follows a small letter directly and none
elsewhere; it has no capital; and it is its own snake case.
-/
theorem snakeCase_is_normal_form
    (name : String) :
    (snakeCase name).toList =
        (List.finRange name.toList.length).flatMap (pieceAt name.toList) ∧
      (∀ char ∈ (snakeCase name).toList, char.isUpper = false) ∧
        snakeCase (snakeCase name) = snakeCase name := by
  refine ⟨toList_snakeCase name, ?_, snakeCase_snakeCase name⟩
  intro char member
  exact not_isUpper_of_lowerChar_eq (isLowered_snakeCase name char member)

/-- A boundary in a humped name; none after a letter beyond ASCII or between two capitals. -/
example : snakeCase "getÉTag" = "getétag" ∧ snakeCase "ifNotETag" = "if_not_etag" := by
  decide +kernel

end ContractReplay.Naming
