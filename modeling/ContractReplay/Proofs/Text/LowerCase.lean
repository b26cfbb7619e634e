import ContractReplay.Text.LetterCase
import Mathlib.Tactic.Common

/-!
# Lower case is settled

What a character is lowered to consists of characters that are lowered to themselves.  A
character for which no run of the mapping is found and which has no entry of its own stays as it
is, so it is enough that no run moves its code points to where a run is found or to such an
entry.
-/

namespace ContractReplay.Text

/-! ## Runs -/

/-- Only a run that holds a code point is found for it. -/
theorem findRun_eq_some
    {code : Nat}
    {runs : List CaseRun}
    {run : CaseRun}
    (found : findRun code runs = some run) :
    run ∈ runs ∧ run.contains code = true := by
  induction runs with
  | nil => cases found
  | cons first later ih =>
      rw [findRun] at found
      split_ifs at found with below inside
      · cases found
        exact ⟨List.mem_cons_self, inside⟩
      · exact ⟨List.mem_cons_of_mem _ (ih found).1, (ih found).2⟩

/--
Whether the code points from a first to a last one are missed by runs: a run lies above them or
below them, or both go in steps of two and the run takes the code points in between.
-/
def missedBy (first last : Nat) (inTwos : Bool) : List CaseRun → Bool
  | [] => true
  | run :: later =>
    if last < run.first then true
    else if run.last < first || (inTwos && run.step == 2 && (first + run.first) % 2 == 1) then
      missedBy first last inTwos later
    else false

/-- The search for a run comes to the same end as the test whether it is missed. -/
theorem findRun_of_missedBy
    {first last code : Nat}
    {inTwos : Bool}
    {runs : List CaseRun}
    (missed : missedBy first last inTwos runs = true)
    (lower : first ≤ code)
    (upper : code ≤ last)
    (even : inTwos = true → (code - first) % 2 = 0) :
    findRun code runs = none := by
  induction runs with
  | nil => rfl
  | cons run later ih =>
      rw [missedBy] at missed
      rw [findRun]
      split_ifs at missed with above past
      · rw [if_pos (Nat.lt_of_le_of_lt upper above)]
      · have outside : run.contains code = false := by
          rw [← Bool.not_eq_true]
          intro inside
          simp only [CaseRun.contains, Bool.and_eq_true, Bool.or_eq_true, decide_eq_true_eq,
            beq_iff_eq] at inside past
          rcases past with below | ⟨⟨isTwos, runInTwos⟩, between⟩
          · omega
          · have sameSteps := even isTwos
            rw [runInTwos] at inside
            omega
        rw [outside, if_neg Bool.false_ne_true, ih missed, ite_self]

/-- Whether the code points to which a run moves its own ones are missed by runs. -/
def CaseRun.leavesFor (run : CaseRun) (runs : List CaseRun) : Bool :=
  missedBy (run.first + run.shift).toNat (run.last + run.shift).toNat
    (run.step == 2 || run.first == run.last) runs

theorem findRun_of_leavesFor
    {run : CaseRun}
    {runs : List CaseRun}
    {code : Nat}
    (leaves : run.leavesFor runs = true)
    (upwards : 0 ≤ run.first + run.shift)
    (inside : run.contains code = true) :
    findRun (code + run.shift).toNat runs = none := by
  simp only [CaseRun.contains, Bool.and_eq_true, decide_eq_true_eq, beq_iff_eq] at inside
  refine findRun_of_missedBy leaves (by omega) (by omega) ?_
  intro inTwos
  simp only [Bool.or_eq_true, beq_iff_eq] at inTwos
  rcases inTwos with inTwos | single
  · rw [inTwos] at inside
    omega
  · omega

/-! ## Code points that are left alone -/

/-- That no run is found for a code point and that it has no entry in the mapping to lower case. -/
structure Fixed (code : Nat) : Prop where
  noRun : findRun code lowerRuns = none
  noEntry : lowerSpecials.lookup code = none

instance (code : Nat) : Decidable (Fixed code) :=
  decidable_of_iff (findRun code lowerRuns = none ∧ lowerSpecials.lookup code = none)
    ⟨fun both => ⟨both.1, both.2⟩, fun fixed => ⟨fixed.noRun, fixed.noEntry⟩⟩

theorem Fixed.lowerChar_eq
    {char : Char}
    (fixed : Fixed char.toNat) :
    lowerChar char = [char] := by
  rw [lowerChar, mapCase, fixed.noRun, fixed.noEntry]

theorem Fixed.lowerChar_ofNat
    {code : Nat}
    (fixed : Fixed code) :
    lowerChar (Char.ofNat code) = [Char.ofNat code] := by
  by_cases valid : code.isValidChar
  · have sameCode : (Char.ofNat code).toNat = code := by
      rw [Char.ofNat, dif_pos valid]
      rfl
    rw [← sameCode] at fixed
    exact fixed.lowerChar_eq
  · have isNul : Char.ofNat code = Char.ofNat 0 := by
      rw [Char.ofNat, dif_neg valid]
      rfl
    rw [isNul]
    decide +kernel

/-- A run leads to code points that are left alone. -/
theorem fixed_of_run
    {run : CaseRun}
    {code : Nat}
    (member : run ∈ lowerRuns)
    (inside : run.contains code = true) :
    Fixed (code + run.shift).toNat := by
  have upwards : ∀ run ∈ lowerRuns, 0 ≤ run.first + run.shift := by
    decide +kernel
  have leaves : ∀ run ∈ lowerRuns, run.leavesFor lowerRuns = true := by
    decide +kernel
  -- An entry of the mapping is a run of a single code point as far as the search goes.
  have leavesEntries :
      ∀ run ∈ lowerRuns, ∀ entry ∈ lowerSpecials,
        run.leavesFor [⟨entry.1, entry.1, 1, 0⟩] = true := by
    decide +kernel
  constructor
  · exact findRun_of_leavesFor (leaves run member) (upwards run member) inside
  · rw [List.lookup_eq_none_iff]
    intro entry isEntry
    have missed :=
      findRun_of_leavesFor (leavesEntries run member entry isEntry) (upwards run member) inside
    rw [bne_iff_ne]
    intro same
    simp [findRun, CaseRun.contains, same] at missed

/-! ## Lowering twice -/

/-- Whatever a character is lowered to is lowered to itself. -/
theorem lowerChar_of_mem_lowerChar
    {char letter : Char}
    (member : letter ∈ lowerChar char) :
    lowerChar letter = [letter] := by
  rw [lowerChar, mapCase] at member
  split at member
  · rename_i run found
    rcases findRun_eq_some found with ⟨isRun, inside⟩
    rw [List.mem_singleton] at member
    rw [member]
    exact (fixed_of_run isRun inside).lowerChar_ofNat
  · rename_i noRun
    split at member
    · rename_i codes found
      have entriesFixed : ∀ entry ∈ lowerSpecials, ∀ code ∈ entry.2, Fixed code := by
        decide +kernel
      rcases List.lookup_eq_some_iff.mp found with ⟨before, after, split, -⟩
      have isEntry : (char.toNat, codes) ∈ lowerSpecials := by simp [split]
      rcases List.mem_map.mp member with ⟨code, isCode, rfl⟩
      exact (entriesFixed _ isEntry code isCode).lowerChar_ofNat
    · rename_i noEntry
      rw [List.mem_singleton] at member
      rw [member]
      exact Fixed.lowerChar_eq ⟨noRun, noEntry⟩

end ContractReplay.Text
