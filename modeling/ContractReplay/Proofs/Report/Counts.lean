import ContractReplay.Report
import Mathlib.Data.List.Basic
import Mathlib.Tactic.Common

/-!
# What a report counts

A report takes outcomes one by one.  Whatever it started with, each outcome goes to the end of
its list and raises one of the two counts by one, so the report on some outcomes holds these
outcomes in order and the numbers of passed and failed ones among them.  Its exit status is the
second number as far as one status is kept for runs without a report.
-/

namespace ContractReplay

theorem Outcome.isPassed_iff
    {outcome : Outcome} :
    outcome.isPassed = true ↔ outcome.verdict = .passed := by
  rw [Outcome.isPassed]
  cases outcome.verdict <;> simp

namespace Report

theorem record_counts
    (report : Report)
    (outcome : Outcome) :
    (report.record outcome).passed = report.passed + [outcome].countP (·.isPassed) ∧
      (report.record outcome).failed = report.failed + [outcome].countP (!·.isPassed) ∧
        (report.record outcome).outcomes.toList = report.outcomes.toList ++ [outcome] := by
  cases isPassed : outcome.isPassed <;> simp [record, isPassed]

theorem foldl_record_counts
    (report : Report)
    (outcomes : List Outcome) :
    (outcomes.foldl record report).passed = report.passed + outcomes.countP (·.isPassed) ∧
      (outcomes.foldl record report).failed = report.failed + outcomes.countP (!·.isPassed) ∧
        (outcomes.foldl record report).outcomes.toList =
          report.outcomes.toList ++ outcomes := by
  induction outcomes generalizing report with
  | nil => simp
  | cons outcome later ih =>
      rcases record_counts report outcome with ⟨passed, failed, listed⟩
      rcases ih (report.record outcome) with ⟨laterPassed, laterFailed, laterListed⟩
      rw [List.foldl_cons, laterPassed, laterFailed, laterListed, passed, failed, listed,
        List.append_assoc, Nat.add_assoc, Nat.add_assoc, ← List.countP_append,
        ← List.countP_append, List.singleton_append]
      exact ⟨rfl, rfl, rfl⟩

theorem passed_ofOutcomes
    (outcomes : List Outcome) :
    (ofOutcomes outcomes).passed = outcomes.countP (·.verdict = .passed) := by
  have sameTest : ∀ outcome ∈ outcomes,
      outcome.isPassed = true ↔ decide (outcome.verdict = .passed) = true := by
    simp [Outcome.isPassed_iff]
  rw [ofOutcomes, (foldl_record_counts empty outcomes).1, List.countP_congr sameTest]
  exact Nat.zero_add _

theorem failed_ofOutcomes
    (outcomes : List Outcome) :
    (ofOutcomes outcomes).failed = outcomes.countP (·.verdict ≠ .passed) := by
  have sameTest : ∀ outcome ∈ outcomes,
      (!outcome.isPassed) = true ↔ decide (outcome.verdict ≠ .passed) = true := by
    simp [← Outcome.isPassed_iff]
  rw [ofOutcomes, (foldl_record_counts empty outcomes).2.1, List.countP_congr sameTest]
  exact Nat.zero_add _

theorem outcomes_ofOutcomes
    (outcomes : List Outcome) :
    (ofOutcomes outcomes).outcomes.toList = outcomes := by
  rw [ofOutcomes, (foldl_record_counts empty outcomes).2.2]
  rfl

theorem failures_ofOutcomes
    (outcomes : List Outcome) :
    (ofOutcomes outcomes).failures = outcomes.filter (·.verdict ≠ .passed) := by
  rw [failures, outcomes_ofOutcomes]
  apply List.filter_congr
  intro outcome _
  cases isPassed : outcome.isPassed <;> simp [isPassed, ← Outcome.isPassed_iff]

theorem failed_ofOutcomes_eq_zero_iff
    {outcomes : List Outcome} :
    (ofOutcomes outcomes).failed = 0 ↔ ∀ outcome ∈ outcomes, outcome.verdict = .passed := by
  rw [failed_ofOutcomes, List.countP_eq_zero]
  simp

/-- What a report tells of the outcomes that were recorded in it. -/
structure AccountsFor (report : Report) (outcomes : List Outcome) : Prop where
  counts : report.passed + report.failed = outcomes.length
  success :
    report.isSuccess = true ↔
      outcomes ≠ [] ∧ ∀ outcome ∈ outcomes, outcome.verdict = .passed
  failures : report.failures = outcomes.filter (·.verdict ≠ .passed)
  status : report.exitStatus = min (outcomes.countP (·.verdict ≠ .passed)) 254
  statusZero : report.exitStatus = 0 ↔ ∀ outcome ∈ outcomes, outcome.verdict = .passed
  notFatal : report.exitStatus ≠ 255

/-- A report accounts for any outcomes that were recorded in it. -/
theorem accountsFor_ofOutcomes
    (outcomes : List Outcome) :
    (ofOutcomes outcomes).AccountsFor outcomes := by
  have counts : (ofOutcomes outcomes).passed + (ofOutcomes outcomes).failed = outcomes.length := by
    rw [passed_ofOutcomes, failed_ofOutcomes,
      List.length_eq_countP_add_countP (·.verdict = .passed)]
    simp
  refine
    { counts := counts
      success := ?success
      failures := failures_ofOutcomes outcomes
      status := by rw [exitStatus, failed_ofOutcomes, maxFailureStatus]
      statusZero := ?statusZero
      notFatal := ?notFatal }
  case success =>
    rw [isSuccess, Bool.and_eq_true, beq_iff_eq, decide_eq_true_eq,
      ← failed_ofOutcomes_eq_zero_iff, ← List.length_pos_iff]
    omega
  case statusZero =>
    rw [← failed_ofOutcomes_eq_zero_iff, exitStatus, maxFailureStatus]
    omega
  case notFatal =>
    rw [exitStatus, maxFailureStatus]
    omega

end Report

end ContractReplay
