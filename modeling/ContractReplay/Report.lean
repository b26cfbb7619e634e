import ContractReplay.Json.Writer

/-!
# Reports

A report counts the passed and the failed cases of a run and keeps their
outcomes in order.
-/

namespace ContractReplay

/-- How a case ended; a failed one has the code of its failure and lines that tell of it. -/
inductive Verdict where
  | passed
  | failed (code : Int) (diagnostics : List String)
deriving DecidableEq

/-- How the case with a name ended. -/
structure Outcome where
  name : String
  verdict : Verdict
deriving DecidableEq

namespace Outcome

/-- Whether the case passed. -/
def isPassed (outcome : Outcome) : Bool :=
  match outcome.verdict with
  | .passed => true
  | .failed .. => false

/-- The lines that tell of a failure. -/
def diagnostics (outcome : Outcome) : List String :=
  match outcome.verdict with
  | .passed => []
  | .failed _ diagnostics => diagnostics

end Outcome

/-- The counts and the outcomes of the cases of a run. -/
structure Report where
  passed : Nat
  failed : Nat
  outcomes : Array Outcome

namespace Report

/-- The report on no case at all. -/
def empty : Report :=
  ⟨0, 0, #[]⟩

/-- The report with one more outcome. -/
def record (report : Report) (outcome : Outcome) : Report where
  passed := report.passed + if outcome.isPassed then 1 else 0
  failed := report.failed + if outcome.isPassed then 0 else 1
  outcomes := report.outcomes.push outcome

/-- The report on some outcomes, in order. -/
def ofOutcomes (outcomes : List Outcome) : Report :=
  outcomes.foldl record empty

/-- The number of cases. -/
def total (report : Report) : Nat :=
  report.passed + report.failed

/-- Whether there was a case and none failed. -/
def isSuccess (report : Report) : Bool :=
  report.failed == 0 && 0 < report.passed

/-- The outcomes of the failed cases, in order. -/
def failures (report : Report) : List Outcome :=
  report.outcomes.toList.filter (!·.isPassed)

/-- The greatest exit status that stands for a number of failures. -/
def maxFailureStatus : Nat := 254

/-- The exit status: the number of failures, as far as statuses for it go. -/
def exitStatus (report : Report) : Nat :=
  min report.failed maxFailureStatus

/-! ## Text -/

/-- The lines on the counts, with a last word on a success. -/
def countLines (report : Report) : List String :=
  ["passed: " ++ Nat.repr report.passed, "failed: " ++ Nat.repr report.failed] ++
    if report.isSuccess then ["SUCCESS"] else []

/-- The lines on a failed case. -/
def failureLines (outcome : Outcome) : List String :=
  ("FAILED " ++ outcome.name) :: outcome.diagnostics.map ("  " ++ ·)

/-- The lines of the summary: the failures, and then the counts. -/
def summaryLines (report : Report) : List String :=
  report.failures.flatMap failureLines ++ report.countLines

end Report

/-! ## JSON -/

/-- The members on a verdict. -/
def Verdict.members : Verdict → List (String × Json)
  | .passed => [("verdict", .string "passed")]
  | .failed code diagnostics =>
    [("verdict", .string "failed"), ("error_code", .ofInt code)] ++
      if diagnostics.isEmpty then []
      else [("diagnostics", .array (diagnostics.map .string))]

/-- An outcome as a JSON value. -/
def Outcome.toJson (outcome : Outcome) : Json :=
  .object (("name", .string outcome.name) :: outcome.verdict.members)

/-- A report as a JSON value. -/
def Report.toJson (report : Report) : Json :=
  .object [("passed", .ofInt report.passed), ("failed", .ofInt report.failed),
    ("outcomes", .array (report.outcomes.toList.map Outcome.toJson))]

end ContractReplay
