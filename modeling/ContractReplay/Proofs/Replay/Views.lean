import ContractReplay.Demo.Service
import ContractReplay.Proofs.Difference.Enumeration
import ContractReplay.Proofs.Replay.Isolation

/-!
# Runs under other settings

The settings of a run say which cases it is for and how many differences a failed case shows.
Neither decides anything: a number of differences cuts the lines of a failure short and leaves
its code and its message, and the cases that a run is not for are left out.  Where the answers
of a client depend on nothing but the call, a run under any settings can be seen in a run of
all cases that shows at least as much.
-/

namespace ContractReplay

/-! ## Failures cut short -/

/-- The failure with the first of its differences, up to a number of them. -/
def CaseFailure.capped (most : Nat) (failure : CaseFailure) : CaseFailure :=
  { failure with differences := failure.differences.take most }

/-- The verdict with the message and the first differences of a failure, up to a number of them. -/
def Verdict.capped (most : Nat) : Verdict → Verdict
  | .passed => .passed
  | .failed code diagnostics => .failed code (diagnostics.take (most + 1))

/-- The outcome with its verdict cut short. -/
def Outcome.capped (most : Nat) (outcome : Outcome) : Outcome :=
  { outcome with verdict := outcome.verdict.capped most }

theorem Outcome.isPassed_capped
    (most : Nat)
    (outcome : Outcome) :
    (outcome.capped most).isPassed = outcome.isPassed := by
  rcases outcome with ⟨name, verdict⟩
  cases verdict <;> rfl

/-- A failure without differences has nothing to cut. -/
theorem refusal_capped
    (failure : Failure)
    (most : Nat) :
    (Except.error (.ofFailure failure) : Except CaseFailure Unit).mapError (·.capped most) =
      .error (.ofFailure failure) := by
  simp only [Except.mapError, CaseFailure.capped, CaseFailure.ofFailure, List.take_nil]

/-- The outcome of a failure that is cut short is the outcome cut short. -/
theorem outcome_ofCheck_capped
    (name : String)
    (check : Except CaseFailure Unit)
    (most : Nat) :
    (CaseResult.ofCheck name (check.mapError (·.capped most))).outcome =
      (CaseResult.ofCheck name check).outcome.capped most := by
  cases check with
  | ok => rfl
  | error failure =>
      simp only [Except.mapError, CaseResult.ofCheck, CaseResult.outcome, Outcome.capped,
        Verdict.capped, CaseFailure.capped, CaseResult.differenceLines, List.take_succ_cons,
        List.map_take]

section

variable {catalog : Catalog} {few most : Nat}

/-! ## Judgements under a smaller number -/

theorem take_walk_of_le
    (le : few ≤ most)
    (walk : Walk) :
    walk.take few = (walk.take most).take few := by
  rw [Walk.take_eq_take_toList, Walk.take_eq_take_toList, List.take_take, Nat.min_eq_left le]

theorem compareValues_capped
    (le : few ≤ most)
    (root : String)
    (expected actual : Typed) :
    compareValues few root expected actual =
      (compareValues most root expected actual).mapError (·.capped few) := by
  rw [compareValues, compareValues]
  split_ifs with equal
  · rfl
  · rw [take_walk_of_le le]
    rfl

theorem judgeError_capped
    (le : few ≤ most)
    (payload : Json)
    (actual : ServiceError) :
    judgeError catalog few payload actual =
      (judgeError catalog most payload actual).mapError (·.capped few) := by
  rw [judgeError, judgeError]
  cases coerceRecord catalog errorRecord payload with
  | error failure => exact (refusal_capped failure few).symm
  | ok expected =>
      cases coerceRecord catalog errorRecord actual.toWire with
      | error failure => exact (refusal_capped failure few).symm
      | ok found => exact compareValues_capped le _ _ _

theorem judgeResponse_capped
    (le : few ≤ most)
    (payload : Json)
    (actual : Typed) :
    judgeResponse catalog few payload actual =
      (judgeResponse catalog most payload actual).mapError (·.capped few) := by
  rw [judgeResponse, judgeResponse]
  cases expectedLike catalog payload actual with
  | error failure => exact (refusal_capped failure few).symm
  | ok expected => exact compareValues_capped le _ _ _

theorem judgeEmpty_capped
    (le : few ≤ most)
    (actual : Typed) :
    judgeEmpty few actual = (judgeEmpty most actual).mapError (·.capped few) := by
  cases actual with
  | record record =>
      rw [judgeEmpty, judgeEmpty]
      split_ifs with isEmpty
      · rfl
      · exact compareValues_capped le _ _ _
  | _ => exact (refusal_capped _ few).symm

theorem judge_capped
    (le : few ≤ most)
    (expectation : Expectation)
    (reply : Reply) :
    judge catalog few expectation reply =
      (judge catalog most expectation reply).mapError (·.capped few) := by
  cases expectation with
  | error payload =>
      cases reply with
      | error actual => exact judgeError_capped le payload actual
      | value actual => exact (refusal_capped _ few).symm
  | response payload =>
      cases reply with
      | error actual => exact (refusal_capped _ few).symm
      | value actual => exact judgeResponse_capped le payload actual
  | empty =>
      cases reply with
      | error actual => exact (refusal_capped _ few).symm
      | value actual => exact judgeEmpty_capped le actual

end

section

variable {σ : Type} {client : Client σ} {few most : Nat}

theorem judgeAnswer_capped
    (le : few ≤ most)
    (case : Case)
    (method : Method)
    (answer : Answer) :
    client.judgeAnswer few case method answer =
      (client.judgeAnswer most case method answer).mapError (·.capped few) := by
  rw [Client.judgeAnswer, Client.judgeAnswer]
  cases answer.toReply method with
  | error failure => exact (refusal_capped failure few).symm
  | ok reply => exact judge_capped le case.expectation reply

/-- A smaller number of differences cuts the outcome of a case short and changes nothing else. -/
theorem outcome_replayCase_capped
    (le : few ≤ most)
    (case : Case)
    (state : σ) :
    (client.replayCase few case state).1.outcome =
      (client.replayCase most case state).1.outcome.capped few := by
  cases prepared : client.prepare case with
  | error failure =>
      rw [replayCase_of_refused prepared, replayCase_of_refused prepared,
        ← outcome_ofCheck_capped, refusal_capped]
  | ok call =>
      rcases call with ⟨method, arguments⟩
      rw [replayCase_of_answer prepared rfl, replayCase_of_answer prepared rfl,
        ← outcome_ofCheck_capped, ← judgeAnswer_capped le]

/-- A case passes under one number of differences exactly when it passes under another. -/
theorem isPassed_replayCase
    (first second : Nat)
    (case : Case)
    (state : σ) :
    (client.replayCase first case state).1.outcome.isPassed =
      (client.replayCase second case state).1.outcome.isPassed := by
  rcases Nat.le_total first second with le | le
  · rw [outcome_replayCase_capped le, Outcome.isPassed_capped]
  · rw [outcome_replayCase_capped le, Outcome.isPassed_capped]

/-! ## Answers that depend on the call alone -/

/-- That the answers of a client depend on nothing but the method and the arguments. -/
def Client.AnswersByCall (client : Client σ) : Prop :=
  ∀ method arguments state other,
    (client.call method arguments state).1 = (client.call method arguments other).1

theorem result_replayCase_of_answersByCall
    (answers : client.AnswersByCall)
    (case : Case)
    (state other : σ) :
    (client.replayCase most case state).1 = (client.replayCase most case other).1 := by
  cases prepared : client.prepare case with
  | error failure =>
      rw [replayCase_of_refused prepared, replayCase_of_refused prepared]
  | ok call =>
      rcases call with ⟨method, arguments⟩
      rw [replayCase_of_answer prepared rfl, replayCase_of_answer prepared rfl,
        answers method arguments state other]

/-- Every case of a run ends as it does in one state. -/
theorem results_replayCases_of_answersByCall
    (answers : client.AnswersByCall)
    (other : σ)
    (state : σ)
    (cases : List Case) :
    (client.replayCases most state cases).1 =
      cases.map fun case => (client.replayCase most case other).1 := by
  induction cases generalizing state with
  | nil => rfl
  | cons case later ih =>
      rw [replayCases_cons, List.map_cons, ih,
        result_replayCase_of_answersByCall answers case state other]

end

/-! ## Reports under other settings -/

/-- That an outcome is one that a run is for: its name contains a text, if one is given. -/
def Outcome.SelectedBy : Option String → Outcome → Prop
  | none, _ => True
  | some text, outcome => text.toList <:+: outcome.name.toList

instance : ∀ (part : Option String) (outcome : Outcome), Decidable (outcome.SelectedBy part)
  | none, _ => inferInstanceAs (Decidable True)
  | some text, outcome =>
    inferInstanceAs (Decidable (text.toList <:+: outcome.name.toList))

theorem selectedBy_iff_of_name_eq
    {part : Option String}
    {outcome : Outcome}
    {case : Case}
    (named : outcome.name = case.name) :
    outcome.SelectedBy part ↔ case.SelectedBy part := by
  cases part with
  | none => exact .rfl
  | some text => rw [Outcome.SelectedBy, Case.SelectedBy, named]

/-- The part of a report that some settings show: the selected outcomes, cut short. -/
def Report.view (part : Option String) (most : Nat) (report : Report) : Report :=
  .ofOutcomes
    ((report.outcomes.toList.filter fun outcome => outcome.SelectedBy part).map (·.capped most))

section

variable {σ : Type} {client : Client σ}

theorem ofResults_eq_ofOutcomes
    (results : List CaseResult) :
    Report.ofResults results = .ofOutcomes (Report.ofResults results).outcomes.toList := by
  rw [Report.ofResults, Report.outcomes_ofOutcomes]

/-- The outcomes of a run are those of the selected cases, each in the same state. -/
theorem outcomes_replay_of_answersByCall
    (answers : client.AnswersByCall)
    (part : Option String)
    (most : Nat)
    (suite : Suite)
    (state other : σ) :
    (Report.ofResults (client.replay part most suite state).1).outcomes.toList =
      (suite.cases.filter fun case => case.SelectedBy part).map fun case =>
        (client.replayCase most case other).1.outcome := by
  rw [Report.ofResults, Report.outcomes_ofOutcomes, Client.replay,
    results_replayCases_of_answersByCall answers other, filtered_eq_filter, List.map_map]
  rfl

/-- Where the outcomes of a run are seen from, all of its cases were replayed. -/
theorem filter_outcomes_replay
    (answers : client.AnswersByCall)
    (part : Option String)
    (most : Nat)
    (suite : Suite)
    (state other : σ) :
    ((Report.ofResults (client.replay none most suite state).1).outcomes.toList.filter
        fun outcome => outcome.SelectedBy part) =
      (suite.cases.filter fun case => case.SelectedBy part).map fun case =>
        (client.replayCase most case other).1.outcome := by
  have allSelected : (suite.cases.filter fun case => case.SelectedBy none) = suite.cases :=
    List.filter_eq_self.mpr fun case _ => decide_eq_true trivial
  have sameSelection :
      ((fun outcome : Outcome => decide (outcome.SelectedBy part)) ∘ fun case =>
          (client.replayCase most case other).1.outcome) =
        fun case => decide (case.SelectedBy part) := by
    funext case
    simp only [Function.comp_apply,
      selectedBy_iff_of_name_eq (name_replayCase client most case other)]
  rw [outcomes_replay_of_answersByCall answers none most suite state other, allSelected,
    List.filter_map, sameSelection]

/--
The selection and the number of differences are views of a run.  Where the answers of a client
depend on nothing but the call, the report of a run for some cases, with some number of
differences, is the report of a run of all cases with at least as many, of which the cases that
were not selected are left out and the lines are cut to the message and the first differences.
So whatever the settings, the same cases pass; and the outcomes of two suites one after the other
are the outcomes of the one and then of the other.
-/
theorem settings_are_views
    (answers : client.AnswersByCall) :
    (∀ (part : Option String) (few most : Nat) (suite : Suite) (state other : σ), few ≤ most →
        Report.ofResults (client.replay part few suite state).1 =
          (Report.ofResults (client.replay none most suite other).1).view part few) ∧
      (∀ (part : Option String) (first second : Nat) (suite : Suite) (state other : σ),
        (Report.ofResults (client.replay part first suite state).1).outcomes.toList.map
            (fun outcome => (outcome.name, outcome.isPassed)) =
          ((Report.ofResults (client.replay none second suite other).1).outcomes.toList.filter
            fun outcome => outcome.SelectedBy part).map
              fun outcome => (outcome.name, outcome.isPassed)) ∧
        ∀ (part : Option String) (most : Nat) (first second : List Case) (state other : σ),
          (Report.ofResults (client.replay part most ⟨first ++ second⟩ state).1).outcomes.toList =
            (Report.ofResults (client.replay part most ⟨first⟩ state).1).outcomes.toList ++
              (Report.ofResults (client.replay part most ⟨second⟩ other).1).outcomes.toList := by
  refine ⟨?_, ?_, ?_⟩
  · intro part few most suite state other le
    rw [ofResults_eq_ofOutcomes, Report.view,
      outcomes_replay_of_answersByCall answers part few suite state other,
      filter_outcomes_replay answers part most suite other other, List.map_map]
    congr 1
    apply List.map_congr_left
    intro case _
    exact outcome_replayCase_capped le case other
  · intro part first second suite state other
    rw [outcomes_replay_of_answersByCall answers part first suite state other,
      filter_outcomes_replay answers part second suite other other, List.map_map, List.map_map]
    apply List.map_congr_left
    intro case _
    simp only [Function.comp_apply, name_replayCase, isPassed_replayCase first second]
  · intro part most first second state other
    rw [outcomes_replay_of_answersByCall answers part most _ state other,
      outcomes_replay_of_answersByCall answers part most _ state other,
      outcomes_replay_of_answersByCall answers part most _ other other, List.filter_append,
      List.map_append]

end

namespace Demo

/-- The client of the service with a count of its calls, on which no answer depends. -/
def countingClient : Client Nat where
  methods := client.methods
  catalog := client.catalog
  call := fun method arguments calls => (answer catalog method.name arguments, calls + 1)

/-- A case that is answered with another widget than it expects, and one without a method. -/
def twoFailures : List Case := [
  ⟨"create a cap", "createWidget", [("widget", .object [("name", .string "cap")])],
    some (.object [("widget", .object [("id", .string "9"), ("name", .string "hat")])]), none⟩,
  ⟨"sell a hat", "sellWidget", [], none, none⟩]

theorem countingClient_answersByCall :
    countingClient.AnswersByCall :=
  fun _ _ _ _ => rfl

end Demo

/-- A run for one of two failing cases and for one difference is seen in a run for both. -/
theorem settings_are_views_twoFailures :
    Report.ofResults (Demo.countingClient.replay (some "cap") 1 ⟨Demo.twoFailures⟩ 0).1 =
        (Report.ofResults (Demo.countingClient.replay none 8 ⟨Demo.twoFailures⟩ 7).1).view
          (some "cap") 1 ∧
      (Report.ofResults
          (Demo.countingClient.replay (some "cap") 9 ⟨Demo.twoFailures⟩ 0).1).outcomes.toList.map
            (fun outcome => (outcome.name, outcome.isPassed)) =
        [("create a cap", false)] := by
  rcases settings_are_views Demo.countingClient_answersByCall with ⟨views, sameVerdicts, -⟩
  refine ⟨views _ 1 8 _ 0 7 (by decide), ?_⟩
  rw [sameVerdicts (some "cap") 9 8 ⟨Demo.twoFailures⟩ 0 7]
  decide +kernel

end ContractReplay
