import ContractReplay.Replay

/-!
# The stages of a case

A case that cannot be prepared fails without a call.  One that can is decided by the answer to
its call alone, and the judgement of the answer is seen in the outcome: a case passes exactly
when the judgement has nothing to object, and otherwise shows the code of the failure and its
words before everything else.
-/

namespace ContractReplay

/-! ## What the outcome shows -/

theorem outcome_ofCheck_passed_iff
    {name : String}
    {check : Except CaseFailure Unit} :
    (CaseResult.ofCheck name check).outcome.verdict = .passed ↔ check = .ok () := by
  cases check with
  | error failure => exact iff_of_false nofun nofun
  | ok nothing => exact iff_of_true rfl rfl

theorem compareValues_eq_ok_iff
    {most : Nat}
    {root : String}
    {expected actual : Typed} :
    compareValues most root expected actual = .ok () ↔
      expected.toWire.equal actual.toWire = true := by
  rw [compareValues]
  cases expected.toWire.equal actual.toWire with
  | true => exact iff_of_true rfl rfl
  | false => exact iff_of_false nofun nofun

/-! ## From the call to the judgement -/

variable {σ : Type} {client : Client σ} {case : Case} {method : Method} {arguments : Arguments}
  {state next : σ} {most : Nat}

/-- A case that cannot be prepared fails and leaves the state as it is. -/
theorem replayCase_of_refused
    {failure : Failure}
    (refused : client.prepare case = .error failure) :
    client.replayCase most case state =
      (.ofCheck case.name (.error (.ofFailure failure)), state) := by
  rw [Client.replayCase, refused]

/-- A case that is prepared makes its call, and is decided by the answer. -/
theorem replayCase_of_answer
    {answer : Answer}
    (prepared : client.prepare case = .ok (method, arguments))
    (answered : client.call method arguments state = (answer, next)) :
    client.replayCase most case state =
      (.ofCheck case.name (client.judgeAnswer most case method answer), next) := by
  rw [Client.replayCase, prepared]
  simp only [answered]

/-- A reply is judged by what the case expects. -/
theorem replayCase_of_reply
    {reply : Reply}
    (prepared : client.prepare case = .ok (method, arguments))
    (answered : client.call method arguments state = (.reply reply, next)) :
    (client.replayCase most case state).1 =
      .ofCheck case.name (judge client.catalog most case.expectation reply) := by
  rw [replayCase_of_answer prepared answered]
  rfl

/-- A case that is prepared passes when the reply to its call is judged well. -/
theorem passed_iff_judge_eq_ok
    {reply : Reply}
    (prepared : client.prepare case = .ok (method, arguments))
    (answered : client.call method arguments state = (.reply reply, next)) :
    (client.replayCase most case state).1.outcome.verdict = .passed ↔
      judge client.catalog most case.expectation reply = .ok () := by
  rw [replayCase_of_reply prepared answered]
  exact outcome_ofCheck_passed_iff

/-! ## The calls that are made -/

/-- The calls that the replay of a case makes: none, or the one that the case is prepared for. -/
def Client.callsOf (client : Client σ) (case : Case) : List Call :=
  match client.prepare case with
  | .error _ => []
  | .ok (method, arguments) => [⟨method.name, arguments⟩]

/-- A record of the calls is kept without a change to anything else. -/
theorem replayCase_recording
    (client : Client σ)
    (most : Nat)
    (case : Case)
    (state : σ)
    (calls : List Call) :
    client.recording.replayCase most case (state, calls) =
      ((client.replayCase most case state).1,
        (client.replayCase most case state).2, client.callsOf case ++ calls) := by
  have samePreparation : client.recording.prepare case = client.prepare case := rfl
  rw [Client.callsOf]
  cases prepared : client.prepare case with
  | error failure =>
      rw [replayCase_of_refused prepared,
        replayCase_of_refused (samePreparation.trans prepared)]
      rfl
  | ok call =>
      rcases call with ⟨method, arguments⟩
      rw [replayCase_of_answer prepared rfl,
        replayCase_of_answer (samePreparation.trans prepared) rfl]
      rfl

end ContractReplay
