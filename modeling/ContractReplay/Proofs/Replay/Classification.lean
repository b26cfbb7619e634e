import ContractReplay.Proofs.Replay.Binding
import ContractReplay.Proofs.Replay.Endings

/-!
# How a case can end

The rules below say for every client and every case how its replay ends, under which code, in
which state it leaves the client and which calls it makes.  They follow the steps of a replay,
and each rule requires that the steps before it went well: all keys of a request are resolved
before any of its values is looked at, and no call is made before all values fit.  The rules
leave no case out, and no two of them apply to one case with different ends.
-/

namespace ContractReplay

open Coercion

/--
How the replay of a case ends in a state of the client, in which state it leaves the client and
which calls it makes.
-/
inductive Ends {σ : Type} (client : Client σ) (case : Case) (state : σ) :
    Ending → σ → List Call → Prop where
  | unpublished
      (unpublished : ¬ Published client.methods case.method) :
      Ends client case state
        (.failed 3004 (.methodNotFound case.method (Naming.methodCandidates case.method)))
        state []
  | unknownKey
      {method : Method}
      {member : String × Json}
      (resolved : resolveMethod client.methods case.method = .ok method)
      (first : FirstFailing method.Knows case.request member) :
      Ends client case state (.failed 3005 (.unknownParameter method.name member.1)) state []
  | misfit
      {method : Method}
      {member : String × Json}
      {code : Nat}
      {failure : Failure}
      (resolved : resolveMethod client.methods case.method = .ok method)
      (known : ∀ other ∈ case.request, method.Knows other)
      (first : FirstFailing (method.Fits client.catalog) case.request member)
      (refuses : method.Refuses client.catalog member failure)
      (isCode : failure.code = code)
      (ofCoercion : code = 3001 ∨ code = 3002 ∨ code = 3003) :
      Ends client case state (.failed code failure) state []
  | answered
      {method : Method}
      {arguments : Arguments}
      {ending : Ending}
      {next : σ}
      {answer : Answer}
      (resolved : resolveMethod client.methods case.method = .ok method)
      (fit : ∀ member ∈ case.request, method.Fits client.catalog member)
      (bound : bindRequest client.catalog method case.request = .ok arguments)
      (called : client.call method arguments state = (answer, next))
      (ends : AnswerEnds client.catalog case.expectation method answer ending) :
      Ends client case state ending next [⟨method.name, arguments⟩]

/-! ## From the preparation to the end -/

/-- How a case ends, in which state it leaves the client and which calls it makes. -/
def Client.endOf {σ : Type} (client : Client σ) (most : Nat) (case : Case) (state : σ) :
    Ending × σ × List Call :=
  (.ofResult (client.replayCase most case state).1, (client.replayCase most case state).2,
    client.callsOf case)

variable {σ : Type} {client : Client σ} {case : Case} {method : Method} {arguments : Arguments}
  {state next : σ} {calls : List Call} {most : Nat} {ending : Ending} {failure : Failure}

theorem endOf_of_not_prepared
    (refused : client.prepare case = .error failure) :
    client.endOf most case state = (.failed failure.code failure, state, []) := by
  rw [Client.endOf, replayCase_of_refused refused, Client.callsOf, refused]
  rfl

/-- Without a method, a case ends without a call. -/
theorem endOf_of_unresolved
    (unresolved : resolveMethod client.methods case.method = .error failure) :
    client.endOf most case state = (.failed failure.code failure, state, []) := by
  apply endOf_of_not_prepared
  rw [Client.prepare, unresolved]

/-- With a request that is refused, a case ends without a call. -/
theorem endOf_of_refused
    (resolved : resolveMethod client.methods case.method = .ok method)
    (refused : bindRequest client.catalog method case.request = .error failure) :
    client.endOf most case state = (.failed failure.code failure, state, []) := by
  apply endOf_of_not_prepared
  rw [Client.prepare, resolved]
  exact map_eq_error_iff.mpr refused

/-- With a request that is bound, a case makes one call and ends by the answer to it. -/
theorem endOf_of_bound
    (resolved : resolveMethod client.methods case.method = .ok method)
    (bound : bindRequest client.catalog method case.request = .ok arguments)
    {answer : Answer}
    (called : client.call method arguments state = (answer, next)) :
    client.endOf most case state =
      (.ofCheck (client.judgeAnswer most case method answer), next,
        [⟨method.name, arguments⟩]) := by
  have prepared : client.prepare case = .ok (method, arguments) := by
    rw [Client.prepare, resolved]
    exact map_eq_ok_iff.mpr ⟨arguments, bound, rfl⟩
  rw [Client.endOf, replayCase_of_answer prepared called, Client.callsOf, prepared,
    Ending.ofResult_ofCheck]

/-! ## Every case ends in one way -/

/-- Each rule says how the case ends. -/
theorem endOf_of_ends
    (ends : Ends client case state ending next calls) :
    client.endOf most case state = (ending, next, calls) := by
  cases ends with
  | unpublished unpublished =>
      exact endOf_of_unresolved (resolveMethod_eq_error_iff.mpr ⟨unpublished, rfl⟩)
  | unknownKey resolved first =>
      exact endOf_of_refused resolved (bindRequest_eq_error_iff.mpr (.inl ⟨_, first, rfl⟩))
  | misfit resolved known first refuses isCode =>
      rw [← isCode]
      apply endOf_of_refused resolved
      exact bindRequest_eq_error_iff.mpr (.inr ⟨known, _, first, refuses⟩)
  | answered resolved _ bound called ends =>
      rw [endOf_of_bound resolved bound called, ofCheck_judgeAnswer_of_answerEnds ends]

/-- Every case ends by a rule. -/
theorem ends_endOf :
    Ends client case state (client.endOf most case state).1 (client.endOf most case state).2.1
      (client.endOf most case state).2.2 := by
  cases resolved : resolveMethod client.methods case.method with
  | error failure =>
      rw [endOf_of_unresolved resolved]
      rcases resolveMethod_eq_error_iff.mp resolved with ⟨unpublished, rfl⟩
      exact .unpublished unpublished
  | ok method =>
      cases bound : bindRequest client.catalog method case.request with
      | error failure =>
          rw [endOf_of_refused resolved bound]
          rcases bindRequest_eq_error_iff.mp bound with
            ⟨member, first, rfl⟩ | ⟨known, member, first, refuses⟩
          · exact .unknownKey resolved first
          · exact .misfit resolved known first refuses rfl (by simpa using refuses.code_mem)
      | ok arguments =>
          rw [endOf_of_bound resolved bound rfl]
          have fit := exists_bindRequest_eq_ok_iff.mp ⟨arguments, bound⟩
          exact .answered resolved fit bound rfl (answerEnds_judgeAnswer _)

/--
Every case ends by the rules, and in one way only.  Whatever the client, its state and the case
are, there is one ending that the verdict shows; the rules hold of this ending, of the state
that the replay leaves and of the calls that it makes, and of nothing else.
-/
theorem replayCase_ends
    (client : Client σ)
    (most : Nat)
    (case : Case)
    (state : σ) :
    ∃ ending calls,
      ending.ShownBy (client.replayCase most case state).1.outcome.verdict ∧
        client.recording.replayCase most case (state, []) =
          ((client.replayCase most case state).1, (client.replayCase most case state).2, calls) ∧
        ∀ other next made,
          Ends client case state other next made ↔
            other = ending ∧ next = (client.replayCase most case state).2 ∧ made = calls := by
  refine ⟨(client.endOf most case state).1, client.callsOf case, ?_, ?_, ?_⟩
  · exact Ending.ofResult_shownBy _
  · rw [replayCase_recording, List.append_nil]
  · intro other next made
    constructor
    · intro ends
      have same : client.endOf most case state = (other, next, made) := endOf_of_ends ends
      cases same
      exact ⟨rfl, rfl, rfl⟩
    · rintro ⟨rfl, rfl, rfl⟩
      exact ends_endOf

end ContractReplay
