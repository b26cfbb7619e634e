import ContractReplay.Demo.Service
import ContractReplay.Proofs.Replay.Endings

/-!
# The verdict on an error

Where a case expects an error, the recorded error and the one that the service reported are
both read by the error record before they are compared.  Neither reading can fail for the wire
form of an error, so the verdict is the agreement of the two errors at every level, and a value
in place of an error is never accepted.
-/

namespace ContractReplay

section

variable {catalog : Catalog} {most : Nat}

/-- An error is judged well exactly when it agrees with the expected one at every level. -/
theorem judgeError_eq_ok_iff
    {expected actual : ServiceError} :
    judgeError catalog most expected.toWire actual = .ok () ↔ expected.Same actual := by
  rw [judgeError_of_read (ServiceError.coerceRecordAt_toWire catalog expected rootPath)]
  exact compareValues_eq_ok_iff.trans (ServiceError.equal_toRecord_iff expected actual)

end

section

variable {σ : Type} {client : Client σ} {case : Case} {method : Method} {arguments : Arguments}
  {state : σ} {most : Nat}

theorem expectation_of_error
    {payload : Json}
    (expects : case.error = some payload) :
    case.expectation = .error payload := by
  rw [Case.expectation, expects]

/--
The verdict on an error decides the equality of errors.  Let a case be prepared for a call and
expect the wire form of an error: where the call returns an error, the case passes if and only
if the two errors agree at every level, and where it returns a value, the case fails.  The wire
form of an error is read by the error record whatever is in it.
-/
theorem error_passed_iff_same
    {expected : ServiceError}
    (prepared : client.prepare case = .ok (method, arguments))
    (expects : case.error = some expected.toWire) :
    (∀ actual next, client.call method arguments state = (.reply (.error actual), next) →
        ((client.replayCase most case state).1.outcome.verdict = .passed ↔
          expected.Same actual)) ∧
      (∀ value next, client.call method arguments state = (.reply (.value value), next) →
        ∃ diagnostics,
          (client.replayCase most case state).1.outcome.verdict = .failed 3007 diagnostics) ∧
        ∀ error : ServiceError,
          coerceRecord client.catalog errorRecord error.toWire = .ok error.toRecord := by
  have expectation := expectation_of_error expects
  refine ⟨?_, ?_, ?_⟩
  · intro actual next answered
    rw [passed_iff_judge_eq_ok prepared answered, expectation]
    exact judgeError_eq_ok_iff
  · intro value next answered
    rw [replayCase_of_reply prepared answered, expectation]
    exact ⟨_, rfl⟩
  · intro error
    exact ServiceError.coerceRecordAt_toWire client.catalog error rootPath

end

namespace Demo

/-- The error that the service reports where there is no widget with an id, with some details. -/
def missingWidget (details : Option Json) (innerError : Option ServiceError) : ServiceError :=
  ⟨"NotFound", some "Widget 9 not found.", details, innerError⟩

/-- A case that asks for the deletion of a widget that is not there and expects some error. -/
def deletionOfMissing (expected : ServiceError) : Case :=
  ⟨"delete", "deleteWidget", [("id", .string "9")], none, some expected.toWire⟩

theorem prepare_deletionOfMissing
    (expected : ServiceError) :
    client.prepare (deletionOfMissing expected) =
      .ok (Operation.deleteWidget.method, ⟨[("id_", some (.string "9"))]⟩) := by
  have resolved :
      resolveMethod client.methods "deleteWidget" = .ok Operation.deleteWidget.method := by
    rfl
  have bound :
      bindRequest catalog Operation.deleteWidget.method [("id", .string "9")] =
        .ok ⟨[("id_", some (.string "9"))]⟩ := by
    rfl
  rw [Client.prepare, deletionOfMissing, resolved]
  exact Coercion.map_eq_ok_iff.mpr ⟨_, bound, rfl⟩

end Demo

/-- Details that are `null` make no difference, and an inner error that is not there does. -/
theorem error_passed_iff_same_missingWidget :
    (Demo.client.replayCase 8 (Demo.deletionOfMissing (Demo.missingWidget (some .null) none))
        ()).1.outcome.verdict = .passed ∧
      (Demo.client.replayCase 8
        (Demo.deletionOfMissing (Demo.missingWidget none (some (.ofCode "Gone"))))
        ()).1.outcome.verdict ≠ .passed := by
  have answered :
      Demo.client.call Demo.Operation.deleteWidget.method ⟨[("id_", some (.string "9"))]⟩ () =
        (.reply (.error (Demo.missingWidget none none)), ()) := by
    rfl
  have decided (expected : ServiceError) :
      (Demo.client.replayCase 8 (Demo.deletionOfMissing expected) ()).1.outcome.verdict =
          .passed ↔
        expected.Same (Demo.missingWidget none none) :=
    (error_passed_iff_same (Demo.prepare_deletionOfMissing expected) rfl).1 _ () answered
  constructor
  · rw [decided]
    exact .cons ⟨rfl, rfl, rfl⟩ .nil
  · rw [Ne, decided, ServiceError.same_iff]
    rintro ⟨-, inner⟩
    cases inner

end ContractReplay
