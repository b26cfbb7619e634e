import ContractReplay.Proofs.Replay.Stages
import ContractReplay.Proofs.ServiceError.ErrorRecord

/-!
# How a case ends that made its call

The rules below say how a case ends by the answer to its call, and under which code: a call that
went wrong, a reply of the other kind than what is expected, an expected payload that cannot be
read, and otherwise a comparison of the whole values.  Where nothing is expected, a record value
passes exactly when no slot is set, since a set slot is seen in the wire form whatever it holds.
-/

namespace ContractReplay

/-! ## Endings -/

/-- How the replay of a case ends: well, or with a code and the failure that is reported. -/
inductive Ending where
  | passed
  | failed (code : Nat) (failure : Failure)

namespace Ending

/-- The verdicts that show an ending: a failure is told by its code and its words first. -/
inductive ShownBy : Ending → Verdict → Prop where
  | passed : ShownBy .passed .passed
  | failed
      (code : Nat)
      (failure : Failure)
      (lines : List String) :
      ShownBy (.failed code failure) (.failed code (failure.message :: lines))

/-- The ending that the answer of a check stands for. -/
def ofCheck : Except CaseFailure Unit → Ending
  | .ok () => .passed
  | .error failure => .failed failure.failure.code failure.failure

/-- The ending of a case with a result. -/
def ofResult (result : CaseResult) : Ending :=
  match result.failure with
  | none => .passed
  | some failure => .failed failure.failure.code failure.failure

theorem ofResult_ofCheck
    (name : String)
    (check : Except CaseFailure Unit) :
    ofResult (.ofCheck name check) = ofCheck check := by
  cases check <;> rfl

theorem ofResult_shownBy
    (result : CaseResult) :
    (ofResult result).ShownBy result.outcome.verdict := by
  rcases result with ⟨name, _ | failure⟩
  · exact .passed
  · exact .failed _ _ _

end Ending

/-! ## Rules -/

/-- How the comparison of an expected value with an actual one ends. -/
inductive Compared (expected actual : Typed) : Ending → Prop where
  | equal
      (same : expected.toWire.equal actual.toWire = true) :
      Compared expected actual .passed
  | unequal
      (different : expected.toWire.equal actual.toWire = false) :
      Compared expected actual (.failed 3007 (.mismatch expected.repr actual.repr))

/-- How a case ends whose call brings a reply. -/
inductive ReplyEnds (catalog : Catalog) : Expectation → Reply → Ending → Prop where
  -- An error is expected.
  | valueForError (payload : Json) (value : Typed) :
      ReplyEnds catalog (.error payload) (.value value)
        (.failed 3007 (.mismatch (errorText payload) (valueText value)))
  | unreadableError
      {payload : Json}
      {failure : Failure}
      (refused : coerceRecord catalog errorRecord payload = .error failure)
      (actual : ServiceError) :
      ReplyEnds catalog (.error payload) (.error actual) (.failed failure.code failure)
  | comparedErrors
      {payload : Json}
      {expected : Record}
      {actual : ServiceError}
      {ending : Ending}
      (read : coerceRecord catalog errorRecord payload = .ok expected)
      (compared : Compared (.record expected) (.record actual.toRecord) ending) :
      ReplyEnds catalog (.error payload) (.error actual) ending
  -- A response is expected.
  | errorForResponse (payload : Json) (actual : ServiceError) :
      ReplyEnds catalog (.response payload) (.error actual)
        (.failed 3007 (.mismatch "a success value" (errorText actual.toWire)))
  | unknownRecord
      {actual : Record}
      {failure : Failure}
      (unknown : catalog.record actual.typeName = .error failure)
      (payload : Json) :
      ReplyEnds catalog (.response payload) (.value (.record actual))
        (.failed failure.code failure)
  | unreadableResponse
      {payload : Json}
      {actual : Record}
      {schema : RecordSchema}
      {failure : Failure}
      (registered : catalog.record actual.typeName = .ok schema)
      (refused : coerceRecord catalog schema payload = .error failure) :
      ReplyEnds catalog (.response payload) (.value (.record actual))
        (.failed failure.code failure)
  | comparedRecords
      {payload : Json}
      {expected actual : Record}
      {schema : RecordSchema}
      {ending : Ending}
      (registered : catalog.record actual.typeName = .ok schema)
      (read : coerceRecord catalog schema payload = .ok expected)
      (compared : Compared (.record expected) (.record actual) ending) :
      ReplyEnds catalog (.response payload) (.value (.record actual)) ending
  | comparedPlain
      {payload : Json}
      {actual : Typed}
      {ending : Ending}
      (noRecord : ∀ record : Record, actual ≠ .record record)
      (compared : Compared (.json payload) actual ending) :
      ReplyEnds catalog (.response payload) (.value actual) ending
  -- Nothing is expected.
  | blank
      {actual : Record}
      (unset : ∀ slot ∈ actual.slots, slot.value = none) :
      ReplyEnds catalog .empty (.value (.record actual)) .passed
  | populated
      {actual : Record}
      {slot : Slot}
      (declared : slot ∈ actual.slots)
      (set : slot.value ≠ none) :
      ReplyEnds catalog .empty (.value (.record actual))
        (.failed 3007 (.mismatch "{}" (Typed.record actual).repr))
  | plainForEmpty
      {actual : Typed}
      (noRecord : ∀ record : Record, actual ≠ .record record) :
      ReplyEnds catalog .empty (.value actual)
        (.failed 3007 (.mismatch "an empty success value" (valueText actual)))
  | errorForEmpty (actual : ServiceError) :
      ReplyEnds catalog .empty (.error actual)
        (.failed 3007 (.mismatch "an empty success value" (errorText actual.toWire)))

/-- How a case ends whose call of a method brings an answer. -/
inductive AnswerEnds
    (catalog : Catalog)
    (expectation : Expectation)
    (method : Method) : Answer → Ending → Prop where
  | failed (details : String) :
      AnswerEnds catalog expectation method (.failed details)
        (.failed 3006 (.callFailed method.name details))
  | brokeOff (message : Option String) :
      AnswerEnds catalog expectation method (.brokeOff message)
        (.failed 3006
          (.callFailed method.name ("panicked: " ++ message.getD "unknown panic payload")))
  | reply
      {reply : Reply}
      {ending : Ending}
      (ends : ReplyEnds catalog expectation reply ending) :
      AnswerEnds catalog expectation method (.reply reply) ending

/-! ## The judgement of a comparison -/

variable {catalog : Catalog} {most : Nat} {ending : Ending}

theorem ofCheck_of_compared
    {root : String}
    {expected actual : Typed}
    (compared : Compared expected actual ending) :
    Ending.ofCheck (compareValues most root expected actual) = ending := by
  rw [compareValues]
  cases compared with
  | equal same =>
      rw [if_pos same]
      rfl
  | unequal different =>
      rw [if_neg (Bool.eq_false_iff.mp different)]
      rfl

theorem compared_compareValues
    (most : Nat)
    (root : String)
    (expected actual : Typed) :
    Compared expected actual (.ofCheck (compareValues most root expected actual)) := by
  rw [compareValues]
  split_ifs with same
  · exact .equal same
  · exact .unequal (Bool.eq_false_iff.mpr same)

/-! ## The steps of a judgement -/

/-- An expected error that is read is compared with the actual one, which always can be read. -/
theorem judgeError_of_read
    {payload : Json}
    {expected : Record}
    (read : coerceRecord catalog errorRecord payload = .ok expected)
    (actual : ServiceError) :
    judgeError catalog most payload actual =
      compareValues most "error" (.record expected) (.record actual.toRecord) := by
  have readBack : coerceRecord catalog errorRecord actual.toWire = .ok actual.toRecord :=
    ServiceError.coerceRecordAt_toWire catalog actual rootPath
  rw [judgeError, read, readBack]

/-- The expected payload is read by the record of the actual value. -/
theorem expectedLike_of_registered
    {payload : Json}
    {actual : Record}
    {schema : RecordSchema}
    (registered : catalog.record actual.typeName = .ok schema) :
    expectedLike catalog payload (.record actual) =
      (coerceRecord catalog schema payload).map .record := by
  rw [expectedLike, registered]

/-- The expected payload is taken as it is where the actual value is no record value. -/
theorem expectedLike_of_not_record
    {payload : Json}
    {actual : Typed}
    (noRecord : ∀ record : Record, actual ≠ .record record) :
    expectedLike catalog payload actual = .ok (.json payload) := by
  rw [expectedLike]
  exact fun record isRecord => noRecord record isRecord

theorem judgeEmpty_of_not_record
    {actual : Typed}
    (noRecord : ∀ record : Record, actual ≠ .record record) :
    judgeEmpty most actual = unexpected "an empty success value" (valueText actual) := by
  rw [judgeEmpty]
  exact fun record isRecord => noRecord record isRecord

theorem judgeEmpty_of_blank
    {actual : Record}
    (unset : ∀ slot ∈ actual.slots, slot.value = none) :
    judgeEmpty most (.record actual) = .ok () := by
  rw [judgeEmpty, if_pos (RecordValueOf.isEmpty_iff.mpr unset)]

/-- A set slot is seen in the comparison with the cleared record value. -/
theorem ofCheck_judgeEmpty_of_populated
    {actual : Record}
    (populated : ¬ ∀ slot ∈ actual.slots, slot.value = none) :
    Ending.ofCheck (judgeEmpty most (.record actual)) =
      .failed 3007 (.mismatch "{}" (Typed.record actual).repr) := by
  rw [← RecordValueOf.isEmpty_iff] at populated
  have different :
      ¬ (Typed.record actual.cleared).toWire.equal (Typed.record actual).toWire = true :=
    fun same => populated (RecordValueOf.equal_cleared_iff.mp same)
  have blank : (Typed.record actual.cleared).repr = "{}" := by
    rw [Typed.repr]
    show actual.cleared.toWire.compact = "{}"
    rw [RecordValueOf.toWire_cleared]
    rfl
  rw [judgeEmpty, if_neg populated, compareValues, if_neg different, blank]
  rfl

/-! ## The judgement of a reply -/

/-- Each rule gives the ending of the judgement. -/
theorem ofCheck_judge_of_replyEnds
    {expectation : Expectation}
    {reply : Reply}
    (ends : ReplyEnds catalog expectation reply ending) :
    Ending.ofCheck (judge catalog most expectation reply) = ending := by
  cases ends with
  | valueForError => rfl
  | unreadableError refused =>
      rw [judge, judgeError, refused]
      rfl
  | comparedErrors read compared =>
      rw [judge, judgeError_of_read read]
      exact ofCheck_of_compared compared
  | errorForResponse => rfl
  | unknownRecord unknown =>
      rw [judge, judgeResponse, expectedLike, unknown]
      rfl
  | unreadableResponse registered refused =>
      rw [judge, judgeResponse, expectedLike_of_registered registered, refused]
      rfl
  | comparedRecords registered read compared =>
      rw [judge, judgeResponse, expectedLike_of_registered registered, read]
      exact ofCheck_of_compared compared
  | comparedPlain noRecord compared =>
      rw [judge, judgeResponse, expectedLike_of_not_record noRecord]
      exact ofCheck_of_compared compared
  | blank unset =>
      rw [judge, judgeEmpty_of_blank unset]
      rfl
  | populated declared set =>
      exact ofCheck_judgeEmpty_of_populated fun unset => set (unset _ declared)
  | plainForEmpty noRecord =>
      rw [judge, judgeEmpty_of_not_record noRecord]
      rfl
  | errorForEmpty => rfl

theorem replyEnds_judgeError
    (payload : Json)
    (actual : ServiceError) :
    ReplyEnds catalog (.error payload) (.error actual)
      (.ofCheck (judgeError catalog most payload actual)) := by
  cases read : coerceRecord catalog errorRecord payload with
  | error failure =>
      rw [judgeError, read]
      exact .unreadableError read actual
  | ok expected =>
      rw [judgeError_of_read read]
      exact .comparedErrors read (compared_compareValues _ _ _ _)

theorem replyEnds_judgeResponse
    (payload : Json)
    (actual : Typed) :
    ReplyEnds catalog (.response payload) (.value actual)
      (.ofCheck (judgeResponse catalog most payload actual)) := by
  rw [judgeResponse]
  by_cases isRecord : ∃ record : Record, actual = .record record
  · rcases isRecord with ⟨record, rfl⟩
    cases registered : catalog.record record.typeName with
    | error failure =>
        rw [expectedLike, registered]
        exact .unknownRecord registered payload
    | ok schema =>
        rw [expectedLike_of_registered registered]
        cases read : coerceRecord catalog schema payload with
        | error failure => exact .unreadableResponse registered read
        | ok expected =>
            exact .comparedRecords registered read (compared_compareValues _ _ _ _)
  · have noRecord : ∀ record : Record, actual ≠ .record record :=
      fun record same => isRecord ⟨record, same⟩
    rw [expectedLike_of_not_record noRecord]
    exact .comparedPlain noRecord (compared_compareValues _ _ _ _)

theorem replyEnds_judgeEmpty
    (actual : Typed) :
    ReplyEnds catalog .empty (.value actual) (.ofCheck (judgeEmpty most actual)) := by
  by_cases isRecord : ∃ record : Record, actual = .record record
  · rcases isRecord with ⟨record, rfl⟩
    by_cases unset : ∀ slot ∈ record.slots, slot.value = none
    · rw [judgeEmpty_of_blank unset]
      exact .blank unset
    · rw [ofCheck_judgeEmpty_of_populated unset]
      push Not at unset
      rcases unset with ⟨slot, declared, set⟩
      exact .populated declared set
  · have noRecord : ∀ record : Record, actual ≠ .record record :=
      fun record same => isRecord ⟨record, same⟩
    rw [judgeEmpty_of_not_record noRecord]
    exact .plainForEmpty noRecord

/-- The judgement of every reply ends by a rule. -/
theorem replyEnds_judge
    (expectation : Expectation)
    (reply : Reply) :
    ReplyEnds catalog expectation reply (.ofCheck (judge catalog most expectation reply)) := by
  cases expectation with
  | error payload =>
      cases reply with
      | value actual => exact .valueForError payload actual
      | error actual => exact replyEnds_judgeError payload actual
  | response payload =>
      cases reply with
      | value actual => exact replyEnds_judgeResponse payload actual
      | error actual => exact .errorForResponse payload actual
  | empty =>
      cases reply with
      | value actual => exact replyEnds_judgeEmpty actual
      | error actual => exact .errorForEmpty actual

/-! ## The judgement of an answer -/

variable {σ : Type} {client : Client σ} {case : Case} {method : Method}

theorem ofCheck_judgeAnswer_of_answerEnds
    {answer : Answer}
    (ends : AnswerEnds client.catalog case.expectation method answer ending) :
    Ending.ofCheck (client.judgeAnswer most case method answer) = ending := by
  cases ends with
  | failed => rfl
  | brokeOff => rfl
  | reply ends => exact ofCheck_judge_of_replyEnds ends

theorem answerEnds_judgeAnswer
    (answer : Answer) :
    AnswerEnds client.catalog case.expectation method answer
      (.ofCheck (client.judgeAnswer most case method answer)) := by
  cases answer with
  | reply reply => exact .reply (replyEnds_judge case.expectation reply)
  | failed details => exact .failed details
  | brokeOff message => exact .brokeOff message

end ContractReplay
