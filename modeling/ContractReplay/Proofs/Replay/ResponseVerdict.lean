import ContractReplay.Demo.Service
import ContractReplay.Proofs.Coercion.WellTyped
import ContractReplay.Proofs.Replay.Stages

/-!
# The verdict on a response

The response that a case expects is recorded as JSON, and read by the record of the value
that the client returned before the two are compared.  For well-typed values the reading
gives back the value that was recorded, so the verdict is the equality of the two wire
forms: a case passes for no other reason, and fails for no other reason.
-/

namespace ContractReplay

open Schema

section

variable {catalog : Catalog}

/-! ## Records of a catalog -/

/-- What is registered under a name has this name. -/
theorem name_of_resolve
    {name : String}
    {named : Named}
    (resolved : catalog.resolve name = .ok named) :
    named.name = name := by
  rw [Catalog.resolve, Catalog.find?] at resolved
  split at resolved
  · rename_i found isFound
    cases resolved
    split_ifs at isFound with isError
    · cases isFound
      exact isError.symm
    · simpa using List.find?_some isFound
  · cases resolved

theorem name_of_record
    {name : String}
    {record : RecordSchema}
    (registered : catalog.record name = .ok record) :
    record.name = name := by
  rw [Catalog.record] at registered
  split at registered
  · cases registered
  · rename_i resolved
    cases registered
    exact name_of_resolve resolved
  · cases registered

/-- A well-typed value of a record has the name of the record. -/
theorem WellTyped.typeName_eq
    {record : RecordSchema}
    {value : Record}
    (typed : WellTyped catalog (.record record) (.record value)) :
    value.typeName = record.name := by
  cases typed
  rfl

/-! ## Judging a response -/

theorem WellTyped.coerceRecord_eq
    {record : RecordSchema}
    {value : Record}
    (typed : WellTyped catalog (.record record) (.record value))
    (straightforward : Straightforward catalog (.record record)) :
    coerceRecord catalog record value.toWire = .ok value := by
  have readBack := typed.coerceAt_toWire straightforward rootPath
  rw [coerceAt_record] at readBack
  rcases Coercion.map_eq_ok_iff.mp readBack with ⟨other, coerced, same⟩
  cases same
  exact coerced

/-- The recorded response is read as the value that was recorded. -/
theorem expectedLike_toWire
    {name : String}
    {record : RecordSchema}
    {expected actual : Record}
    (registered : catalog.record name = .ok record)
    (straightforward : Straightforward catalog (.record record))
    (expectedTyped : WellTyped catalog (.record record) (.record expected))
    (actualTyped : WellTyped catalog (.record record) (.record actual)) :
    expectedLike catalog expected.toWire (.record actual) = .ok (.record expected) := by
  have sameName : actual.typeName = name :=
    actualTyped.typeName_eq.trans (name_of_record registered)
  rw [expectedLike, sameName, registered]
  exact
    Coercion.map_eq_ok_iff.mpr
      ⟨expected, expectedTyped.coerceRecord_eq straightforward, rfl⟩

theorem judgeResponse_eq_ok_iff
    {name : String}
    {record : RecordSchema}
    {expected actual : Record}
    {most : Nat}
    (registered : catalog.record name = .ok record)
    (straightforward : Straightforward catalog (.record record))
    (expectedTyped : WellTyped catalog (.record record) (.record expected))
    (actualTyped : WellTyped catalog (.record record) (.record actual)) :
    judgeResponse catalog most expected.toWire (.record actual) = .ok () ↔
      expected.toWire.equal actual.toWire = true := by
  rw [judgeResponse,
    expectedLike_toWire registered straightforward expectedTyped actualTyped]
  exact compareValues_eq_ok_iff

end

/-! ## The verdict on a case -/

section

variable {σ : Type} {client : Client σ} {case : Case} {method : Method} {arguments : Arguments}
  {state next : σ} {most : Nat}

/-- A case that gets as far as a value passes exactly when the value is judged well. -/
theorem replayCase_passed_iff
    {payload : Json}
    {actual : Typed}
    (prepared : client.prepare case = .ok (method, arguments))
    (response : case.response = some payload)
    (noError : case.error = none)
    (answered : client.call method arguments state = (.reply (.value actual), next)) :
    (client.replayCase most case state).1.outcome.verdict = .passed ↔
      judgeResponse client.catalog most payload actual = .ok () := by
  have expectation : case.expectation = .response payload := by
    rw [Case.expectation, response, noError]
  rw [passed_iff_judge_eq_ok prepared answered, expectation]
  rfl

/--
The verdict on a response decides the equality of wire forms.  Let a case be prepared for a
call that returns a well-typed value of a registered record, and let it expect the wire form
of a well-typed value of this record: it passes if and only if the two wire forms are equal
as JSON, and so it passes where the client's own answer was recorded.
-/
theorem response_passed_iff_equal
    {name : String}
    {record : RecordSchema}
    {expected actual : Record}
    (registered : client.catalog.record name = .ok record)
    (straightforward : Straightforward client.catalog (.record record))
    (expectedTyped : WellTyped client.catalog (.record record) (.record expected))
    (actualTyped : WellTyped client.catalog (.record record) (.record actual))
    (prepared : client.prepare case = .ok (method, arguments))
    (response : case.response = some expected.toWire)
    (noError : case.error = none)
    (answered : client.call method arguments state = (.reply (.value (.record actual)), next)) :
    ((client.replayCase most case state).1.outcome.verdict = .passed ↔
        expected.toWire.equal actual.toWire = true) ∧
      (expected = actual →
        (client.replayCase most case state).1.outcome.verdict = .passed) := by
  have decides :
      (client.replayCase most case state).1.outcome.verdict = .passed ↔
        expected.toWire.equal actual.toWire = true := by
    rw [replayCase_passed_iff prepared response noError answered]
    exact judgeResponse_eq_ok_iff registered straightforward expectedTyped actualTyped
  refine ⟨decides, ?_⟩
  rintro rfl
  exact decides.mpr (Json.equal_self actualTyped.keysDistinct.wire)

end

namespace Demo

/-- A widget without a price. -/
def unpriced (id : Option Typed) (name : String) : Record :=
  ⟨"Widget", [⟨"id", "id", id⟩, ⟨"name", "name", some (.string name)⟩, ⟨"price", "price", none⟩]⟩

/-- The response to the creation of a widget without a price. -/
def created (name : String) : Record :=
  ⟨"CreateWidgetResponse",
    [⟨"widget", "widget", some (.record (unpriced (some (.string "4")) name))⟩]⟩

/-- A case that asks for the creation of a cap and expects some response. -/
def creationOfCap (expected : Record) : Case :=
  ⟨"create", "createWidget", [("widget", .object [("name", .string "cap")])],
    some expected.toWire, none⟩

theorem resolve_widget :
    catalog.resolve "Widget" = .ok (.record widgetRecord) := by
  rfl

/-- The case gets as far as the call, whatever it expects. -/
theorem prepare_creationOfCap
    (expected : Record) :
    client.prepare (creationOfCap expected) =
      .ok (Operation.createWidget.method,
        ⟨[("widget", some (.record (unpriced none "cap")))]⟩) := by
  have resolved :
      resolveMethod client.methods "createWidget" = .ok Operation.createWidget.method := by
    rfl
  have bound :
      bindRequest catalog Operation.createWidget.method
          [("widget", .object [("name", .string "cap")])] =
        .ok ⟨[("widget", some (.record (unpriced none "cap")))]⟩ := by
    rfl
  rw [Client.prepare, creationOfCap, resolved]
  exact Coercion.map_eq_ok_iff.mpr ⟨_, bound, rfl⟩

/-- The response to the creation of a widget leads to widgets and to scalars, and no further. -/
theorem createdResponse_straightforward :
    Straightforward catalog (.record createdResponse) := by
  have confined :
      ∀ schema, Reaches catalog (.record createdResponse) schema →
        schema = .record createdResponse ∨ schema = .reference "Widget" ∨
          schema = .record widgetRecord ∨ ∃ kind, schema = .scalar kind := by
    intro schema reached
    induction reached with
    | here => exact Or.inl rfl
    | step _ leads ih =>
        rcases ih with rfl | rfl | rfl | ⟨kind, rfl⟩
        · cases leads with
          | field declared =>
              obtain rfl := List.mem_singleton.mp declared
              exact Or.inr (Or.inl rfl)
        · cases leads with
          | reference resolved =>
              cases resolve_widget.symm.trans resolved
              exact Or.inr (Or.inr (Or.inl rfl))
        · cases leads with
          | field declared =>
              have allScalar :
                  ∀ field ∈ widgetRecord.fields, ∃ kind, field.schema = .scalar kind := by
                simp [widgetRecord, FieldOf.ofWireName]
              exact Or.inr (Or.inr (Or.inr (allScalar _ declared)))
        · cases leads
  constructor
  · intro record reached
    rcases confined _ reached with same | same | same | ⟨kind, same⟩
    · cases same
      decide +kernel
    · cases same
    · cases same
      decide +kernel
    · cases same
  · intro variants reached
    rcases confined _ reached with same | same | same | ⟨kind, same⟩ <;> cases same

theorem created_wellTyped
    (name : String) :
    WellTyped catalog (.record createdResponse) (.record (created name)) := by
  have widgetTyped :
      WellTyped catalog (.record widgetRecord) (.record (unpriced (some (.string "4")) name)) := by
    refine .record rfl ?_ (by simp)
    intro field slot value paired set
    simp only [widgetRecord, List.zip_cons_cons, List.zip_nil_left, List.mem_cons,
      Prod.mk.injEq, List.not_mem_nil, or_false] at paired
    rcases paired with ⟨rfl, rfl⟩ | ⟨rfl, rfl⟩ | ⟨rfl, rfl⟩
    · cases set
      exact .string "4"
    · cases set
      exact .string name
    · cases set
  refine .record rfl ?_ (by simp)
  intro field slot value paired set
  simp only [createdResponse, List.zip_cons_cons, List.zip_nil_left, List.mem_singleton,
    Prod.mk.injEq] at paired
  rcases paired with ⟨rfl, rfl⟩
  cases set
  exact .reference resolve_widget widgetTyped

end Demo

/-- A client that creates a cap passes where a cap was recorded, and fails with a hat. -/
theorem response_passed_iff_equal_creationOfCap :
    (Demo.client.replayCase 8 (Demo.creationOfCap (Demo.created "cap"))
        ()).1.outcome.verdict = .passed ∧
      (Demo.client.replayCase 8 (Demo.creationOfCap (Demo.created "hat"))
        ()).1.outcome.verdict ≠ .passed := by
  have registered :
      Demo.client.catalog.record "CreateWidgetResponse" = .ok Demo.createdResponse := by
    rfl
  have answered :
      Demo.client.call Demo.Operation.createWidget.method
          ⟨[("widget", some (.record (Demo.unpriced none "cap")))]⟩ () =
        (.reply (.value (.record (Demo.created "cap"))), ()) := by
    rfl
  have decided (name : String) (most : Nat) :
      ((Demo.client.replayCase most (Demo.creationOfCap (Demo.created name))
            ()).1.outcome.verdict = .passed ↔
          (Demo.created name).toWire.equal (Demo.created "cap").toWire = true) ∧
        (Demo.created name = Demo.created "cap" →
          (Demo.client.replayCase most (Demo.creationOfCap (Demo.created name))
            ()).1.outcome.verdict = .passed) :=
    response_passed_iff_equal registered Demo.createdResponse_straightforward
      (Demo.created_wellTyped name) (Demo.created_wellTyped "cap")
      (Demo.prepare_creationOfCap _) rfl rfl answered
  refine ⟨(decided "cap" 8).2 rfl, ?_⟩
  rw [Ne, (decided "hat" 8).1]
  decide

end ContractReplay
