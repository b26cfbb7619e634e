import ContractReplay.Proofs.Coercion.References
import ContractReplay.Proofs.Demo.Replies
import ContractReplay.Proofs.Replay.BoundArguments
import ContractReplay.Proofs.Replay.Classification
import ContractReplay.Proofs.Replay.ResponseVerdict

/-!
# The demo service never faults

The demo service answers every call of one of its methods with a record of its catalog or with one
of two errors.  All names to which its schemas refer are in the catalog, so whatever case is
replayed, no type is missing, no call fails and no schema is found invalid.  Where the arguments
were bound from a request, the record has its type: what the service makes itself has the types of
the fields that it is put in, and what it sends back has the type that it was coerced to.
-/

namespace ContractReplay.Demo

open Coercion Schema

variable {arguments : Arguments} {operation : Operation} {reply : Reply} {record : Record}

/-! ## The types of the responses -/

/-- That values of parameters have the types that the method of an operation declares. -/
def TypedArguments (operation : Operation) (arguments : Arguments) : Prop :=
  ∀ name value, arguments.get? name = some value →
    ∃ parameter, operation.method.parameter? name = some parameter ∧
      HasType catalog parameter.schema value ∧ value ≠ .json .null

/-- The value of a parameter has the type of the parameter. -/
theorem TypedArguments.hasType
    (typed : TypedArguments operation arguments)
    {name : String}
    {parameter : Parameter}
    (isParameter : operation.method.parameter? name = some parameter)
    (value : Typed)
    (held : arguments.get? name = some value) :
    HasType catalog parameter.schema value ∧ value ≠ .json .null := by
  rcases typed name value held with ⟨other, isOther, valueTyped⟩
  cases isParameter.symm.trans isOther
  exact valueTyped

theorem typedArguments_of_bindRequest
    {request : Json.Members}
    (bound : bindRequest catalog operation.method request = .ok arguments) :
    TypedArguments operation arguments :=
  fun _ _ held => hasType_of_get? (binds_of_bindRequest bound) held

theorem hasType_toTyped
    {widget : Widget}
    (member : widget ∈ shelf) :
    HasType catalog (.reference "Widget") (widget.toTyped widgetRecord) := by
  have finite : ∀ widget ∈ shelf, ∃ price, widget.price = .finite price := by
    simp only [shelf, List.forall_mem_cons, List.not_mem_nil, false_implies, implies_true, and_true]
    exact ⟨⟨_, rfl⟩, ⟨_, rfl⟩, ⟨_, rfl⟩⟩
  rcases finite widget member with ⟨price, isPrice⟩
  have identified :=
    (hasType_empty catalog widgetRecord).put "id" (.string widget.id) rfl (.string _) nofun
  have named := identified.put "name" (.string widget.name) rfl (.string _) nofun
  have priced := named.put "price" (.float (.finite price)) rfl (.float price) nofun
  rw [Widget.toTyped, isPrice]
  exact .reference resolve_widget priced

/-- The widget of a creation, with its id, is a value of the record of widgets. -/
theorem hasType_created
    {widget : Record}
    (typed : TypedArguments .createWidget arguments)
    (held : (arguments.get? "widget").bind Typed.record? = some widget)
    (id : String) :
    HasType catalog (.reference "Widget") (.record (widget.put "id" (.string id))) := by
  rcases Option.bind_eq_some_iff.mp held with ⟨value, isValue, isRecord⟩
  have same : value = .record widget := by
    cases value <;> simp_all [Typed.record?]
  subst same
  have declared :
      Operation.createWidget.method.parameter? "widget" =
        some ⟨"widget", .reference "Widget", false⟩ := by
    rfl
  have widgetTyped := (typed.hasType declared _ isValue).1
  cases widgetTyped with
  | reference resolved typed =>
      cases resolve_widget.symm.trans resolved
      exact .reference resolve_widget (typed.put "id" (.string id) rfl (.string id) nofun)

theorem mem_shelf_of_mem_limited
    {limit : Option Int64}
    {widget : Widget}
    (member : widget ∈ limited limit (matchingWidgets arguments)) :
    widget ∈ shelf := by
  have matching : widget ∈ matchingWidgets arguments := by
    cases limit with
    | none => exact member
    | some most => exact List.mem_of_mem_take member
  exact (List.mem_filter.mp matching).1

/-- With arguments of the declared types, the response is a value of its record. -/
theorem hasType_of_replies
    (typed : TypedArguments operation arguments)
    (replies : Replies arguments operation (success record)) :
    HasType catalog (.record operation.response) (.record record) := by
  generalize isReply : success record = reply at replies
  cases replies with
  | negativeLimit | noWidget | incomplete | notFound | incompleteQuery => cases isReply
  | apiInfo =>
      cases isReply
      have named :=
        (hasType_empty catalog apiInfoResponse).put "service" (.string "ConformanceApi") rfl
          (.string _) nofun
      exact named.put "version" (.string "1.0.0") rfl (.string _) nofun
  | widgets =>
      cases isReply
      have listed :
          HasType catalog (.list (.reference "Widget"))
            (.list ((limited ((arguments.get? "limit").bind Typed.integer?)
              (matchingWidgets arguments)).map (·.toTyped widgetRecord))) := by
        refine .list fun value member => ?_
        rcases List.mem_map.mp member with ⟨widget, isListed, rfl⟩
        exact hasType_toTyped (mem_shelf_of_mem_limited isListed)
      have filled :=
        (hasType_empty catalog widgetsResponse).put "widgets" (.list _) rfl listed nofun
      exact filled.put "total" (.integer _) rfl (.integer _) nofun
  | created bound =>
      cases isReply
      exact
        (hasType_empty catalog createdResponse).put "widget" (.record _) rfl
          (hasType_created typed bound _) nofun
  | notModified =>
      cases isReply
      exact
        (hasType_empty catalog widgetResponse).put "not_modified" (.boolean true) rfl
          (.boolean true) nofun
  | widget found =>
      cases isReply
      have held :=
        (hasType_empty catalog widgetResponse).put "widget" (Widget.toTyped _ widgetRecord) rfl
          (hasType_toTyped (mem_shelf_of_widgetByArgument found)) nofun
      exact held.put "e_tag" (.string _) rfl (.string _) nofun
  | deleted =>
      cases isReply
      exact hasType_empty catalog deletedResponse
  | mirrored =>
      cases isReply
      have field :
          Operation.mirrorFields.method.parameter? "field" =
            some ⟨"field", .reference "Any", false⟩ := by
        rfl
      have matrix :
          Operation.mirrorFields.method.parameter? "matrix" =
            some ⟨"matrix", .list (.list (.scalar .float)), true⟩ := by
        rfl
      have filled :=
        (hasType_empty catalog mirrorResponse).assign "field" _ rfl (typed.hasType field)
      exact filled.assign "matrix" _ rfl (typed.hasType matrix)
  | completeQuery =>
      cases isReply
      exact hasType_empty catalog queryResponse

/-! ## The codes of failures -/

/-- The codes under which a case of the service can fail. -/
def serviceCodes : List Nat :=
  [3002, 3003, 3004, 3005, 3007]

/-- That an ending is one of those that the service lets happen. -/
def Faultless (ending : Ending) : Prop :=
  ∀ code failure, ending = .failed code failure → code ∈ serviceCodes

theorem refersInside_catalog :
    everyNamed catalog.refersInside catalog = true := by
  decide +kernel

theorem closed_parameter
    {parameter : Parameter}
    (declared : parameter ∈ operation.method.parameters) :
    parameter.schema.Closed catalog := by
  have inside :
      ∀ parameter ∈ operation.method.parameters,
        everywhere catalog.refersInside parameter.schema = true := by
    cases operation <;> decide +kernel
  exact closed_of_everywhere refersInside_catalog (inside parameter declared)

theorem resolve_response
    (operation : Operation) :
    catalog.resolve operation.response.name = .ok (.record operation.response) := by
  cases operation <;> rfl

theorem closed_response
    (operation : Operation) :
    (Schema.record operation.response).Closed catalog :=
  closed_of_resolve refersInside_catalog (resolve_response operation)

theorem closed_errorRecord :
    (Schema.record errorRecord).Closed catalog :=
  closed_of_resolve refersInside_catalog (resolve_errorTypeName catalog)

theorem faultless_of_code
    {code : Nat}
    {failure : Failure}
    (isCode : code ∈ serviceCodes) :
    Faultless (.failed code failure) := by
  intro other _ same
  cases same
  exact isCode

theorem faultless_of_coerceAt
    {path : Path}
    {schema : Schema}
    {raw : Json}
    {failure : Failure}
    (closed : schema.Closed catalog)
    (refused : coerceAt catalog path schema raw = .error failure) :
    Faultless (.failed failure.code failure) := by
  apply faultless_of_code
  rcases code_of_coerceAt_of_closed closed refused with isCode | isCode
  · simp [isCode, serviceCodes]
  · simp [isCode, serviceCodes]

theorem faultless_of_coerceRecord
    {declared : RecordSchema}
    {payload : Json}
    {failure : Failure}
    (closed : (Schema.record declared).Closed catalog)
    (refused : coerceRecord catalog declared payload = .error failure) :
    Faultless (.failed failure.code failure) := by
  have refusedAt : coerceAt catalog rootPath (.record declared) payload = .error failure := by
    rw [coerceAt_record]
    exact map_eq_error_iff.mpr refused
  exact faultless_of_coerceAt closed refusedAt

theorem faultless_of_compared
    {expected actual : Typed}
    {ending : Ending}
    (compared : Compared expected actual ending) :
    Faultless ending := by
  cases compared with
  | equal => exact nofun
  | unequal => exact faultless_of_code (by decide)

/-- A reply of an operation is judged without a fault, whatever is expected. -/
theorem faultless_of_replyEnds
    {expectation : Expectation}
    {ending : Ending}
    (replies : Replies arguments operation reply)
    (ends : ReplyEnds catalog expectation reply ending) :
    Faultless ending := by
  have registered : ∀ actual, reply = .value (.record actual) →
      catalog.record actual.typeName = .ok operation.response := by
    intro actual isValue
    rcases replies.error_or_record with ⟨error, -, isError⟩ | ⟨record, typeName, isRecord⟩
    · cases isValue.symm.trans isError
    · cases isValue.symm.trans isRecord
      rw [typeName, hasRecords_catalog.response]
  cases ends with
  | unreadableError refused => exact faultless_of_coerceRecord closed_errorRecord refused
  | comparedErrors _ compared => exact faultless_of_compared compared
  | unknownRecord unknown => cases unknown.symm.trans (registered _ rfl)
  | unreadableResponse isSchema refused =>
      cases isSchema.symm.trans (registered _ rfl)
      exact faultless_of_coerceRecord (closed_response operation) refused
  | comparedRecords _ _ compared => exact faultless_of_compared compared
  | comparedPlain _ compared => exact faultless_of_compared compared
  | blank => exact nofun
  | valueForError | errorForResponse | populated | plainForEmpty | errorForEmpty =>
      exact faultless_of_code (by decide)

/-! ## Every call and every case -/

theorem exists_operation_of_mem_methods
    {method : Method}
    (published : method ∈ client.methods) :
    ∃ operation : Operation, method = operation.method := by
  rcases List.mem_map.mp published with ⟨operation, -, rfl⟩
  exact ⟨operation, rfl⟩

theorem faultless_of_ends
    {case : Case}
    {ending : Ending}
    {calls : List Call}
    (ends : Ends client case () ending () calls) :
    Faultless ending := by
  cases ends with
  | unpublished => exact faultless_of_code (by decide)
  | unknownKey => exact faultless_of_code (by decide)
  | misfit resolved known first refuses isCode ofCoercion =>
      rcases refuses with ⟨parameter, isParameter, -, refused⟩
      rcases exists_operation_of_mem_methods (mem_of_resolveMethod resolved) with ⟨operation, rfl⟩
      have declared := List.mem_of_find?_eq_some (parameter?_of_resolveParameter isParameter)
      rw [← isCode]
      exact faultless_of_coerceAt (closed_parameter declared) refused
  | answered resolved _ _ called ends =>
      rcases exists_operation_of_mem_methods (mem_of_resolveMethod resolved) with ⟨operation, rfl⟩
      rcases exists_reply_to_call _ operation with ⟨reply, answered, replies⟩
      cases answered.symm.trans called
      cases ends with
      | reply ends => exact faultless_of_replyEnds replies ends

theorem faultless_replayCase
    {most code : Nat}
    {case : Case}
    {lines : List String}
    (verdict : (client.replayCase most case ()).1.outcome.verdict = .failed code lines) :
    code ∈ serviceCodes := by
  rcases replayCase_ends client most case () with ⟨ending, calls, shown, -, rules⟩
  have ends := (rules ending () calls).mpr ⟨rfl, rfl, rfl⟩
  rw [verdict] at shown
  cases shown with
  | failed => exact faultless_of_ends ends _ _ rfl

/--
The demo client is closed and never faults.  Whatever case is replayed, it does not fail for a
type that is missing, a call that went wrong or a schema that is invalid.  Every call of a method
that the client publishes is answered with an error of one of two codes, or with a record value
whose record is registered; where the arguments were bound from a request, the value has the type
of this record.
-/
theorem client_never_faults :
    (∀ (most : Nat) (case : Case) (code : Nat) (lines : List String),
        (client.replayCase most case ()).1.outcome.verdict = .failed code lines →
          code ≠ 3001 ∧ code ≠ 3006 ∧ code ≠ 3008) ∧
      ∀ method ∈ client.methods, ∀ arguments,
        (∃ error, Expected error ∧
            client.call method arguments () = (.reply (.error error), ())) ∨
          ∃ record schema,
            client.call method arguments () = (.reply (.value (.record record)), ()) ∧
              catalog.record record.typeName = .ok schema ∧
              ∀ request, bindRequest catalog method request = .ok arguments →
                HasType catalog (.record schema) (.record record) := by
  constructor
  · intro most case code lines verdict
    have isCode := faultless_replayCase verdict
    simp only [serviceCodes, List.mem_cons, List.not_mem_nil, or_false] at isCode
    omega
  · intro method published arguments
    rcases exists_operation_of_mem_methods published with ⟨operation, rfl⟩
    rcases exists_reply_to_call arguments operation with ⟨reply, answered, replies⟩
    rcases replies.error_or_record with ⟨error, expected, rfl⟩ | ⟨record, typeName, rfl⟩
    · exact .inl ⟨error, expected, answered⟩
    · have registered : catalog.record record.typeName = .ok operation.response := by
        rw [typeName, hasRecords_catalog.response]
      refine .inr ⟨record, operation.response, answered, registered, ?_⟩
      intro request bound
      exact hasType_of_replies (typedArguments_of_bindRequest bound) replies

/-- The arguments of a request to create a cap are answered with a value of a registered record. -/
theorem client_never_faults_creationOfCap :
    bindRequest catalog Operation.createWidget.method
          [("widget", .object [("name", .string "cap")])] =
        .ok ⟨[("widget", some (.record (unpriced none "cap")))]⟩ ∧
      ∃ record schema,
        client.call Operation.createWidget.method
              ⟨[("widget", some (.record (unpriced none "cap")))]⟩ () =
            (.reply (.value (.record record)), ()) ∧
          catalog.record record.typeName = .ok schema ∧
            HasType catalog (.record schema) (.record record) := by
  have bound :
      bindRequest catalog Operation.createWidget.method
          [("widget", .object [("name", .string "cap")])] =
        .ok ⟨[("widget", some (.record (unpriced none "cap")))]⟩ := by
    rfl
  have published : Operation.createWidget.method ∈ client.methods :=
    List.mem_map_of_mem (by decide)
  refine ⟨bound, ?_⟩
  rcases client_never_faults.2 _ published ⟨[("widget", some (.record (unpriced none "cap")))]⟩ with
    ⟨error, -, answered⟩ | ⟨record, schema, answered, registered, typed⟩
  · cases answered
  · exact ⟨record, schema, answered, registered, typed _ bound⟩

end ContractReplay.Demo
