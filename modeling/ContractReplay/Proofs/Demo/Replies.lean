import ContractReplay.Demo.Service
import Mathlib.Tactic.Common

/-!
# The replies of the demo service

The demo service looks up the records of its values by their names, and a call fails where one of
them is missing.  Where a catalog has them all, every call comes to a reply.  Which replies an
operation can give, and when, is said once below; what holds of the replies follows from there by
cases.  The catalog of the service has the records that the service asks for.
-/

namespace ContractReplay.Demo

/-- The record of the response of an operation. -/
def Operation.response : Operation → RecordSchema
  | .getApiInfo => apiInfoResponse
  | .getWidgets => widgetsResponse
  | .createWidget => createdResponse
  | .getWidget => widgetResponse
  | .deleteWidget => deletedResponse
  | .mirrorFields => mirrorResponse
  | .checkQuery => queryResponse

/-! ## Look-ups -/

section

variable {catalog : Catalog}

/-- That a catalog has the records that the service asks for. -/
structure HasRecords (catalog : Catalog) : Prop where
  widget : catalog.record "Widget" = .ok widgetRecord
  response :
    ∀ operation : Operation, catalog.record operation.response.name = .ok operation.response

theorem recordNamed_of_record
    {name : String}
    {record : RecordSchema}
    (found : catalog.record name = .ok record) :
    recordNamed catalog name = .ok record := by
  rw [recordNamed, found]
  rfl

theorem HasRecords.recordNamed_widget
    (has : HasRecords catalog) :
    recordNamed catalog "Widget" = .ok widgetRecord :=
  recordNamed_of_record has.widget

theorem HasRecords.emptyResponse_eq
    (has : HasRecords catalog)
    (operation : Operation) :
    emptyResponse catalog operation.response.name = .ok (.empty operation.response) := by
  rw [emptyResponse, recordNamed_of_record (has.response operation)]
  rfl

theorem HasRecords.widgetValue_eq
    (has : HasRecords catalog)
    (widget : Widget) :
    widgetValue catalog widget = .ok (widget.toTyped widgetRecord) := by
  rw [widgetValue, has.recordNamed_widget]
  rfl

theorem HasRecords.mapM_widgetValue
    (has : HasRecords catalog)
    (widgets : List Widget) :
    widgets.mapM (widgetValue catalog) = .ok (widgets.map (·.toTyped widgetRecord)) := by
  have each : widgetValue catalog = fun widget => pure (widget.toTyped widgetRecord) := by
    funext widget
    exact has.widgetValue_eq widget
  rw [each]
  exact List.mapM_pure

end

/-! ## Replies -/

/-- The replies that an operation can give to its arguments where no record is missing. -/
inductive Replies (arguments : Arguments) : Operation → Reply → Prop where
  | apiInfo :
      Replies arguments .getApiInfo
        (success (((RecordValueOf.empty apiInfoResponse).put
          "service" (.string "ConformanceApi")).put "version" (.string "1.0.0")))
  | negativeLimit
      (negative : ((arguments.get? "limit").bind Typed.integer?).any (· < 0) = true) :
      Replies arguments .getWidgets (invalidRequest "limit must not be negative")
  | widgets
      (notNegative : ¬ ((arguments.get? "limit").bind Typed.integer?).any (· < 0) = true) :
      Replies arguments .getWidgets
        (success (((RecordValueOf.empty widgetsResponse).put
          "widgets" (.list ((limited ((arguments.get? "limit").bind Typed.integer?)
            (matchingWidgets arguments)).map (·.toTyped widgetRecord)))).put
          "total" (.integer (Int64.ofNat (matchingWidgets arguments).length))))
  | noWidget
      (unbound : (arguments.get? "widget").bind Typed.record? = none) :
      Replies arguments .createWidget (invalidRequest "widget is required")
  | incomplete
      {widget : Record}
      (bound : (arguments.get? "widget").bind Typed.record? = some widget)
      (lacks : widget.missingRequired widgetRecord ≠ []) :
      Replies arguments .createWidget
        (invalidRequest
          ("widget is missing " ++ ", ".intercalate (widget.missingRequired widgetRecord)))
  | created
      {widget : Record}
      (bound : (arguments.get? "widget").bind Typed.record? = some widget)
      (complete : widget.missingRequired widgetRecord = []) :
      Replies arguments .createWidget
        (success ((RecordValueOf.empty createdResponse).put
          "widget" (.record (widget.put "id" (.string (Nat.repr (shelf.length + 1)))))))
  | notFound
      {operation : Operation}
      {error : ServiceError}
      (asksFor : operation = .getWidget ∨ operation = .deleteWidget)
      (missing : widgetByArgument arguments = .error error) :
      Replies arguments operation (.error error)
  | notModified
      {widget : Widget}
      (found : widgetByArgument arguments = .ok widget)
      (tagged : textArgument? arguments "if_not_etag" = some widget.tag) :
      Replies arguments .getWidget
        (success ((RecordValueOf.empty widgetResponse).put "not_modified" (.boolean true)))
  | widget
      {widget : Widget}
      (found : widgetByArgument arguments = .ok widget)
      (notTagged : textArgument? arguments "if_not_etag" ≠ some widget.tag) :
      Replies arguments .getWidget
        (success (((RecordValueOf.empty widgetResponse).put
          "widget" (widget.toTyped widgetRecord)).put "e_tag" (.string widget.tag)))
  | deleted
      {widget : Widget}
      (found : widgetByArgument arguments = .ok widget) :
      Replies arguments .deleteWidget (success (.empty deletedResponse))
  | mirrored :
      Replies arguments .mirrorFields
        (success (((RecordValueOf.empty mirrorResponse).assign
          "field" (arguments.get? "field")).assign "matrix" (arguments.get? "matrix")))
  | incompleteQuery
      (lacks : missingParameters arguments ≠ []) :
      Replies arguments .checkQuery
        (invalidRequest ("query is missing " ++ ", ".intercalate (missingParameters arguments)))
  | completeQuery
      (complete : missingParameters arguments = []) :
      Replies arguments .checkQuery (success (.empty queryResponse))

section

variable {catalog : Catalog}

theorem HasRecords.exists_reply_getWidgets
    (has : HasRecords catalog)
    (arguments : Arguments) :
    ∃ reply, respond catalog arguments .getWidgets = .ok reply ∧
      Replies arguments .getWidgets reply := by
  have response : emptyResponse catalog "GetWidgetsResponse" = .ok (.empty widgetsResponse) :=
    has.emptyResponse_eq .getWidgets
  by_cases negative : ((arguments.get? "limit").bind Typed.integer?).any (· < 0) = true
  · refine ⟨_, ?_, .negativeLimit negative⟩
    simp only [respond, if_pos negative]
    rfl
  · refine ⟨_, ?_, .widgets negative⟩
    simp only [respond, if_neg negative, has.mapM_widgetValue, response]
    rfl

/-- Only a widget that lacks nothing is answered with a response. -/
theorem HasRecords.exists_reply_createWidget
    (has : HasRecords catalog)
    (arguments : Arguments) :
    ∃ reply, respond catalog arguments .createWidget = .ok reply ∧
      Replies arguments .createWidget reply := by
  have response : emptyResponse catalog "CreateWidgetResponse" = .ok (.empty createdResponse) :=
    has.emptyResponse_eq .createWidget
  cases bound : (arguments.get? "widget").bind Typed.record? with
  | none =>
      refine ⟨_, ?_, .noWidget bound⟩
      simp only [respond, bound]
      rfl
  | some widget =>
      cases lacks : widget.missingRequired widgetRecord with
      | nil =>
          refine ⟨_, ?_, .created bound lacks⟩
          simp only [respond, bound, has.recordNamed_widget, bind, Except.bind, lacks, response]
          rfl
      | cons missing others =>
          refine ⟨_, ?_, .incomplete bound (lacks ▸ nofun)⟩
          simp only [respond, bound, has.recordNamed_widget, bind, Except.bind, lacks]
          rfl

theorem HasRecords.exists_reply_getWidget
    (has : HasRecords catalog)
    (arguments : Arguments) :
    ∃ reply, respond catalog arguments .getWidget = .ok reply ∧
      Replies arguments .getWidget reply := by
  have response : emptyResponse catalog "GetWidgetResponse" = .ok (.empty widgetResponse) :=
    has.emptyResponse_eq .getWidget
  cases found : widgetByArgument arguments with
  | error error =>
      refine ⟨_, ?_, .notFound (.inl rfl) found⟩
      simp only [respond, found]
      rfl
  | ok widget =>
      by_cases tagged : textArgument? arguments "if_not_etag" = some widget.tag
      · refine ⟨_, ?_, .notModified found tagged⟩
        simp only [respond, found, response, if_pos tagged]
        rfl
      · refine ⟨_, ?_, .widget found tagged⟩
        simp only [respond, found, response, if_neg tagged, has.widgetValue_eq]
        rfl

theorem HasRecords.exists_reply_deleteWidget
    (has : HasRecords catalog)
    (arguments : Arguments) :
    ∃ reply, respond catalog arguments .deleteWidget = .ok reply ∧
      Replies arguments .deleteWidget reply := by
  have response : emptyResponse catalog "DeleteWidgetResponse" = .ok (.empty deletedResponse) :=
    has.emptyResponse_eq .deleteWidget
  cases found : widgetByArgument arguments with
  | error error =>
      refine ⟨_, ?_, .notFound (.inr rfl) found⟩
      simp only [respond, found]
      rfl
  | ok widget =>
      refine ⟨_, ?_, .deleted found⟩
      simp only [respond, found, response]
      rfl

theorem HasRecords.exists_reply_checkQuery
    (has : HasRecords catalog)
    (arguments : Arguments) :
    ∃ reply, respond catalog arguments .checkQuery = .ok reply ∧
      Replies arguments .checkQuery reply := by
  have response : emptyResponse catalog "CheckQueryResponse" = .ok (.empty queryResponse) :=
    has.emptyResponse_eq .checkQuery
  cases lacks : missingParameters arguments with
  | nil =>
      refine ⟨_, ?_, .completeQuery lacks⟩
      simp only [respond, lacks, response]
      rfl
  | cons missing others =>
      refine ⟨_, ?_, .incompleteQuery (lacks ▸ nofun)⟩
      simp only [respond, lacks]
      rfl

/-- Where a catalog has the records, every operation comes to a reply. -/
theorem exists_replies
    (has : HasRecords catalog)
    (arguments : Arguments)
    (operation : Operation) :
    ∃ reply, respond catalog arguments operation = .ok reply ∧
      Replies arguments operation reply := by
  cases operation with
  | getApiInfo =>
      have response : emptyResponse catalog "GetApiInfoResponse" = .ok (.empty apiInfoResponse) :=
        has.emptyResponse_eq .getApiInfo
      refine ⟨_, ?_, .apiInfo⟩
      simp only [respond, response]
      rfl
  | getWidgets => exact has.exists_reply_getWidgets arguments
  | createWidget => exact has.exists_reply_createWidget arguments
  | getWidget => exact has.exists_reply_getWidget arguments
  | deleteWidget => exact has.exists_reply_deleteWidget arguments
  | mirrorFields =>
      have response : emptyResponse catalog "MirrorFieldsResponse" = .ok (.empty mirrorResponse) :=
        has.emptyResponse_eq .mirrorFields
      refine ⟨_, ?_, .mirrored⟩
      simp only [respond, response]
      rfl
  | checkQuery => exact has.exists_reply_checkQuery arguments

end

/-! ## Errors and values -/

/-- The errors of the service are of two codes. -/
def Expected (error : ServiceError) : Prop :=
  error.code = "InvalidRequest" ∨ error.code = "NotFound"

@[simp]
theorem typeName_assign
    (record : Record)
    (name : String)
    (value : Option Typed) :
    (record.assign name value).typeName = record.typeName := by
  rw [RecordValueOf.assign, RecordValueOf.set?]
  cases RecordValueOf.setSlot? name value record.slots <;> rfl

@[simp]
theorem typeName_put
    (record : Record)
    (name : String)
    (value : Typed) :
    (record.put name value).typeName = record.typeName :=
  typeName_assign record name (some value)

@[simp]
theorem typeName_empty
    (record : RecordSchema) :
    (RecordValueOf.empty record : Record).typeName = record.name :=
  rfl

variable {arguments : Arguments} {operation : Operation} {reply : Reply}

theorem expected_of_widgetByArgument
    {error : ServiceError}
    (missing : widgetByArgument arguments = .error error) :
    Expected error := by
  rw [widgetByArgument] at missing
  split at missing
  · cases missing
    exact .inl rfl
  · split at missing
    · cases missing
    · cases missing
      exact .inr rfl

theorem mem_shelf_of_widgetByArgument
    {widget : Widget}
    (found : widgetByArgument arguments = .ok widget) :
    widget ∈ shelf := by
  rw [widgetByArgument] at found
  split at found
  · cases found
  · split at found
    · rename_i isFound
      cases found
      exact List.mem_of_find?_eq_some isFound
    · cases found

/-- A reply is an error of one of the two codes, or a value of the record of the operation. -/
theorem Replies.error_or_record
    (replies : Replies arguments operation reply) :
    (∃ error, Expected error ∧ reply = .error error) ∨
      ∃ record, record.typeName = operation.response.name ∧ reply = success record := by
  cases replies with
  | negativeLimit | noWidget | incomplete | incompleteQuery => exact .inl ⟨_, .inl rfl, rfl⟩
  | notFound _ missing => exact .inl ⟨_, expected_of_widgetByArgument missing, rfl⟩
  | apiInfo | widgets | created | notModified | widget | deleted | mirrored | completeQuery =>
      refine .inr ⟨_, ?_, rfl⟩
      simp [Operation.response]

/-! ## The catalog of the service -/

theorem hasRecords_catalog :
    HasRecords catalog where
  widget := by rfl
  response := by
    intro operation
    cases operation <;> rfl

/-- A call of a method of the service comes to a reply of the operation that it is for. -/
theorem exists_reply_to_call
    (arguments : Arguments)
    (operation : Operation) :
    ∃ reply, client.call operation.method arguments () = (.reply reply, ()) ∧
      Replies arguments operation reply := by
  have isNamed : Operation.named? operation.method.name = some operation := by
    cases operation <;> rfl
  rcases exists_replies hasRecords_catalog arguments operation with ⟨reply, responds, replies⟩
  refine ⟨reply, ?_, replies⟩
  show (answer catalog operation.method.name arguments, ()) = _
  rw [answer, isNamed]
  simp only [responds]

/-- A call fails where its record is missing. -/
example :
    answer .empty "mirror_fields" .empty =
      .failed "no type descriptor registered as \"MirrorFieldsResponse\" (code 3001)" := by
  rfl

end ContractReplay.Demo
