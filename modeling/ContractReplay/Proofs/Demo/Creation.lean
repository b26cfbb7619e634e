import ContractReplay.Proofs.Coercion.FieldUpdate
import ContractReplay.Proofs.Coercion.Typing
import ContractReplay.Proofs.Demo.Replies
import ContractReplay.Proofs.Replay.ErrorVerdict
import ContractReplay.Proofs.Replay.ResponseVerdict

/-!
# The creation of widgets

The demo service makes a new widget from the one that it was sent.  It asks for a name, gives the
widget the next id, whatever id came with it, and leaves all else as it is.  A recorded case may
therefore expect the very object that it sends, with that id put under `id`: other spellings of
the id do not matter, since `id` is the first key under which an object is searched for it.
-/

namespace ContractReplay.Demo

open Coercion Schema

/-! ## Cases that create a widget -/

/-- A case that submits an object as a widget, and expects some response or some error. -/
def creationCase
    (name : String)
    (widget : Json.Members)
    (response error : Option Json) : Case :=
  ⟨name, "createWidget", [("widget", .object widget)], response, error⟩

/-- The response with a widget. -/
def creationResponse (widget : Json.Members) : Json :=
  .object [("widget", .object widget)]

/-- The error of a widget without a name. -/
def namelessError : Json :=
  .object [("code", .string "InvalidRequest"), ("message", .string "widget is missing name")]

/-- What an object has under the first spelling of the name of a widget that it has. -/
def nameHeld? (widget : Json.Members) : Option Json :=
  ["name", "Name"].findSome? fun key => Json.Members.get? key widget

variable {widget : Json.Members} {record : Record}

theorem resolveMethod_createWidget :
    resolveMethod client.methods "createWidget" = .ok Operation.createWidget.method := by
  rfl

/-- What is coerced by the record of widgets is coerced by a reference to it, anywhere. -/
theorem coerceAt_widget
    (coerced : coerceRecord catalog widgetRecord (.object widget) = .ok record)
    (path : Path) :
    coerceAt catalog path (.reference "Widget") (.object widget) = .ok (.record record) := by
  rw [coerceAt_reference, resolve_widget]
  show coerceAt catalog path (.record widgetRecord) (.object widget) = _
  rw [coerceAt_record, coerceRecordAt_anywhere coerced path]
  rfl

theorem prepare_creationCase
    (coerced : coerceRecord catalog widgetRecord (.object widget) = .ok record)
    (name : String)
    (response error : Option Json) :
    client.prepare (creationCase name widget response error) =
      .ok (Operation.createWidget.method, ⟨[("widget", some (.record record))]⟩) := by
  have resolved :
      resolveRequest Operation.createWidget.method [("widget", .object widget)] =
        .ok [(⟨"widget", .reference "Widget", false⟩, .object widget)] := by
    rfl
  have argument :
      coerceOptional catalog (argumentPath ⟨"widget", .reference "Widget", false⟩)
          (.reference "Widget") (.object widget) =
        .ok (some (.record record)) :=
    (coerceOptional_eq_ok_iff rfl).mpr ⟨_, coerceAt_widget coerced _, rfl⟩
  have bound :
      bindRequest catalog Operation.createWidget.method [("widget", .object widget)] =
        .ok ⟨[("widget", some (.record record))]⟩ := by
    simp only [bindRequest, resolved, bindValues, argument]
    rfl
  rw [Client.prepare, creationCase, resolveMethod_createWidget]
  exact map_eq_ok_iff.mpr ⟨_, bound, rfl⟩

/-! ## The reply -/

theorem fields_widgetRecord :
    widgetRecord.fields = [
      ⟨"id", "id", .scalar .string, false⟩,
      ⟨"name", "name", .scalar .string, true⟩,
      ⟨"price", "price", .scalar .float, false⟩] := by
  rfl

/-- The value of the response with a widget. -/
def creationRecord (widget : Record) : Record :=
  ⟨"CreateWidgetResponse", [⟨"widget", "widget", some (.record widget)⟩]⟩

/-- Of a widget, nothing but the name can be missing. -/
theorem missingRequired_widgetRecord
    (record : Record) :
    record.missingRequired widgetRecord = if (record.get? "name").isNone then ["name"] else [] := by
  rw [RecordValueOf.missingRequired, fields_widgetRecord]
  cases named : record.get? "name" <;> simp [List.filter, named]

/-- The service asks for the name, and gives a widget that has one the next id. -/
theorem call_createWidget
    (record : Record) :
    client.call Operation.createWidget.method ⟨[("widget", some (.record record))]⟩ () =
      (.reply
        (if (record.get? "name").isNone then invalidRequest "widget is missing name"
        else success (creationRecord (record.put "id" (.string "4")))), ()) := by
  rcases exists_reply_to_call ⟨[("widget", some (.record record))]⟩ .createWidget with
    ⟨reply, answered, replies⟩
  rw [answered]
  cases replies with
  | noWidget unbound => cases unbound
  | notFound asksFor => simp at asksFor
  | incomplete bound lacks =>
      cases bound
      rw [missingRequired_widgetRecord] at lacks ⊢
      split_ifs at lacks ⊢ with nameless
      · rfl
      · exact absurd rfl lacks
  | created bound complete =>
      cases bound
      rw [missingRequired_widgetRecord] at complete
      split_ifs at complete ⊢ with nameless
      rfl

/-! ## What is expected -/

theorem distinctNames_widgetRecord :
    widgetRecord.DistinctNames := by
  decide +kernel

theorem keysApart_widgetRecord :
    widgetRecord.KeysApart := by
  decide +kernel

/-- The submitted object with the new id is read as the submitted widget with the new id. -/
theorem coerceRecord_insert_id
    (coerced : coerceRecord catalog widgetRecord (.object widget) = .ok record) :
    coerceRecord catalog widgetRecord (.object (Json.Members.insert "id" (.string "4") widget)) =
      .ok (record.put "id" (.string "4")) := by
  have declared : (⟨"id", "id", .scalar .string, false⟩ : FieldSchema) ∈ widgetRecord.fields := by
    simp [fields_widgetRecord]
  exact
    coerceRecordAt_insert coerced distinctNames_widgetRecord keysApart_widgetRecord declared
      nofun rfl

/-- The field of the response, which holds the widget. -/
def widgetField : FieldSchema :=
  ⟨"widget", "widget", .reference "Widget", false⟩

theorem coerceRecord_createdResponse
    (coerced : coerceRecord catalog widgetRecord (.object widget) = .ok record) :
    coerceRecord catalog createdResponse (creationResponse widget) =
      .ok (creationRecord record) := by
  have fields : createdResponse.fields = [widgetField] := by
    rfl
  have held : Json.Members.fieldValue? [("widget", .object widget)] widgetField =
      some (.object widget) :=
    fieldValue?_insert_wireName widgetField (.object widget) []
  have read :
      coerceField catalog rootPath [("widget", .object widget)] widgetField =
        .ok (some (.record record)) :=
    coerceField_eq_ok_iff.mpr
      (.inr ⟨_, _, held, nofun, coerceAt_widget coerced _, rfl⟩)
  rw [coerceRecord, creationResponse, coerceRecordAt, fields, fillSlots, read]
  rfl

theorem keysDistinct_creationRecord
    (coerced : coerceRecord catalog widgetRecord (.object widget) = .ok record) :
    (Typed.record (creationRecord record)).KeysDistinct := by
  have typed : HasType catalog (.record widgetRecord) (.record record) :=
    (conforms_of_coerceAt ((coerceAt_record _ _ _ _).trans (congrArg _ coerced))).hasType
  have scalars :
      ∀ field ∈ widgetRecord.fields, ∃ kind, kind ≠ .json ∧ field.schema = .scalar kind := by
    simp [fields_widgetRecord]
  refine .record fun slot isSlot value isSet => ?_
  obtain rfl := List.mem_singleton.mp isSlot
  cases isSet
  exact typed.keysDistinct_of_scalars scalars

/-- A widget is the one that is expected where the expectation is coerced to it. -/
theorem judgeResponse_creationResponse
    (coerced : coerceRecord catalog widgetRecord (.object widget) = .ok record)
    (most : Nat) :
    judgeResponse catalog most (creationResponse widget) (.record (creationRecord record)) =
      .ok () := by
  have registered : catalog.record (creationRecord record).typeName = .ok createdResponse :=
    hasRecords_catalog.response .createWidget
  rw [judgeResponse, expectedLike_of_registered registered, coerceRecord_createdResponse coerced]
  exact compareValues_eq_ok_iff.mpr (Json.equal_self (keysDistinct_creationRecord coerced).wire)

theorem judgeError_namelessError
    (most : Nat) :
    judgeError catalog most namelessError (.ofMessage "InvalidRequest" "widget is missing name") =
      .ok () := by
  have recorded :
      (ServiceError.ofMessage "InvalidRequest" "widget is missing name").toWire =
        namelessError := by
    rfl
  have same :
      ServiceError.Same (.ofMessage "InvalidRequest" "widget is missing name")
        (.ofMessage "InvalidRequest" "widget is missing name") :=
    .cons ⟨rfl, rfl, rfl⟩ .nil
  rw [← recorded]
  exact judgeError_eq_ok_iff.mpr same

/-! ## The verdict -/

theorem creationCase_of_named
    (coerced : coerceRecord catalog widgetRecord (.object widget) = .ok record)
    (named : record.get? "name" ≠ none)
    (most : Nat)
    (name : String) :
    (client.replayCase most
        (creationCase name widget
          (some (creationResponse (Json.Members.insert "id" (.string "4") widget))) none)
        ()).1.outcome.verdict = .passed := by
  have answered := call_createWidget record
  rw [if_neg (by simpa using named)] at answered
  rw [replayCase_passed_iff (prepare_creationCase coerced _ _ _) rfl rfl answered]
  exact judgeResponse_creationResponse (coerceRecord_insert_id coerced) most

theorem creationCase_of_nameless
    (coerced : coerceRecord catalog widgetRecord (.object widget) = .ok record)
    (nameless : record.get? "name" = none)
    (most : Nat)
    (name : String) :
    (client.replayCase most (creationCase name widget none (some namelessError))
        ()).1.outcome.verdict = .passed := by
  have answered := call_createWidget record
  rw [if_pos (by simpa using nameless)] at answered
  rw [passed_iff_judge_eq_ok (prepare_creationCase coerced _ _ _) answered]
  exact judgeError_namelessError most

/-- A widget has no name where no spelling of it is there, or the first that is there has `null`. -/
theorem get?_name_eq_none_iff
    (coerced : coerceRecord catalog widgetRecord (.object widget) = .ok record) :
    record.get? "name" = none ↔ nameHeld? widget = none ∨ nameHeld? widget = some .null := by
  have declared :
      (⟨"name", "name", .scalar .string, true⟩ : FieldSchema) ∈ widgetRecord.fields := by
    simp [fields_widgetRecord]
  have spellings :
      FieldOf.candidates (⟨"name", "name", .scalar .string, true⟩ : FieldSchema) =
        ["name", "Name"] := by
    decide +kernel
  have unsetIff := get?_eq_none_iff_of_coerceRecordAt distinctNames_widgetRecord declared coerced
  rwa [Json.Members.fieldValue?, spellings] at unsetIff

/--
The creation of a widget returns the submitted widget with the next id.  Let an object be coerced
by the record of widgets.  If its name is set, a case passes that submits the object and expects
it with the next id put under `id`.  If its name is unset, a case passes that submits it and
expects the error of a missing name.  The name is unset exactly where neither spelling of it is
there, or the first that is there has `null`.
-/
theorem creation_returns_widget
    (coerced : coerceRecord catalog widgetRecord (.object widget) = .ok record)
    (most : Nat)
    (name : String) :
    (record.get? "name" ≠ none →
        (client.replayCase most
            (creationCase name widget
              (some (creationResponse (Json.Members.insert "id" (.string "4") widget))) none)
            ()).1.outcome.verdict = .passed) ∧
      (record.get? "name" = none →
        (client.replayCase most (creationCase name widget none (some namelessError))
            ()).1.outcome.verdict = .passed) ∧
        (record.get? "name" = none ↔
          nameHeld? widget = none ∨ nameHeld? widget = some .null) :=
  ⟨fun named => creationCase_of_named coerced named most name,
    fun nameless => creationCase_of_nameless coerced nameless most name,
    get?_name_eq_none_iff coerced⟩

/-- A cap with an id of its own under another spelling, and with a colour. -/
def colouredCap : Json.Members :=
  [("Id", .string "9"), ("name", .string "cap"), ("colour", .string "red")]

/-- A cap with its name under the second spelling, where `null` under the first hides it. -/
def hiddenCap : Json.Members :=
  [("name", .null), ("Name", .string "cap")]

theorem creation_returns_widget_cap :
    (client.replayCase 8
        (creationCase "cap" colouredCap
          (some (.object [("widget", .object
            [("Id", .string "9"), ("name", .string "cap"), ("colour", .string "red"),
              ("id", .string "4")])])) none)
        ()).1.outcome.verdict = .passed ∧
      (client.replayCase 8 (creationCase "cap" hiddenCap none (some namelessError))
        ()).1.outcome.verdict = .passed := by
  have colouredCoerced :
      coerceRecord catalog widgetRecord (.object colouredCap) =
        .ok (unpriced (some (.string "9")) "cap") := by
    rfl
  have hiddenCoerced :
      coerceRecord catalog widgetRecord (.object hiddenCap) = .ok (.empty widgetRecord) := by
    rfl
  exact
    ⟨(creation_returns_widget colouredCoerced 8 "cap").1 nofun,
      (creation_returns_widget hiddenCoerced 8 "cap").2.1 rfl⟩

end ContractReplay.Demo
