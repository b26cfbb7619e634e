import ContractReplay.Client
import ContractReplay.Demo.Schemas
import ContractReplay.Text.Search
import ContractReplay.Typed.Record

/-!
# The demo service

The service has no state: every call looks at the same three widgets and makes up
its response afresh, so calls do not depend on each other.  The records of its values
are looked up in the catalog by their names, and a call that does not find one fails.
-/

namespace ContractReplay.Demo

/-! ## Operations -/

/-- What the service can be asked for. -/
inductive Operation where
  | getApiInfo
  | getWidgets
  | createWidget
  | getWidget
  | deleteWidget
  | mirrorFields
  | checkQuery
deriving DecidableEq

namespace Operation

/-- All operations, in the order in which the service publishes them. -/
def all : List Operation :=
  [getApiInfo, getWidgets, createWidget, getWidget, deleteWidget, mirrorFields, checkQuery]

/-- The name of an operation in recorded cases. -/
def externalName : Operation → String
  | getApiInfo => "getApiInfo"
  | getWidgets => "getWidgets"
  | createWidget => "createWidget"
  | getWidget => "getWidget"
  | deleteWidget => "deleteWidget"
  | mirrorFields => "mirrorFields"
  | checkQuery => "checkQuery"

/-- The parameters of an operation, by their names in recorded cases. -/
def externalParameters : Operation → List Parameter
  | getApiInfo => []
  | getWidgets => [
    ⟨"query", .scalar .string, true⟩,
    ⟨"limit", .scalar .integer, true⟩]
  | createWidget => [⟨"widget", .reference "Widget", false⟩]
  | getWidget => [
    ⟨"id", .scalar .string, false⟩,
    ⟨"ifNotETag", .scalar .string, true⟩]
  | deleteWidget => [⟨"id", .scalar .string, false⟩]
  | mirrorFields => [
    ⟨"field", .reference "Any", false⟩,
    ⟨"matrix", .list (.list (.scalar .float)), true⟩]
  | checkQuery => [
    ⟨"string", .scalar .string, false⟩,
    ⟨"boolean", .scalar .boolean, false⟩,
    ⟨"double", .scalar .float, false⟩,
    ⟨"int32", .scalar .integer, false⟩,
    ⟨"int64", .scalar .integer, false⟩,
    ⟨"enum", .reference "Answer", false⟩,
    ⟨"datetime", .scalar .timestamp, false⟩]

/-- The method that a client declares for an operation. -/
def method (operation : Operation) : Method where
  name := Naming.internalName operation.externalName
  parameters := operation.externalParameters.map fun parameter =>
    { parameter with name := Naming.internalName parameter.name }

/-- The operation whose method has a name. -/
def named? (name : String) : Option Operation :=
  all.find? (·.method.name == name)

end Operation

/-! ## Widgets -/

/-- A widget on the shelf. -/
structure Widget where
  id : String
  name : String
  price : Binary64

/-- The widgets that the service keeps. -/
def shelf : List Widget := [
  ⟨"1", "shoe", .ofDecimal false 999 (-2)⟩,
  ⟨"2", "hat", .ofDecimal false 145 (-1)⟩,
  ⟨"3", "scarf", .ofDecimal false 20 0⟩]

/-- A widget as a value of a record. -/
def Widget.toTyped (widget : Widget) (record : RecordSchema) : Typed :=
  .record ((((RecordValueOf.empty record).put "id" (.string widget.id)).put
    "name" (.string widget.name)).put "price" (.float widget.price))

/-- The tag of a widget, which is its id between quotes. -/
def Widget.tag (widget : Widget) : String :=
  "\"" ++ widget.id ++ "\""

/-- The text that a parameter is bound to. -/
def textArgument? (arguments : Arguments) (name : String) : Option String :=
  (arguments.get? name).bind Typed.text?

/-- The widget with the id that a parameter is bound to, or the error that there is none. -/
def widgetByArgument (arguments : Arguments) : Except ServiceError Widget :=
  match textArgument? arguments "id_" with
  | none => .error (.ofMessage "InvalidRequest" "id is required")
  | some id =>
    match shelf.find? (·.id == id) with
    | some widget => .ok widget
    | none => .error (.ofMessage "NotFound" ("Widget " ++ id ++ " not found."))

/-- The widgets whose names contain the text of the query. -/
def matchingWidgets (arguments : Arguments) : List Widget :=
  shelf.filter fun widget =>
    Text.contains widget.name ((textArgument? arguments "query").getD "")

/-- The first widgets of a list, as many as a limit allows. -/
def limited (limit : Option Int64) (widgets : List Widget) : List Widget :=
  match limit with
  | none => widgets
  | some most => widgets.take most.toInt.toNat

/-! ## Replies -/

/-- The reply to a request that is not in order. -/
def invalidRequest (message : String) : Reply :=
  .error (.ofMessage "InvalidRequest" message)

/-- The reply with a response. -/
def success (response : Record) : Reply :=
  .value (.record response)

/-- The names of parameters of a query that are not bound to a value. -/
def missingParameters (arguments : Arguments) : List String :=
  (Operation.checkQuery.externalParameters.map (·.name)).filter fun name =>
    (arguments.get? (Naming.internalName name)).isNone

section

variable (catalog : Catalog)

/-- The record under a name, or the details of the call that fails without it. -/
def recordNamed (name : String) : Except String RecordSchema :=
  (catalog.record name).mapError Failure.display

/-- The response with a name, with nothing set. -/
def emptyResponse (name : String) : Except String Record := do
  return .empty (← recordNamed catalog name)

/-- A widget on the shelf as a value of the record of widgets. -/
def widgetValue (widget : Widget) : Except String Typed := do
  return widget.toTyped (← recordNamed catalog "Widget")

/-- The reply of an operation, or the details of a call that fails for lack of a record. -/
def respond (arguments : Arguments) : Operation → Except String Reply
  | .getApiInfo => do
    let response ← emptyResponse catalog "GetApiInfoResponse"
    return success
      ((response.put "service" (.string "ConformanceApi")).put "version" (.string "1.0.0"))
  | .getWidgets => do
    let limit := (arguments.get? "limit").bind Typed.integer?
    if limit.any (· < 0) then return invalidRequest "limit must not be negative"
    let widgets := matchingWidgets arguments
    let listed ← (limited limit widgets).mapM (widgetValue catalog)
    let response ← emptyResponse catalog "GetWidgetsResponse"
    return success
      ((response.put "widgets" (.list listed)).put
        "total" (.integer (Int64.ofNat widgets.length)))
  | .createWidget =>
    match (arguments.get? "widget").bind Typed.record? with
    | none => return invalidRequest "widget is required"
    | some widget => do
      match widget.missingRequired (← recordNamed catalog "Widget") with
      | [] =>
        let response ← emptyResponse catalog "CreateWidgetResponse"
        let created := widget.put "id" (.string (Nat.repr (shelf.length + 1)))
        return success (response.put "widget" (.record created))
      | missing => return invalidRequest ("widget is missing " ++ ", ".intercalate missing)
  | .getWidget =>
    match widgetByArgument arguments with
    | .error error => return .error error
    | .ok widget => do
      let response ← emptyResponse catalog "GetWidgetResponse"
      if textArgument? arguments "if_not_etag" = some widget.tag then
        return success (response.put "not_modified" (.boolean true))
      else
        let held ← widgetValue catalog widget
        return success ((response.put "widget" held).put "e_tag" (.string widget.tag))
  | .deleteWidget =>
    match widgetByArgument arguments with
    | .error error => return .error error
    | .ok _ => return success (← emptyResponse catalog "DeleteWidgetResponse")
  | .mirrorFields => do
    let response ← emptyResponse catalog "MirrorFieldsResponse"
    return success
      ((response.assign "field" (arguments.get? "field")).assign
        "matrix" (arguments.get? "matrix"))
  | .checkQuery =>
    match missingParameters arguments with
    | [] => return success (← emptyResponse catalog "CheckQueryResponse")
    | missing => return invalidRequest ("query is missing " ++ ", ".intercalate missing)

/-- The answer to a call of the method with a name. -/
def answer (method : String) (arguments : Arguments) : Answer :=
  match Operation.named? method with
  | none => .failed ("no operation named " ++ method)
  | some operation =>
    match respond catalog arguments operation with
    | .ok reply => .reply reply
    | .error details => .failed details

/-- The client of the service, where it finds its records in a catalog. -/
def clientOf : Client Unit where
  methods := Operation.all.map Operation.method
  catalog := catalog
  call := fun method arguments state => (answer catalog method.name arguments, state)

end

/-- The client of the service. -/
def client : Client Unit :=
  clientOf catalog

end ContractReplay.Demo
