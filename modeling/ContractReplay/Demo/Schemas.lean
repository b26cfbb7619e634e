import ContractReplay.Catalog

/-!
# Schemas of the demo service

The demo service keeps widgets.  One of its records has a field of every kind,
and may hold itself.
-/

namespace ContractReplay.Demo

/-- What the service keeps. -/
def widgetRecord : RecordSchema where
  name := "Widget"
  fields := [
    .ofWireName "id" (.scalar .string),
    { FieldOf.ofWireName "name" (.scalar .string) with required := true },
    .ofWireName "price" (.scalar .float)]

/-- A choice of three answers. -/
def answerEnum : EnumSchema where
  name := "Answer"
  symbols := ["yes", "no", "maybe"]

/-- One field of every kind. -/
def anyRecord : RecordSchema where
  name := "Any"
  fields := [
    .ofWireName "string" (.scalar .string),
    .ofWireName "boolean" (.scalar .boolean),
    .ofWireName "double" (.scalar .float),
    .ofWireName "int32" (.scalar .integer),
    .ofWireName "int64" (.scalar .integer),
    .ofWireName "bytes" (.scalar .binary),
    .ofWireName "datetime" (.scalar .timestamp),
    .ofWireName "object" (.scalar .json),
    .ofWireName "error" (.reference errorTypeName),
    .ofWireName "dto" (.reference "Any"),
    .ofWireName "enum" (.reference "Answer"),
    .ofWireName "array" (.list (.scalar .integer)),
    .ofWireName "map" (.map (.scalar .string)),
    .ofWireName "choice" (.union [.scalar .integer, .scalar .string, .reference "Widget"])]

/-! ## Responses -/

/-- The name and the version of the service. -/
def apiInfoResponse : RecordSchema where
  name := "GetApiInfoResponse"
  fields := [
    .ofWireName "service" (.scalar .string),
    .ofWireName "version" (.scalar .string)]

/-- Some widgets, and how many there are in all. -/
def widgetsResponse : RecordSchema where
  name := "GetWidgetsResponse"
  fields := [
    .ofWireName "widgets" (.list (.reference "Widget")),
    .ofWireName "total" (.scalar .integer)]

/-- The widget that was created. -/
def createdResponse : RecordSchema where
  name := "CreateWidgetResponse"
  fields := [.ofWireName "widget" (.reference "Widget")]

/-- A widget with its tag, or the news that the caller has it already. -/
def widgetResponse : RecordSchema where
  name := "GetWidgetResponse"
  fields := [
    .ofWireName "widget" (.reference "Widget"),
    .ofWireName "eTag" (.scalar .string),
    .ofWireName "notModified" (.scalar .boolean)]

/-- Nothing: a widget was deleted. -/
def deletedResponse : RecordSchema where
  name := "DeleteWidgetResponse"
  fields := []

/-- The fields that were sent. -/
def mirrorResponse : RecordSchema where
  name := "MirrorFieldsResponse"
  fields := [
    .ofWireName "field" (.reference "Any"),
    .ofWireName "matrix" (.list (.list (.scalar .float)))]

/-- Nothing: a query was complete. -/
def queryResponse : RecordSchema where
  name := "CheckQueryResponse"
  fields := []

/-! ## The catalog -/

/-- All named schemas of the service. -/
def schemas : List Schema := [
  .record widgetRecord,
  .enum answerEnum,
  .record anyRecord,
  .record apiInfoResponse,
  .record widgetsResponse,
  .record createdResponse,
  .record widgetResponse,
  .record deletedResponse,
  .record mirrorResponse,
  .record queryResponse]

/-- The schemas of the service have no defect. -/
theorem schemas_valid : (Catalog.ofSchemas schemas).toOption.isSome = true := by
  decide +kernel

/-- The catalog of the service. -/
def catalog : Catalog :=
  (Catalog.ofSchemas schemas).toOption.get schemas_valid

end ContractReplay.Demo
