import ContractReplay.Failure
import ContractReplay.Schema
import ContractReplay.Text.Blank

/-!
# Catalogs of named schemas

A catalog holds records and enumerations under their names, besides a record for
service errors that every catalog has.  The references inside a schema stay as
they are and are looked up when a value gets there, so records may refer to each
other and to themselves.  What is registered is a record or an enumeration, never
a reference, so one look-up is all that a reference takes.
-/

namespace ContractReplay

/-- The name of the record that every catalog has. -/
def errorTypeName : String := "Error"

/-- The record of a service error, which may hold another one. -/
def errorRecord : RecordSchema where
  name := errorTypeName
  fields := [
    .ofWireName "code" (.scalar .string),
    .ofWireName "message" (.scalar .string),
    .ofWireName "details" (.scalar .json),
    .ofWireName "innerError" (.reference errorTypeName)]

/-- The registered schemas, in the order of their registration; the error record is not listed. -/
structure Catalog where
  registered : List Named

namespace Catalog

/-- The catalog with the error record alone. -/
def empty : Catalog :=
  ⟨[]⟩

/-! ## Registration -/

/-- The first defect of the fields of a record, given the names that earlier fields took. -/
def fieldDefect? (fieldNames wireNames : List String) : List FieldSchema → Option SchemaDefect
  | [] => none
  | field :: later =>
    if fieldNames.contains field.fieldName then some (.duplicateField field.fieldName)
    else if wireNames.contains field.wireName then some (.duplicateWireName field.wireName)
    else fieldDefect? (field.fieldName :: fieldNames) (field.wireName :: wireNames) later

/-- The first symbol that occurs twice, given the earlier symbols. -/
def symbolDefect? (earlier : List String) : List String → Option SchemaDefect
  | [] => none
  | symbol :: later =>
    if earlier.contains symbol then some (.duplicateSymbol symbol)
    else symbolDefect? (symbol :: earlier) later

/-- The first defect of what a named schema declares. -/
def declarationDefect? : Named → Option SchemaDefect
  | .record record => fieldDefect? [] [] record.fields
  | .enum enumeration => symbolDefect? [] enumeration.symbols

/-- The first defect of a named schema, given the names that are taken. -/
def defect? (taken : List String) (named : Named) : Option SchemaDefect :=
  if taken.contains named.name then some .duplicateName
  else if Text.isBlank named.name then some .blankName
  else if named.name = errorTypeName then some .builtIn
  else declarationDefect? named

/-- The named schemas of a list, if every schema has a name and none has a defect. -/
def validated (taken : List String) : List Schema → Except Failure (List Named)
  | [] => .ok []
  | schema :: later =>
    match schema.named? with
    | none => .error (.invalidSchema schema.display .unnamed)
    | some named =>
      match defect? taken named with
      | some defect => .error (.invalidSchema named.name defect)
      | none => (validated (named.name :: taken) later).map (named :: ·)

/-- The catalog of a list of schemas. -/
def ofSchemas (schemas : List Schema) : Except Failure Catalog :=
  (validated [] schemas).map Catalog.mk

/-! ## Look-up -/

/-- The schema under a name, if there is one. -/
def find? (catalog : Catalog) (name : String) : Option Named :=
  if name = errorTypeName then some (.record errorRecord)
  else catalog.registered.find? (·.name == name)

/-- The schema under a name. -/
def resolve (catalog : Catalog) (name : String) : Except Failure Named :=
  match catalog.find? name with
  | some named => .ok named
  | none => .error (.unknownType name)

/-- The schema that a reference stands for; any other schema stands for itself. -/
def resolveSchema (catalog : Catalog) : Schema → Except Failure Schema
  | .reference name => (catalog.resolve name).map Named.toSchema
  | other => .ok other

/-- The record under a name. -/
def record (catalog : Catalog) (name : String) : Except Failure RecordSchema :=
  match catalog.resolve name with
  | .error failure => .error failure
  | .ok (.record record) => .ok record
  | .ok (.enum enumeration) =>
    .error (.invalidSchema name (.notRecord (Schema.enum enumeration).display))

/-- The names in a catalog, in ascending order. -/
def names (catalog : Catalog) : List String :=
  (errorTypeName :: catalog.registered.map Named.name).mergeSort (· ≤ ·)

/-- The number of schemas in a catalog. -/
def size (catalog : Catalog) : Nat :=
  catalog.registered.length + 1

/-- A catalog always has the error record. -/
def isEmpty (catalog : Catalog) : Bool :=
  catalog.size == 0

end Catalog

end ContractReplay
