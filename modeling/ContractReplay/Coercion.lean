import ContractReplay.Catalog
import ContractReplay.Typed.Record

/-!
# Coercion of JSON to typed values

A JSON value is coerced under a schema and a catalog.  Unions and references are
followed first, until they lead to a schema of one of the other kinds: a union
commits to the first variant whose shape the value has, and a reference to what
is registered under its name.  After that, coercion goes into the value, and so
ends however the schemas refer to each other.
-/

namespace ContractReplay

/-! ## Scalars and enumerations -/

namespace Coercion

/-- The failure of a value that is not of the kind that a schema expects. -/
def wrongKind
    (path : Path)
    (schema expected : String)
    (raw : Json) : Failure :=
  .coercion path schema (.wrongKind expected raw.kind)

/-- The typed value of a scalar. -/
def coerceScalar (path : Path) (raw : Json) : Scalar → Except Failure Typed
  | .boolean =>
    match raw with
    | .bool value => .ok (.boolean value)
    | _ => .error (wrongKind path Scalar.boolean.name "boolean" raw)
  | .integer =>
    match raw with
    | .number found =>
      match found.toInt64? with
      | some value => .ok (.integer value)
      | none => .error (wrongKind path Scalar.integer.name "64-bit integer" raw)
    | _ => .error (wrongKind path Scalar.integer.name "64-bit integer" raw)
  | .float =>
    match raw with
    | .number found => .ok (.float found.toBinary64)
    | _ => .error (wrongKind path Scalar.float.name "number" raw)
  | .string =>
    match raw with
    | .string text => .ok (.string text)
    | _ => .error (wrongKind path Scalar.string.name "string" raw)
  | .binary =>
    match raw with
    | .string text =>
      match Base64.decode text with
      | .ok bytes => .ok (.binary bytes)
      | .error failure => .error (.coercion path Scalar.binary.name (.notBase64 failure))
    | _ => .error (wrongKind path Scalar.binary.name "base64 string" raw)
  | .timestamp =>
    match raw with
    | .string text =>
      match Timestamp.ofText? text with
      | some value => .ok (.timestamp value)
      | none => .error (.coercion path Scalar.timestamp.name (.notTimestamp text))
    | _ => .error (wrongKind path Scalar.timestamp.name "ISO-8601 string" raw)
  | .json => .ok (.json raw)

/-- The typed value of an enumeration symbol. -/
def coerceSymbol
    (path : Path)
    (raw : Json)
    (enumeration : EnumSchema) : Except Failure Typed :=
  match raw with
  | .string symbol =>
    if enumeration.contains symbol then .ok (.enum enumeration.name symbol)
    else .error (.unknownSymbol path enumeration.name symbol)
  | _ => .error (wrongKind path (Schema.enum enumeration).display "string" raw)

/-! ## Shapes -/

/-- Whether a value has the shape of a scalar. -/
def scalarAccepts (raw : Json) : Scalar → Bool
  | .boolean => raw.kind == .boolean
  | .integer =>
    match raw with
    | .number found => found.toInt64?.isSome
    | _ => false
  | .float => raw.kind == .number
  | .string => raw.kind == .string
  | .binary =>
    match raw with
    | .string text => (Base64.decode text).toOption.isSome
    | _ => false
  | .timestamp =>
    match raw with
    | .string text => (Timestamp.ofText? text).isSome
    | _ => false
  | .json => true

/-- Whether a value is a symbol of an enumeration. -/
def enumAccepts (raw : Json) (enumeration : EnumSchema) : Bool :=
  match raw with
  | .string symbol => enumeration.contains symbol
  | _ => false

/-- Whether a value has the shape of a named schema. -/
def namedAccepts (raw : Json) : Named → Bool
  | .record _ => raw.kind == .object
  | .enum enumeration => enumAccepts raw enumeration

mutual

/--
Whether a value has the shape of a schema.  Lists, maps and records are told by
their kind alone, whatever is in them.
-/
def accepts (catalog : Catalog) (raw : Json) : Schema → Except Failure Bool
  | .scalar kind => .ok (scalarAccepts raw kind)
  | .record _ => .ok (raw.kind == .object)
  | .map _ => .ok (raw.kind == .object)
  | .enum enumeration => .ok (enumAccepts raw enumeration)
  | .list _ => .ok (raw.kind == .array)
  | .union variants => anyAccepts catalog raw variants
  | .reference name =>
    match catalog.resolve name with
    | .ok named => .ok (namedAccepts raw named)
    | .error failure => .error failure

/-- Whether a value has the shape of one of some variants, tried in order. -/
def anyAccepts (catalog : Catalog) (raw : Json) : List Schema → Except Failure Bool
  | [] => .ok false
  | variant :: later =>
    match accepts catalog raw variant with
    | .error failure => .error failure
    | .ok true => .ok true
    | .ok false => anyAccepts catalog raw later

end

/-! ## Unions and references -/

/-- The schemas that are neither unions nor references. -/
inductive Head where
  | scalar (kind : Scalar)
  | record (record : RecordSchema)
  | enum (enumeration : EnumSchema)
  | list (element : Schema)
  | map (value : Schema)

/-- A named schema as one that is neither a union nor a reference. -/
def Head.ofNamed : Named → Head
  | .record declared => .record declared
  | .enum enumeration => .enum enumeration

mutual

/-- The schema to which unions and references lead for a value. -/
def head (catalog : Catalog) (raw : Json) (path : Path) : Schema → Except Failure Head
  | .scalar kind => .ok (.scalar kind)
  | .record declared => .ok (.record declared)
  | .enum enumeration => .ok (.enum enumeration)
  | .list element => .ok (.list element)
  | .map value => .ok (.map value)
  | .union variants =>
    match headOfFirst catalog raw path variants with
    | .error failure => .error failure
    | .ok (some found) => .ok found
    | .ok none => .error (.coercion path (Schema.union variants).display (.noVariant raw.kind))
  | .reference name =>
    match catalog.resolve name with
    | .ok named => .ok (.ofNamed named)
    | .error failure => .error failure

/-- The schema to which the first variant leads whose shape a value has, if one has it. -/
def headOfFirst
    (catalog : Catalog)
    (raw : Json)
    (path : Path) : List Schema → Except Failure (Option Head)
  | [] => .ok none
  | variant :: later =>
    match accepts catalog raw variant with
    | .error failure => .error failure
    | .ok true => (head catalog raw path variant).map some
    | .ok false => headOfFirst catalog raw path later

end

end Coercion

open Coercion

/-! ## Lists, maps and records -/

/-- The key under which an object holds a field, if it does: the first candidate that is there. -/
def memberKey? (members : Json.Members) (field : FieldSchema) : Option String :=
  field.candidates.find? members.hasKey

/-- The slots of some fields, filled with the values that a function finds for them. -/
def fillSlots
    (value : FieldSchema → Except Failure (Option Typed)) :
    List FieldSchema → Except Failure (List Slot)
  | [] => .ok []
  | field :: later =>
    match value field with
    | .error failure => .error failure
    | .ok found =>
      (fillSlots value later).map (⟨field.fieldName, field.wireName, found⟩ :: ·)

mutual

/-- The typed value that a JSON value is under a schema; `path` is where the value stands. -/
def coerceAt
    (catalog : Catalog)
    (path : Path)
    (schema : Schema)
    (raw : Json) : Except Failure Typed :=
  match head catalog raw path schema with
  | .error failure => .error failure
  | .ok (.scalar kind) => coerceScalar path raw kind
  | .ok (.enum enumeration) => coerceSymbol path raw enumeration
  | .ok (.list element) =>
    match raw with
    | .array items => (coerceItems catalog path element 0 items).map .list
    | _ => .error (wrongKind path (Schema.list element).display "array" raw)
  | .ok (.map value) =>
    match raw with
    | .object members => (coerceEntries catalog path value members).map .ofEntries
    | _ => .error (wrongKind path (Schema.map value).display "object" raw)
  | .ok (.record record) =>
    match raw with
    | .object members =>
      let value field :=
        match memberKey? members field with
        | none => .ok none
        | some key =>
          coerceMember catalog (path.add (.field field.wireName)) field.schema key members
      (fillSlots value record.fields).map fun slots => .record ⟨record.name, slots⟩
    | _ => .error (wrongKind path (Schema.record record).display "object" raw)

/-- The typed values of the items of an array, from the item at an index on. -/
def coerceItems
    (catalog : Catalog)
    (path : Path)
    (element : Schema)
    (index : Nat) : List Json → Except Failure (List Typed)
  | [] => .ok []
  | item :: later =>
    match coerceAt catalog (path.add (.index index)) element item with
    | .error failure => .error failure
    | .ok value => (coerceItems catalog path element (index + 1) later).map (value :: ·)

/-- The typed values of the members of an object, with their keys. -/
def coerceEntries
    (catalog : Catalog)
    (path : Path)
    (schema : Schema) : List (String × Json) → Except Failure (List (String × Typed))
  | [] => .ok []
  | (key, item) :: later =>
    match coerceAt catalog (path.add (.key key)) schema item with
    | .error failure => .error failure
    | .ok value => (coerceEntries catalog path schema later).map ((key, value) :: ·)

/-- The typed value of the first member under a key, where `null` counts as no value. -/
def coerceMember
    (catalog : Catalog)
    (path : Path)
    (schema : Schema)
    (key : String) : List (String × Json) → Except Failure (Option Typed)
  | [] => .ok none
  | (name, item) :: later =>
    if name = key then
      if item.isNull then .ok none else (coerceAt catalog path schema item).map some
    else coerceMember catalog path schema key later

end

/-- The typed value of the member that holds a field, if there is one and it is not `null`. -/
def coerceField
    (catalog : Catalog)
    (path : Path)
    (members : Json.Members)
    (field : FieldSchema) : Except Failure (Option Typed) :=
  match memberKey? members field with
  | none => .ok none
  | some key =>
    coerceMember catalog (path.add (.field field.wireName)) field.schema key members

/-- The record value that a JSON value is under a record. -/
def coerceRecordAt
    (catalog : Catalog)
    (path : Path)
    (record : RecordSchema)
    (raw : Json) : Except Failure Record :=
  match raw with
  | .object members =>
    (fillSlots (coerceField catalog path members) record.fields).map fun slots =>
      ⟨record.name, slots⟩
  | _ => .error (wrongKind path (Schema.record record).display "object" raw)

/-- Coercion under a record schema gives the record value of `coerceRecordAt`. -/
theorem coerceAt_record
    (catalog : Catalog)
    (path : Path)
    (record : RecordSchema)
    (raw : Json) :
    coerceAt catalog path (.record record) raw =
      (coerceRecordAt catalog path record raw).map .record := by
  cases raw with
  | object members =>
    simp only [coerceAt, head, coerceRecordAt]
    change (fillSlots (coerceField catalog path members) record.fields).map _ = _
    cases fillSlots (coerceField catalog path members) record.fields <;> rfl
  | _ => rfl

/-- The text of the path of the whole value. -/
def rootPath : Path :=
  .ofRoot "$"

/-- The typed value that a JSON value is under a schema. -/
def coerce
    (catalog : Catalog)
    (schema : Schema)
    (raw : Json) : Except Failure Typed :=
  coerceAt catalog rootPath schema raw

/-- The typed value that a JSON value is under a schema, where `null` counts as no value. -/
def coerceOptional
    (catalog : Catalog)
    (path : Path)
    (schema : Schema)
    (raw : Json) : Except Failure (Option Typed) :=
  if raw.isNull then .ok none else (coerceAt catalog path schema raw).map some

/-- The record value that a JSON value is under a record. -/
def coerceRecord
    (catalog : Catalog)
    (record : RecordSchema)
    (raw : Json) : Except Failure Record :=
  coerceRecordAt catalog rootPath record raw

end ContractReplay
