import ContractReplay.Naming

/-!
# Schemas

A schema says what shape a value has: a scalar, a record, an enumeration, a
list, a string-keyed map, a union whose variants are tried in order, or a
reference to a record or an enumeration by its name.  Records and enumerations
are the schemas that have names of their own.
-/

namespace ContractReplay

/-- The kinds of scalars. -/
inductive Scalar where
  | boolean
  | integer
  | float
  | string
  | binary
  | timestamp
  | json
deriving DecidableEq

/-- The word for a kind of scalars. -/
def Scalar.name : Scalar → String
  | .boolean => "boolean"
  | .integer => "integer"
  | .float => "float"
  | .string => "string"
  | .binary => "binary"
  | .timestamp => "timestamp"
  | .json => "object"

/--
A field of a record over schemas of type `σ`: the key under which it is written,
the name by which the record knows it, its schema, and whether a record is
incomplete without it.
-/
structure FieldOf (σ : Type) where
  wireName : String
  fieldName : String
  schema : σ
  required : Bool

/-- A record over schemas of type `σ`: its name and its fields in order. -/
structure RecordOf (σ : Type) where
  name : String
  fields : List (FieldOf σ)

/-- An enumeration: its name and its symbols. -/
structure EnumSchema where
  name : String
  symbols : List String
deriving DecidableEq

/-- The shape of a value. -/
inductive Schema where
  | scalar (kind : Scalar)
  | record (record : RecordOf Schema)
  | enum (enumeration : EnumSchema)
  | list (element : Schema)
  | map (value : Schema)
  | union (variants : List Schema)
  | reference (name : String)

/-- A field of a record. -/
abbrev FieldSchema := FieldOf Schema

/-- A record. -/
abbrev RecordSchema := RecordOf Schema

/-- An optional field that is known by the snake-case form of its key. -/
def FieldOf.ofWireName {σ : Type} (wireName : String) (schema : σ) : FieldOf σ where
  wireName := wireName
  fieldName := Naming.snakeCase wireName
  schema := schema
  required := false

/-- The keys under which an object may hold a field, in order of preference. -/
def FieldOf.candidates {σ : Type} (field : FieldOf σ) : List String :=
  Naming.fieldCandidates field.wireName field.fieldName

/-- The first field that is known by a name. -/
def RecordOf.field? {σ : Type} (record : RecordOf σ) (fieldName : String) : Option (FieldOf σ) :=
  record.fields.find? (·.fieldName == fieldName)

/-- Whether a text is a symbol of an enumeration. -/
def EnumSchema.contains (enumeration : EnumSchema) (symbol : String) : Bool :=
  enumeration.symbols.contains symbol

/-- A schema that has a name of its own. -/
inductive Named where
  | record (record : RecordSchema)
  | enum (enumeration : EnumSchema)

/-- The name of a named schema. -/
def Named.name : Named → String
  | .record declared => declared.name
  | .enum enumeration => enumeration.name

/-- A named schema as a schema. -/
def Named.toSchema : Named → Schema
  | .record declared => .record declared
  | .enum enumeration => .enum enumeration

namespace Schema

/-- The named schema that a schema is, if it is one. -/
def named? : Schema → Option Named
  | .record declared => some (.record declared)
  | .enum enumeration => some (.enum enumeration)
  | _ => none

/-- The name of a schema that has one of its own. -/
def name? (schema : Schema) : Option String :=
  schema.named?.map Named.name

mutual

/-- The text by which diagnostics show a schema. -/
def display : Schema → String
  | .scalar kind => kind.name
  | .record declared => "record " ++ declared.name
  | .enum enumeration => "enum " ++ enumeration.name
  | .list element => "list<" ++ display element ++ ">"
  | .map value => "map<string, " ++ display value ++ ">"
  | .union variants => "union<" ++ displayVariants variants ++ ">"
  | .reference name => name

/-- The texts of the variants of a union, with bars between them. -/
def displayVariants : List Schema → String
  | [] => ""
  | [variant] => display variant
  | variant :: later => display variant ++ " | " ++ displayVariants later

end

end Schema

end ContractReplay
