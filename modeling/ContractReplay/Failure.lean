import ContractReplay.Base64
import ContractReplay.Json.Basic
import ContractReplay.Path

/-!
# Failures of a case

Everything that can make a case fail or a set of schemas invalid, with the code
under which it is reported, the part of the library that reports it, and its
words.  The words for a cause are given with the cause; a failure that someone
else reports may state its cause in words of its own.
-/

namespace ContractReplay

/-- Why a value does not fit a schema. -/
inductive CoercionCause where
  | wrongKind (expected : String) (found : Json.Kind)
  | notBase64 (failure : Base64.DecodeError)
  | notTimestamp (text : String)
  | noVariant (found : Json.Kind)
  | stated (words : String)
deriving DecidableEq

/-- The words for why a value does not fit a schema. -/
def CoercionCause.message : CoercionCause → String
  | .wrongKind expected found => "expected " ++ expected ++ ", found " ++ found.name
  | .notBase64 failure => "invalid base64: " ++ failure.message
  | .notTimestamp text => "invalid ISO-8601 timestamp " ++ Text.quoted text
  | .noVariant found => "no variant accepts " ++ found.name
  | .stated words => words

/-- Why a schema cannot be registered or used under a name. -/
inductive SchemaDefect where
  | unnamed
  | duplicateName
  | blankName
  | builtIn
  | duplicateField (fieldName : String)
  | duplicateWireName (wireName : String)
  | duplicateSymbol (symbol : String)
  | notRecord (display : String)
  | stated (words : String)
deriving DecidableEq

/-- The words for a defect of a schema. -/
def SchemaDefect.message : SchemaDefect → String
  | .unnamed => "only records and enums can be registered by name"
  | .duplicateName => "duplicate type name"
  | .blankName => "type name cannot be empty"
  | .builtIn => "Error is built in and cannot be redefined"
  | .duplicateField fieldName => "duplicate field " ++ fieldName
  | .duplicateWireName wireName => "duplicate wire name " ++ wireName
  | .duplicateSymbol symbol => "duplicate enum symbol " ++ symbol
  | .notRecord display => "expected a record, found " ++ display
  | .stated words => words

/-- What makes a case fail, or a set of schemas invalid. -/
inductive Failure where
  | unknownType (name : String)
  | coercion (path : Path) (schema : String) (cause : CoercionCause)
  | unknownSymbol (path : Path) (enumName symbol : String)
  | methodNotFound (method : String) (tried : List String)
  | unknownParameter (method parameter : String)
  | callFailed (method details : String)
  | mismatch (expected actual : String)
  | invalidSchema (name : String) (defect : SchemaDefect)
deriving DecidableEq

namespace Failure

/-- The code under which a failure is reported. -/
def code : Failure → Nat
  | .unknownType .. => 3001
  | .coercion .. => 3002
  | .unknownSymbol .. => 3003
  | .methodNotFound .. => 3004
  | .unknownParameter .. => 3005
  | .callFailed .. => 3006
  | .mismatch .. => 3007
  | .invalidSchema .. => 3008

/-- The part of the library that reports a failure. -/
def component : Failure → String
  | .unknownType .. | .invalidSchema .. => "TypeRegistry"
  | .coercion .. | .unknownSymbol .. => "Coercer"
  | .methodNotFound .. | .unknownParameter .. => "MethodResolver"
  | .callFailed .. => "ServiceClient"
  | .mismatch .. => "Comparator"

/-- The words for a failure. -/
def message : Failure → String
  | .unknownType name => "no type descriptor registered as \"" ++ name ++ "\""
  | .coercion path schema cause =>
    "cannot coerce " ++ path.text ++ " to " ++ schema ++ ": " ++ cause.message
  | .unknownSymbol path enumName symbol =>
    path.text ++ ": \"" ++ symbol ++ "\" is not a symbol of enum " ++ enumName
  | .methodNotFound method tried =>
    "method not found: \"" ++ method ++ "\" (tried " ++ ", ".intercalate tried ++ ")"
  | .unknownParameter method parameter =>
    "method \"" ++ method ++ "\" does not expect parameter: \"" ++ parameter ++ "\""
  | .callFailed method details => "method \"" ++ method ++ "\" call failed: " ++ details
  | .mismatch expected actual => "expected " ++ expected ++ " but got " ++ actual
  | .invalidSchema name defect => "invalid descriptor " ++ name ++ ": " ++ defect.message

/-- The words for a failure, with its code. -/
def display (failure : Failure) : String :=
  failure.message ++ " (code " ++ Nat.repr failure.code ++ ")"

end Failure

end ContractReplay
