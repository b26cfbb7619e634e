import ContractReplay.Json.Writer
import ContractReplay.Text.Quoted

/-!
# Errors of reading JSON

A text is malformed when it is no JSON text.  It is misshapen when it is, as
far as it was read, but does not have the shape that was asked for.
-/

namespace ContractReplay.Json

/-- Why a text is no JSON text. -/
inductive SyntaxError where
  | endInList
  | endInObject
  | endInString
  | endInValue
  | expectedColon
  | expectedListCommaOrEnd
  | expectedObjectCommaOrEnd
  | expectedLiteral
  | expectedValue
  | invalidEscape
  | invalidNumber
  | numberOutOfRange
  | controlCharacter
  | keyNotString
  | loneSurrogate
  | brokenSurrogatePair
  | trailingComma
  | trailingCharacters
  | tooDeep
deriving DecidableEq

/-- The words for a syntax error. -/
def SyntaxError.message : SyntaxError → String
  | .endInList => "EOF while parsing a list"
  | .endInObject => "EOF while parsing an object"
  | .endInString => "EOF while parsing a string"
  | .endInValue => "EOF while parsing a value"
  | .expectedColon => "expected `:`"
  | .expectedListCommaOrEnd => "expected `,` or `]`"
  | .expectedObjectCommaOrEnd => "expected `,` or `\x7d`"
  | .expectedLiteral => "expected ident"
  | .expectedValue => "expected value"
  | .invalidEscape => "invalid escape"
  | .invalidNumber => "invalid number"
  | .numberOutOfRange => "number out of range"
  | .controlCharacter => "control character (\\u0000-\\u001F) found while parsing a string"
  | .keyNotString => "key must be a string"
  | .loneSurrogate => "lone leading surrogate in hex escape"
  | .brokenSurrogatePair => "unexpected end of hex escape"
  | .trailingComma => "trailing comma"
  | .trailingCharacters => "trailing characters"
  | .tooDeep => "recursion limit exceeded"

/-- What was found in place of the shape asked for. -/
inductive Found where
  | null
  | boolean (value : Bool)
  | integer (value : Int)
  | float (value : Binary64.Finite)
  | string (value : String)
  | sequence
  | map
deriving DecidableEq

/-- What a value counts as where another shape was asked for. -/
def Found.ofJson : Json → Found
  | .null => .null
  | .bool value => .boolean value
  | .number (.whole value) => .integer value.value
  | .number (.float value) => .float value
  | .string value => .string value
  | .array _ => .sequence
  | .object _ => .map

/-- The words for what was found. -/
def Found.message : Found → String
  | .null => "null"
  | .boolean value => "boolean `" ++ (if value then "true" else "false") ++ "`"
  | .integer value => "integer `" ++ String.ofList (spellInt value) ++ "`"
  | .float value => "floating point `" ++ String.ofList (spellFinite value) ++ "`"
  | .string value => "string " ++ Text.quoted value
  | .sequence => "sequence"
  | .map => "map"

/-- Why a value does not have the shape asked for. -/
inductive ShapeError where
  | missingField (name : String)
  | duplicateField (name : String)
  | wrongType (found : Found) (expected : String)
  | wrongValue (found : Found) (expected : String)
  | wrongLength (length : Nat) (expected : String)
deriving DecidableEq

/-- The words for a shape error. -/
def ShapeError.message : ShapeError → String
  | .missingField name => "missing field `" ++ name ++ "`"
  | .duplicateField name => "duplicate field `" ++ name ++ "`"
  | .wrongType found expected => "invalid type: " ++ found.message ++ ", expected " ++ expected
  | .wrongValue found expected => "invalid value: " ++ found.message ++ ", expected " ++ expected
  | .wrongLength length expected =>
    "invalid length " ++ Nat.repr length ++ ", expected " ++ expected

/-- Why reading a text failed. -/
inductive ReadError where
  | malformed (failure : SyntaxError)
  | misshapen (failure : ShapeError)
deriving DecidableEq

/-- The words for a failure to read. -/
def ReadError.message : ReadError → String
  | .malformed failure => failure.message
  | .misshapen failure => failure.message

end ContractReplay.Json
