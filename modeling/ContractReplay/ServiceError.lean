import ContractReplay.Json.Decoder

/-!
# Errors that a service reports

A service error has a code and may have a message, details of any kind and an
error that caused it.  On the wire, what an error does not have is left out.
-/

namespace ContractReplay

/-- An error that a service reports. -/
structure ServiceError where
  code : String
  message : Option String
  details : Option Json
  innerError : Option ServiceError

namespace ServiceError

/-- An error with a code alone. -/
def ofCode (code : String) : ServiceError :=
  ⟨code, none, none, none⟩

/-- An error with a code and a message. -/
def ofMessage (code message : String) : ServiceError :=
  ⟨code, some message, none, none⟩

/-! ## Wire form -/

/-- A member for a value that may be absent. -/
def member? (key : String) (value : Option Json) : List (String × Json) :=
  (value.map (key, ·)).toList

mutual

/-- The wire form of an error. -/
def toWire : ServiceError → Json
  | ⟨code, message, details, innerError⟩ =>
    .object ((("code", .string code) :: member? "message" (message.map .string)) ++
      member? "details" details ++ innerToWire innerError)

/-- The member for the error that caused another. -/
def innerToWire : Option ServiceError → List (String × Json)
  | none => []
  | some inner => [("innerError", toWire inner)]

end

mutual

/-- The number of errors that stand behind an error, one causing the other. -/
def depth : ServiceError → Nat
  | ⟨_, _, _, innerError⟩ => innerDepth innerError

/-- The number of errors from an inner error on. -/
def innerDepth : Option ServiceError → Nat
  | none => 0
  | some inner => 1 + depth inner

end

/-! ## Reading -/

/-- The fields of an error, given the decoders of the values inside it. -/
def shape (levels : Nat) (inner : Json.Decoder ServiceError) : Json.Shape ServiceError where
  name := "ServiceError"
  blank := ofCode ""
  fields := [
    { key := "code"
      required := true
      decoder := (Json.stringDecoder "a string").map fun code error =>
        { error with code := code } },
    { key := "message"
      required := false
      decoder := (Json.optionalDecoder (Json.stringDecoder "a string")).map fun message error =>
        { error with message := message } },
    { key := "details"
      required := false
      decoder := (Json.optionalDecoder (Json.valueDecoder levels)).map fun details error =>
        { error with details := details } },
    { key := "innerError"
      required := false
      decoder := (Json.optionalDecoder inner).map fun innerError error =>
        { error with innerError := innerError } }]

/-- Errors with at most a number of levels of nesting. -/
def decoder : Nat → Json.Decoder ServiceError
  | 0 => Json.Shape.decoder "ServiceError" none
  | levels + 1 => Json.Shape.decoder "ServiceError" (some (shape levels (decoder levels)))

/-- The error that a JSON text holds. -/
def parse (text : String) : Except Json.ReadError ServiceError :=
  (decoder Json.maxLevels).reader.readAll text

/-- The error that a JSON value is. -/
def ofJson (value : Json) : Except Json.ShapeError ServiceError :=
  (decoder (value.depth + 1)).ofJson value

end ServiceError

end ContractReplay
