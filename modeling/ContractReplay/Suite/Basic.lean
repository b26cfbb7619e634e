import ContractReplay.Json.Decoder
import ContractReplay.Text.Blank
import ContractReplay.Text.Search

/-!
# Suites of recorded cases

A case names a method and the arguments of a call, and says what to expect of
it.  A suite is a list of cases that fit together: every case has a name and a
method, and expects a response or an error but not both.
-/

namespace ContractReplay

/-- A recorded case. -/
structure Case where
  name : String
  method : String
  request : Json.Members
  response : Option Json
  error : Option Json

/-- What a case expects of a call. -/
inductive Expectation where
  | response (payload : Json)
  | error (payload : Json)
  | empty

/-- What a case expects: an error if it has one, else its response, else an empty success. -/
def Case.expectation (case : Case) : Expectation :=
  match case.response, case.error with
  | _, some payload => .error payload
  | some payload, none => .response payload
  | none, none => .empty

/-- The cases of a suite, in order. -/
structure Suite where
  cases : List Case

/-- The cases whose name contains a text, or all cases. -/
def Suite.filtered (suite : Suite) (part : Option String) : List Case :=
  match part with
  | none => suite.cases
  | some part => suite.cases.filter fun case => Text.contains case.name part

/-- The first case with a name. -/
def Suite.find? (suite : Suite) (name : String) : Option Case :=
  suite.cases.find? (·.name == name)

/-! ## Errors -/

/-- Why a JSON value is no suite. -/
inductive SuiteDefect where
  | wrongShape (failure : Json.ShapeError)
  | blankName (index : Nat)
  | blankMethod (name : String)
  | twoExpectations (name : String)
  | stated (words : String)
deriving DecidableEq

/-- The words for why a JSON value is no suite. -/
def SuiteDefect.message : SuiteDefect → String
  | .wrongShape failure => failure.message
  | .blankName index => "test #" ++ Nat.repr index ++ " has an empty name"
  | .blankMethod name => "test " ++ name ++ " has an empty method name"
  | .twoExpectations name => "test " ++ name ++ " declares both a response and an error"
  | .stated words => words

/-- Why a suite cannot be had. -/
inductive SuiteError where
  | unreadable (path details : String)
  | malformed (details : String)
  | defective (defect : SuiteDefect)
deriving DecidableEq

namespace SuiteError

/-- The code under which an error is reported. -/
def code : SuiteError → Nat
  | .unreadable .. => 4001
  | .malformed .. => 4002
  | .defective .. => 4003

/-- The words for an error. -/
def message : SuiteError → String
  | .unreadable path details => "failed to read fixture file " ++ path ++ ": " ++ details
  | .malformed details => "failed to parse fixture JSON: " ++ details
  | .defective defect => "malformed fixture document: " ++ defect.message

/-- The words for an error, with its code. -/
def display (error : SuiteError) : String :=
  error.message ++ " (code " ++ Nat.repr error.code ++ ")"

/-- The error for a text from which no suite could be read. -/
def ofReadError : Json.ReadError → SuiteError
  | .malformed failure => .malformed failure.message
  | .misshapen failure => .defective (.wrongShape failure)

end SuiteError

end ContractReplay
