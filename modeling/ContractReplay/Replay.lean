import ContractReplay.Client
import ContractReplay.Coercion
import ContractReplay.Difference
import ContractReplay.Log
import ContractReplay.Report

/-!
# Replaying cases

A case is replayed in four steps: its method is resolved, its request is bound
to the parameters of the method, the method is called, and the reply is judged by
what the case expects.  A case that goes wrong fails on its own and leaves the
others alone.  The outcomes and the log are views of the results.
-/

namespace ContractReplay

/-- Why a case failed, with the differences that tell where. -/
structure CaseFailure where
  failure : Failure
  differences : List Difference

/-- A failure without differences. -/
def CaseFailure.ofFailure (failure : Failure) : CaseFailure :=
  ⟨failure, []⟩

/-! ## Binding -/

/-- The parameters that the keys of a request name, with the values under these keys. -/
def resolveRequest (method : Method) :
    List (String × Json) → Except Failure (List (Parameter × Json))
  | [] => .ok []
  | (key, raw) :: later =>
    match method.resolveParameter key with
    | .error failure => .error failure
    | .ok parameter => (resolveRequest method later).map ((parameter, raw) :: ·)

/-- The path of the argument of a parameter. -/
def argumentPath (parameter : Parameter) : Path :=
  rootPath.add (.field parameter.name)

/-- The arguments after the values for some parameters are coerced and bound, one by one. -/
def bindValues (catalog : Catalog) (arguments : Arguments) :
    List (Parameter × Json) → Except Failure Arguments
  | [] => .ok arguments
  | (parameter, raw) :: later =>
    match coerceOptional catalog (argumentPath parameter) parameter.schema raw with
    | .error failure => .error failure
    | .ok argument => bindValues catalog (arguments.bind parameter.name argument) later

/-- The arguments with every parameter bound that has no default. -/
def bindRest (arguments : Arguments) (parameters : List Parameter) : Arguments :=
  parameters.foldl
    (fun bound parameter =>
      if bound.isBound parameter.name || parameter.hasDefault then bound
      else bound.bind parameter.name none)
    arguments

/-- The arguments for a request: all keys are resolved before any value is coerced. -/
def bindRequest
    (catalog : Catalog)
    (method : Method)
    (request : Json.Members) : Except Failure Arguments :=
  match resolveRequest method request with
  | .error failure => .error failure
  | .ok values =>
    (bindValues catalog .empty values).map fun bound => bindRest bound method.parameters

/-! ## Judging -/

/-- Passes values with equal wire forms, and otherwise shows up to a number of differences. -/
def compareValues
    (most : Nat)
    (root : String)
    (expected actual : Typed) : Except CaseFailure Unit :=
  if expected.toWire.equal actual.toWire then .ok ()
  else .error ⟨.mismatch expected.repr actual.repr, (Walk.start root expected actual).take most⟩

/-- The failure of a reply of the wrong sort. -/
def unexpected (expected actual : String) : Except CaseFailure Unit :=
  .error (.ofFailure (.mismatch expected actual))

/-- How texts refer to a value that a service returned. -/
def valueText (value : Typed) : String :=
  "value " ++ value.repr

/-- How texts refer to an error. -/
def errorText (wire : Json) : String :=
  "error " ++ wire.compact

/-- The expected payload, coerced by the record of the actual value if that is a record value. -/
def expectedLike
    (catalog : Catalog)
    (payload : Json)
    (actual : Typed) : Except Failure Typed :=
  match actual with
  | .record found =>
    match catalog.record found.typeName with
    | .error failure => .error failure
    | .ok record => (coerceRecord catalog record payload).map .record
  | _ => .ok (.json payload)

/-- The judgement of an error by an expected one: both are taken as values of the error record. -/
def judgeError
    (catalog : Catalog)
    (most : Nat)
    (payload : Json)
    (actual : ServiceError) : Except CaseFailure Unit :=
  match coerceRecord catalog errorRecord payload with
  | .error failure => .error (.ofFailure failure)
  | .ok expected =>
    match coerceRecord catalog errorRecord actual.toWire with
    | .error failure => .error (.ofFailure failure)
    | .ok found => compareValues most "error" (.record expected) (.record found)

/-- The judgement of a value by an expected response. -/
def judgeResponse
    (catalog : Catalog)
    (most : Nat)
    (payload : Json)
    (actual : Typed) : Except CaseFailure Unit :=
  match expectedLike catalog payload actual with
  | .error failure => .error (.ofFailure failure)
  | .ok expected => compareValues most "value" expected actual

/-- The judgement of a value where nothing is expected: only a record value with no slot set will
do. -/
def judgeEmpty (most : Nat) (actual : Typed) : Except CaseFailure Unit :=
  match actual with
  | .record record =>
    if record.isEmpty then .ok ()
    else compareValues most "value" (.record record.cleared) actual
  | other => unexpected "an empty success value" (valueText other)

/-- The judgement of a reply by what a case expects. -/
def judge
    (catalog : Catalog)
    (most : Nat)
    (expectation : Expectation)
    (reply : Reply) : Except CaseFailure Unit :=
  match expectation, reply with
  | .error payload, .error actual => judgeError catalog most payload actual
  | .error payload, .value actual => unexpected (errorText payload) (valueText actual)
  | .response payload, .value actual => judgeResponse catalog most payload actual
  | .response _, .error actual => unexpected "a success value" (errorText actual.toWire)
  | .empty, .value actual => judgeEmpty most actual
  | .empty, .error actual => unexpected "an empty success value" (errorText actual.toWire)

/-! ## Cases -/

/-- How the replay of a case ended. -/
structure CaseResult where
  name : String
  failure : Option CaseFailure

namespace CaseResult

/-- The lines that tell of the differences of a failed case. -/
def differenceLines (failure : CaseFailure) : List String :=
  failure.differences.map Difference.line

/-- The outcome of a case. -/
def outcome (result : CaseResult) : Outcome where
  name := result.name
  verdict :=
    match result.failure with
    | none => .passed
    | some failure =>
      .failed failure.failure.code (failure.failure.message :: differenceLines failure)

/-- The log lines on a case. -/
def logLines (result : CaseResult) : List LogLine :=
  .info ("testing " ++ result.name) ::
    match result.failure with
    | none => []
    | some failure =>
      failure.failure.logLine result.name ::
        (differenceLines failure).map fun line => .error (result.name ++ ": " ++ line)

/-- The result of a case whose check gave an answer. -/
def ofCheck (name : String) : Except CaseFailure Unit → CaseResult
  | .ok () => ⟨name, none⟩
  | .error failure => ⟨name, some failure⟩

end CaseResult

namespace Client

variable {σ : Type}

/-- The method and the arguments of the call that a case asks for. -/
def prepare (client : Client σ) (case : Case) : Except Failure (Method × Arguments) :=
  match resolveMethod client.methods case.method with
  | .error failure => .error failure
  | .ok method => (bindRequest client.catalog method case.request).map (method, ·)

/-- The judgement of an answer to the call that a case asks for. -/
def judgeAnswer
    (client : Client σ)
    (most : Nat)
    (case : Case)
    (method : Method)
    (answer : Answer) : Except CaseFailure Unit :=
  match answer.toReply method with
  | .error failure => .error (.ofFailure failure)
  | .ok reply => judge client.catalog most case.expectation reply

/-- The replay of a case: at most one call, and the state that it leaves the client in. -/
def replayCase
    (client : Client σ)
    (most : Nat)
    (case : Case)
    (state : σ) : CaseResult × σ :=
  match client.prepare case with
  | .error failure => (.ofCheck case.name (.error (.ofFailure failure)), state)
  | .ok (method, arguments) =>
    let (answer, next) := client.call method arguments state
    (.ofCheck case.name (client.judgeAnswer most case method answer), next)

/-- The replay of some cases, one after the other. -/
def replayCases
    (client : Client σ)
    (most : Nat)
    (state : σ) : List Case → List CaseResult × σ
  | [] => ([], state)
  | case :: later =>
    let (result, next) := client.replayCase most case state
    let (results, final) := client.replayCases most next later
    (result :: results, final)

/-- The replay of the cases of a suite whose names contain a text, or of all of them. -/
def replay
    (client : Client σ)
    (part : Option String)
    (most : Nat)
    (suite : Suite)
    (state : σ) : List CaseResult × σ :=
  client.replayCases most state (suite.filtered part)

end Client

/-! ## Views of the results -/

/-- The report on some results. -/
def Report.ofResults (results : List CaseResult) : Report :=
  .ofOutcomes (results.map CaseResult.outcome)

/-- The log of a run with some results. -/
def runLog (results : List CaseResult) : List LogLine :=
  results.flatMap CaseResult.logLines ++ (Report.ofResults results).countLines.map .info

end ContractReplay
