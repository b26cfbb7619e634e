import ContractReplay.Suite.Basic

/-!
# Suites as JSON text

A suite is an object whose key `tests` holds the cases.  Keys that mean nothing
are passed over on every level.  Once the text is read, the cases are checked in
order, and the first that does not fit is reported.
-/

namespace ContractReplay

/-! ## Writing -/

/-- The members that a case has as an object. -/
def Case.toJson (case : Case) : Json :=
  .object (
    [("test", .string case.name), ("method", .string case.method),
      ("request", .object case.request)] ++
    (case.response.map ("response", ·)).toList ++ (case.error.map ("error", ·)).toList)

/-- A suite as a JSON value. -/
def Suite.toJson (suite : Suite) : Json :=
  .object [("tests", .array (suite.cases.map Case.toJson))]

/-! ## Reading -/

/-- The fields of a case, whose values may have a number of levels of nesting. -/
def Case.shape (levels : Nat) : Json.Shape Case where
  name := "TestCase"
  blank := ⟨"", "", [], none, none⟩
  fields := [
    { key := "test"
      required := true
      decoder := (Json.stringDecoder "a string").map fun name case =>
        { case with name := name } },
    { key := "method"
      required := true
      decoder := (Json.stringDecoder "a string").map fun method case =>
        { case with method := method } },
    { key := "request"
      required := false
      decoder := (Json.membersDecoder levels).map fun request case =>
        { case with request := request } },
    { key := "response"
      required := false
      decoder := (Json.optionalDecoder (Json.valueDecoder levels)).map fun response case =>
        { case with response := response } },
    { key := "error"
      required := false
      decoder := (Json.optionalDecoder (Json.valueDecoder levels)).map fun error case =>
        { case with error := error } }]

/-- Cases whose values may have a number of levels of nesting. -/
def Case.decoder (levels : Nat) : Json.Decoder Case :=
  Json.Shape.decoder "TestCase" (some (Case.shape levels))

/-- The fields of a suite, in whose cases values may have a number of levels of nesting. -/
def Suite.shape (levels : Nat) : Json.Shape Suite where
  name := "FixtureDocument"
  blank := ⟨[]⟩
  fields := [
    { key := "tests"
      required := true
      decoder := (Json.listDecoder (some (Case.decoder levels))).map fun cases suite =>
        { suite with cases := cases } }]

/-- Suites; the suite, the list and the case around a value take three levels of nesting. -/
def Suite.decoder : Json.Decoder Suite :=
  Json.Shape.decoder "FixtureDocument" (some (Suite.shape (Json.maxLevels - 3)))

/-- The case that a JSON value is. -/
def Case.ofJson (value : Json) : Except Json.ShapeError Case :=
  (Case.shape value.depth).ofJson value

/-- What keeps the case at an index out of a suite, if anything does. -/
def Case.defect? (index : Nat) (case : Case) : Option SuiteDefect :=
  if Text.isBlank case.name then some (.blankName index)
  else if Text.isBlank case.method then some (.blankMethod case.name)
  else if case.response.isSome && case.error.isSome then some (.twoExpectations case.name)
  else none

/-- The first defect of some cases, of which the first stands at an index. -/
def Suite.firstDefect? (index : Nat) : List Case → Option SuiteDefect
  | [] => none
  | case :: later =>
    match case.defect? index with
    | some defect => some defect
    | none => firstDefect? (index + 1) later

/-- The suite that a JSON text holds. -/
def Suite.parse (text : String) : Except SuiteError Suite :=
  match Suite.decoder.reader.readAll text with
  | .error failure => .error (.ofReadError failure)
  | .ok suite =>
    match Suite.firstDefect? 0 suite.cases with
    | some defect => .error (.defective defect)
    | none => .ok suite

end ContractReplay
