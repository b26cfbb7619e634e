import ContractReplay.Json.Decoder

/-!
# Settings of a run

Settings say which suite is run, which of its cases, and how many differences a
failed case may show.  A file with settings may leave out any of them, and a
file that cannot be used at all stands for the defaults.  By default the suite is
a file that comes with the program; its path is fixed when the program is built,
but like any other suite it is read when it is run.
-/

namespace ContractReplay

/-- The settings of a run; the suite is the path of its file. -/
structure Settings where
  suite : String
  filter : Option String
  maxDiagnostics : Nat
deriving DecidableEq

namespace Settings

section

variable (home : String)

/-- The path of the suite that comes with the program, below the directory that it was built in. -/
def bundledSuite : String :=
  home ++ "/fixtures/conformance_tests.json"

/-- The suite that comes with the program, all cases, and up to 32 differences for a case. -/
def default : Settings :=
  ⟨bundledSuite home, none, 32⟩

/-- The fields of settings; what is left out keeps its default. -/
def shape : Json.Shape Settings where
  name := "HarnessConfig"
  blank := default home
  fields := [
    { key := "fixtures_path"
      required := false
      decoder := (Json.stringDecoder "path string").map fun path settings =>
        { settings with suite := path } },
    { key := "filter"
      required := false
      decoder := (Json.optionalDecoder (Json.stringDecoder "a string")).map fun part settings =>
        { settings with filter := part } },
    { key := "max_diagnostics"
      required := false
      decoder := (Json.naturalDecoder "usize").map fun most settings =>
        { settings with maxDiagnostics := most } }]

/-- The settings that a JSON text holds. -/
def parse (text : String) : Except Json.ReadError Settings :=
  (Json.Shape.reader "HarnessConfig" (some (shape home))).readAll text

/-- The settings of a file: those of its text, or the defaults if there is none or it has none. -/
def ofContents (contents : Option String) : Settings :=
  match contents with
  | none => default home
  | some text => (parse home text).toOption.getD (default home)

end

end Settings

end ContractReplay
