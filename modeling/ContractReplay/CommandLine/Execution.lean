import ContractReplay.CommandLine.Arguments
import ContractReplay.CommandLine.Disk
import ContractReplay.Demo.Service
import ContractReplay.Replay
import ContractReplay.Settings
import ContractReplay.Suite.Text

/-!
# Execution of commands

A run replays a suite with the client of the demo service, prints the report and
may write it to a file.  Its exit status is the number of failed cases, as far as
statuses for it go; the one status beyond is kept for a run that had to stop.  All
files are read from a disk; the home of the program, below which it has the suite
that it replays by default, is the directory that it was built in.
-/

namespace ContractReplay.CommandLine

/-- What a command leaves behind: its status, its output, why it had to stop, and its log. -/
structure Effect where
  status : Nat
  output : String
  fatal : Option String
  log : List LogLine

/-- The exit status of a command that had to stop. -/
def fatalStatus : Nat := 255

/-- The effect of a command that did what it should. -/
def Effect.success (output : String) : Effect :=
  ⟨0, output, none, []⟩

/-- The effect of a command that had to stop, after some output. -/
def Effect.stopped (output context reason : String) (log : List LogLine) : Effect :=
  ⟨fatalStatus, output, some ("conformance error: " ++ context ++ ": " ++ reason), log⟩

/-- Lines, each with a line break after it. -/
def unlines (lines : List String) : String :=
  String.join (lines.map (· ++ "\n"))

/-- Whether a line of the log is shown, when only errors are or when all lines are. -/
def isShown (quiet : Bool) (line : LogLine) : Bool :=
  line.level == .error || !quiet

/-- What goes to standard error for an effect: the log, and why the command had to stop. -/
def Effect.errorText (quiet : Bool) (effect : Effect) : String :=
  unlines ((effect.log.filter (isShown quiet)).map LogLine.text ++ effect.fatal.toList)

/-- What is left when a command line has been executed: the exit status, and what went to standard
output and to standard error. -/
structure Trace where
  status : Nat
  output : String
  errors : String

/-- What an effect leaves. -/
def Effect.trace (quiet : Bool) (effect : Effect) : Trace :=
  ⟨effect.status, effect.output, effect.errorText quiet⟩

/-- The file that holds the settings when no other is named. -/
def settingsFile : String := "conformance.json"

section

variable {m : Type → Type} [Monad m]

/-- The suite in a file. -/
def loadSuite (disk : Disk m) (path : String) : m (Except SuiteError Suite) := do
  match ← disk.read path with
  | .error failure => return .error (.unreadable path failure.message)
  | .ok contents => return Suite.parse contents

/-- The settings in a file, or the defaults where they cannot be had. -/
def loadSettings (home : String) (disk : Disk m) (file : Option String) : m Settings := do
  let contents ← disk.read (file.getD settingsFile)
  return Settings.ofContents home contents.toOption

/-- Settings with what the options of a run say instead. -/
def RunOptions.override (options : RunOptions) (settings : Settings) : Settings where
  suite := options.suite.getD settings.suite
  filter := options.filter.or settings.filter
  maxDiagnostics := options.maxDiagnostics.getD settings.maxDiagnostics

/-- The output of a report. -/
def reportText (format : Format) (report : Report) : String :=
  match format with
  | .text => unlines report.summaryLines
  | .json => report.toJson.pretty ++ "\n"

/-- The effect of a run that could replay its suite, apart from the report file. -/
def replayEffect (format : Format) (results : List CaseResult) : Effect where
  status := (Report.ofResults results).exitStatus
  output := reportText format (.ofResults results)
  fatal := none
  log := runLog results

/-- The effect of a run. -/
def executeRun (home : String) (disk : Disk m) (options : RunOptions) : m Effect := do
  let settings := options.override (← loadSettings home disk options.settings)
  match ← loadSuite disk settings.suite with
  | .error failure =>
    return .stopped "" ("loading fixtures " ++ settings.suite) failure.display
      [failure.logLine "conformance run"]
  | .ok suite =>
    let results := (Demo.client.replay settings.filter settings.maxDiagnostics suite ()).1
    let effect := replayEffect options.format results
    match options.reportOut with
    | none => return effect
    | some path =>
      match ← disk.write path (Report.ofResults results).toJson.pretty with
      | .ok () => return effect
      | .error failure =>
        return .stopped effect.output ("writing " ++ path) failure.message effect.log

/-- The line on a case in the list of a suite. -/
def caseLine (case : Case) : String :=
  case.name ++ " -> " ++ case.method

/-- The effect of listing the cases of a suite. -/
def executeList (home : String) (disk : Disk m) (file : Option String) : m Effect := do
  let path := file.getD (Settings.default home).suite
  match ← loadSuite disk path with
  | .error failure => return .stopped "" ("loading fixtures " ++ path) failure.display []
  | .ok suite => return .success (unlines (suite.cases.map caseLine))

/-- How a parameter is shown. -/
def parameterText (parameter : Parameter) : String :=
  parameter.name ++ ": " ++ parameter.schema.display ++
    if parameter.hasDefault then " = default" else ""

/-- The line on a method. -/
def methodLine (method : Method) : String :=
  method.name ++ "(" ++ ", ".intercalate (method.parameters.map parameterText) ++ ")"

/-- The effect of a command. -/
def execute (home : String) (disk : Disk m) : Command → m Effect
  | .run options => executeRun home disk options
  | .list suite => executeList home disk suite
  | .methods => return .success (unlines (Demo.client.methods.map methodLine))
  | .types => return .success (unlines Demo.client.catalog.names)

/-- Executes an invocation. -/
def executeInvocation (home : String) (disk : Disk m) (invocation : Invocation) : m Trace := do
  return (← execute home disk invocation.command).trace invocation.quiet

/-- Executes a command line; one that asks for no command leaves nothing but its status. -/
def executeLine (home : String) (disk : Disk m) (arguments : List String) : m Trace := do
  match parse arguments with
  | .error refusal => return ⟨refusal.status, "", ""⟩
  | .ok invocation => executeInvocation home disk invocation

end

end ContractReplay.CommandLine
