/-!
# Command line arguments

A command line names one of four commands, with options before and after it.
The arguments are taken from left to right, so the first one that is not in order
decides, and a call for help is heeded when it is reached.
-/

namespace ContractReplay.CommandLine

/-- The form in which a report is printed. -/
inductive Format where
  | text
  | json
deriving DecidableEq

/-- The options of a run. -/
structure RunOptions where
  suite : Option String
  settings : Option String
  filter : Option String
  maxDiagnostics : Option Nat
  format : Format
  reportOut : Option String
deriving DecidableEq

/-- What is asked for. -/
inductive Command where
  | run (options : RunOptions)
  | list (suite : Option String)
  | methods
  | types
deriving DecidableEq

/-- A command, and whether the log is to stay silent on what goes as it should. -/
structure Invocation where
  quiet : Bool
  command : Command
deriving DecidableEq

/-- Why there is no command to execute. -/
inductive Refusal where
  | help
  | usage
deriving DecidableEq

/-- The exit status of a refusal. -/
def Refusal.status : Refusal → Nat
  | .help => 0
  | .usage => 2

/-! ## Options -/

/-- The options that take a value. -/
inductive Name where
  | fixtures
  | config
  | filter
  | maxDiagnostics
  | format
  | reportOut
deriving DecidableEq

/-- The spelling of an option. -/
def Name.spelling : Name → String
  | .fixtures => "--fixtures"
  | .config => "--config"
  | .filter => "--filter"
  | .maxDiagnostics => "--max-diagnostics"
  | .format => "--format"
  | .reportOut => "--report-out"

/-- The commands by themselves. -/
inductive Verb where
  | run
  | list
  | methods
  | types
deriving DecidableEq

/-- The command with a name. -/
def Verb.ofText? : String → Option Verb
  | "run" => some .run
  | "list" => some .list
  | "methods" => some .methods
  | "types" => some .types
  | _ => none

/-- The options that a command takes. -/
def Verb.options : Verb → List Name
  | .run => [.fixtures, .config, .filter, .maxDiagnostics, .format, .reportOut]
  | .list => [.fixtures]
  | .methods => []
  | .types => []

/-- The number that digits after an optional plus sign spell, if it fits 64 bits. -/
def natural? (text : String) : Option Nat :=
  let digits :=
    match text.toList with
    | '+' :: later => later
    | later => later
  if digits.isEmpty || !digits.all Char.isDigit then none
  else
    let value := digits.foldl (fun value digit => 10 * value + (digit.toNat - '0'.toNat)) 0
    if value < Nat.pow 2 64 then some value else none

/-- The form with a name. -/
def Format.ofText? : String → Option Format
  | "text" => some .text
  | "json" => some .json
  | _ => none

/-- Whether an option may have a value. -/
def Name.allows (name : Name) (value : String) : Bool :=
  match name with
  | .fixtures | .config | .reportOut => !value.isEmpty
  | .filter => true
  | .maxDiagnostics => (natural? value).isSome
  | .format => (Format.ofText? value).isSome

/-- An option with its value. -/
abbrev Setting := Name × String

/-- What the arguments after a command have set so far. -/
structure Given where
  quiet : Bool
  settings : List Setting

/-- The value that an option was given. -/
def Given.value? (given : Given) (name : Name) : Option String :=
  given.settings.lookup name

/-- The options so far with one more, if it may have its value and was not given before. -/
def Given.add (given : Given) (name : Name) (value : String) : Except Refusal Given :=
  if (given.value? name).isSome || !name.allows value then .error .usage
  else .ok { given with settings := (name, value) :: given.settings }

/-- The options so far with the log silent, if it was not silenced before. -/
def Given.silence (given : Given) : Except Refusal Given :=
  if given.quiet then .error .usage else .ok { given with quiet := true }

/-- The options so far with the flags of a cluster of letters. -/
def Given.addLetters (given : Given) : List Char → Except Refusal Given
  | [] => .ok given
  | 'q' :: later =>
    match given.silence with
    | .error refusal => .error refusal
    | .ok silenced => silenced.addLetters later
  | 'h' :: _ => .error .help
  | _ :: _ => .error .usage

/-- Whether an argument can be the value of the option before it. -/
def isValue (argument : String) : Bool :=
  argument == "-" || !argument.startsWith "-"

/-- A long option apart from the value that is attached to it by an equals sign. -/
def splitAttached : List Char → List Char × Option (List Char)
  | [] => ([], none)
  | '=' :: value => ([], some value)
  | char :: later => (char :: (splitAttached later).1, (splitAttached later).2)

/-- The options that the arguments after a command set; `allowed` are those that it takes. -/
def parseOptions (allowed : List Name) (given : Given) : List String → Except Refusal Given
  | [] => .ok given
  | argument :: later =>
    if argument = "--" then if later.isEmpty then .ok given else .error .usage
    else if argument = "--quiet" then
      match given.silence with
      | .error refusal => .error refusal
      | .ok silenced => parseOptions allowed silenced later
    else if argument = "--help" then .error .help
    else if argument.startsWith "--" then
      let (spelled, attached) := splitAttached argument.toList
      match allowed.find? (·.spelling.toList == spelled), attached, later with
      | none, _, _ => .error .usage
      | some name, some value, rest =>
        match given.add name (String.ofList value) with
        | .error refusal => .error refusal
        | .ok extended => parseOptions allowed extended rest
      | some _, none, [] => .error .usage
      | some name, none, value :: rest =>
        if isValue value then
          match given.add name value with
          | .error refusal => .error refusal
          | .ok extended => parseOptions allowed extended rest
        else .error .usage
    else if argument.startsWith "-" && argument != "-" then
      match given.addLetters (argument.toList.drop 1) with
      | .error refusal => .error refusal
      | .ok extended => parseOptions allowed extended later
    else .error .usage
termination_by arguments => arguments.length

/-! ## Commands -/

/-- A command with the options that it was given. -/
def Verb.command (verb : Verb) (given : Given) : Command :=
  match verb with
  | .run =>
    .run
      { suite := given.value? .fixtures
        settings := given.value? .config
        filter := given.value? .filter
        maxDiagnostics := (given.value? .maxDiagnostics).bind natural?
        format := ((given.value? .format).bind Format.ofText?).getD .text
        reportOut := given.value? .reportOut }
  | .list => .list (given.value? .fixtures)
  | .methods => .methods
  | .types => .types

/-- What follows a call for help by name: at most the name of a command. -/
def parseHelp : List String → Refusal
  | [] => .help
  | [topic] => if (Verb.ofText? topic).isSome || topic == "help" then .help else .usage
  | _ => .usage

/-- The command that some arguments ask for, when the log may have been silenced before it. -/
def parseFrom (given : Given) : List String → Except Refusal Invocation
  | [] => .error .usage
  | argument :: later =>
    match Verb.ofText? argument with
    | some verb =>
      match parseOptions verb.options ⟨false, []⟩ later with
      | .error refusal => .error refusal
      | .ok found => .ok ⟨given.quiet || found.quiet, verb.command found⟩
    | none =>
      if argument = "help" then .error (parseHelp later)
      else if argument = "--help" then .error .help
      else if argument = "--quiet" then
        match given.silence with
        | .error refusal => .error refusal
        | .ok silenced => parseFrom silenced later
      else if argument.startsWith "-" && !argument.startsWith "--" && argument != "-" then
        match given.addLetters (argument.toList.drop 1) with
        | .error refusal => .error refusal
        | .ok extended => parseFrom extended later
      else .error .usage

/-- The command that a command line asks for. -/
def parse (arguments : List String) : Except Refusal Invocation :=
  parseFrom ⟨false, []⟩ arguments

end ContractReplay.CommandLine
