import ContractReplay.CommandLine.Execution

/-!
# The program

The program executes its command line with the disk of the machine, and is at home
where it is started.  Output goes to standard output; the log, and why a command
had to stop, go to standard error.
-/

namespace ContractReplay.CommandLine

/-- The number of a system error, which some functions report with its sign turned around. -/
def systemNumber (code : UInt32) : Nat :=
  if code.toNat < Nat.pow 2 31 then code.toNat else Nat.pow 2 32 - code.toNat

/-- The error of the system with a number. -/
def DiskError.ofSystem (code : UInt32) (details : String) : DiskError :=
  match systemNumber code with
  | 2 => .notFound
  | 20 => .notDirectory
  | 21 => .isDirectory
  | 36 => .nameTooLong
  | number => .other (details ++ " (os error " ++ Nat.repr number ++ ")")

/-- Why the machine could not read or write a file. -/
def DiskError.ofMachine : IO.Error → DiskError
  | .noFileOrDirectory _ code details => .ofSystem code details
  | .inappropriateType _ code details => .ofSystem code details
  | .permissionDenied _ code details => .ofSystem code details
  | .resourceExhausted _ code details => .ofSystem code details
  | .invalidArgument _ code details => .ofSystem code details
  | .otherError code details => .ofSystem code details
  | failure => .other (toString failure)

/-- What comes of an access to a file of the machine, whose names cannot have zeros in them. -/
def accessMachine
    {α : Type}
    (path : String)
    (access : IO α) : IO (Except DiskError α) := do
  if path.toList.contains '\x00' then return .error .zeroInName
  match ← access.toBaseIO with
  | .error failure => return .error (.ofMachine failure)
  | .ok result => return .ok result

/-- The disk of the machine. -/
def machineDisk : Disk IO where
  read := fun path => do
    match ← accessMachine path (IO.FS.readBinFile path) with
    | .error failure => return .error failure
    | .ok bytes =>
      match String.fromUTF8? bytes with
      | some contents => return .ok contents
      | none => return .error .notText
  write := fun path contents => accessMachine path (IO.FS.writeFile path contents)

/-- Shows what a command line has left, and gives its status. -/
def showTrace (trace : Trace) : IO UInt32 := do
  IO.eprint trace.errors
  IO.print trace.output
  return UInt32.ofNat trace.status

/-- How the program is used. -/
def usage : String :=
  unlines [
    "Usage: conformance [--quiet] COMMAND",
    "",
    "  run [--fixtures FILE] [--config FILE] [--filter TEXT] [--max-diagnostics NUMBER]",
    "      [--format text|json] [--report-out FILE]",
    "  list [--fixtures FILE]",
    "  methods",
    "  types",
    "",
    "The exit status is the number of failed cases, at most 254, or 255 if the run stops."]

/-- Shows how the program is used, where that was asked for or was not heeded. -/
def showUsage (refusal : Refusal) : IO UInt32 := do
  match refusal with
  | .help => IO.print usage
  | .usage => IO.eprint usage
  return UInt32.ofNat refusal.status

end ContractReplay.CommandLine

open ContractReplay.CommandLine in
/-- Executes the command line of the program. -/
def main (arguments : List String) : IO UInt32 := do
  match parse arguments with
  | .error refusal => showUsage refusal
  | .ok invocation => showTrace (← executeInvocation "." machineDisk invocation)
