import ContractReplay.Suite.Basic
import ContractReplay.Failure

/-!
# Log lines
-/

namespace ContractReplay

/-- How serious a log line is. -/
inductive LogLevel where
  | info
  | error
deriving DecidableEq

/-- The word for a level. -/
def LogLevel.name : LogLevel → String
  | .info => "INFO"
  | .error => "ERROR"

/-- A line of the log. -/
structure LogLine where
  level : LogLevel
  words : String
deriving DecidableEq

/-- The text of a line, with its level. -/
def LogLine.text (line : LogLine) : String :=
  line.level.name ++ " " ++ line.words

/-- The line that tells of something that went as it should. -/
def LogLine.info (words : String) : LogLine :=
  ⟨.info, words⟩

/-- The line that tells of something that did not. -/
def LogLine.error (words : String) : LogLine :=
  ⟨.error, words⟩

/-- The line that tells of a failure in a context, such as the name of a case. -/
def Failure.logLine (failure : Failure) (context : String) : LogLine :=
  .error ("Conformance error in " ++ context ++ ": code=" ++ Nat.repr failure.code ++
    ", component=" ++ failure.component ++ ", message=" ++ failure.message)

/-- The line that tells in a context that a suite cannot be had. -/
def SuiteError.logLine (error : SuiteError) (context : String) : LogLine :=
  .error ("Fixture error in " ++ context ++ ": code=" ++ Nat.repr error.code ++
    ", component=FixtureLoader, message=" ++ error.message)

end ContractReplay
