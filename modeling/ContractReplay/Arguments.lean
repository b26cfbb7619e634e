import ContractReplay.Typed.Basic

/-!
# Arguments of a call

A parameter is bound to a value or, expressly, to no value.  Arguments keep the
order in which their parameters were first bound.
-/

namespace ContractReplay

/-- What a parameter is bound to: a value, or expressly no value. -/
abbrev Argument := Option Typed

/-- The bound parameters of a call with their arguments, in the order of binding. -/
structure Arguments where
  entries : List (String × Argument)

namespace Arguments

/-- No parameter is bound. -/
def empty : Arguments :=
  ⟨[]⟩

/-- Entries with the argument of a parameter put in its place, or at the end. -/
def bindEntry (name : String) (argument : Argument) :
    List (String × Argument) → List (String × Argument)
  | [] => [(name, argument)]
  | (bound, old) :: later =>
    if bound = name then (bound, argument) :: later
    else (bound, old) :: bindEntry name argument later

/-- The arguments with a parameter bound, or bound anew in its place. -/
def bind (arguments : Arguments) (name : String) (argument : Argument) : Arguments :=
  ⟨bindEntry name argument arguments.entries⟩

/-- The value of a parameter that is bound to one. -/
def get? (arguments : Arguments) (name : String) : Option Typed :=
  (arguments.entries.find? (·.1 == name)).bind (·.2)

/-- Whether a parameter is bound, be it to no value. -/
def isBound (arguments : Arguments) (name : String) : Bool :=
  arguments.entries.any (·.1 == name)

/-- The number of bound parameters. -/
def size (arguments : Arguments) : Nat :=
  arguments.entries.length

/-- Whether no parameter is bound. -/
def isEmpty (arguments : Arguments) : Bool :=
  arguments.entries.isEmpty

end Arguments

end ContractReplay
