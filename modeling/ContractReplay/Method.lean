import ContractReplay.Failure
import ContractReplay.Schema

/-!
# Methods and their resolution

A client publishes its methods with their keyword parameters.  A recorded case
may spell a method or a parameter by another convention; the candidates for a
spelling are tried in order against what is declared.  Of two methods with one
name the later counts, of two parameters with one name the earlier.
-/

namespace ContractReplay

/-- A keyword parameter of a method. -/
structure Parameter where
  name : String
  schema : Schema
  hasDefault : Bool

/-- A method of a client. -/
structure Method where
  name : String
  parameters : List Parameter

/-- The parameter with a name. -/
def Method.parameter? (method : Method) (name : String) : Option Parameter :=
  method.parameters.find? (·.name == name)

/-- The method with a name, among the methods of a client. -/
def methodNamed? (methods : List Method) (name : String) : Option Method :=
  methods.reverse.find? (·.name == name)

/-- The method that a recorded case names. -/
def resolveMethod (methods : List Method) (recorded : String) : Except Failure Method :=
  match (Naming.methodCandidates recorded).findSome? (methodNamed? methods) with
  | some method => .ok method
  | none => .error (.methodNotFound recorded (Naming.methodCandidates recorded))

/-- The parameter that a key of a recorded request names. -/
def Method.resolveParameter (method : Method) (key : String) : Except Failure Parameter :=
  match (Naming.parameterCandidates key).findSome? method.parameter? with
  | some parameter => .ok parameter
  | none => .error (.unknownParameter method.name key)

end ContractReplay
