import ContractReplay.Arguments
import ContractReplay.Catalog
import ContractReplay.Method
import ContractReplay.ServiceError

/-!
# Clients

A client publishes methods and a catalog, and answers calls.  A call may change
the state of the client, on which later answers may depend; an answer is a reply
of the service, or the news that the call itself went wrong.
-/

namespace ContractReplay

/-- What a service replies to a call: a value or an error. -/
inductive Reply where
  | value (value : Typed)
  | error (error : ServiceError)

/--
What a client answers to a call: a reply, the details of a call that failed, or
the message of a call that broke off, if it left one.
-/
inductive Answer where
  | reply (reply : Reply)
  | failed (details : String)
  | brokeOff (message : Option String)

/-- The reply in an answer; without one, the call of a method has failed. -/
def Answer.toReply (method : Method) : Answer → Except Failure Reply
  | .reply given => .ok given
  | .failed details => .error (.callFailed method.name details)
  | .brokeOff message =>
    .error (.callFailed method.name
      ("panicked: " ++ message.getD "unknown panic payload"))

/-- A client whose states are of type `σ`. -/
structure Client (σ : Type) where
  methods : List Method
  catalog : Catalog
  call : Method → Arguments → σ → Answer × σ

/-- A call of a client: the name of the method and the arguments. -/
structure Call where
  method : String
  arguments : Arguments

/-- The client that answers like another and keeps a record of its calls, the latest first. -/
def Client.recording {σ : Type} (client : Client σ) : Client (σ × List Call) where
  methods := client.methods
  catalog := client.catalog
  call := fun method arguments (state, calls) =>
    let (answer, next) := client.call method arguments state
    (answer, next, ⟨method.name, arguments⟩ :: calls)

end ContractReplay
