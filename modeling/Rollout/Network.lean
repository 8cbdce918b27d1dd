import Rollout.Http.Exchange
import Rollout.Procedure

namespace Rollout

/-! Procedures that talk to the network and wait. -/

namespace Network

inductive Action where
  | send (request : Http.Request)
  | pause (time : Nat)
  | now

abbrev Action.Result : Action → Type
  | .send _ => Except String Http.Response
  | .pause _ => Unit
  | .now => Nat

end Network

abbrev Network (ε α : Type) := ExceptT ε (Procedure Network.Action Network.Action.Result) α

namespace Network

variable {ε α : Type}

def ask (action : Action) : Network ε action.Result :=
  ExceptT.lift (Procedure.query action)

def pause (time : Nat) : Network ε Unit := ask (.pause time)

def now : Network ε Nat := ask .now

/-- Sends a request; `failed` makes an error of what kept it from being sent. -/
def send (failed : String → ε) (request : Http.Request) : Network ε Http.Response := do
  match ← ask (.send request) with
  | .ok response => pure response
  | .error reason => throw (failed reason)

def decode (failed : String → ε) (read : Json → Option α) (response : Http.Response) :
    Network ε α :=
  match response.decode? read with
  | some value => pure value
  | none => throw (failed Http.undecodable)

end Network

end Rollout
