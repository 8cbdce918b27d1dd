import Rollout.Dns.Cloudflare.Client
import Rollout.Installer.Run
import Rollout.Provider.Basic

namespace Rollout.Deployment

/-! What a deployment asks of its surroundings. -/

/-- An attempt to open a connection, which is over within its limit. -/
structure Attempt (limit : Nat) where
  isConnected : Bool
  time : Nat
  time_le : time ≤ limit

inductive Action (Backend : Type) where
  | emit (line : Progress.Line)
  | now
  | pause (time : Nat)
  | nameSuffix
  | provider (backend : Backend) (call : Provider.Call)
  | nameservers (domain : String)
  | registrar (credentials : Dns.Credentials)
  | setRecord (registrar : Dns.Registrar) (domain : String) (record : Dns.Record)
  | dial (host : Address) (port : UInt16) (limit : Nat)
  | connect (host : Address)
  | command (host : Address) (text : String)
  | terminal (host : Address) (command : String) (answers : List Terminal.Answer)
  /-- The run breaks off without any outcome. -/
  | halt

variable {Backend : Type}

abbrev Action.Result : Action Backend → Type
  | .emit _ => Unit
  | .now => Nat
  | .pause _ => Unit
  | .nameSuffix => String
  | .provider _ call => Except Provider.Error call.Result
  | .nameservers _ => Except Dns.Error (List String)
  | .registrar _ => Except Dns.Error Dns.Registrar
  | .setRecord .. => Except Dns.Error Unit
  | .dial _ _ limit => Attempt limit
  | .connect _ => Unit
  | .command .. => Except Remote.Error Remote.Output
  | .terminal .. => Terminal.Reply
  | .halt => Empty

abbrev Course (Backend α : Type) := Procedure (Action Backend) Action.Result α

abbrev Stage (Backend ε α : Type) := ExceptT ε (Procedure (Action Backend) Action.Result) α

def ask {ε : Type} (action : Action Backend) : Stage Backend ε action.Result :=
  ExceptT.lift (Procedure.query action)

def say {ε : Type} (text : String) : Stage Backend ε Unit := ask (.emit (.plain text))

def halt {ε α : Type} : Stage Backend ε α := do
  nomatch ← ask (.halt : Action Backend)

def perform (provider : Provider Backend) (call : Provider.Call) :
    Stage Backend Provider.Error call.Result :=
  ExceptT.mk (Procedure.query (Action.provider provider.backend call))

def onHost {α : Type} (host : Address) (steps : Installer.Steps α) :
    Stage Backend Installer.StepError α :=
  ExceptT.mk <| steps.run.interpret fun
    | .emit line => Procedure.query (Action.emit line)
    | .pause time => Procedure.query (Action.pause time)
    | .command text => Procedure.query (Action.command host text)
    | .terminal command answers => Procedure.query (Action.terminal host command answers)

end Rollout.Deployment
