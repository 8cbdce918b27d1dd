import Rollout.Deployment.Action
import Rollout.Dns.Nameservers
import Rollout.Remote.Ssh

namespace Rollout.Deployment

/-! Deployments as they really happen: providers, nameservers and registrars are
asked over the network, and hosts through the SSH client. -/

namespace Live

inductive Action where
  | emit (line : Progress.Line)
  | network (action : Network.Action)
  | nameSuffix
  | dial (host : Address) (port : UInt16) (limit : Nat)
  | execute (program : String) (arguments : List String)
  | terminal (program : String) (arguments : List String) (answers : List Terminal.Answer)
  /-- From now on, keep-alive lines are sent at an interval, or no more. -/
  | keepAlive (every : Option Nat)
  | halt

abbrev Action.Result : Action → Type
  | .emit _ => Unit
  | .network action => action.Result
  | .nameSuffix => String
  | .dial _ _ limit => Attempt limit
  | .execute .. => Except Remote.Error Remote.Output
  | .terminal .. => Terminal.Reply
  | .keepAlive _ => Unit
  | .halt => Empty

end Live

abbrev Live (α : Type) := Procedure Live.Action Live.Action.Result α

namespace Live

variable {ε α : Type}

def ofNetwork (procedure : Network ε α) : Live (Except ε α) :=
  procedure.run.interpret fun action => Procedure.query (Action.network action)

/-- A deployment with providers on the network and hosts that are reached with the
given settings. -/
def ofCourse (settings : SshSettings) (home : Option String)
    (course : Course Provider.Service α) : Live α :=
  course.interpret fun
    | .emit line => Procedure.query (Action.emit line)
    | .now => Procedure.query (Action.network .now)
    | .pause time => Procedure.query (Action.network (.pause time))
    | .nameSuffix => Procedure.query Action.nameSuffix
    | .provider service call => ofNetwork (service call)
    | .nameservers domain => ofNetwork (Dns.lookup Dns.resolverEndpoint domain)
    | .registrar credentials => .done (Dns.registrarFor credentials)
    | .setRecord registrar domain record =>
        ofNetwork (registrar.client.run (Dns.Cloudflare.setRecord domain record))
    | .dial host port limit => Procedure.query (Action.dial host port limit)
    | .connect _ => .done ()
    | .command host text =>
        Procedure.query (Action.execute settings.bin
          (Remote.sshArguments settings home host text false))
    | .terminal host command answers =>
        Procedure.query (Action.terminal settings.bin
          (Remote.sshArguments settings home host command true) answers)
    | .halt => Procedure.query Action.halt

end Live

end Rollout.Deployment
