import Rollout.Deployment.Action
import Rollout.Rehearsal.Cloud
import Rollout.Rehearsal.Shell

namespace Rollout.Rehearsal

/-! The surroundings of a rehearsed deployment: a provider on paper, nameservers and
a registrar that answer from a table, and hosts that run a script. -/

structure World where
  shell : Shell
  cloud : CloudLog := {}
  /-- The nameservers of each domain; all other domains have none. -/
  nameservers : List (String × Except Dns.Error (List String)) := []
  queries : List String := []
  refusesRecords : Option String := none
  records : List (String × Dns.Record) := []
  nameSuffix : String
  /-- Whether hosts take connections.  A rehearsal opens none, so they refuse all of
  them at once if nothing else is said. -/
  isReachable : Bool := false
  hosts : List Address := []

namespace World

private def onShell (world : World) (action : Installer.Action) : Option (action.Result × World) :=
  (world.shell.reply? action).map fun (answer, shell) => (answer, { world with shell })

private def lookup (world : World) (domain : String) : Except Dns.Error (List String) :=
  match world.nameservers.find? (·.1 = domain) with
  | some (_, found) => found
  | none => .ok []

/-- A record is noted before it is refused. -/
private def setRecord (world : World) (domain : String) (record : Dns.Record) :
    Except Dns.Error Unit × World :=
  (match world.refusesRecords with
    | some reason => .error (.api Dns.Cloudflare.name reason)
    | none => .ok (),
  { world with records := world.records ++ [(domain, record)] })

def reply? (world : World) : (action : Deployment.Action Cloud) → Option (action.Result × World)
  | .emit line => world.onShell (.emit line)
  | .now => some (world.shell.now, world)
  | .pause time => world.onShell (.pause time)
  | .nameSuffix => some (world.nameSuffix, world)
  | .provider cloud call =>
      let (answer, log) := (cloud.perform call).run.run world.cloud
      some (answer, { world with cloud := log })
  | .nameservers domain =>
      some (world.lookup domain, { world with queries := world.queries ++ [domain] })
  | .registrar credentials => some (Dns.registrarFor credentials, world)
  | .setRecord _ domain record => some (world.setRecord domain record)
  | .dial _ _ _ =>
      some ({ isConnected := world.isReachable, time := 0, time_le := Nat.zero_le _ }, world)
  | .connect host => some ((), { world with hosts := world.hosts ++ [host] })
  | .command _ text => world.onShell (.command text)
  | .terminal _ command answers => world.onShell (.terminal command answers)
  | .halt => none

end World

end Rollout.Rehearsal
