import Rollout.Deployment.Live
import Rollout.Files
import Rollout.Progress.Stream
import Rollout.Rehearsal.Shell
import Rollout.Remote.Shell

namespace Rollout.Rehearsal

/-! The surroundings of a rehearsed command: a scripted network, local programs in
place of the SSH client, and an output that takes everything. -/

/-- A network that answers requests from a script.  Time passes only in pauses. -/
structure Wire where
  responses : List (Except String Http.Response)
  requests : List Http.Request
  now : Nat

namespace Wire

def ofScript (responses : List (Except String Http.Response)) : Wire :=
  { responses, requests := [], now := 0 }

def reply (wire : Wire) : (action : Network.Action) → action.Result × Wire
  | .send request =>
      let wire := { wire with requests := wire.requests ++ [request] }
      match wire.responses with
      | [] => (.error "no scripted response", wire)
      | response :: responses => (response, { wire with responses })
  | .pause time => ((), { wire with now := wire.now + time })
  | .now => (wire.now, wire)

def run {ε α : Type} (wire : Wire) (procedure : Network ε α) : Except ε α × Wire :=
  Procedure.run reply procedure.run wire

end Wire

section Executables

/-! Local programs that stand in for the SSH client: one that prints its
arguments, one that succeeds and one that fails. -/

private def system : Files.Tree :=
  { Files.Tree.empty with
    files := ["echo", "true", "false"].flatMap fun name =>
      [(["bin", name], []), (["usr", "bin", name], [])]
    directories := ["etc", "tmp", "dev", "root", "home", "var", "proc", "lib"].map ([·]) }

/-- The name of the program at a path.  A name without a slash is looked for in
the usual directory. -/
private def find (path : String) : Except Files.Failure String :=
  if path.isEmpty then .error .notFound
  else
    let names := if path.toList.contains '/' then Files.names path else ["bin", path]
    match system.walk [] names with
    | .error failure => .error failure
    | .ok (_, .directory) => .error .denied
    | .ok (location, .file _) => .ok (location.getLast?.getD "")

def execute (path : String) (arguments : List String) : Except Remote.Error Remote.Output :=
  match find path with
  | .error failure => .error (.spawn path failure.message)
  | .ok "echo" => .ok { Remote.Output.silent with stdout := " ".intercalate arguments ++ "\n" }
  | .ok "false" => .ok { Remote.Output.silent with code := some 1 }
  | .ok _ => .ok .silent

end Executables

structure Machine where
  wire : Wire
  shell : Shell
  stream : Progress.Stream
  keepAlive : Option Progress.KeepAlive
  nameSuffix : String
  isReachable : Bool

namespace Machine

private def output : Progress.Connection where
  received := []
  writes := 0
  flushes := 0
  reception := fun _ => .takes Text.smallWordLimit
  flushed := fun _ => true

def start (responses : List (Except String Http.Response)) (nameSuffix : String) : Machine where
  wire := .ofScript responses
  shell := .ofScript [] []
  stream := .opened output
  keepAlive := none
  nameSuffix := nameSuffix
  isReachable := false

private def pause (machine : Machine) (time : Nat) : Machine :=
  let finish := machine.wire.now + time
  let passed := { machine with wire := { machine.wire with now := finish } }
  match machine.keepAlive with
  | none => passed
  | some keepAlive =>
      let (keepAlive, stream) := keepAlive.wait machine.stream machine.wire.now finish
      { passed with keepAlive := some keepAlive, stream }

private def programOf (output : Remote.Output) : Program :=
  { Program.silent with
    instructions := [.print (Text.Utf8.bytesOf output.stdout)]
    exit := .ok output.code }

private def terminal? (machine : Machine) (program : String) (arguments : List String)
    (answers : List Terminal.Answer) : Option (Terminal.Reply × Machine) :=
  match execute program arguments with
  | .error cause => some (.unopened cause, machine)
  | .ok output => do
      let shell := { machine.shell with now := machine.wire.now }
      let play ← shell.play? (programOf output) answers []
      let result ← play.session.result?
      let shell := { shell with sessions := play.session.sessions, count := shell.count + 1 }
      some (.ran play.session.transcript result,
        { machine with shell, wire := { machine.wire with now := play.now } })

/-- Does what a command asks for; nothing if that would never end. -/
def reply? (machine : Machine) : (action : Deployment.Live.Action) → Option (action.Result × Machine)
  | .emit line => some ((), { machine with stream := machine.stream.send line.text })
  | .network (.pause time) => some ((), machine.pause time)
  | .network action =>
      let (answer, wire) := machine.wire.reply action
      some (answer, { machine with wire })
  | .nameSuffix => some (machine.nameSuffix, machine)
  | .dial _ _ _ =>
      some ({ isConnected := machine.isReachable, time := 0, time_le := Nat.zero_le _ }, machine)
  | .execute program arguments => some (execute program arguments, machine)
  | .terminal program arguments answers => machine.terminal? program arguments answers
  | .keepAlive every =>
      some ((), { machine with keepAlive := every.map fun every => { every, due := none } })
  | .halt => none

def printed (machine : Machine) : String := Text.Utf8.textOf machine.stream.connection.received

end Machine

end Rollout.Rehearsal
