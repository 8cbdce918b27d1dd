import Rollout.Terminal.Sessions

namespace Rollout.Terminal

/-! The directory of sessions while several tasks use it at the same time.

A write looks its handle up, waits until no other task holds it, hands its bytes
over piece by piece, flushes, and lets go of the handle.  A close takes the id out
of the directory and then waits for the handle to shut it down.  Moves of different
tasks may come in any order, so a run is a fold over any sequence of moves.
-/

inductive Job where
  | write (payload : List UInt8)
  | shutdown
deriving Repr, DecidableEq

/-- What a task has to hand over. -/
def Job.payload : Job → List UInt8
  | .write payload => payload
  | .shutdown => []

/-- How far a task has got.  Its caller may give it up at any time. -/
inductive Job.Stage where
  | waiting
  | holding (left : List UInt8)
  | ended (failure : Option SessionError)
  | givenUp
deriving Repr, DecidableEq

structure Task where
  handle : Nat
  job : Job
  stage : Job.Stage
deriving Repr, DecidableEq

def Task.holds (task : Task) (handle : Nat) : Bool :=
  match task.stage with
  | .holding _ => task.handle = handle
  | _ => false

inductive Move where
  | register (id : String) (handle : Handle)
  | remove (id : String)
  | write (id : String) (payload : List UInt8)
  | close (id : String)
  | take (task : Nat)
  | proceed (task : Nat)
  | giveUp (task : Nat)

/-- Tasks are numbered in the order in which they began, and `takers` are those
that took a handle, in the order in which they did. -/
structure Shared where
  sessions : Sessions
  tasks : List Task
  takers : List Nat

namespace Shared

def empty : Shared := { sessions := .empty, tasks := [], takers := [] }

def begin (shared : Shared) (id : String) (job : Job) : Shared :=
  match shared.sessions.find? id with
  | some (handle, _) => { shared with tasks := shared.tasks ++ [{ handle, job, stage := .waiting }] }
  | none => shared

/-- One step of a task that holds a handle: a shutdown, an offer of what is left, or a
flush when nothing is. -/
def advance (handle : Handle) : Job → List UInt8 → Handle × Job.Stage
  | .shutdown, _ => (handle.shutdown.1, .ended none)
  | .write _, [] =>
      match handle.flush with
      | (handle, .ok ()) => (handle, .ended none)
      | (handle, .error reason) => (handle, .ended (some (.write reason)))
  | .write _, byte :: rest =>
      match handle.offer (byte :: rest) with
      | (handle, .ok count) => (handle, .holding (rest.drop count))
      | (handle, .error reason) => (handle, .ended (some (.write reason)))

def setStage (shared : Shared) (number : Nat) (stage : Job.Stage) : Shared :=
  { shared with tasks := shared.tasks.modify number ({ · with stage }) }

def take (shared : Shared) (number : Nat) (task : Task) : Shared :=
  if task.stage = .waiting ∧ !shared.tasks.any (·.holds task.handle) then
    { shared.setStage number (.holding task.job.payload) with
      takers := shared.takers ++ [number] }
  else shared

def proceed (shared : Shared) (number : Nat) (task : Task) : Shared :=
  match task.stage, shared.sessions.handles[task.handle]? with
  | .holding left, some handle =>
      let (handle, stage) := advance handle task.job left
      let handles := shared.sessions.handles.set task.handle handle
      { shared.setStage number stage with sessions := { shared.sessions with handles } }
  | _, _ => shared

def giveUp (shared : Shared) (number : Nat) (task : Task) : Shared :=
  match task.stage with
  | .waiting | .holding _ => shared.setStage number .givenUp
  | .ended _ | .givenUp => shared

def withTask (shared : Shared) (number : Nat) (act : Task → Shared) : Shared :=
  (shared.tasks[number]?.map act).getD shared

def step (shared : Shared) : Move → Shared
  | .register id handle => { shared with sessions := shared.sessions.register id handle }
  | .remove id => { shared with sessions := (shared.sessions.remove id).1 }
  | .write id payload => shared.begin id (.write payload)
  | .close id =>
      let begun := shared.begin id .shutdown
      { begun with sessions := (begun.sessions.remove id).1 }
  | .take number => shared.withTask number (shared.take number)
  | .proceed number => shared.withTask number (shared.proceed number)
  | .giveUp number => shared.withTask number (shared.giveUp number)

def run (shared : Shared) (moves : List Move) : Shared := moves.foldl step shared

end Shared

end Rollout.Terminal
