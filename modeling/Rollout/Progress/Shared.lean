import Rollout.Progress.Stream

namespace Rollout.Progress

/-! A stream that several tasks use at the same time.

A call looks whether the stream is disabled, waits for the lock, writes and flushes,
notes a failure, and gives the lock back.  The tasks take turns in any order, and a
turn is one such step, so a run is a fold over any sequence of turns.  The stream
is not looked at again once the lock is there: a call that found it enabled writes,
also when another call disabled it in the meantime.
-/

inductive Stage where
  | arriving
  | waiting
  | writing (left : List UInt8)
  | failed
  | leaving
  | ended
deriving Repr, DecidableEq

def Stage.holdsLock : Stage → Bool
  | .writing _ | .failed | .leaving => true
  | .arriving | .waiting | .ended => false

structure Call where
  text : String
  stage : Stage
deriving Repr, DecidableEq

/-- The calls are known by their places. -/
structure Shared where
  stream : Stream
  calls : List Call

namespace Shared

def opened (connection : Connection) (texts : List String) : Shared :=
  { stream := .opened connection
    calls := texts.map fun text => { text, stage := .arriving } }

def isLocked (shared : Shared) : Bool := shared.calls.any (·.stage.holdsLock)

def next (shared : Shared) (call : Call) : Stream × Stage :=
  let stream := shared.stream
  match call.stage with
  | .arriving => (stream, if stream.disabled then .ended else .waiting)
  | .waiting => (stream, if shared.isLocked then .waiting else .writing (framed call.text))
  | .writing [] =>
      let (connection, isFlushed) := stream.connection.flush
      ({ stream with connection }, if isFlushed then .leaving else .failed)
  | .writing left =>
      let (connection, reception) := stream.connection.write left
      ({ stream with connection },
        match reception with
        | .fails => .failed
        | .takes count => .writing (left.drop (count + 1)))
  | .failed => ({ stream with disabled := true }, .leaving)
  | .leaving | .ended => (stream, .ended)

def step (shared : Shared) (place : Nat) : Shared :=
  match shared.calls[place]? with
  | none => shared
  | some call =>
      let (stream, stage) := shared.next call
      { stream, calls := shared.calls.set place { call with stage } }

def run (shared : Shared) (turns : List Nat) : Shared := turns.foldl step shared

end Shared

end Rollout.Progress
