import Rollout.Terminal.Window

namespace Rollout.Terminal

/-! Waiting for a prompt while output arrives.

The one who waits looks at the window, and rests when the prompt is not there: until
something is written, for a quarter of a second, or up to the end of the wait.  A
write always leaves a note, so one that comes between a look and the rest is not
missed.  The clock moves only while there is nothing to do, and never past the end
of a rest.
-/

def restLimit : Nat := 250

namespace Waiting

inductive Stage where
  | looking
  | resting (wake : Nat)
  | ended (wasSeen : Bool)
deriving Repr, DecidableEq

inductive Event where
  | written (chunk : List UInt8)
  | look
  | notice
  | wake
  | clock (time : Nat)
deriving Repr, DecidableEq

end Waiting

structure Waiting where
  prompt : Prompt
  deadline : Nat
  now : Nat
  window : Window
  hasNote : Bool
  stage : Waiting.Stage

namespace Waiting

/-- A wait begins with a look.  There may be a note of a write before it. -/
def start (window : Window) (hasNote : Bool) (prompt : Prompt) (now limit : Nat) : Waiting where
  prompt := prompt
  deadline := now + limit
  now := now
  window := window
  hasNote := hasNote
  stage := .looking

def looked (waiting : Waiting) : Stage :=
  if waiting.window.shows waiting.prompt then .ended true
  else if waiting.deadline ≤ waiting.now then .ended false
  else .resting (waiting.now + min (waiting.deadline - waiting.now) restLimit)

/-- The wait after an event, or nothing when the event cannot come now. -/
def step? (waiting : Waiting) (event : Event) : Option Waiting :=
  match waiting.stage, event with
  | .ended _, _ => none
  | _, .written chunk =>
      some { waiting with window := waiting.window.append chunk, hasNote := true }
  | .looking, .look => some { waiting with stage := waiting.looked }
  | .resting _, .notice =>
      if waiting.hasNote then some { waiting with hasNote := false, stage := .looking } else none
  | .resting wake, .wake =>
      if wake ≤ waiting.now then some { waiting with stage := .looking } else none
  | .resting wake, .clock time =>
      if !waiting.hasNote && waiting.now < time && time ≤ wake then
        some { waiting with now := time }
      else none
  | _, _ => none

def run? (waiting : Waiting) (events : List Event) : Option Waiting :=
  events.foldlM step? waiting

end Waiting

end Rollout.Terminal
