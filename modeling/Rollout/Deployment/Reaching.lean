import Rollout.Deployment.Action
import Rollout.Deployment.Plan

namespace Rollout.Clock

/-- The first second that the clock cannot show: it counts in a signed 64-bit
word. -/
def limitSeconds : Nat := Nat.pow 2 63

/-- A moment some time later, both in milliseconds, if the clock can show it. -/
def later? (moment time : Nat) : Option Nat :=
  if (moment + time) / 1000 < limitSeconds then some (moment + time) else none

end Rollout.Clock

namespace Rollout.Deployment

/-! Waiting until a new server takes connections for SSH.

An attempt gets ten seconds, or what is left of the wait.  After an attempt that
failed, the next follows when the retry interval has passed, unless the wait is
over by then.  Moments that the clock cannot show break the run off.
-/

variable {Backend : Type}

def attemptLimit : Nat := 10000

def endpoint (address : Address) (port : UInt16) : String :=
  match address with
  | .v4 _ => s!"{address.toText}:{port.toNat}"
  | .v6 _ => s!"[{address.toText}]:{port.toNat}"

def laterOrHalt (moment time : Nat) : Stage Backend Unready Nat :=
  match Clock.later? moment time with
  | some moment => pure moment
  | none => halt

def attempt (host : Address) (port : UInt16) (patience : Patience) (deadline : Nat)
    (failure : Unready) : (attempts moment : Nat) → Stage Backend Unready Unit
  | 0, _ => throw failure
  | attempts + 1, moment => do
      let tried ← ask (.dial host port (min (deadline - moment) attemptLimit))
      if tried.isConnected then pure ()
      else
        let next ← laterOrHalt (moment + tried.time) patience.retry
        if next ≥ deadline then throw failure
        else
          ask (.pause patience.retry)
          attempt host port patience deadline failure attempts next

/-- The most attempts that fit into the wait. -/
def Patience.attempts (patience : Patience) : Nat := patience.timeout / max patience.retry 1 + 1

/-- Leaves the host some time after the attempt that succeeded. -/
def Patience.rest (patience : Patience) : Stage Backend Unready Unit :=
  if patience.settle = 0 then pure () else ask (.pause patience.settle)

def reach (host : Address) (port : UInt16) (patience : Patience) : Stage Backend Unready Unit := do
  let name := endpoint host port
  say s!"Waiting for SSH on {name}"
  let start ← ask .now
  let deadline ← laterOrHalt start patience.timeout
  let failure := Unready.ssh name (patience.timeout / 1000)
  attempt host port patience deadline failure patience.attempts start
  patience.rest
  say "SSH is ready"

end Rollout.Deployment
