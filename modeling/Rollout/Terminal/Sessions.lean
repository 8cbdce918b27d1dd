import Rollout.Json.Basic
import Rollout.Text.Base64
import Rollout.Text.Blank
import Std.Data.ExtTreeMap

namespace Rollout.Terminal

/-! The directory of live terminal sessions.

An id is bound to the input handle of its session.  Every handle is numbered in
the order of registration and remembers the bytes it has received, so that a
handle stays what it is when its id is bound again or removed.
-/

inductive SessionError where
  | unknownSession (id : String)
  | write (reason : String)
  /-- The payload, as the decoder was given it. -/
  | invalidKeystrokes (payload : String)
deriving Repr, DecidableEq

/-- What is wrong with a payload is said by the decoder in its own words. -/
def SessionError.message (complaint : String → String) : SessionError → String
  | .unknownSession id => s!"unknown session '{id}'"
  | .write reason => s!"failed to write to terminal: {reason}"
  | .invalidKeystrokes payload => s!"invalid keystroke payload: {complaint payload}"

/-- What is asked of the input of a terminal. -/
inductive Call where
  | offer (bytes : List UInt8)
  | flush
  | shutdown
deriving Repr, DecidableEq

/-- The input of a terminal.  What it makes of a call may depend on all calls before.  It
takes at least one of the bytes that are offered, and up to as many more as it says, or
it refuses. -/
structure Handle where
  calls : List Call
  received : List UInt8
  isShut : Bool
  reception : List Call → List UInt8 → Except String Nat
  flushing : List Call → Except String Unit
  shutting : List Call → Except String Unit

namespace Handle

def after (handle : Handle) (call : Call) : Handle :=
  { handle with calls := handle.calls ++ [call] }

def receive (handle : Handle) (bytes : List UInt8) : Handle :=
  { handle with received := handle.received ++ bytes }

def offer (handle : Handle) (bytes : List UInt8) : Handle × Except String Nat :=
  let reception := handle.reception handle.calls bytes
  let asked := handle.after (.offer bytes)
  match reception with
  | .ok count => (asked.receive (bytes.take (count + 1)), reception)
  | .error _ => (asked, reception)

def flush (handle : Handle) : Handle × Except String Unit :=
  (handle.after .flush, handle.flushing handle.calls)

/-- A handle counts as shut down also when it refuses. -/
def shutdown (handle : Handle) : Handle × Except String Unit :=
  ({ handle.after .shutdown with isShut := true }, handle.shutting handle.calls)

/-- Hands over all bytes in pieces that the handle takes. -/
def writeAll (handle : Handle) (bytes : List UInt8) : Handle × Except String Unit :=
  match bytes with
  | [] => (handle, .ok ())
  | byte :: rest =>
      let (handle, reception) := handle.offer (byte :: rest)
      match reception with
      | .ok count => handle.writeAll (rest.drop count)
      | .error reason => (handle, .error reason)
termination_by bytes.length
decreasing_by simp only [List.length_drop, List.length_cons]; omega

/-- Hands over all bytes and then flushes the handle. -/
def write (handle : Handle) (bytes : List UInt8) : Handle × Except SessionError Unit :=
  match handle.writeAll bytes with
  | (handle, .error reason) => (handle, .error (.write reason))
  | (handle, .ok ()) =>
      let (handle, flushed) := handle.flush
      (handle, flushed.mapError .write)

end Handle

structure Sessions where
  handles : List Handle
  bound : Std.ExtTreeMap String Nat

structure KeystrokeRequest where
  sessionId : String
  data : String
deriving Repr, DecidableEq

def KeystrokeRequest.payload (request : KeystrokeRequest) : List Char :=
  Text.trim request.data.toList

/-- Reads a request from an object, whose other fields are ignored, or from the
array of its two fields. -/
def KeystrokeRequest.ofJson? : Json → Option KeystrokeRequest
  | .object entries => do
      let one (name : String) : Option String :=
        match entries.filter (·.1 = name) with
        | [(_, value)] => value.text?
        | _ => none
      some { sessionId := ← one "sessionId", data := ← one "dataB64" }
  | .array [sessionId, data] => do
      some { sessionId := ← sessionId.text?, data := ← data.text? }
  | _ => none

namespace Sessions

def empty : Sessions := { handles := [], bound := ∅ }

/-- Binds an id to a new handle, in place of the one it was bound to. -/
def register (sessions : Sessions) (id : String) (handle : Handle) : Sessions :=
  { handles := sessions.handles ++ [handle]
    bound := sessions.bound.insert id sessions.handles.length }

def find? (sessions : Sessions) (id : String) : Option (Nat × Handle) := do
  let number ← sessions.bound[id]?
  some (number, ← sessions.handles[number]?)

def write (sessions : Sessions) (id : String) (bytes : List UInt8) :
    Sessions × Except SessionError Unit :=
  match sessions.find? id with
  | none => (sessions, .error (.unknownSession id))
  | some (number, handle) =>
      let (handle, outcome) := handle.write bytes
      ({ sessions with handles := sessions.handles.set number handle }, outcome)

def inject (sessions : Sessions) (request : KeystrokeRequest) :
    Sessions × Except SessionError Unit :=
  match Text.Base64.decode? request.payload with
  | none => (sessions, .error (.invalidKeystrokes (String.ofList request.payload)))
  | some bytes => sessions.write request.sessionId bytes

def close (sessions : Sessions) (id : String) : Sessions :=
  match sessions.find? id with
  | none => sessions
  | some (number, handle) =>
      { handles := sessions.handles.set number handle.shutdown.1
        bound := sessions.bound.erase id }

def remove (sessions : Sessions) (id : String) : Sessions × Bool :=
  ({ sessions with bound := sessions.bound.erase id }, sessions.bound.contains id)

/-- Adds bytes to what a handle has received, whatever ids are bound to it. -/
def deliver (sessions : Sessions) (number : Nat) (bytes : List UInt8) : Sessions :=
  { sessions with
    handles := sessions.handles.modify number (·.receive bytes) }

def contains (sessions : Sessions) (id : String) : Bool := sessions.bound.contains id

def size (sessions : Sessions) : Nat := sessions.bound.size

inductive Operation where
  | register (id : String) (handle : Handle)
  | write (id : String) (bytes : List UInt8)
  | inject (request : KeystrokeRequest)
  | close (id : String)
  | remove (id : String)
  | contains (id : String)
  | size

abbrev Operation.Result : Operation → Type
  | .register .. | .close _ => Unit
  | .write .. | .inject _ => Except SessionError Unit
  | .remove _ | .contains _ => Bool
  | .size => Nat

def apply (sessions : Sessions) : (operation : Operation) → Sessions × operation.Result
  | .register id handle => (sessions.register id handle, ())
  | .write id bytes => sessions.write id bytes
  | .inject request => sessions.inject request
  | .close id => (sessions.close id, ())
  | .remove id => sessions.remove id
  | .contains id => (sessions, sessions.contains id)
  | .size => (sessions, sessions.size)

end Sessions

end Rollout.Terminal
