import Rollout.Progress.Stream

namespace Rollout.Progress

/-! Connections whose writes may be interrupted.

An interrupted write has taken nothing and is made again at once.  No write is
interrupted for ever, so a carrier says how often each one is before the connection
answers it.
-/

/-- Write number `n` is interrupted `interruptions n` times, and `suffered` counts those
that the next write has had so far. -/
structure Carrier where
  connection : Connection
  interruptions : Nat → Nat
  suffered : Nat

namespace Carrier

def writeAll (carrier : Carrier) (bytes : List UInt8) : Carrier × Bool :=
  match bytes with
  | [] => (carrier, true)
  | byte :: rest =>
      if carrier.suffered < carrier.interruptions carrier.connection.writes then
        { carrier with suffered := carrier.suffered + 1 }.writeAll (byte :: rest)
      else
        let (connection, reception) := carrier.connection.write (byte :: rest)
        let answered := { carrier with connection, suffered := 0 }
        match reception with
        | .fails => (answered, false)
        | .takes count => answered.writeAll (rest.drop count)
termination_by (bytes.length, carrier.interruptions carrier.connection.writes - carrier.suffered)
decreasing_by
  · exact Prod.Lex.right _ (by omega)
  · exact Prod.Lex.left _ _ (by simp only [List.length_drop, List.length_cons]; omega)

def flush (carrier : Carrier) : Carrier × Bool :=
  let (connection, isFlushed) := carrier.connection.flush
  ({ carrier with connection }, isFlushed)

/-- A stream over a carrier. -/
structure Stream where
  carrier : Carrier
  disabled : Bool

namespace Stream

def opened (carrier : Carrier) : Stream := { carrier, disabled := false }

def send (stream : Stream) (text : String) : Stream :=
  if stream.disabled then stream
  else
    let (written, isWritten) := stream.carrier.writeAll (framed text)
    if isWritten then
      let (flushed, isFlushed) := written.flush
      { carrier := flushed, disabled := !isFlushed }
    else { carrier := written, disabled := true }

def sendAll (stream : Stream) (texts : List String) : Stream := texts.foldl send stream

end Stream

end Carrier

end Rollout.Progress
