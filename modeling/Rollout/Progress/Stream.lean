import Rollout.Text.Pieces
import Rollout.Text.Utf8

namespace Rollout.Progress

/-! Progress on a long-lived connection.

Every text is framed into whole lines and handed over in one call.  The first
write or flush that fails disables the stream for good: no later call hands the
connection another byte.  A keep-alive sends a comment line at regular times so
that the connection is not closed for silence.
-/

/-- What a connection does with a write: it takes up to `count + 1` bytes of it,
or it fails.  A write that is interrupted is made again and does not count. -/
inductive Reception where
  | takes (count : Nat)
  | fails
deriving Repr, DecidableEq

def Reception.size : Reception → Nat
  | .takes count => count + 1
  | .fails => 0

/-- The reader's end of a stream.  `reception n` is the answer to write number
`n`, and `flushed n` says whether flush number `n` succeeds. -/
structure Connection where
  received : List UInt8
  writes : Nat
  flushes : Nat
  reception : Nat → Reception
  flushed : Nat → Bool

namespace Connection

def write (connection : Connection) (bytes : List UInt8) : Connection × Reception :=
  let reception := connection.reception connection.writes
  ({ connection with
      received := connection.received ++ bytes.take reception.size
      writes := connection.writes + 1 }, reception)

def writeAll (connection : Connection) (bytes : List UInt8) : Connection × Bool :=
  match bytes with
  | [] => (connection, true)
  | byte :: rest =>
      let (connection, reception) := connection.write (byte :: rest)
      match reception with
      | .fails => (connection, false)
      | .takes count => connection.writeAll (rest.drop count)
termination_by bytes.length
decreasing_by simp only [List.length_drop, List.length_cons]; omega

def flush (connection : Connection) : Connection × Bool :=
  ({ connection with flushes := connection.flushes + 1 }, connection.flushed connection.flushes)

end Connection

structure Stream where
  connection : Connection
  disabled : Bool

/-- The pieces of a text between its line breaks.  Line breaks at the end of the text
do not count. -/
def wholeLines (text : List Char) : List (List Char) :=
  Text.splitAt '\n' (Text.stripCharEnd '\n' text)

def frame (text : List Char) : List Char := (wholeLines text).flatMap (· ++ ['\n'])

def framed (text : String) : List UInt8 := Text.Utf8.encode (frame text.toList)

namespace Stream

def opened (connection : Connection) : Stream := { connection, disabled := false }

def send (stream : Stream) (text : String) : Stream :=
  if stream.disabled then stream
  else
    let (written, isWritten) := stream.connection.writeAll (framed text)
    if isWritten then
      let (flushed, isFlushed) := written.flush
      { connection := flushed, disabled := !isFlushed }
    else { connection := written, disabled := true }

def sendAll (stream : Stream) (texts : List String) : Stream := texts.foldl send stream

def keepAliveLine : String := ": keep-alive"

def keepAlive (stream : Stream) : Stream :=
  stream.send keepAliveLine

end Stream

/-- A running keep-alive: its interval, and when its next line is due, once its
first tick has passed. -/
structure KeepAlive where
  every : Nat
  due : Option Nat
deriving Repr

/-- Passes from one time to a later one.  A line that is due at the end of the
wait is left to the next one. -/
def KeepAlive.wait (keepAlive : KeepAlive) (stream : Stream) (start finish : Nat) :
    KeepAlive × Stream :=
  let due := keepAlive.due.getD (start + keepAlive.every)
  let lines := if keepAlive.every = 0 then 0
    else (finish - due + keepAlive.every - 1) / keepAlive.every
  ({ keepAlive with due := some (due + lines * keepAlive.every) },
    (List.range lines).foldl (fun stream _ => stream.keepAlive) stream)

end Rollout.Progress
