import Rollout.Text.Base64
import Rollout.Text.Blank
import Rollout.Text.Pieces

namespace Rollout.Progress

/-! The lines in which a deployment reports its progress.

A line is for people or carries control information for the client that shows
it: terminal sessions and their output, and the outcome of the run.  Control
lines start with a marker in brackets.
-/

inductive Line where
  | plain (text : String)
  | sessionStarted (id : String)
  | terminalOutput (bytes : List UInt8)
  | sessionEnded (id : String)
  | done
  | failed (message : String)
deriving Repr, DecidableEq

/-- Folds a message onto one line: its trimmed lines that are not blank, joined
by spaces. -/
def folded (message : List Char) : List Char :=
  let pieces := (Text.lines message).map Text.trim
  List.intercalate [' '] (pieces.filter fun piece => !piece.isEmpty)

def sessionMarker : String := "[SELFHOSTED::PTY_SESSION]"
def outputMarker : String := "[SELFHOSTED::PTY]"
def endMarker : String := "[SELFHOSTED::PTY_END]"
def doneMarker : String := "[SELFHOSTED::DONE]"
def failureMarker : String := "[SELFHOSTED::ERROR]"

def Line.text : Line → String
  | .plain text => text
  | .sessionStarted id => s!"{sessionMarker} {id}"
  | .terminalOutput bytes => s!"{outputMarker} {String.ofList (Text.Base64.encode bytes)}"
  | .sessionEnded id => s!"{endMarker} {id}"
  | .done => doneMarker
  | .failed message => s!"{failureMarker} {String.ofList (folded message.toList)}"

end Rollout.Progress
