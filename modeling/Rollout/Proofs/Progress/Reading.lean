import Rollout.Proofs.Progress.Control
import Rollout.Proofs.Text.Base64

namespace Rollout.Progress

/-! What a client makes of the lines of terminal sessions. -/

def Line.output? : Line → Option (List UInt8)
  | .terminalOutput bytes => some bytes
  | .plain _ | .sessionStarted _ | .sessionEnded _ | .done | .failed _ => none

/-- The outputs of terminals that a client finds in some lines. -/
def outputsIn (lines : List Line) : List (List UInt8) :=
  lines.filterMap fun line => (Line.ofChars line.text.toList).output?

def Line.isOfSession : Line → Bool
  | .sessionStarted _ | .terminalOutput _ | .sessionEnded _ => true
  | .plain _ | .done | .failed _ => false

variable {rest : List Char}

theorem behind?_spaced (marker : String) (rest : List Char) :
    behind? marker (marker.toList ++ ' ' :: rest) = some rest := by
  have found (start : List Char) : Text.dropStart? start (start ++ rest) = some rest := by
    induction start with
    | nil => rfl
    | cons char start ih => exact (if_pos rfl).trans ih
  have spaced := found (marker.toList ++ [' '])
  rwa [List.append_assoc] at spaced

-- No marker followed by a blank starts another, so the first reading that succeeds is the one meant.
theorem control?_session :
    Line.control? (sessionMarker.toList ++ ' ' :: rest) =
      some (.sessionStarted (String.ofList rest)) := by
  have other : sessionMarker.toList ++ ' ' :: rest ≠ doneMarker.toList := nofun
  have unfailed : behind? failureMarker (sessionMarker.toList ++ ' ' :: rest) = none := rfl
  rw [Line.control?, if_neg other, unfailed, behind?_spaced]
  rfl

theorem control?_end :
    Line.control? (endMarker.toList ++ ' ' :: rest) = some (.sessionEnded (String.ofList rest)) := by
  have other : endMarker.toList ++ ' ' :: rest ≠ doneMarker.toList := nofun
  have unfailed : behind? failureMarker (endMarker.toList ++ ' ' :: rest) = none := rfl
  have unstarted : behind? sessionMarker (endMarker.toList ++ ' ' :: rest) = none := rfl
  rw [Line.control?, if_neg other, unfailed, unstarted, behind?_spaced]
  rfl

theorem control?_output {bytes : List UInt8} (decoded : Text.Base64.decode? rest = some bytes) :
    Line.control? (outputMarker.toList ++ ' ' :: rest) = some (.terminalOutput bytes) := by
  have other : outputMarker.toList ++ ' ' :: rest ≠ doneMarker.toList := nofun
  have unfailed : behind? failureMarker (outputMarker.toList ++ ' ' :: rest) = none := rfl
  have unstarted : behind? sessionMarker (outputMarker.toList ++ ' ' :: rest) = none := rfl
  have unended : behind? endMarker (outputMarker.toList ++ ' ' :: rest) = none := rfl
  rw [Line.control?, if_neg other, unfailed, unstarted, unended, behind?_spaced, Option.bind_some,
    decoded]
  rfl

/-- A client reads the lines of a session as they were meant. -/
theorem ofChars_text {line : Line} (ofSession : line.isOfSession = true) :
    Line.ofChars line.text.toList = line := by
  cases line with
  | sessionStarted id =>
      rw [Line.ofChars, Line.text, toList_spaced, control?_session, String.ofList_toList]
      rfl
  | terminalOutput bytes =>
      have decoded : Text.Base64.decode? (String.ofList (Text.Base64.encode bytes)).toList =
          some bytes := by
        rw [String.toList_ofList]
        exact Text.Base64.decode?_encode bytes
      rw [Line.ofChars, Line.text, toList_spaced, control?_output decoded]
      rfl
  | sessionEnded id =>
      rw [Line.ofChars, Line.text, toList_spaced, control?_end, String.ofList_toList]
      rfl
  | plain text => cases ofSession
  | done => cases ofSession
  | failed message => cases ofSession

theorem outputsIn_eq {lines : List Line} (ofSession : ∀ line ∈ lines, line.isOfSession = true) :
    outputsIn lines = lines.filterMap Line.output? := by
  induction lines with
  | nil => rfl
  | cons line lines ih =>
      obtain ⟨first, later⟩ := List.forall_mem_cons.mp ofSession
      have same := ih later
      unfold outputsIn at same ⊢
      rw [List.filterMap_cons, List.filterMap_cons, ofChars_text first, same]

end Rollout.Progress
