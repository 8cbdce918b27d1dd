import Rollout.Progress.Line
import Rollout.Progress.Stream

namespace Rollout.Progress

/-! Progress as a client reads it.

Lines end with a line feed, and what follows the last one is still on its way.  A
line that starts with a marker carries control information; every other line is for
people, also one whose output is not in base64.
-/

def behind? (marker : String) (chars : List Char) : Option (List Char) :=
  Text.dropStart? (marker.toList ++ [' ']) chars

def Line.control? (chars : List Char) : Option Line :=
  if chars = doneMarker.toList then some .done
  else
    (behind? failureMarker chars).map (.failed ∘ String.ofList) <|>
      (behind? sessionMarker chars).map (.sessionStarted ∘ String.ofList) <|>
      (behind? endMarker chars).map (.sessionEnded ∘ String.ofList) <|>
      ((behind? outputMarker chars).bind Text.Base64.decode?).map .terminalOutput

def Line.ofChars (chars : List Char) : Line :=
  (Line.control? chars).getD (.plain (String.ofList chars))

def linesIn (bytes : List UInt8) : List (List Char) :=
  (Text.splitAt '\n' (Text.Utf8.decodeLossy bytes)).dropLast

def read (bytes : List UInt8) : List Line := (linesIn bytes).map Line.ofChars

def markers : List String := [sessionMarker, outputMarker, endMarker, doneMarker, failureMarker]

/-- Whether a line starts with a marker, whatever follows it. -/
def isMarked (chars : List Char) : Bool := markers.any fun marker => marker.toList.isPrefixOf chars

end Rollout.Progress
