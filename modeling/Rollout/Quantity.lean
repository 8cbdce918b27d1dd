import Rollout.Text.Numeral
import Rollout.Text.Pieces

namespace Rollout.Quantity

/-! Durations and capacities as installer documents write them.

Both are whole numbers with an optional unit.  Numbers and results are 64-bit
words: what does not fit is rejected, never wrapped.
-/

inductive Error where
  | invalidDuration (text : String)
  | invalidSize (text : String)
deriving Repr, DecidableEq

def Error.message : Error → String
  | .invalidDuration text =>
      "invalid duration '" ++ text ++ "': expected seconds or a value suffixed with s, m, or h"
  | .invalidSize text =>
      "invalid size '" ++ text ++ "': expected a number optionally suffixed with MB, MiB, GB, or GiB"

def unitSeconds? : Char → Option Nat
  | 's' => some 1
  | 'm' => some 60
  | 'h' => some 3600
  | _ => none

def fit (value : Nat) : Option Nat :=
  if value < Text.wordLimit then some value else none

def duration? (trimmed : List Char) : Option Nat := do
  let last ← trimmed.getLast?
  let (number, unit) := match unitSeconds? last with
    | some seconds => (trimmed.dropLast, seconds)
    | none => (trimmed, 1)
  let amount ← Text.unsigned? Text.wordLimit (Text.trim number)
  fit (amount * unit)

/-- Reads a pause in seconds: a bare number counts seconds, the units `s`, `m`
and `h` seconds, minutes and hours. -/
def parseDuration (text : String) : Except Error Nat :=
  match duration? (Text.trim text.toList) with
  | some seconds => .ok seconds
  | none => .error (.invalidDuration text)

inductive CapacityUnit where
  | megabytes
  | gigabytes
  | bare
deriving Repr, DecidableEq

/-- The spellings of the units, longer ones before those that end them. -/
def unitNames : List (String × CapacityUnit) :=
  [("gib", .gigabytes), ("gb", .gigabytes), ("g", .gigabytes),
    ("mib", .megabytes), ("mb", .megabytes), ("m", .megabytes)]

def splitUnit (lower : List Char) : List Char × CapacityUnit :=
  let hit := unitNames.findSome? fun (name, unit) =>
    (Text.dropEnd? name.toList lower).map (·, unit)
  hit.getD (lower, .bare)

def capacity? (text : String) : Option (Nat × CapacityUnit) :=
  let (number, unit) := splitUnit ((Text.trim text.toList).map Char.toLower)
  (Text.unsigned? Text.wordLimit (Text.trim number)).map (·, unit)

def toMegabytes? : Nat × CapacityUnit → Option Nat
  | (amount, .gigabytes) => fit (amount * 1024)
  | (amount, _) => some amount

def toGigabytes : Nat × CapacityUnit → Nat
  | (amount, .megabytes) => amount / 1024
  | (amount, _) => amount

def parseMegabytes (text : String) : Except Error Nat :=
  match (capacity? text).bind toMegabytes? with
  | some amount => .ok amount
  | none => .error (.invalidSize text)

/-- Reads a capacity in gigabytes, rounding megabytes down; a bare number counts
gigabytes. -/
def parseGigabytes (text : String) : Except Error Nat :=
  match (capacity? text).map toGigabytes with
  | some amount => .ok amount
  | none => .error (.invalidSize text)

end Rollout.Quantity
