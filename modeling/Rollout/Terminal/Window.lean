import Rollout.Terminal.Escape
import Rollout.Text.Pieces

namespace Rollout.Terminal

/-! The most recent output of a terminal, in which prompts are looked for.

The window keeps the last `capacity` bytes of all that was written, whatever the
chunks in which it arrived.  A prompt is matched against what the terminal shows
of these bytes, without escape sequences.
-/

/-- A way to read patterns: the texts in which a pattern occurs, or nothing if it cannot
be read. -/
abbrev Patterns := String → Option (List Char → Bool)

inductive Prompt where
  | text (wanted : String)
  | pattern (occurs : List Char → Bool)

def Prompt.occursIn (prompt : Prompt) (shown : List Char) : Bool :=
  match prompt with
  | .text wanted => Text.occursIn wanted.toList shown
  | .pattern occurs => occurs shown

structure Window where
  bytes : List UInt8
deriving Repr, DecidableEq

namespace Window

def capacity : Nat := 65536

def empty : Window := { bytes := [] }

def append (window : Window) (chunk : List UInt8) : Window :=
  let all := window.bytes ++ chunk
  { bytes := all.drop (all.length - capacity) }

def shown (window : Window) : List Char := strip window.bytes

def shows (window : Window) (prompt : Prompt) : Bool :=
  prompt.occursIn window.shown

/-- Waits for a prompt while nothing more is written: whether it was seen, and
the time waited. -/
def await (window : Window) (prompt : Prompt) (limit : Nat) : Bool × Nat :=
  if window.shows prompt then (true, 0) else (false, limit)

end Window

end Rollout.Terminal
