import Rollout.Text.Utf8

namespace Rollout.Terminal

/-! What a terminal shows of the bytes that a program writes to it.

The bytes go through the states of a terminal that reads escape sequences.  Only
text is kept: printed characters and line feeds, also those inside of a
sequence.  All other control characters, and the sequences themselves, leave no
trace.
-/

inductive Reading where
  /-- Between sequences, perhaps inside of a character. -/
  | ground (pending : Option Text.Utf8.Pending)
  | escape
  | escapeIntermediate
  | csiEntry
  | csiParameter
  | csiIntermediate
  | csiIgnore
  | dcsEntry
  | dcsParameter
  | dcsIntermediate
  | dcsPassthrough
  | command
  | ignoredString
deriving Repr, DecidableEq

/-- Control characters of either set, which a text does not show. -/
def isControl (char : Char) : Bool :=
  char.toNat < 0x20 || (0x7F ≤ char.toNat && char.toNat ≤ 0x9F)

def isShown (char : Char) : Bool :=
  char = '\n' || !isControl char

def ground : Reading := .ground none

def execute (byte : UInt8) : List Char :=
  if byte = 0x0A then ['\n'] else []

def isExecuted (byte : UInt8) : Bool :=
  byte < 0x18 || byte = 0x19 || (0x1C ≤ byte && byte < 0x20)

/-- Bytes that end any sequence: cancel, substitute and escape. -/
def anywhere (state : Reading) (byte : UInt8) : List Char × Reading :=
  if byte = 0x18 ∨ byte = 0x1A then (execute byte, ground)
  else if byte = 0x1B then ([], .escape)
  else ([], state)

def shown (pieces : List Text.Utf8.Piece) : List Char :=
  (pieces.map (·.getD '\uFFFD')).filter isShown

/-- Reads a byte that begins a character or a sequence.  A byte of the second set
of controls does nothing. -/
def fresh (byte : UInt8) : List Char × Reading :=
  if byte = 0x1B then ([], .escape)
  else if 0x80 ≤ byte ∧ byte ≤ 0x9F then ([], ground)
  else
    let (pieces, pending) := Text.Utf8.start byte
    (shown pieces, .ground pending)

def stepGround (pending : Option Text.Utf8.Pending) (byte : UInt8) :
    List Char × Reading :=
  match pending with
  | none => fresh byte
  | some pending =>
      if pending.accepts byte then
        let (pieces, pending) := pending.push byte
        (shown pieces, .ground pending)
      else
        let (chars, state) := fresh byte
        ('\uFFFD' :: chars, state)

def stepEscape (byte : UInt8) : List Char × Reading :=
  if isExecuted byte then (execute byte, .escape)
  else if byte = 0x18 ∨ byte = 0x1A then (execute byte, ground)
  else if byte < 0x20 ∨ 0x7F ≤ byte then ([], .escape)
  else if byte < 0x30 then ([], .escapeIntermediate)
  else if byte = 0x50 then ([], .dcsEntry)
  else if byte = 0x5B then ([], .csiEntry)
  else if byte = 0x5D then ([], .command)
  else if byte = 0x58 ∨ byte = 0x5E ∨ byte = 0x5F then ([], .ignoredString)
  else ([], ground)

def stepEscapeIntermediate (byte : UInt8) : List Char × Reading :=
  if isExecuted byte then (execute byte, .escapeIntermediate)
  else if byte < 0x20 ∨ 0x7F ≤ byte then anywhere .escapeIntermediate byte
  else if byte < 0x30 then ([], .escapeIntermediate)
  else ([], ground)

def stepCsi (state : Reading) (byte : UInt8) : List Char × Reading :=
  if isExecuted byte then (execute byte, state)
  else if byte < 0x20 ∨ 0x7F ≤ byte then anywhere state byte
  else if 0x40 ≤ byte then ([], ground)
  else if state = .csiIgnore then ([], .csiIgnore)
  else if byte < 0x30 then ([], .csiIntermediate)
  else if state = .csiIntermediate ∨ (state = .csiParameter ∧ 0x3C ≤ byte) then ([], .csiIgnore)
  else ([], .csiParameter)

def stepDcs (state : Reading) (byte : UInt8) : List Char × Reading :=
  if isExecuted byte then ([], state)
  else if byte < 0x20 ∨ 0x7F ≤ byte then anywhere state byte
  else if 0x40 ≤ byte then ([], .dcsPassthrough)
  else if byte < 0x30 then ([], .dcsIntermediate)
  else if state = .dcsIntermediate ∨ (state = .dcsParameter ∧ 0x3C ≤ byte) then
    ([], .ignoredString)
  else ([], .dcsParameter)

def stepPassthrough (byte : UInt8) : List Char × Reading :=
  if byte = 0x9C then ([], ground) else anywhere .dcsPassthrough byte

/-- Operating system commands, which a bell ends too. -/
def stepCommand (byte : UInt8) : List Char × Reading :=
  if byte = 0x07 then ([], ground) else anywhere .command byte

def step : Reading → UInt8 → List Char × Reading
  | .ground pending, byte => stepGround pending byte
  | .escape, byte => stepEscape byte
  | .escapeIntermediate, byte => stepEscapeIntermediate byte
  | .dcsEntry, byte => stepDcs .dcsEntry byte
  | .dcsParameter, byte => stepDcs .dcsParameter byte
  | .dcsIntermediate, byte => stepDcs .dcsIntermediate byte
  | .dcsPassthrough, byte => stepPassthrough byte
  | .command, byte => stepCommand byte
  | .ignoredString, byte => anywhere .ignoredString byte
  | state, byte => stepCsi state byte

def stripFrom (state : Reading) : List UInt8 → List Char
  | [] => []
  | byte :: bytes =>
      let (chars, next) := step state byte
      chars ++ stripFrom next bytes

def strip (bytes : List UInt8) : List Char :=
  stripFrom ground bytes

end Rollout.Terminal
