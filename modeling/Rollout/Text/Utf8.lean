namespace Rollout.Text.Utf8

/-! UTF-8 as a machine that reads one byte at a time.

Between two bytes the machine remembers at most one unfinished character.  A
byte that cannot continue it ends the unfinished character as one broken piece
and is then read afresh, so every maximal broken piece is reported once.
-/

/-- A character of which `missing` more bytes are due; the next one has to lie
between `low` and `high`. -/
structure Pending where
  value : Nat
  missing : Nat
  low : UInt8
  high : UInt8
deriving Repr, DecidableEq

/-- What the machine reports: a character, or one broken piece. -/
abbrev Piece := Option Char

def tail (value missing : Nat) (low high : UInt8) : List Piece × Option Pending :=
  ([], some { value, missing, low, high })

def start (byte : UInt8) : List Piece × Option Pending :=
  let code := byte.toNat
  if byte < 0x80 then ([some (Char.ofNat code)], none)
  else if byte < 0xC2 then ([none], none)
  else if byte < 0xE0 then tail (code % 32) 1 0x80 0xBF
  else if byte = 0xE0 then tail 0 2 0xA0 0xBF
  else if byte = 0xED then tail 13 2 0x80 0x9F
  else if byte < 0xF0 then tail (code % 16) 2 0x80 0xBF
  else if byte = 0xF0 then tail 0 3 0x90 0xBF
  else if byte < 0xF4 then tail (code % 8) 3 0x80 0xBF
  else if byte = 0xF4 then tail 4 3 0x80 0x8F
  else ([none], none)

namespace Pending

def accepts (pending : Pending) (byte : UInt8) : Bool :=
  pending.low ≤ byte && byte ≤ pending.high

def push (pending : Pending) (byte : UInt8) : List Piece × Option Pending :=
  let value := pending.value * 64 + byte.toNat % 64
  if pending.missing ≤ 1 then ([some (Char.ofNat value)], none)
  else tail value (pending.missing - 1) 0x80 0xBF

end Pending

def step (byte : UInt8) : Option Pending → List Piece × Option Pending
  | none => start byte
  | some pending =>
      if pending.accepts byte then pending.push byte
      else
        let (pieces, next) := start byte
        (none :: pieces, next)

def piecesFrom (state : Option Pending) : List UInt8 → List Piece
  | [] => if state.isSome then [none] else []
  | byte :: bytes =>
      let (pieces, next) := step byte state
      pieces ++ piecesFrom next bytes

def pieces (bytes : List UInt8) : List Piece :=
  piecesFrom none bytes

def encode (chars : List Char) : List UInt8 :=
  chars.flatMap String.utf8EncodeChar

/-- Decodes any bytes; each broken piece becomes the replacement character. -/
def decodeLossy (bytes : List UInt8) : List Char :=
  (pieces bytes).map (·.getD '\uFFFD')

def decode? (bytes : List UInt8) : Option (List Char) :=
  (pieces bytes).mapM id

def bytesOf (text : String) : List UInt8 :=
  encode text.toList

def textOf (bytes : List UInt8) : String :=
  String.ofList (decodeLossy bytes)

end Rollout.Text.Utf8
