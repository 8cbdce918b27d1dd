import Rollout.Json.Basic
import Rollout.Text.Numeral
import Rollout.Text.Utf8

namespace Rollout.Json

/-! Reading JSON texts.

Every reader takes the characters from its own start on and returns what it read
with the characters behind it.  Values nest, so the reader of values carries a
bound that the length of the text never exceeds: each value uses a character.

A text that breaks off in the middle of an escaped character, and a number that
no binary fraction can hold, are values all the same: they are refused by those
who read them.
-/

def isGap (char : Char) : Bool :=
  char = ' ' || char = '\t' || char = '\n' || char = '\r'

def skipGap (chars : List Char) : List Char :=
  chars.dropWhile isGap

def hexDigit? (char : Char) : Option Nat :=
  if Text.isDigit char then some (Text.digitValue char)
  else if 'a' ≤ char ∧ char ≤ 'f' then some (char.toNat - 'a'.toNat + 10)
  else if 'A' ≤ char ∧ char ≤ 'F' then some (char.toNat - 'A'.toNat + 10)
  else none

def hexUnit? : List Char → Option (Nat × List Char)
  | a :: b :: c :: d :: rest => do
      let digits ← [a, b, c, d].mapM hexDigit?
      some (digits.foldl (fun value digit => 16 * value + digit) 0, rest)
  | _ => none

/-- The second half of a character beyond the first plane. -/
def lowHalf? : List Char → Option (Nat × List Char)
  | '\\' :: 'u' :: chars => do
      let (second, rest) ← hexUnit? chars
      if 0xDC00 ≤ second ∧ second ≤ 0xDFFF then some (second - 0xDC00, rest) else none
  | _ => none

/-- Reads the hexadecimal digits of an escaped character.  A character beyond
the first plane is written as two escapes, and half of it is none. -/
def escapedUnit? (chars : List Char) : Option (Option Char × List Char) := do
  let (first, rest) ← hexUnit? chars
  if 0xDC00 ≤ first ∧ first ≤ 0xDFFF then some (none, rest)
  else if 0xD800 ≤ first ∧ first ≤ 0xDBFF then
    match lowHalf? rest with
    | some (second, rest) =>
        some (some (Char.ofNat (0x10000 + (first - 0xD800) * 0x400 + second)), rest)
    | none => some (none, rest)
  else some (some (Char.ofNat first), rest)

def simpleEscape? : Char → Option Char
  | '"' => some '"'
  | '\\' => some '\\'
  | '/' => some '/'
  | 'b' => some '\x08'
  | 'f' => some '\x0c'
  | 'n' => some '\n'
  | 'r' => some '\r'
  | 't' => some '\t'
  | _ => none

/-- Reads on in a text, of which the characters so far are known unless it is garbled. -/
def stringTail? : Nat → Option (List Char) → List Char → Option (Option String × List Char)
  | 0, _, _ => none
  | _ + 1, _, [] => none
  | bound + 1, reversed, char :: chars =>
      if char = '"' then some (reversed.map fun chars => String.ofList chars.reverse, chars)
      else if char = '\\' then
        match chars with
        | 'u' :: chars => do
            let (char, chars) ← escapedUnit? chars
            stringTail? bound (do some ((← char) :: (← reversed))) chars
        | escape :: chars => do
            let char ← simpleEscape? escape
            stringTail? bound (reversed.map (char :: ·)) chars
        | [] => none
      else if char.toNat < 0x20 then none
      else stringTail? bound (reversed.map (char :: ·)) chars

private def wholePart? (chars : List Char) : Option (List Char × List Char) :=
  match chars with
  | '0' :: next :: rest => if Text.isDigit next then none else some (['0'], next :: rest)
  | _ =>
      let digits := chars.takeWhile Text.isDigit
      if digits.isEmpty then none else some (digits, chars.dropWhile Text.isDigit)

private def exponentPart? (chars : List Char) : Option (Int × List Char) :=
  let (negative, chars) := match chars with
    | '-' :: rest => (true, rest)
    | '+' :: rest => (false, rest)
    | _ => (false, chars)
  let digits := chars.takeWhile Text.isDigit
  if digits.isEmpty then none
  else
    let size : Int := Text.decimalValue digits
    some (if negative then -size else size, chars.dropWhile Text.isDigit)

/-- A number as it was written; whole numbers beyond 64 bits count as fractions,
and so does a negative zero. -/
private def numberOf (negative : Bool) (digits : List Char) : Json :=
  let size := Text.decimalValue digits
  if negative then
    if size = 0 ∨ size > Nat.pow 2 63 then .fraction true size 0 else .whole (-size)
  else if size < Text.wordLimit then .whole size
  else .fraction false size 0

private def readNumber? (chars : List Char) : Option (Json × List Char) := do
  let (negative, chars) := match chars with
    | '-' :: rest => (true, rest)
    | _ => (false, chars)
  let (digits, chars) ← wholePart? chars
  let (places, chars) ← match chars with
    | '.' :: rest =>
        let places := rest.takeWhile Text.isDigit
        if places.isEmpty then none else some (places, rest.dropWhile Text.isDigit)
    | _ => some ([], chars)
  let (exponent, chars, scaled) ← match chars with
    | 'e' :: rest | 'E' :: rest => do
        let (exponent, rest) ← exponentPart? rest
        some (exponent, rest, true)
    | _ => some (0, chars, false)
  if places.isEmpty && !scaled then some (numberOf negative digits, chars)
  else
    let mantissa := Text.decimalValue (digits ++ places)
    -- Beyond these bounds the number is zero or too large whatever its digits say.
    let exponent := max (-100000) (min 100000 exponent)
    some (.fraction negative mantissa (exponent - places.length), chars)

def keyword? (word : String) (value : Json) (chars : List Char) :
    Option (Json × List Char) :=
  if word.toList.isPrefixOf chars then some (value, chars.drop word.length) else none

def ofText : Option String → Json
  | some content => .text content
  | none => .garbled

def ofEntries : Option (List (String × Json)) → Json
  | some reversed => .object reversed.reverse
  | none => .garbled

/-- One entry more, unless a name is garbled. -/
def withEntry (name : Option String) (item : Json) (reversed : Option (List (String × Json))) :
    Option (List (String × Json)) := do
  some ((← name, item) :: (← reversed))

mutual

def readValue? : Nat → List Char → Option (Json × List Char)
  | 0, _ => none
  | bound + 1, chars =>
      match skipGap chars with
      | [] => none
      | '"' :: rest => (stringTail? bound (some []) rest).map fun (content, rest) => (ofText content, rest)
      | '[' :: rest =>
          match skipGap rest with
          | ']' :: rest => some (.array [], rest)
          | rest => readItems? bound [] rest
      | '{' :: rest =>
          match skipGap rest with
          | '}' :: rest => some (.object [], rest)
          | rest => readEntries? bound (some []) rest
      | 't' :: rest => keyword? "true" (.bool true) ('t' :: rest)
      | 'f' :: rest => keyword? "false" (.bool false) ('f' :: rest)
      | 'n' :: rest => keyword? "null" .null ('n' :: rest)
      | rest => readNumber? rest

def readItems? : Nat → List Json → List Char → Option (Json × List Char)
  | 0, _, _ => none
  | bound + 1, reversed, chars => do
      let (item, rest) ← readValue? bound chars
      match skipGap rest with
      | ',' :: rest => readItems? bound (item :: reversed) rest
      | ']' :: rest => some (.array (item :: reversed).reverse, rest)
      | _ => none

def readEntries? : Nat → Option (List (String × Json)) → List Char → Option (Json × List Char)
  | 0, _, _ => none
  | bound + 1, reversed, chars => do
      match skipGap chars with
      | '"' :: rest => do
          let (name, rest) ← stringTail? bound (some []) rest
          match skipGap rest with
          | ':' :: rest => do
              let (item, rest) ← readValue? bound rest
              match skipGap rest with
              | ',' :: rest => readEntries? bound (withEntry name item reversed) rest
              | '}' :: rest => some (ofEntries (withEntry name item reversed), rest)
              | _ => none
          | _ => none
      | _ => none

end

def parse? (text : String) : Option Json := do
  let chars := text.toList
  let (value, rest) ← readValue? (2 * chars.length + 2) chars
  if (skipGap rest).isEmpty then some value else none

/-- Bytes that are no UTF-8 are refused wherever they stand. -/
def ofBytes? (bytes : List UInt8) : Option Json := do
  let chars ← Text.Utf8.decode? bytes
  parse? (String.ofList chars)

end Rollout.Json
