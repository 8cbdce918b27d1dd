import Rollout.Configuration.Value
import Rollout.Text.Numeral
import Rollout.Text.Pieces

namespace Rollout.Configuration.Toml

/-! Settings files in TOML.

Only the values under plain keys at the top of a file are settings.  Everything
else is read as far as it is needed to find the end of it.  Readers take the
characters from their own start on and return what is behind; those that repeat
or nest carry a bound that the length of the text never exceeds.
-/

private def isGap (char : Char) : Bool := char = ' ' || char = '\t'

private def skipGap (chars : List Char) : List Char := chars.dropWhile isGap

private def skipComment : List Char → List Char
  | '#' :: chars => chars.dropWhile (· ≠ '\n')
  | chars => chars

private def skipLines : Nat → List Char → List Char
  | 0, chars => chars
  | bound + 1, chars =>
      match skipComment (skipGap chars) with
      | '\n' :: rest | '\r' :: '\n' :: rest => skipLines bound rest
      | rest => rest

private def skipAll (chars : List Char) : List Char := skipLines chars.length chars

private def lineEnd? (chars : List Char) : Option (List Char) :=
  match skipComment (skipGap chars) with
  | [] => some []
  | '\n' :: rest | '\r' :: '\n' :: rest => some rest
  | _ => none

private def hexValue? (char : Char) : Option Nat :=
  if char.isDigit then some (Text.digitValue char)
  else if 'a' ≤ char ∧ char ≤ 'f' then some (char.toNat - 'a'.toNat + 10)
  else if 'A' ≤ char ∧ char ≤ 'F' then some (char.toNat - 'A'.toNat + 10)
  else none

private def codePoint? (count : Nat) (chars : List Char) : Option (Char × List Char) := do
  let digits ← (chars.take count).mapM hexValue?
  let code := digits.foldl (fun value digit => 16 * value + digit) 0
  if digits.length = count ∧ code.isValidChar then some (Char.ofNat code, chars.drop count)
  else none

private def escape? : List Char → Option (Char × List Char)
  | 'b' :: rest => some ('\x08', rest)
  | 't' :: rest => some ('\t', rest)
  | 'n' :: rest => some ('\n', rest)
  | 'f' :: rest => some ('\x0c', rest)
  | 'r' :: rest => some ('\r', rest)
  | '"' :: rest => some ('"', rest)
  | '\\' :: rest => some ('\\', rest)
  | 'u' :: rest => codePoint? 4 rest
  | 'U' :: rest => codePoint? 8 rest
  | _ => none

private def basic? : Nat → List Char → List Char → Option (List Char × List Char)
  | 0, _, _ => none
  | bound + 1, reversed, chars =>
      match chars with
      | '"' :: rest => some (reversed.reverse, rest)
      | '\\' :: rest => do
          let (char, rest) ← escape? rest
          basic? bound (char :: reversed) rest
      | '\n' :: _ | [] => none
      | char :: rest => basic? bound (char :: reversed) rest

private def literal? (chars : List Char) : Option (List Char × List Char) :=
  match Text.cutAt? '\x27' chars with
  | some (inside, rest) => if '\n' ∈ inside then none else some (inside, rest)
  | none => none

/-- The inside of a text of several lines up to three quotes. -/
private def long? (quote : Char) : Nat → List Char → List Char → Option (List Char × List Char)
  | 0, _, _ => none
  | bound + 1, reversed, chars =>
      if [quote, quote, quote].isPrefixOf chars then some (reversed.reverse, chars.drop 3)
      else match chars with
        | [] => none
        | '\\' :: rest =>
            if quote = '"' then
              match skipGap rest with
              | '\n' :: _ | '\r' :: '\n' :: _ =>
                  long? quote bound reversed (rest.dropWhile fun char => char.isWhitespace)
              | _ => do
                  let (char, rest) ← escape? rest
                  long? quote bound (char :: reversed) rest
            else long? quote bound ('\\' :: reversed) rest
        | char :: rest => long? quote bound (char :: reversed) rest

/-- A text with its quotes.  A line end right behind three quotes does not count. -/
private def quoted? (chars : List Char) : Option (List Char × List Char) :=
  let bound := chars.length
  let behind : List Char → List Char
    | '\n' :: rest | '\r' :: '\n' :: rest => rest
    | rest => rest
  match chars with
  | '"' :: '"' :: '"' :: rest => long? '"' bound [] (behind rest)
  | '\x27' :: '\x27' :: '\x27' :: rest => long? '\x27' bound [] (behind rest)
  | '"' :: rest => basic? bound [] rest
  | '\x27' :: rest => literal? rest
  | _ => none

private def isKeyChar (char : Char) : Bool := char.isAlphanum || char = '_' || char = '-'

private def simpleKey? (chars : List Char) : Option (List Char × List Char) :=
  match chars with
  | '"' :: rest => basic? chars.length [] rest
  | '\x27' :: rest => literal? rest
  | _ =>
      let key := chars.takeWhile isKeyChar
      if key.isEmpty then none else some (key, chars.dropWhile isKeyChar)

private def key? : Nat → List Char → Option (List (List Char) × List Char)
  | 0, _ => none
  | bound + 1, chars => do
      let (key, rest) ← simpleKey? (skipGap chars)
      match skipGap rest with
      | '.' :: rest => do
          let (keys, rest) ← key? bound rest
          some (key :: keys, rest)
      | rest => some ([key], rest)

private def grouped? (base : Nat) (digits : List Char) : Option Nat := do
  let groups := Text.splitAt '_' digits
  let values ← groups.flatten.mapM hexValue?
  if groups.any List.isEmpty ∨ values.any (base ≤ ·) then none
  else some (values.foldl (fun value digit => base * value + digit) 0)

private def decimal? (digits : List Char) : Option Nat :=
  if digits.length > 1 ∧ digits.head? = some '0' then none else grouped? 10 digits

/-- Only decimal numbers have signs. -/
private def whole? (word : List Char) : Option Int :=
  match word with
  | '-' :: digits => (decimal? digits).map fun size => -(size : Int)
  | '+' :: digits => (decimal? digits).map Int.ofNat
  | '0' :: 'x' :: digits => (grouped? 16 digits).map Int.ofNat
  | '0' :: 'o' :: digits => (grouped? 8 digits).map Int.ofNat
  | '0' :: 'b' :: digits => (grouped? 2 digits).map Int.ofNat
  | digits => (decimal? digits).map Int.ofNat

/-- Numbers with a fraction, and dates. -/
private def isOtherWord (word : List Char) : Bool :=
  word = "inf".toList || word = "nan".toList ||
    (match word with
      | first :: _ => (first.isDigit || first = '+' || first = '-') && word.any Char.isDigit &&
          word.any fun char => !char.isDigit && char ≠ '+' && char ≠ '-' && char ≠ '_'
      | [] => false)

private def word? (chars : List Char) : Option (Value × List Char) :=
  let isWordChar (char : Char) : Bool := isKeyChar char || char ∈ ['+', '.', ':']
  let word := chars.takeWhile isWordChar
  let rest := chars.dropWhile isWordChar
  if word = "true".toList then some (.flag true, rest)
  else if word = "false".toList then some (.flag false, rest)
  else match whole? word with
    | some number => some (.whole number, rest)
    | none => if isOtherWord word then some (.other, rest) else none

mutual

private def value? : Nat → List Char → Option (Value × List Char)
  | 0, _ => none
  | bound + 1, chars =>
      match chars with
      | '"' :: _ | '\x27' :: _ => (quoted? chars).map fun (text, rest) =>
          (.text (String.ofList text), rest)
      | '[' :: rest => (items? bound (skipAll rest)).map fun rest => (.other, rest)
      | '\x7b' :: rest => (entries? bound (skipGap rest)).map fun rest => (.other, rest)
      | _ => word? chars

private def items? : Nat → List Char → Option (List Char)
  | 0, _ => none
  | bound + 1, chars =>
      match chars with
      | ']' :: rest => some rest
      | _ => do
          let (_, rest) ← value? bound chars
          match skipAll rest with
          | ',' :: rest => items? bound (skipAll rest)
          | ']' :: rest => some rest
          | _ => none

private def entries? : Nat → List Char → Option (List Char)
  | 0, _ => none
  | bound + 1, chars =>
      match chars with
      | '\x7d' :: rest => some rest
      | _ => do
          let (_, rest) ← key? bound chars
          let '=' :: rest := rest | none
          let (_, rest) ← value? bound (skipGap rest)
          match skipGap rest with
          | ',' :: rest => entries? bound (skipGap rest)
          | '\x7d' :: rest => some rest
          | _ => none

end

private def header? (chars : List Char) : Option (List Char) := do
  let (isList, chars) := match chars with
    | '[' :: rest => (true, rest)
    | _ => (false, chars)
  let (_, rest) ← key? chars.length chars
  match isList, rest with
  | true, ']' :: ']' :: rest => lineEnd? rest
  | false, ']' :: rest => lineEnd? rest
  | _, _ => none

/-- Reads lines into a table.  Behind the first header no key is at the top. -/
private def lines? : Nat → (isTop : Bool) → Table → List Char → Option Table
  | 0, _, _, _ => none
  | bound + 1, isTop, table, chars =>
      match skipAll chars with
      | [] => some table
      | '[' :: rest => do lines? bound false table (← header? rest)
      | chars => do
          let (keys, rest) ← key? chars.length chars
          let '=' :: rest := rest | none
          let (value, rest) ← value? rest.length (skipGap rest)
          let rest ← lineEnd? rest
          match keys, isTop with
          | [key], true =>
              let key := String.ofList key
              if table.any (·.1 = key) then none else lines? bound true ((key, value) :: table) rest
          | _, _ => lines? bound isTop table rest

/-- Reads a settings file, which a byte order mark may begin. -/
def parse? (text : String) : Option Table :=
  let chars := (Text.dropStart? ['\uFEFF'] text.toList).getD text.toList
  lines? (chars.length + 1) true [] chars

end Rollout.Configuration.Toml
