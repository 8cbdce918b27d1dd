import Rollout.Text.Numeral

namespace Rollout.Yaml

/-! A place in a YAML text.

Line breaks are made uniform before reading: a carriage return, alone or before
a line feed, and a next-line character become a line feed.  The line and the
paragraph separator break lines too but stay as they are.
-/

/-- The characters from here on, and where they stand.  `limit` exceeds the
length of the whole text and bounds every loop over it. -/
structure Cursor where
  chars : List Char
  line : Nat
  column : Nat
  index : Nat
  limit : Nat
deriving Repr

def isPrintable (char : Char) : Bool :=
  let code := char.toNat
  code == 0x09 || code == 0x0A || code == 0x0D || (0x20 ≤ code && code ≤ 0x7E) || code == 0x85 ||
    (0xA0 ≤ code && code ≤ 0xD7FF) || (0xE000 ≤ code && code ≤ 0xFFFD) || 0x10000 ≤ code

def isBreak (char : Char) : Bool :=
  char == '\n' || char == '\u2028' || char == '\u2029'

def isSpace (char : Char) : Bool :=
  char == ' ' || char == '\t'

def isNameChar (char : Char) : Bool :=
  char.isAlphanum || char == '-' || char == '_'

def uniformBreaks : List Char → List Char
  | [] => []
  | '\r' :: '\n' :: chars => '\n' :: uniformBreaks chars
  | '\r' :: chars => '\n' :: uniformBreaks chars
  | '\x85' :: chars => '\n' :: uniformBreaks chars
  | char :: chars => char :: uniformBreaks chars

namespace Cursor

def atStart (chars : List Char) : Cursor :=
  { chars := uniformBreaks chars, line := 0, column := 0, index := 0, limit := chars.length + 2 }

def peek? (cursor : Cursor) : Option Char :=
  cursor.chars.head?

def sees (cursor : Cursor) (char : Char) : Bool :=
  cursor.peek? == some char

/-- The end of the text, or a character of the given kind `offset` places on. -/
def endsWordAt (cursor : Cursor) (offset : Nat) : Bool :=
  match cursor.chars[offset]? with
  | none => true
  | some char => isSpace char || isBreak char

def atBreakOrEnd (cursor : Cursor) : Bool :=
  cursor.peek?.all isBreak

def atSpace (cursor : Cursor) : Bool :=
  cursor.peek?.any isSpace

def skip (cursor : Cursor) : Cursor :=
  { cursor with chars := cursor.chars.drop 1, column := cursor.column + 1, index := cursor.index + 1 }

def skipMany (count : Nat) (cursor : Cursor) : Cursor :=
  { cursor with
    chars := cursor.chars.drop count
    column := cursor.column + count
    index := cursor.index + count }

def skipWhile (test : Char → Bool) (cursor : Cursor) : Cursor :=
  let count := (cursor.chars.takeWhile test).length
  { cursor with
    chars := cursor.chars.dropWhile test
    column := cursor.column + count
    index := cursor.index + count }

def skipBreak (cursor : Cursor) : Cursor :=
  { cursor with
    chars := cursor.chars.drop 1, line := cursor.line + 1, column := 0, index := cursor.index + 1 }

/-- Three dashes or three points alone at the beginning of a line. -/
def atDocumentMark (cursor : Cursor) : Bool :=
  cursor.column == 0 &&
    (['-', '-', '-'].isPrefixOf cursor.chars || ['.', '.', '.'].isPrefixOf cursor.chars) &&
    cursor.endsWordAt 3

end Cursor

/-- White space inside of a scalar that may span lines: the spaces in front of
the first line break, that break, and the breaks after it.  Lists are in reverse
order. -/
structure Fold where
  broken : Bool
  spaces : List Char
  firstBreak : Option Char
  moreBreaks : List Char
deriving Repr

namespace Fold

def none : Fold := { broken := false, spaces := [], firstBreak := .none, moreBreaks := [] }

/-- What the white space stands for between two words, in reverse order: itself
within a line; else a single line feed is a space and further breaks are kept. -/
def joined (gap : Fold) : List Char :=
  if !gap.broken then gap.spaces
  else match gap.firstBreak with
    | some '\n' => if gap.moreBreaks.isEmpty then [' '] else gap.moreBreaks
    | some char => gap.moreBreaks ++ [char]
    | .none => gap.moreBreaks

def push (gap : Fold) (char : Char) : Fold :=
  if isBreak char then
    if gap.broken then { gap with moreBreaks := char :: gap.moreBreaks }
    else { broken := true, spaces := [], firstBreak := some char, moreBreaks := [] }
  else if gap.broken then gap
  else { gap with spaces := char :: gap.spaces }

end Fold

end Rollout.Yaml
