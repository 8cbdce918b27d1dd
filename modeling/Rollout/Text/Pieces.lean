import Rollout.Text.Blank

namespace Rollout.Text

/-! Cutting texts into pieces.

Everything here works on lists of characters, from left to right and without
overlap; a text is the concatenation of its pieces with the separators put
back.
-/

def dropStart? : (start chars : List Char) → Option (List Char)
  | [], chars => some chars
  | _ :: _, [] => none
  | expected :: start, char :: chars =>
      if expected = char then dropStart? start chars else none

def dropEnd? (ending chars : List Char) : Option (List Char) :=
  (dropStart? ending.reverse chars.reverse).map List.reverse

/-- Splits at every occurrence of one character.  The result is never empty. -/
def splitAt (separator : Char) : List Char → List (List Char)
  | [] => [[]]
  | char :: chars =>
      if char = separator then [] :: splitAt separator chars
      else match splitAt separator chars with
        | [] => [[char]]
        | piece :: pieces => (char :: piece) :: pieces

def splitAtDouble (separator : Char) : List Char → List (List Char)
  | [] => [[]]
  | [char] => [[char]]
  | first :: second :: chars =>
      if first = separator ∧ second = separator then
        [] :: splitAtDouble separator chars
      else match splitAtDouble separator (second :: chars) with
        | [] => [[first]]
        | piece :: pieces => (first :: piece) :: pieces

/-- Cuts at the first occurrence of `separator`, which belongs to neither part. -/
def cutAt? (separator : Char) : List Char → Option (List Char × List Char)
  | [] => none
  | char :: chars =>
      if char = separator then some ([], chars)
      else (cutAt? separator chars).map fun (before, after) => (char :: before, after)

def occursIn (needle : List Char) : List Char → Bool
  | [] => needle.isEmpty
  | char :: chars => needle.isPrefixOf (char :: chars) || occursIn needle chars

def dropReturn (line : List Char) : List Char :=
  (dropEnd? ['\r'] line).getD line

/-- The lines of a text.  A line ends with a line feed or with a carriage
return and a line feed; a text that ends with a line feed has no further line. -/
def lines (chars : List Char) : List (List Char) :=
  match (splitAt '\n' chars).reverse with
  | [] => []
  | [] :: before => before.reverse.map dropReturn
  | last :: before => before.reverse.map dropReturn ++ [last]

def stripChar (char : Char) (chars : List Char) : List Char :=
  ((chars.dropWhile (· == char)).reverse.dropWhile (· == char)).reverse

def stripCharEnd (char : Char) (chars : List Char) : List Char :=
  (chars.reverse.dropWhile (· == char)).reverse

/-- Lower case of the letters A to Z; all other characters stay. -/
def lower (text : String) : String :=
  String.ofList (text.toList.map Char.toLower)

def upper (text : String) : String :=
  String.ofList (text.toList.map Char.toUpper)

def sameLetters (left right : String) : Bool :=
  lower left == lower right

end Rollout.Text
