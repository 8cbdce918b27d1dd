import Rollout.Yaml.Plain

namespace Rollout.Yaml

/-! Writing a text as one YAML scalar.

A text is written plainly where that reads back as the same text, between single
quotes where it would read as something else, as a literal block where it has
several lines, and between double quotes where nothing else can show it.
-/

def isShown (char : Char) : Bool :=
  let code := char.toNat
  char == '\n' || (0x20 ≤ code && code ≤ 0x7E) || (0xA0 ≤ code && code ≤ 0xD7FF) ||
    (0xE000 ≤ code && code ≤ 0xFFFD && code ≠ 0xFEFF) || 0x10000 ≤ code

/-- Characters that end a line, a carriage return and a next-line included. -/
def endsLine (char : Char) : Bool :=
  char == '\r' || char == '\n' || char == '\x85' || char == '\u2028' || char == '\u2029'

private def endsWord (char : Option Char) : Bool :=
  char.all fun char => char == ' ' || char == '\t' || endsLine char

/-- Whether an indicator makes a plain scalar impossible in a block.  `before`
tells whether white space precedes the characters. -/
private def hasIndicator (first before : Bool) : List Char → Bool
  | [] => false
  | char :: chars =>
      let spaced := endsWord chars.head?
      let here :=
        if first then
          ['#', ',', '[', ']', '{', '}', '&', '*', '!', '|', '>', '\'', '"', '%', '@',
              '\x60'].contains char ||
            ((char == '?' || char == ':' || char == '-') && spaced)
        else (char == ':' && spaced) || (char == '#' && before)
      here || hasIndicator false (endsWord (some char)) chars

private def meets (left right : Char → Bool) : List Char → Bool
  | first :: second :: chars => (left first && right second) || meets left right (second :: chars)
  | _ => false

private def isGap (char : Char) : Bool :=
  char == ' ' || endsLine char

private def startsDocument (chars : List Char) : Bool :=
  ['-', '-', '-'].isPrefixOf chars || ['.', '.', '.'].isPrefixOf chars

private def allowsPlain (chars : List Char) : Bool :=
  !(chars.isEmpty || startsDocument chars || hasIndicator true true chars ||
    chars.head?.any isGap || chars.getLast?.any isGap || chars.any endsLine)

/-- Whether breaks and spaces can be told apart between single quotes. -/
private def allowsQuotes (chars : List Char) : Bool :=
  chars.all isShown && !meets endsLine (· == ' ') chars && !meets (· == ' ') endsLine chars

private def allowsBlock (chars : List Char) : Bool :=
  chars.all isShown && chars.getLast? != some ' ' && !meets (· == ' ') endsLine chars

/-- Whether a plain scalar of this text would not be read as a text. -/
def readsOtherwise (text : String) : Bool :=
  text.isEmpty || isNullWord text || (boolWord? text).isSome ||
    (natural? (Nat.pow 2 128) text).isSome || (negative? (Nat.pow 2 127) text).isSome ||
    isFraction text || hasIdleZero text.toList

private def hexDigit (value : Nat) : Char :=
  if value < 10 then Char.ofNat (value + '0'.toNat) else Char.ofNat (value - 10 + 'A'.toNat)

private def hex (width code : Nat) : List Char :=
  (List.range width).reverse.map fun place => hexDigit (code / Nat.pow 16 place % 16)

private def escaped (char : Char) : List Char :=
  match char with
  | '\x00' => ['\\', '0']
  | '\x07' => ['\\', 'a']
  | '\x08' => ['\\', 'b']
  | '\t' => ['\\', 't']
  | '\n' => ['\\', 'n']
  | '\x0b' => ['\\', 'v']
  | '\x0c' => ['\\', 'f']
  | '\r' => ['\\', 'r']
  | '\x1b' => ['\\', 'e']
  | '"' => ['\\', '"']
  | '\\' => ['\\', '\\']
  | '\x85' => ['\\', 'N']
  | '\u2028' => ['\\', 'L']
  | '\u2029' => ['\\', 'P']
  | _ =>
      let code := char.toNat
      if isShown char then [char]
      else if code ≤ 0xFF then '\\' :: 'x' :: hex 2 code
      else if code ≤ 0xFFFF then '\\' :: 'u' :: hex 4 code
      else '\\' :: 'U' :: hex 8 code

private def doubleQuoted (chars : List Char) : List Char :=
  '"' :: chars.flatMap escaped ++ ['"']

/-- Writes the inside of single quotes; a line that follows a break is indented,
and a line feed is written twice because a single one would read as a space. -/
private def singleInside (indent : Nat) (broken : Bool) : List Char → List Char
  | [] => if broken then List.replicate indent ' ' else []
  | char :: chars =>
      if endsLine char then
        (if !broken && char == '\n' then ['\n', char] else [char]) ++ singleInside indent true chars
      else
        (if broken && char != ' ' then List.replicate indent ' ' else []) ++
          (if char == '\'' then ['\'', '\''] else [char]) ++
          singleInside indent (broken && char == ' ') chars

private def singleQuoted (indent : Nat) (chars : List Char) : List Char :=
  '\'' :: singleInside indent false chars ++ ['\'']

private def indented (indent : Nat) (atStart : Bool) : List Char → List Char
  | [] => []
  | char :: chars =>
      if endsLine char then char :: indented indent true chars
      else
        (if atStart then List.replicate indent ' ' else []) ++ char :: indented indent false chars

private def chompingOf (chars : List Char) : List Char :=
  match chars.reverse with
  | [] => ['-']
  | last :: before =>
      if !endsLine last then ['-']
      else if before.head?.all endsLine then ['+']
      else []

private def literal (indent : Nat) (chars : List Char) : List Char :=
  let mark := if chars.head?.any isGap then Nat.toDigits 10 indent else []
  '|' :: mark ++ chompingOf chars ++ ['\n'] ++ indented indent true chars

/-- Writes a text as a scalar whose further lines are indented.  A text with line
feeds ends behind its last line. -/
def printText (indent : Nat) (text : String) : String :=
  let chars := text.toList
  String.ofList <|
    if chars.contains '\n' then
      if allowsBlock chars then literal indent chars else doubleQuoted chars
    else if !readsOtherwise text && allowsPlain chars && chars.all isShown then chars
    else if allowsQuotes chars then singleQuoted indent chars
    else doubleQuoted chars

def printItem (text : String) : String :=
  let printed := printText 2 text
  "- " ++ printed ++ (if printed.toList.getLast? == some '\n' then "" else "\n")

end Rollout.Yaml
