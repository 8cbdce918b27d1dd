import Rollout.Yaml.Token
import Rollout.Yaml.Token.Cursor

namespace Rollout.Yaml

/-! Reading the three families of scalars: plain, quoted and block.

Each reader starts at the first character of the scalar and returns its text
with the place behind it, or nothing when the text is malformed.  Readers that
cross lines carry a bound that exceeds the characters left.
-/

structure ScalarRead where
  text : String
  behind : Cursor
deriving Repr

/-- Consumes spaces and breaks.  Inside of a plain scalar a tab must not stand in
the indentation of the block. -/
private def readGap (tabsFrom : Nat) : Nat → Fold → Cursor → Option (Fold × Cursor)
  | 0, _, _ => none
  | bound + 1, gap, cursor =>
      match cursor.peek? with
      | none => some (gap, cursor)
      | some char =>
          if isBreak char then readGap tabsFrom bound (gap.push char) cursor.skipBreak
          else if isSpace char then
            if gap.broken ∧ cursor.column < tabsFrom ∧ char = '\t' then none
            else readGap tabsFrom bound (gap.push char) cursor.skip
          else some (gap, cursor)

private def isFlowMark (char : Char) : Bool :=
  char == ',' || char == '[' || char == ']' || char == '{' || char == '}'

/-- Reads the characters of a plain scalar up to the next space, break or
indicator, in reverse order. -/
private def plainRun (inFlow : Bool) : Nat → List Char → Cursor → Option (List Char × Cursor)
  | 0, _, _ => none
  | bound + 1, reversed, cursor =>
      match cursor.peek? with
      | none => some (reversed, cursor)
      | some char =>
          let next := cursor.chars[1]?
          if isSpace char || isBreak char then some (reversed, cursor)
          else if inFlow && char == ':' && next.any (fun c => isFlowMark c || c == '?') then
            none
          else if char == ':' && cursor.endsWordAt 1 then some (reversed, cursor)
          else if inFlow && isFlowMark char then some (reversed, cursor)
          else plainRun inFlow bound (char :: reversed) cursor.skip

private def plainWords (inFlow : Bool) (indent : Nat) :
    Nat → List Char → Fold → Cursor → Option (List Char × Fold × Cursor)
  | 0, _, _, _ => none
  | bound + 1, reversed, gap, cursor => do
      if cursor.atDocumentMark || cursor.sees '#' then some (reversed, gap, cursor)
      else
        let (run, cursor) ← plainRun inFlow cursor.limit [] cursor
        let (reversed, gap) :=
          if run.isEmpty then (reversed, gap) else (run ++ gap.joined ++ reversed, Fold.none)
        if !(cursor.atSpace || cursor.peek?.any isBreak) then
          some (reversed, gap, cursor)
        else
          let (gap, cursor) ← readGap indent cursor.limit gap cursor
          if !inFlow ∧ cursor.column < indent then some (reversed, gap, cursor)
          else plainWords inFlow indent bound reversed gap cursor

/-- Reads a plain scalar whose continuation lines need `indent` columns.  The
last part tells whether a line break follows it. -/
def readPlain? (inFlow : Bool) (indent : Nat) (cursor : Cursor) :
    Option (ScalarRead × Bool) := do
  let (reversed, gap, behind) ←
    plainWords inFlow indent cursor.limit [] Fold.none cursor
  some ({ text := String.ofList reversed.reverse, behind }, gap.broken)

private def hexValue? (char : Char) : Option Nat :=
  if Text.isDigit char then some (Text.digitValue char)
  else if 'a' ≤ char ∧ char ≤ 'f' then some (char.toNat - 'a'.toNat + 10)
  else if 'A' ≤ char ∧ char ≤ 'F' then some (char.toNat - 'A'.toNat + 10)
  else none

private def hexChar? (count : Nat) (chars : List Char) : Option Char := do
  if chars.length < count then none
  else
    let digits ← (chars.take count).mapM hexValue?
    let code := digits.foldl (fun value digit => 16 * value + digit) 0
    if (0xD800 ≤ code ∧ code ≤ 0xDFFF) ∨ 0x10FFFF < code then none
    else some (Char.ofNat code)

/-- The character that an escape stands for and how many characters of the text
it takes, the backslash excluded. -/
def escape? : List Char → Option (Char × Nat)
  | [] => none
  | mark :: chars =>
      match mark with
      | '0' => some ('\x00', 1)
      | 'a' => some ('\x07', 1)
      | 'b' => some ('\x08', 1)
      | 't' | '\t' => some ('\t', 1)
      | 'n' => some ('\n', 1)
      | 'v' => some ('\x0b', 1)
      | 'f' => some ('\x0c', 1)
      | 'r' => some ('\r', 1)
      | 'e' => some ('\x1b', 1)
      | ' ' => some (' ', 1)
      | '"' => some ('"', 1)
      | '/' => some ('/', 1)
      | '\\' => some ('\\', 1)
      | 'N' => some ('\x85', 1)
      | '_' => some ('\xa0', 1)
      | 'L' => some ('\u2028', 1)
      | 'P' => some ('\u2029', 1)
      | 'x' => (hexChar? 2 chars).map (·, 3)
      | 'u' => (hexChar? 4 chars).map (·, 5)
      | 'U' => (hexChar? 8 chars).map (·, 9)
      | _ => none

/-- Reads the characters of a quoted scalar up to white space or its end.  The
last part tells whether an escaped line break was passed. -/
private def quotedRun (single : Bool) : Nat → List Char → Cursor →
    Option (List Char × Cursor × Bool)
  | 0, _, _ => none
  | bound + 1, reversed, cursor =>
      match cursor.chars with
      | [] => some (reversed, cursor, false)
      | char :: rest =>
          if isSpace char || isBreak char then some (reversed, cursor, false)
          else if single && char == '\'' then
            if rest.head? == some '\'' then quotedRun single bound ('\'' :: reversed) (cursor.skipMany 2)
            else some (reversed, cursor, false)
          else if !single && char == '"' then some (reversed, cursor, false)
          else if !single && char == '\\' then
            if rest.head?.any isBreak then
              some (reversed, cursor.skip.skipBreak, true)
            else do
              let (escaped, count) ← escape? rest
              quotedRun single bound (escaped :: reversed) (cursor.skipMany (count + 1))
          else quotedRun single bound (char :: reversed) cursor.skip

private def quotedWords (single : Bool) : Nat → List Char → Cursor → Option (List Char × Cursor)
  | 0, _, _ => none
  | bound + 1, reversed, cursor => do
      if cursor.atDocumentMark || cursor.chars.isEmpty then none
      else
        let (run, cursor, continued) ← quotedRun single cursor.limit [] cursor
        let reversed := run ++ reversed
        if cursor.sees (if single then '\'' else '"') then some (reversed, cursor.skip)
        else
          let start := if continued then { Fold.none with broken := true } else Fold.none
          let (gap, cursor) ← readGap 0 cursor.limit start cursor
          quotedWords single bound (gap.joined ++ reversed) cursor

def readQuoted? (single : Bool) (cursor : Cursor) : Option ScalarRead := do
  let (reversed, behind) ← quotedWords single cursor.limit [] cursor.skip
  some { text := String.ofList reversed.reverse, behind }

inductive Chomping where
  | strip
  | clip
  | keep
deriving Repr, DecidableEq

private def indentDigit? (cursor : Cursor) : Option (Nat × Cursor) :=
  match cursor.peek? with
  | some char =>
      if Text.isDigit char then
        if char = '0' then none else some (Text.digitValue char, cursor.skip)
      else some (0, cursor)
  | none => some (0, cursor)

private def chompingMark (cursor : Cursor) : Chomping × Cursor :=
  match cursor.peek? with
  | some '+' => (.keep, cursor.skip)
  | some '-' => (.strip, cursor.skip)
  | _ => (.clip, cursor)

private def blockHeader? (cursor : Cursor) : Option (Chomping × Nat × Cursor) := do
  let (chomping, cursor) := chompingMark cursor
  let (digit, cursor) ← indentDigit? cursor
  if chomping == .clip && digit != 0 then
    let (chomping, cursor) := chompingMark cursor
    some (chomping, digit, cursor)
  else some (chomping, digit, cursor)

/-- Consumes indentation and empty lines in front of the next line with text.
While the indentation is unknown, zero, it becomes the largest one seen. -/
private def blockGap (known : Nat) : Nat → Nat → List Char → Cursor →
    Option (Nat × List Char × Cursor)
  | 0, _, _, _ => none
  | bound + 1, deepest, breaks, cursor =>
      let inIndent (cursor : Cursor) : Bool := known == 0 || cursor.column < known
      if inIndent cursor && cursor.sees ' ' then blockGap known bound deepest breaks cursor.skip
      else
        let deepest := max deepest cursor.column
        if inIndent cursor && cursor.sees '\t' then none
        else match cursor.peek? with
          | some char =>
              if isBreak char then blockGap known bound deepest (char :: breaks) cursor.skipBreak
              else some (deepest, breaks, cursor)
          | none => some (deepest, breaks, cursor)

private def blockLines (folded : Bool) (indent : Nat) :
    Nat → List Char → Option Char → List Char → Bool → Cursor →
      Option (List Char × Option Char × List Char × Cursor)
  | 0, _, _, _, _, _ => none
  | bound + 1, reversed, lastBreak, breaks, afterSpace, cursor => do
      if cursor.column ≠ indent ∨ cursor.chars.isEmpty then
        some (reversed, lastBreak, breaks, cursor)
      else
        let beforeSpace := cursor.atSpace
        let seam :=
          if folded && lastBreak == some '\n' && !afterSpace && !beforeSpace then
            if breaks.isEmpty then [' '] else breaks
          else breaks ++ lastBreak.toList
        let line := cursor.chars.takeWhile (!isBreak ·)
        let cursor := cursor.skipWhile (!isBreak ·)
        let reversed := line.reverse ++ seam ++ reversed
        match cursor.peek? with
        | none => some (reversed, none, [], cursor)
        | some char =>
            let (_, breaks, cursor) ←
              blockGap indent cursor.limit 0 [] cursor.skipBreak
            blockLines folded indent bound reversed (some char) breaks beforeSpace cursor

/-- Reads a block scalar behind its indicator, inside of a block that is indented
by `outer` columns, `none` outside of all blocks. -/
def readBlock? (folded : Bool) (outer : Option Nat) (cursor : Cursor) : Option ScalarRead := do
  let (chomping, digit, cursor) ← blockHeader? cursor
  let cursor := cursor.skipWhile isSpace
  let cursor := if cursor.sees '#' then cursor.skipWhile (!isBreak ·) else cursor
  if !cursor.atBreakOrEnd then none
  else
    let cursor := if cursor.chars.isEmpty then cursor else cursor.skipBreak
    let known := if digit = 0 then 0 else outer.getD 0 + digit
    let (deepest, breaks, cursor) ← blockGap known cursor.limit 0 [] cursor
    let indent :=
      if known = 0 then max deepest (max (outer.elim 0 (· + 1)) 1) else known
    let (reversed, lastBreak, breaks, behind) ←
      blockLines folded indent cursor.limit [] none breaks false cursor
    let ending := match chomping with
      | .strip => []
      | .clip => lastBreak.toList
      | .keep => breaks ++ lastBreak.toList
    some { text := String.ofList (ending ++ reversed).reverse, behind }

end Rollout.Yaml
