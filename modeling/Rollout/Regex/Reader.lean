import Rollout.Regex.Pattern
import Rollout.Text.Blank
import Rollout.Text.Numeral

namespace Rollout.Regex

/-! Reading patterns.

Patterns are alternatives of sequences of repeated items.  There are neither
look-around conditions nor references to groups, so every pattern describes a
regular language.  Readers take the characters from their own start on; nothing
is returned for a pattern that is malformed.

This is one way to read patterns among others.  Of the properties of characters it knows
the categories, some scripts and some binary ones, and it bounds neither the nesting nor the
size of a pattern.
-/

/-- Settings that a pattern may change for the rest of a group. -/
structure Flags where
  ignoreCase : Bool
  multiLine : Bool
  dotAll : Bool
  swapGreed : Bool
  returns : Bool
  unicode : Bool
  verbose : Bool
deriving Repr, DecidableEq

def Flags.initial : Flags :=
  { ignoreCase := false, multiLine := false, dotAll := false, swapGreed := false, returns := false,
    unicode := true, verbose := false }

structure Source where
  chars : List Char
  flags : Flags
  names : List String
deriving Repr

namespace Source

private def skipComment : List Char → List Char
  | [] => []
  | '\n' :: chars => chars
  | _ :: chars => skipComment chars

private def skipVerbose : Nat → List Char → List Char
  | 0, chars => chars
  | bound + 1, chars =>
      match chars with
      | '#' :: rest => skipVerbose bound (skipComment rest)
      | char :: rest => if Text.isBlank char then skipVerbose bound rest else chars
      | [] => []

def skipGap (source : Source) : Source :=
  if source.flags.verbose then
    { source with chars := skipVerbose source.chars.length source.chars }
  else source

def drop (count : Nat) (source : Source) : Source :=
  { source with chars := source.chars.drop count }

def next (source : Source) : Source :=
  (source.drop 1).skipGap

end Source

private def hexValue? (char : Char) : Option Nat :=
  if Text.isDigit char then some (Text.digitValue char)
  else if 'a' ≤ char ∧ char ≤ 'f' then some (char.toNat - 'a'.toNat + 10)
  else if 'A' ≤ char ∧ char ≤ 'F' then some (char.toNat - 'A'.toNat + 10)
  else none

private def scalar? (digits : List Char) : Option Nat := do
  let values ← digits.mapM hexValue?
  let code := values.foldl (fun value digit => 16 * value + digit) 0
  if values.isEmpty ∨ 0x10FFFF < code ∨ (0xD800 ≤ code ∧ code ≤ 0xDFFF) then none else some code

private def upTo? (closing : Char) (source : Source) : Option (List Char × Source) :=
  match source.chars.dropWhile (· ≠ closing) with
  | [] => none
  | _ :: rest =>
      let inside := source.chars.takeWhile (· ≠ closing)
      let inside :=
        if source.flags.verbose then inside.filter (!Text.isBlank ·) else inside
      some (inside, { source with chars := rest })

/-- The code point behind `\x`, `\u` or `\U`, of which the last letter is `mark`. -/
private def hexEscape? (mark : Char) (source : Source) : Option (Nat × Source) := do
  match source.chars with
  | '{' :: _ =>
      let (digits, source) ← upTo? '}' (source.drop 1)
      some (← scalar? digits, source)
  | chars =>
      let count := if mark = 'x' then 2 else if mark = 'u' then 4 else 8
      if chars.length < count then none
      else some (← scalar? (chars.take count), source.drop count)

private def isMeta (char : Char) : Bool :=
  ['\\', '.', '+', '*', '?', '(', ')', '|', '[', ']', '{', '}', '^', '$', '#', '&', '-',
    '~'].contains char

private def isEscapable (char : Char) : Bool :=
  isMeta char || (char.toNat < 0x80 && !char.isAlphanum && char ≠ '<' && char ≠ '>')

inductive Item where
  | char (code : Nat)
  | named (set : CharSet)
  | look (condition : Look)
deriving Repr

private def propertyEscape? (negated : Bool) (source : Source) : Option (CharSet × Source) := do
  if !source.flags.unicode then none
  else
    let (set, source) ← match source.chars with
      | '{' :: _ => do
          let (inside, source) ← upTo? '}' (source.drop 1)
          let name := inside.takeWhile fun char => char ≠ '=' ∧ char ≠ ':' ∧ char ≠ '!'
          match inside.drop name.length with
          | '!' :: '=' :: value => do
              let set ← propertyValue? (String.ofList name) (String.ofList value)
              some (set.complement, source)
          | '=' :: value | ':' :: value => do
              some (← propertyValue? (String.ofList name) (String.ofList value), source)
          | _ => do some (← property? (String.ofList inside), source)
      | '\\' :: _ | [] => none
      | char :: _ => do some (← property? (String.ofList [char]), source.drop 1)
    let set := if source.flags.ignoreCase then set.withCases else set
    some (if negated then set.complement else set, source)

/-- The kinds of word boundaries that have names; other braces behind `\b` are a
repetition. -/
private def boundaryEscape? (source : Source) : Option (Look × Source) :=
  let unicode := source.flags.unicode
  match source.chars with
  | '{' :: char :: _ =>
      if char.isAlpha || char = '-' then do
        let (name, source) ← upTo? '}' (source.drop 1)
        let look ← match String.ofList name with
          | "start" => some (Look.wordStart unicode)
          | "end" => some (.wordEnd unicode)
          | "start-half" => some (.wordStartHalf unicode)
          | "end-half" => some (.wordEndHalf unicode)
          | _ => none
        some (look, source)
      else some (.boundary unicode, source)
  | ['{'] => none
  | _ => some (.boundary unicode, source)

/-- Sets of characters beyond ASCII have no place where only ASCII counts. -/
private def asciiOnly? (unicode : Bool) (set : CharSet) : Option CharSet :=
  if unicode || set.runs.all fun (_, last) => last < 0x80 then some set else none

private def perlClass? (mark : Char) (source : Source) : Option (CharSet × Source) := do
  let unicode := source.flags.unicode
  let base ← match mark.toLower with
    | 'd' => some (digits unicode)
    | 's' => some (spaces unicode)
    | 'w' => some (words unicode)
    | _ => none
  let set ← asciiOnly? unicode (if mark.isUpper then base.complement else base)
  some (set, source)

private def escape? (source : Source) : Option (Item × Source) := do
  let char ← source.chars.head?
  let rest := source.drop 1
  let unicode := source.flags.unicode
  if ['d', 's', 'w', 'D', 'S', 'W'].contains char then
    let (set, source) ← perlClass? char rest
    some (.named set, source)
  else if char = 'p' ∨ char = 'P' then
    let (set, source) ← propertyEscape? (char = 'P') rest
    some (.named set, source)
  else if char = 'x' ∨ char = 'u' ∨ char = 'U' then
    let (code, source) ← hexEscape? char rest
    if !unicode ∧ 0x7F < code ∧ code ≤ 0xFF then none else some (.char code, source)
  else match char with
    | 'a' => some (.char 0x07, rest)
    | 'f' => some (.char 0x0C, rest)
    | 't' => some (.char 0x09, rest)
    | 'n' => some (.char 0x0A, rest)
    | 'r' => some (.char 0x0D, rest)
    | 'v' => some (.char 0x0B, rest)
    | 'A' => some (.look .textStart, rest)
    | 'z' => some (.look .textEnd, rest)
    | 'B' => some (.look (.noBoundary unicode), rest)
    | '<' => some (.look (.wordStart unicode), rest)
    | '>' => some (.look (.wordEnd unicode), rest)
    | 'b' => do
        let (look, source) ← boundaryEscape? rest
        some (.look look, source)
    | _ => if isEscapable char then some (.char char.toNat, rest) else none

/-! Sets between brackets -/

private def setItem? (source : Source) : Option (Item × Source) :=
  match source.chars with
  | '\\' :: _ => escape? (source.drop 1)
  | char :: _ => some (.char char.toNat, source.drop 1)
  | [] => none

private def itemSet? : Item → Option CharSet
  | .char code => some (CharSet.ofRange code code)
  | .named set => some set
  | .look _ => none

private def itemCode? : Item → Option Nat
  | .char code => some code
  | _ => none

private def setRange? (source : Source) : Option (CharSet × Source) := do
  let (first, source) ← setItem? source
  let source := source.skipGap
  match source.chars with
  | [] => none
  | '-' :: _ =>
      let behind := source.next
      match behind.chars with
      | [] => none
      | ']' :: _ | '-' :: _ => some (← itemSet? first, source)
      | _ =>
          let (last, source) ← setItem? behind
          let first ← itemCode? first
          let last ← itemCode? last
          if last < first then none else some (CharSet.ofRange first last, source)
  | _ => some (← itemSet? first, source)

private def namedClass? (source : Source) : Option (CharSet × Source) :=
  match source.chars with
  | '[' :: ':' :: rest =>
      let (negated, rest) := match rest with
        | '^' :: rest => (true, rest)
        | _ => (false, rest)
      let name := rest.takeWhile (· ≠ ':')
      match rest.drop name.length with
      | ':' :: ']' :: behind => do
          let set ← asciiClass? (String.ofList name)
          some (if negated then set.complement else set, { source with chars := behind })
      | _ => none
  | _ => none

inductive SetOperator where
  | intersection
  | difference
  | symmetricDifference
deriving Repr, DecidableEq

private def combine (ignoreCase : Bool) : Option (CharSet × SetOperator) → CharSet → CharSet
  | none, right => right
  | some (left, operator), right =>
      let cased (set : CharSet) : CharSet := if ignoreCase then set.withCases else set
      match operator with
      | .intersection => (cased left).intersection (cased right)
      | .difference => (cased left).difference (cased right)
      | .symmetricDifference => (cased left).symmetricDifference (cased right)

mutual

private def bracketSet? : Nat → Source → Option (CharSet × Source)
  | 0, _ => none
  | bound + 1, source => do
      let source := source.skipGap
      let (negated, source) := match source.chars with
        | '^' :: _ => (true, source.next)
        | _ => (false, source)
      let dashes := source.chars.takeWhile (· = '-')
      let source := (source.drop dashes.length).skipGap
      let start := if dashes.isEmpty then CharSet.empty else CharSet.ofChar '-'
      let (start, source) := match source.chars with
        | ']' :: _ => if dashes.isEmpty then (CharSet.ofChar ']', source.next) else (start, source)
        | _ => (start, source)
      let (set, source) ← bracketItems? bound none start source
      let set := if source.flags.ignoreCase then set.withCases else set
      let set := if negated then set.complement else set
      some (← asciiOnly? source.flags.unicode set, source)

private def bracketItems? : Nat → Option (CharSet × SetOperator) → CharSet → Source →
    Option (CharSet × Source)
  | 0, _, _, _ => none
  | bound + 1, left, set, source => do
      let source := source.skipGap
      let ignoreCase := source.flags.ignoreCase
      let operator (kind : SetOperator) : Option (CharSet × Source) :=
        bracketItems? bound (some (combine ignoreCase left set, kind)) CharSet.empty (source.drop 2)
      match source.chars with
      | [] => none
      | ']' :: _ => some (combine ignoreCase left set, source.drop 1)
      | '&' :: '&' :: _ => operator .intersection
      | '-' :: '-' :: _ => operator .difference
      | '~' :: '~' :: _ => operator .symmetricDifference
      | '[' :: _ =>
          match namedClass? source with
          | some (inner, source) => bracketItems? bound left (set.union inner) source
          | none => do
              let (inner, source) ← bracketSet? bound (source.drop 1)
              bracketItems? bound left (set.union inner) source
      | _ => do
          let (inner, source) ← setRange? source
          bracketItems? bound left (set.union inner) source

end

/-! Repetitions and groups -/

private def decimal? (source : Source) : Option (Nat × Source) := do
  let source := { source with chars := Text.trimLeft source.chars }
  let digits := source.chars.takeWhile Text.isDigit
  let value ← (Text.digits? digits).filter (· < Text.smallWordLimit)
  let rest := Text.trimLeft (source.chars.drop digits.length)
  some (value, { source with chars := rest })

private def braces? (source : Source) : Option (Nat × Option Nat × Source) := do
  let (atLeast, source) ← decimal? source.skipGap
  let (atMost, source) ← match source.chars with
    | ',' :: _ =>
        let source := source.next
        match source.chars with
        | '}' :: _ => some (none, source)
        | _ => do
            let (atMost, source) ← decimal? source
            some (some atMost, source)
    | _ => some (some atLeast, source)
  match source.chars with
  | '}' :: _ => if atMost.any (· < atLeast) then none else some (atLeast, atMost, source.next)
  | _ => none

/-- A question mark that makes a repetition prefer the other end. -/
private def skipLazy (source : Source) : Source :=
  match source.chars with
  | '?' :: _ => source.drop 1
  | _ => source

private def flags? : Nat → Bool → Bool → List Char → Flags → List Char → Option (Flags × List Char)
  | 0, _, _, _, _, _ => none
  | bound + 1, negated, dangling, seen, flags, chars =>
      match chars with
      | [] => none
      | '-' :: rest => if negated then none else flags? bound true true seen flags rest
      | ':' :: _ | ')' :: _ => if dangling then none else some (flags, chars)
      | flag :: rest =>
          if seen.contains flag then none
          else do
            let value := !negated
            let flags ← match flag with
              | 'i' => some { flags with ignoreCase := value }
              | 'm' => some { flags with multiLine := value }
              | 's' => some { flags with dotAll := value }
              | 'U' => some { flags with swapGreed := value }
              | 'u' => some { flags with unicode := value }
              | 'R' => some { flags with returns := value }
              | 'x' => some { flags with verbose := value }
              | _ => none
            flags? bound negated false (flag :: seen) flags rest

private def isNameStart (char : Char) : Bool :=
  char = '_' || char.isAlpha || 0x80 ≤ char.toNat

private def isNamePart (char : Char) : Bool :=
  isNameStart char || char.isDigit || char = '.' || char = '[' || char = ']'

private def groupName? (source : Source) : Option Source := do
  let (name, rest) ← upTo? '>' source
  let text := String.ofList name
  if !name.head?.any isNameStart ∨ !name.all isNamePart ∨ source.names.contains text then none
  else some { rest with names := text :: source.names }

private def dot? (flags : Flags) : Option Pattern := do
  let set :=
    if flags.dotAll then CharSet.all
    else if flags.returns then (CharSet.ofRuns [(0x0A, 0x0A), (0x0D, 0x0D)]).complement
    else (CharSet.ofChar '\n').complement
  some (.set (← asciiOnly? flags.unicode set))

private def itemPattern (flags : Flags) : Item → Pattern
  | .char code =>
      let set := CharSet.ofRange code code
      .set (if flags.ignoreCase then set.withCases else set)
  | .named set => .set set
  | .look condition => .look condition

mutual

private def alternatives? : Nat → Source → Option (Pattern × Source)
  | 0, _ => none
  | bound + 1, source => do
      let (first, source) ← items? bound none .empty source
      match source.chars with
      | '|' :: _ => do
          let (others, source) ← alternatives? bound (source.drop 1)
          some (.either first others, source)
      | _ => some (first, source)

/-- Reads a sequence of items.  `last` is the item that a repetition would apply
to, `before` is what precedes it. -/
private def items? : Nat → Option Pattern → Pattern → Source → Option (Pattern × Source)
  | 0, _, _, _ => none
  | bound + 1, last, before, source => do
      let source := source.skipGap
      let done : Pattern := match last with
        | some last => .sequence before last
        | none => before
      let repeatLast (atLeast : Nat) (atMost : Option Nat) (source : Source) :
          Option (Pattern × Source) := do
        items? bound (some (.repeated (← last) atLeast atMost)) before (skipLazy source)
      match source.chars with
      | [] | '|' :: _ | ')' :: _ => some (done, source)
      | '*' :: _ => repeatLast 0 none (source.drop 1)
      | '+' :: _ => repeatLast 1 none (source.drop 1)
      | '?' :: _ => repeatLast 0 (some 1) (source.drop 1)
      | '{' :: _ => do
          let (atLeast, atMost, source) ← braces? (source.drop 1)
          repeatLast atLeast atMost source
      | '(' :: _ => do
          let (group, source) ← group? bound (source.drop 1)
          items? bound group done source
      | _ => do
          let (item, source) ← primitive? bound source
          items? bound (some item) done source

/-- Reads a group behind its opening parenthesis; one that only sets flags is no
item. -/
private def group? : Nat → Source → Option (Option Pattern × Source)
  | 0, _ => none
  | bound + 1, source => do
      let source := source.skipGap
      let outer := source.flags
      let close (pattern : Pattern) (source : Source) : Option (Option Pattern × Source) :=
        match source.chars with
        | ')' :: _ => some (some pattern, { source.drop 1 with flags := outer })
        | _ => none
      match source.chars with
      | '?' :: 'P' :: '<' :: _ => do
          let (pattern, source) ← alternatives? bound (← groupName? (source.drop 3))
          close pattern source
      | '?' :: '<' :: char :: _ => do
          if char = '=' ∨ char = '!' then none
          else
            let (pattern, source) ← alternatives? bound (← groupName? (source.drop 2))
            close pattern source
      | '?' :: rest => do
          let (flags, rest) ← flags? (rest.length + 1) false false [] outer rest
          match rest with
          | ':' :: rest => do
              let (pattern, source) ← alternatives? bound { source with chars := rest, flags }
              close pattern source
          | _ =>
              if source.chars.drop 1 = rest then none
              else some (none, { source with chars := rest.drop 1, flags })
      | _ => do
          let (pattern, source) ← alternatives? bound source
          close pattern source

private def primitive? : Nat → Source → Option (Pattern × Source)
  | 0, _ => none
  | bound + 1, source => do
      let flags := source.flags
      match source.chars with
      | [] => none
      | '[' :: _ => do
          let (set, source) ← bracketSet? bound (source.drop 1)
          some (.set set, source)
      | '\\' :: _ => do
          let (item, source) ← escape? (source.drop 1)
          some (itemPattern flags item, source)
      | '.' :: _ => do some (← dot? flags, source.drop 1)
      | '^' :: _ => some (.look (if flags.multiLine then .lineStart else .textStart), source.drop 1)
      | '$' :: _ => some (.look (if flags.multiLine then .lineEnd else .textEnd), source.drop 1)
      | char :: _ => some (itemPattern flags (.char char.toNat), source.drop 1)

end

def Pattern.parse? (text : String) : Option Pattern := do
  let chars := text.toList
  let (pattern, source) ← alternatives? (4 * chars.length + 8)
    { chars, flags := Flags.initial, names := [] }
  if source.chars.isEmpty then some pattern else none

/-- The texts in which a pattern occurs, or nothing if it cannot be read. -/
def Pattern.compile? (text : String) : Option (List Char → Bool) :=
  (Pattern.parse? text).map Pattern.occursIn

end Rollout.Regex
