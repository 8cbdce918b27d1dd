import Rollout.Yaml.Token.Scalar

namespace Rollout.Yaml

/-! Cutting a YAML text into tokens.

A mapping key is recognised only by the colon behind it.  Wherever a key may
start, its place among the tokens is therefore remembered, and when the colon
comes the key token, and the token that begins its mapping, are inserted there.
-/

structure KeyPlace where
  position : Nat
  required : Bool
  line : Nat
  index : Nat
  column : Nat
deriving Repr

/-- How far a text has been cut.  `indents` are the columns of the open blocks,
innermost first; `keys` holds one possible key per open flow collection and one
for the block context, innermost first. -/
structure Lexer where
  cursor : Cursor
  tokens : Array Token
  indents : List Nat
  keyAllowed : Bool
  keys : List (Option KeyPlace)
deriving Repr

namespace Lexer

def atStart (chars : List Char) : Lexer :=
  { cursor := .atStart chars, tokens := #[], indents := [], keyAllowed := true, keys := [none] }

def inFlow (lexer : Lexer) : Bool :=
  1 < lexer.keys.length

def push (lexer : Lexer) (token : Token) : Lexer :=
  { lexer with tokens := lexer.tokens.push token }

def closeBlocks (column : Option Nat) (lexer : Lexer) : Lexer :=
  if lexer.inFlow then lexer
  else
    let isDeeper (indent : Nat) : Bool := column.all (· < indent)
    let closed := lexer.indents.takeWhile isDeeper
    { lexer with
      tokens := lexer.tokens ++ (closed.map fun _ => Token.blockEnd).toArray
      indents := lexer.indents.dropWhile isDeeper }

def openBlock (column position : Nat) (token : Token) (lexer : Lexer) : Lexer :=
  if lexer.inFlow || lexer.indents.head?.any (column ≤ ·) then lexer
  else
    { lexer with
      tokens := lexer.tokens.insertIdxIfInBounds position token
      indents := column :: lexer.indents }

/-- Forgets the possible key of the innermost collection, which must not be one
that has to be a key. -/
def dropKey (lexer : Lexer) : Option Lexer :=
  match lexer.keys with
  | some key :: keys => if key.required then none else some { lexer with keys := none :: keys }
  | _ => some lexer

def saveKey (lexer : Lexer) : Option Lexer := do
  if !lexer.keyAllowed then some lexer
  else
    let cursor := lexer.cursor
    let required := !lexer.inFlow && lexer.indents.head? == some cursor.column
    let lexer ← lexer.dropKey
    let place : KeyPlace :=
      { position := lexer.tokens.size, required, line := cursor.line, index := cursor.index,
        column := cursor.column }
    some { lexer with keys := some place :: lexer.keys.drop 1 }

/-- Forgets possible keys that are on an earlier line or too far back to be the
key of a colon that may still come. -/
def dropStaleKeys (lexer : Lexer) : Option Lexer := do
  let cursor := lexer.cursor
  let keys ← lexer.keys.mapM fun key =>
    match key with
    | some place =>
        if place.line < cursor.line ∨ place.index + 1024 < cursor.index then
          if place.required then none else some none
        else some (some place)
    | none => some none
  some { lexer with keys }

/-- Moves behind white space and comments.  Tabs count as white space only where
no key of a block may start, and a byte order mark only at the beginning of a line. -/
private def skipGap : Nat → Lexer → Lexer
  | 0, lexer => lexer
  | bound + 1, lexer =>
      let tabs := lexer.inFlow || !lexer.keyAllowed
      let cursor := lexer.cursor
      let cursor := if cursor.column == 0 && cursor.sees '\uFEFF' then cursor.skip else cursor
      let cursor := cursor.skipWhile fun char => char == ' ' || (tabs && char == '\t')
      let cursor := if cursor.sees '#' then cursor.skipWhile (!isBreak ·) else cursor
      if cursor.peek?.any isBreak then
        skipGap bound
          { lexer with
            cursor := cursor.skipBreak
            keyAllowed := lexer.keyAllowed || !lexer.inFlow }
      else { lexer with cursor }

private def takeWhile (test : Char → Bool) (cursor : Cursor) : List Char × Cursor :=
  (cursor.chars.takeWhile test, cursor.skipWhile test)

private def readVersionNumber? (cursor : Cursor) : Option (Nat × Cursor) :=
  let (digits, cursor) := takeWhile Text.isDigit cursor
  if digits.isEmpty ∨ 9 < digits.length then none
  else some (Text.decimalValue digits, cursor)

private def isUriChar (verbatim : Bool) (char : Char) : Bool :=
  isNameChar char ||
    [';', '/', '?', ':', '@', '&', '=', '+', '$', '.', '!', '~', '*', '\'', '(', ')'].contains char ||
    (verbatim && [',', '[', ']'].contains char)

private def hexByte? (chars : List Char) : Option UInt8 :=
  match chars with
  | '%' :: a :: b :: _ =>
      let digit? (char : Char) : Option Nat :=
        if Text.isDigit char then some (Text.digitValue char)
        else if 'a' ≤ char.toLower ∧ char.toLower ≤ 'f' then
          some (char.toLower.toNat - 'a'.toNat + 10)
        else none
      do some (UInt8.ofNat (16 * (← digit? a) + (← digit? b)))
  | _ => none

private def readEscapedChar? (cursor : Cursor) : Option (Char × Cursor) := do
  let first ← hexByte? cursor.chars
  let width := if first < 0x80 then 1 else if first < 0xC0 then 0 else if first < 0xE0 then 2
    else if first < 0xF0 then 3 else if first < 0xF8 then 4 else 0
  if width = 0 then none
  else
    let bytes ← (List.range width).mapM fun place => hexByte? (cursor.chars.drop (3 * place))
    let more := bytes.drop 1
    if more.any fun byte => byte < 0x80 || 0xC0 ≤ byte then none
    else
      let lead := if width = 1 then first.toNat else first.toNat % Nat.pow 2 (7 - width)
      let code := more.foldl (fun value byte => value * 64 + byte.toNat % 64) lead
      some (Char.ofNat code, cursor.skipMany (3 * width))

private def readUri (verbatim : Bool) : Nat → List Char → Cursor → Option (List Char × Cursor)
  | 0, _, _ => none
  | bound + 1, reversed, cursor =>
      match cursor.peek? with
      | some '%' => do
          let (char, cursor) ← readEscapedChar? cursor
          readUri verbatim bound (char :: reversed) cursor
      | some char =>
          if isUriChar verbatim char then readUri verbatim bound (char :: reversed) cursor.skip
          else some (reversed.reverse, cursor)
      | none => some (reversed.reverse, cursor)

private def readHandle? (cursor : Cursor) : Option (List Char × Cursor) :=
  if !cursor.sees '!' then none
  else
    let (name, cursor) := takeWhile isNameChar cursor.skip
    if cursor.sees '!' then some ('!' :: name ++ ['!'], cursor.skip) else some ('!' :: name, cursor)

private def readTag? (cursor : Cursor) : Option (String × String × Cursor) :=
  if cursor.chars[1]? == some '<' then do
    let (uri, cursor) ← readUri true cursor.limit [] (cursor.skipMany 2)
    if uri.isEmpty ∨ !cursor.sees '>' then none else some ("", String.ofList uri, cursor.skip)
  else do
    let (handle, cursor) ← readHandle? cursor
    if handle.length > 1 && handle.getLast? == some '!' then
      let (uri, cursor) ← readUri false cursor.limit [] cursor
      if uri.isEmpty then none else some (String.ofList handle, String.ofList uri, cursor)
    else
      let (uri, cursor) ← readUri false cursor.limit [] cursor
      let rest := handle.drop 1 ++ uri
      some (if rest.isEmpty then ("", "!", cursor) else ("!", String.ofList rest, cursor))

private def readDirective? (cursor : Cursor) : Option (Token × Cursor) := do
  let (name, cursor) := takeWhile isNameChar cursor
  if name.isEmpty ∨ !cursor.endsWordAt 0 then none
  else
    let cursor := cursor.skipWhile isSpace
    let (token, cursor) ←
      if name = "YAML".toList then do
        let (major, cursor) ← readVersionNumber? cursor
        if !cursor.sees '.' then none
        else
          let (minor, cursor) ← readVersionNumber? cursor.skip
          some (Token.version major minor, cursor)
      else if name = "TAG".toList then do
        let (handle, cursor) ← readHandle? cursor
        if (handle ≠ ['!'] ∧ handle.getLast? ≠ some '!') ∨ !cursor.atSpace then none
        else
          let (uri, cursor) ← readUri true cursor.limit [] (cursor.skipWhile isSpace)
          if uri.isEmpty ∨ !cursor.endsWordAt 0 then none
          else some (Token.tagDirective (String.ofList handle) (String.ofList uri), cursor)
      else none
    let cursor := cursor.skipWhile isSpace
    let cursor := if cursor.sees '#' then cursor.skipWhile (!isBreak ·) else cursor
    if !cursor.atBreakOrEnd then none
    else some (token, if cursor.chars.isEmpty then cursor else cursor.skipBreak)

private def readName? (cursor : Cursor) : Option (String × Cursor) :=
  let (name, cursor) := takeWhile isNameChar cursor.skip
  let closed := cursor.endsWordAt 0 ||
    (cursor.peek?.map ['?', ':', ',', ']', '}', '%', '@', '`'].contains).getD false
  if name.isEmpty ∨ !closed then none else some (String.ofList name, cursor)

private def leaveBlocks (lexer : Lexer) : Option Lexer := do
  let lexer ← (lexer.closeBlocks none).dropKey
  some { lexer with keyAllowed := false }

private def flowStart (token : Token) (lexer : Lexer) : Option Lexer := do
  let lexer ← lexer.saveKey
  some { lexer.push token with
    keys := none :: lexer.keys, keyAllowed := true, cursor := lexer.cursor.skip }

private def flowEnd (token : Token) (lexer : Lexer) : Option Lexer := do
  let lexer ← lexer.dropKey
  let keys := if lexer.inFlow then lexer.keys.drop 1 else lexer.keys
  some { lexer.push token with keys, keyAllowed := false, cursor := lexer.cursor.skip }

/-- Begins an entry or an explicit key of a block, which may stand only where a
key may start. -/
private def blockIndicator (opening token : Token) (lexer : Lexer) : Option Lexer := do
  if !lexer.inFlow && !lexer.keyAllowed then none
  else
    let lexer := lexer.openBlock lexer.cursor.column lexer.tokens.size opening
    let lexer ← lexer.dropKey
    let keyAllowed := token == .blockEntry || !lexer.inFlow
    some { lexer.push token with keyAllowed, cursor := lexer.cursor.skip }

private def valueIndicator (lexer : Lexer) : Option Lexer :=
  match lexer.keys with
  | some key :: keys =>
      let lexer :=
        { lexer with
          tokens := lexer.tokens.insertIdxIfInBounds key.position .key
          keys := none :: keys
          keyAllowed := false }
      let lexer := lexer.openBlock key.column key.position .blockMappingStart
      some { lexer.push .value with cursor := lexer.cursor.skip }
  | _ =>
      if !lexer.inFlow && !lexer.keyAllowed then none
      else
        let lexer := lexer.openBlock lexer.cursor.column lexer.tokens.size .blockMappingStart
        some { lexer.push .value with keyAllowed := !lexer.inFlow, cursor := lexer.cursor.skip }

private def named (token : String → Token) (lexer : Lexer) : Option Lexer := do
  let lexer ← lexer.saveKey
  let (name, cursor) ← readName? lexer.cursor
  some { lexer.push (token name) with keyAllowed := false, cursor }

private def tagged (lexer : Lexer) : Option Lexer := do
  let lexer ← lexer.saveKey
  let (handle, rest, cursor) ← readTag? lexer.cursor
  if cursor.endsWordAt 0 ∨ (lexer.inFlow ∧ cursor.sees ',') then
    some { lexer.push (.tag handle rest) with keyAllowed := false, cursor }
  else none

private def blockScalar (style : ScalarStyle) (lexer : Lexer) : Option Lexer := do
  let lexer ← lexer.dropKey
  let read ← readBlock? (style == .folded) lexer.indents.head? lexer.cursor.skip
  some { lexer.push (.scalar read.text style) with keyAllowed := true, cursor := read.behind }

private def quotedScalar (style : ScalarStyle) (lexer : Lexer) : Option Lexer := do
  let lexer ← lexer.saveKey
  let read ← readQuoted? (style == .singleQuoted) lexer.cursor
  some { lexer.push (.scalar read.text style) with keyAllowed := false, cursor := read.behind }

private def plainScalar (lexer : Lexer) : Option Lexer := do
  let lexer ← lexer.saveKey
  let indent := lexer.indents.head?.elim 0 (· + 1)
  let (read, broken) ← readPlain? lexer.inFlow indent lexer.cursor
  some { lexer.push (.scalar read.text .plain) with keyAllowed := broken, cursor := read.behind }

private def startsPlain (inFlow : Bool) (char : Char) (next : Option Char) : Bool :=
  let spaced := (next.map isSpace).getD false
  let ended := (next.map fun c => isSpace c || isBreak c).getD true
  let indicators := ['-', '?', ':', ',', '[', ']', '{', '}', '#', '&', '*', '!', '|', '>', '\'', '"',
    '%', '@', '`']
  !(isSpace char || isBreak char || indicators.contains char) ||
    (char == '-' && !spaced) || (!inFlow && (char == '?' || char == ':') && !ended)

private def readToken (char : Char) (lexer : Lexer) : Option Lexer := do
  let cursor := lexer.cursor
  let flow := lexer.inFlow
  let ended := cursor.endsWordAt 1
  if cursor.column == 0 && char == '%' then
    let lexer ← leaveBlocks lexer
    let (token, cursor) ← readDirective? cursor.skip
    some { lexer.push token with cursor }
  else if cursor.atDocumentMark then
    let lexer ← leaveBlocks lexer
    let token := if char == '-' then Token.documentStart else .documentEnd
    some { lexer.push token with cursor := cursor.skipMany 3 }
  else if char == '[' then flowStart .flowSequenceStart lexer
  else if char == '{' then flowStart .flowMappingStart lexer
  else if char == ']' then flowEnd .flowSequenceEnd lexer
  else if char == '}' then flowEnd .flowMappingEnd lexer
  else if char == ',' then
    let lexer ← lexer.dropKey
    some { lexer.push .flowEntry with keyAllowed := true, cursor := cursor.skip }
  else if char == '-' && ended then blockIndicator .blockSequenceStart .blockEntry lexer
  else if char == '?' && (flow || ended) then blockIndicator .blockMappingStart .key lexer
  else if char == ':' && (flow || ended) then valueIndicator lexer
  else if char == '*' then named .alias lexer
  else if char == '&' then named .anchor lexer
  else if char == '!' then tagged lexer
  else if char == '|' && !flow then blockScalar .literal lexer
  else if char == '>' && !flow then blockScalar .folded lexer
  else if char == '\'' then quotedScalar .singleQuoted lexer
  else if char == '"' then quotedScalar .doubleQuoted lexer
  else if startsPlain flow char cursor.chars[1]? then plainScalar lexer
  else none

private def readAll : Nat → Lexer → Option Lexer
  | 0, _ => none
  | bound + 1, lexer => do
      let lexer := skipGap lexer.cursor.limit lexer
      let lexer ← lexer.dropStaleKeys
      let lexer := lexer.closeBlocks (some lexer.cursor.column)
      match lexer.cursor.peek? with
      | none => (lexer.closeBlocks none).dropKey
      | some char => do readAll bound (← readToken char lexer)

end Lexer

def Token.ofText? (text : String) : Option (List Token) := do
  let chars := text.toList
  if !chars.all isPrintable then none
  else
    let chars := if chars.head? == some '\uFEFF' then chars.drop 1 else chars
    let lexer ← Lexer.readAll (chars.length + 2) (Lexer.atStart chars)
    some lexer.tokens.toList

end Rollout.Yaml
