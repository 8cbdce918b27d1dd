import Rollout.Yaml.Node
import Rollout.Yaml.Token.Lexer

namespace Rollout.Yaml

/-! Building the documents of a text from its tokens.

A reader takes the tokens from its own start on and returns a node with the
state behind it.  Every reader takes a token or hands the same tokens to a
smaller reader, so a bound proportional to the number of tokens suffices.
-/

/-- The tokens still to read, and the nodes that aliases may name; an anchor
without a node belongs to a node that is still being read. -/
structure Reading where
  tokens : List Token
  anchors : List (String × Option Node)
  handles : List (String × String)

namespace Reading

private def next? (reading : Reading) : Option Token :=
  reading.tokens.head?

private def skip (reading : Reading) : Reading :=
  { reading with tokens := reading.tokens.drop 1 }

private def sees (reading : Reading) (tokens : List Token) : Bool :=
  match reading.next? with
  | some token => tokens.contains token
  | none => false

private def bind (name : Option String) (node : Option Node) (reading : Reading) : Reading :=
  match name with
  | some name => { reading with anchors := (name, node) :: reading.anchors }
  | none => reading

/-- The properties in front of a node: an anchor and a tag in either order. -/
private def properties? (reading : Reading) :
    Option (Option String × Option (String × String) × Reading) :=
  match reading.tokens with
  | .anchor name :: .tag handle rest :: _ =>
      some (some name, some (handle, rest), reading.skip.skip)
  | .anchor name :: _ => some (some name, none, reading.skip)
  | .tag handle rest :: .anchor name :: _ =>
      some (some name, some (handle, rest), reading.skip.skip)
  | .tag handle rest :: _ => some (none, some (handle, rest), reading.skip)
  | _ => some (none, none, reading)

private def fullTag? (reading : Reading) : Option (String × String) → Option (Option String)
  | none => some none
  | some (handle, rest) =>
      if handle.isEmpty then some (some rest)
      else do
        let (_, start) ← reading.handles.find? (·.1 == handle)
        some (some (start ++ rest))

mutual

/-- Reads a node.  In a block, collections may be written by indentation; the
entries of a sequence may then stand without indentation of their own when
`indentless` holds. -/
private def node? (inBlock indentless : Bool) : Nat → Reading → Option (Node × Reading)
  | 0, _ => none
  | bound + 1, reading => do
      if let some (.alias name) := reading.next? then
        let (_, node) ← reading.anchors.find? (·.1 == name)
        return (node.getD .cyclic, reading.skip)
      let (anchor, tag, reading) ← reading.properties?
      let tag ← reading.fullTag? tag
      let finish (result : Node × Reading) : Node × Reading :=
        (result.1, result.2.bind anchor (some result.1))
      match reading.next? with
      | some (.scalar text style) =>
          let tag := tag.filter (· != "!")
          some (finish (.scalar text style tag, reading.skip))
      | some .flowSequenceStart => do
          let (items, reading) ← flowItems? true bound (reading.skip.bind anchor none)
          some (finish (.sequence items tag, reading))
      | some .flowMappingStart => do
          let (entries, reading) ← flowEntries? true bound (reading.skip.bind anchor none)
          some (finish (.mapping entries tag, reading))
      | token =>
          if indentless && token == some .blockEntry then do
            let (items, reading) ← indentlessItems? bound (reading.bind anchor none)
            some (finish (.sequence items tag, reading))
          else if inBlock && token == some .blockSequenceStart then do
            let (items, reading) ← blockItems? bound (reading.skip.bind anchor none)
            some (finish (.sequence items tag, reading))
          else if inBlock && token == some .blockMappingStart then do
            let (entries, reading) ← blockEntries? bound (reading.skip.bind anchor none)
            some (finish (.mapping entries tag, reading))
          else if anchor.isSome || tag.isSome then some (finish (.scalar "" .plain tag, reading))
          else none

private def blockItems? : Nat → Reading → Option (List Node × Reading)
  | 0, _ => none
  | bound + 1, reading =>
      match reading.next? with
      | some .blockEntry => do
          let reading := reading.skip
          let (item, reading) ←
            if reading.sees [.blockEntry, .blockEnd] then some (Node.blank, reading)
            else node? true false bound reading
          let (items, reading) ← blockItems? bound reading
          some (item :: items, reading)
      | some .blockEnd => some ([], reading.skip)
      | _ => none

private def indentlessItems? : Nat → Reading → Option (List Node × Reading)
  | 0, _ => none
  | bound + 1, reading =>
      match reading.next? with
      | some .blockEntry => do
          let reading := reading.skip
          let (item, reading) ←
            if reading.sees [.blockEntry, .key, .value, .blockEnd] then
              some (Node.blank, reading)
            else node? true false bound reading
          let (items, reading) ← indentlessItems? bound reading
          some (item :: items, reading)
      | _ => some ([], reading)

private def blockEntries? : Nat → Reading → Option (List (Node × Node) × Reading)
  | 0, _ => none
  | bound + 1, reading =>
      match reading.next? with
      | some .blockEnd => some ([], reading.skip)
      | some .key => do
          let (name, reading) ← blockPart? bound reading.skip
          let (item, reading) ←
            if reading.sees [.value] then blockPart? bound reading.skip
            else some (Node.blank, reading)
          let (entries, reading) ← blockEntries? bound reading
          some ((name, item) :: entries, reading)
      | _ => none

private def blockPart? : Nat → Reading → Option (Node × Reading)
  | 0, _ => none
  | bound + 1, reading =>
      if reading.sees [.key, .value, .blockEnd] then some (Node.blank, reading)
      else node? true true bound reading

private def flowItems? (first : Bool) : Nat → Reading → Option (List Node × Reading)
  | 0, _ => none
  | bound + 1, reading => do
      if reading.sees [.flowSequenceEnd] then some ([], reading.skip)
      else
        let reading ←
          if first then some reading
          else if reading.sees [.flowEntry] then some reading.skip
          else none
        if reading.sees [.flowSequenceEnd] then some ([], reading.skip)
        else
          let (item, reading) ←
            if reading.sees [.key] then flowPair? bound reading.skip
            else node? false false bound reading
          let (items, reading) ← flowItems? false bound reading
          some (item :: items, reading)

/-- A mapping of one entry, written in a flow sequence without braces. -/
private def flowPair? : Nat → Reading → Option (Node × Reading)
  | 0, _ => none
  | bound + 1, reading => do
      let (name, reading) ←
        if reading.sees [.value, .flowEntry, .flowSequenceEnd] then
          some (Node.blank, reading.skip)
        else node? false false bound reading
      let (item, reading) ←
        if reading.sees [.value] then
          if reading.skip.sees [.flowEntry, .flowSequenceEnd] then
            some (Node.blank, reading.skip)
          else node? false false bound reading.skip
        else some (Node.blank, reading)
      some (.mapping [(name, item)] none, reading)

private def flowEntries? (first : Bool) : Nat → Reading → Option (List (Node × Node) × Reading)
  | 0, _ => none
  | bound + 1, reading => do
      if reading.sees [.flowMappingEnd] then some ([], reading.skip)
      else
        let reading ←
          if first then some reading
          else if reading.sees [.flowEntry] then some reading.skip
          else none
        if reading.sees [.flowMappingEnd] then some ([], reading.skip)
        else if reading.sees [.key] then
          let reading := reading.skip
          let (name, reading) ←
            if reading.sees [.value, .flowEntry, .flowMappingEnd] then
              some (Node.blank, reading)
            else node? false false bound reading
          let (item, reading) ←
            if reading.sees [.value] then
              if reading.skip.sees [.flowEntry, .flowMappingEnd] then
                some (Node.blank, reading.skip)
              else node? false false bound reading.skip
            else some (Node.blank, reading)
          let (entries, reading) ← flowEntries? false bound reading
          some ((name, item) :: entries, reading)
        else
          let (name, reading) ← node? false false bound reading
          let (entries, reading) ← flowEntries? false bound reading
          some ((name, Node.blank) :: entries, reading)

end

private def defaultHandles : List (String × String) :=
  [("!", "!"), ("!!", "tag:yaml.org,2002:")]

private def directives? : List Token → List (String × String) → Bool →
    Option (List (String × String) × List Token)
  | .version major minor :: tokens, handles, versioned =>
      if versioned ∨ major ≠ 1 ∨ (minor ≠ 1 ∧ minor ≠ 2) then none
      else directives? tokens handles true
  | .tagDirective handle start :: tokens, handles, versioned =>
      if handles.any (·.1 == handle) then none
      else directives? tokens ((handle, start) :: handles) versioned
  | tokens, handles, _ => some (handles, tokens)

private def endsContent (reading : Reading) : Bool :=
  match reading.next? with
  | none | some .documentStart | some .documentEnd => true
  | some (.version _ _) | some (.tagDirective _ _) => true
  | _ => false

private def documents? : Nat → Bool → List Token → Option (List Node)
  | 0, _, _ => none
  | bound + 1, first, tokens => do
      let tokens := if first then tokens else tokens.dropWhile (· == .documentEnd)
      if tokens.isEmpty then some []
      else
        let (own, content) ← directives? tokens [] false
        let explicit := content.head? == some .documentStart
        let undirected := content.length == tokens.length
        if !explicit && (!first || !undirected) then none
        else
          let tokens := if explicit then content.drop 1 else content
          let reading : Reading := { tokens, anchors := [], handles := own ++ defaultHandles }
          let (node, reading) ←
            if explicit && endsContent reading then some (Node.blank, reading)
            else node? true false (4 * tokens.length + 4) reading
          let tokens := if reading.sees [.documentEnd] then reading.tokens.drop 1
            else reading.tokens
          let more ← documents? bound false tokens
          some (node :: more)

end Reading

def Node.documents? (text : String) : Option (List Node) := do
  let tokens ← Token.ofText? text
  Reading.documents? (tokens.length + 2) true tokens

end Rollout.Yaml
