import Rollout.Yaml.Node.OfTokens
import Rollout.Yaml.Plain

namespace Rollout.Yaml

/-! Reading values of a known shape from the tree of a document.

A field of text type takes any scalar as it is written, also `~`.  Numbers and
truth values have to be plain words of their kind.  Where a list or a structure
is expected, nothing at all stands for an empty one.
-/

private def coreTag (name : String) : String :=
  "tag:yaml.org,2002:" ++ name

abbrev Fields := List (String × Node)

namespace Node

def text? : Node → Option String
  | .scalar text _ _ => some text
  | _ => none

private def word? (name : String) : Node → Option String
  | .scalar text .plain _ => some text
  | .scalar text .literal tag => if tag == some (coreTag name) then some text else none
  | _ => none

def bool? (node : Node) : Option Bool :=
  (node.word? "bool").bind boolWord?

def below? (limit : Nat) (node : Node) : Option Nat :=
  (node.word? "int").bind (natural? limit)

def items? : Node → Option (List Node)
  | .sequence items _ => some items
  | node => if node.isBlank then some [] else none

def entries? : Node → Option (List (Node × Node))
  | .mapping entries _ => some entries
  | node => if node.isBlank then some [] else none

def optional? (read : Node → Option α) (node : Node) : Option (Option α) :=
  match node with
  | .scalar text .plain tag =>
      if tag == some (coreTag "null") then if isNullWord text then some none else none
      else if tag.isNone && (text.isEmpty || isNullWord text) then some none
      else (read node).map some
  | _ => (read node).map some

/-- One of several names, written as a scalar or as the tag of a null. -/
def choice? (names : List (String × α)) : Node → Option α
  | .scalar text style tag =>
      let own := tag.bind fun tag => Text.dropStart? ['!'] tag.toList
      let name : Option String := match own with
        | some name =>
            if style == .plain && (text.isEmpty || isNullWord text) then some (String.ofList name)
            else none
        | none => some text
      name.bind fun name => (names.find? (·.1 == name)).map (·.2)
  | _ => none

def list? (read : Node → Option α) (node : Node) : Option (List α) := do
  (← node.items?).mapM read

/-- The fields of a structure.  A field of the given names must not be repeated;
all others are ignored. -/
def fields? (names : List String) (node : Node) : Option Fields := do
  let entries ← (← node.entries?).mapM fun (key, item) => key.text?.map (·, item)
  let known := entries.filter fun (name, _) => names.contains name
  if (known.map (·.1)).Nodup then some known else none

end Node

namespace Fields

def get? (name : String) (fields : Fields) : Option Node :=
  (fields.find? (·.1 == name)).map (·.2)

def required? (fields : Fields) (name : String) (read : Node → Option α) : Option α :=
  (fields.get? name).bind read

def default? (fields : Fields) (name : String) (missing : α) (read : Node → Option α) : Option α :=
  match fields.get? name with
  | some node => read node
  | none => some missing

def optional? (fields : Fields) (name : String) (read : Node → Option α) : Option (Option α) :=
  fields.default? name none (Node.optional? read)

end Fields

/-- What a node stands for where values of several types are allowed. -/
inductive Value where
  | null
  | bool (value : Bool)
  | whole (value : Int)
  | fraction
  | text (value : String)
  | sequence (items : List Value)
  | mapping (entries : List (Value × Value))
deriving Repr, Inhabited

namespace Value

/-- A whole number within 64 bits; larger ones up to 128 bits are refused, and
still larger ones are no whole numbers. -/
private def ofWhole? (text : String) : Option (Option Value) :=
  match natural? (Nat.pow 2 128) text <|> none, negative? (Nat.pow 2 127) text with
  | some value, _ => some (if value < Text.wordLimit then some (.whole value) else none)
  | none, some value => some (if -(Nat.pow 2 63) ≤ value then some (.whole value) else none)
  | none, none => none

private def ofPlain? (text : String) : Option Value :=
  if text.isEmpty || isNullWord text then some .null
  else match boolWord? text with
    | some value => some (.bool value)
    | none =>
        match ofWhole? text with
        | some value => value
        | none => some (if isFraction text then .fraction else .text text)

private def ofScalar? (text : String) (style : ScalarStyle) (tag : Option String) : Option Value :=
  match tag with
  | none => if style == .plain then ofPlain? text else some (.text text)
  | some tag =>
      if tag.toList.head? == some '!' then none
      else if tag == coreTag "bool" then (boolWord? text).map .bool
      else if tag == coreTag "int" then (ofWhole? text).join
      else if tag == coreTag "float" then
        if isFraction text || (natural? (Nat.pow 2 1024) text).isSome || (negative? (Nat.pow 2 1024) text).isSome
        then some .fraction else none
      else if tag == coreTag "null" then if isNullWord text then some .null else none
      else some (.text text)

private def untagged (tag : Option String) : Option Unit :=
  if (tag.map (·.toList.head? == some '!')).getD false then none else some ()

/-- Nodes with tags of the document's own have no value here. -/
def ofNode? : Node → Option Value
  | .scalar content style tag => ofScalar? content style tag
  | .sequence items tag => do
      untagged tag
      some (.sequence (← ofItems? items))
  | .mapping entries tag => do
      untagged tag
      some (.mapping (← ofEntries? entries))
  | .cyclic => none
where
  ofItems? : List Node → Option (List Value)
    | [] => some []
    | item :: items => do some ((← ofNode? item) :: (← ofItems? items))
  ofEntries? : List (Node × Node) → Option (List (Value × Value))
    | [] => some []
    | (key, item) :: entries => do
        some ((← ofNode? key, ← ofNode? item) :: (← ofEntries? entries))

def text? : Value → Option String
  | .text value => some value
  | _ => none

def bool? : Value → Option Bool
  | .bool value => some value
  | _ => none

def below? (limit : Nat) : Value → Option Nat
  | .whole (.ofNat value) => if value < limit then some value else none
  | _ => none

def items? : Value → Option (List Value)
  | .sequence items => some items
  | _ => none

def optional? (read : Value → Option α) : Value → Option (Option α)
  | .null => some none
  | value => (read value).map some

/-- The entries of a structure with the given field names.  A key is the name of
a field or its position among them. -/
def fields? (names : List String) : Value → Option (List (String × Value))
  | .mapping entries => do
      let entries ← entries.mapM fun (key, item) =>
        match key with
        | .text name => some (name, item)
        | .whole (.ofNat place) => some ((names[place]?).getD "", item)
        | _ => none
      let known := entries.filter fun (name, _) => names.contains name
      if (known.map (·.1)).Nodup then some known else none
  | _ => none

end Value

end Rollout.Yaml
