import Rollout.Yaml.Token

namespace Rollout.Yaml

/-! The tree of a YAML document.

Aliases are replaced by the node they name.  An alias inside of the very node it
names has no tree; it stays as `cyclic`, which no reader of values accepts.
-/

inductive Node where
  | scalar (text : String) (style : ScalarStyle) (tag : Option String)
  | sequence (items : List Node) (tag : Option String)
  | mapping (entries : List (Node × Node)) (tag : Option String)
  | cyclic
deriving Repr, Inhabited

namespace Node

def blank : Node := .scalar "" .plain none

def isBlank : Node → Bool
  | .scalar text .plain _ => text.isEmpty
  | _ => false

end Node

end Rollout.Yaml
