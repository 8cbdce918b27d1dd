namespace Rollout.Configuration

/-! Values of settings, from a file or from the environment. -/

inductive Value where
  | text (content : String)
  | whole (number : Int)
  | flag (isSet : Bool)
  /-- A value that no setting takes. -/
  | other
deriving Repr, DecidableEq

abbrev Table := List (String × Value)

structure Malformed where
deriving Repr, DecidableEq

/-- What is malformed is not described further than by `<detail>`. -/
def Malformed.message (_ : Malformed) : String := "configuration parsing failed: <detail>"

/-- Where a setting is looked for: the first source that has it counts. -/
abbrev Sources := List Table

namespace Sources

def find? (sources : Sources) (name : String) : Option Value :=
  sources.findSome? fun table => (table.find? (·.1 = name)).map (·.2)

def text? (sources : Sources) (name : String) : Except Malformed (Option String) :=
  match sources.find? name with
  | none => .ok none
  | some (.text content) => .ok (some content)
  | some _ => .error {}

def text (sources : Sources) (name default : String) : Except Malformed String := do
  pure ((← sources.text? name).getD default)

def below (sources : Sources) (limit : Nat) (name : String) (default : Nat) :
    Except Malformed Nat :=
  match sources.find? name with
  | none => .ok default
  | some (.whole (.ofNat number)) => if number < limit then .ok number else .error {}
  | some _ => .error {}

end Sources

end Rollout.Configuration
