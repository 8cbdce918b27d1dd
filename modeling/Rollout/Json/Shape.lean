import Rollout.Json.Fields
import Rollout.Text.Numeral

namespace Rollout.Json

/-! Shapes of values that an interface promises to send.

A shape only says which values are accepted; it keeps nothing of them.  A reader
that needs a few fields of a record still checks the shape of the others.
-/

abbrev Shape := Json → Bool

namespace Shape

def text : Shape := fun json => json.text?.isSome

def flag : Shape := fun json => json.bool?.isSome

def word : Shape := fun json => (json.below? Text.wordLimit).isSome

def object : Shape := fun json => json.entries?.isSome && json.isLegible

def list (item : Shape) : Shape := fun json => (json.list? fun value => guard (item value)).isSome

def nullable (shape : Shape) : Shape
  | .null => true
  | json => shape json

/-- A record with known fields, of which only those that may be null can be
missing. -/
def record (fields : List (String × Shape)) : Shape := fun json =>
  match json.fields? (fields.map (·.1)) with
  | some values => fields.all fun (name, shape) =>
      match values.find? name with
      | some value => shape value
      | none => !values.isArray && shape .null
  | none => false

end Shape

end Rollout.Json
