import Rollout.Configuration.Value
import Rollout.Text.Blank
import Rollout.Text.Numeral
import Rollout.Text.Pieces

namespace Rollout.Configuration

/-! Settings from variables of the environment. -/

abbrev Environment := List (String × String)

namespace Environment

def find? (environment : Environment) (name : String) : Option String :=
  (List.find? (·.1 = name) environment).map (·.2)

private def whole? (chars : List Char) : Option Int :=
  match chars with
  | '-' :: digits => (Text.digits? digits).map fun size => -(size : Int)
  | _ => (Text.unsigned? (Nat.pow 2 128) chars).map Int.ofNat

private def isDecimal (chars : List Char) : Bool :=
  match Text.splitAt '.' (Text.stripChar '-' chars) with
  | [whole, places] => (whole ++ places).all Char.isDigit && !(whole ++ places).isEmpty
  | _ => false

private def isList (chars : List Char) : Bool :=
  match chars.head?, chars.getLast? with
  | some '[', some ']' => true
  | some '\x7b', some '\x7d' => true
  | some first, _ => first ∉ ['[', '\x7b', '"', '\x27'] && ',' ∈ chars
  | none, _ => false

/-- The inside of a text in double quotes that needs no escapes. -/
private def quoted? (chars : List Char) : Option (List Char) := do
  let inside ← Text.dropStart? ['"'] chars >>= Text.dropEnd? ['"']
  if '"' ∈ inside ∨ '\\' ∈ inside then none else some inside

def valueOf (text : String) : Value :=
  let chars := Text.trim text.toList
  if chars = "true".toList then .flag true
  else if chars = "false".toList then .flag false
  else if isList chars then .other
  else match whole? chars with
    | some number => .whole number
    | none => if isDecimal chars then .other else .text (String.ofList ((quoted? chars).getD chars))

def table (environment : Environment) (word : String) : Table :=
  environment.filterMap fun (name, text) =>
    (Text.dropStart? (Text.lower (word ++ "_")).toList (Text.lower name).toList).map fun rest =>
      (String.ofList rest, valueOf text)

end Environment

end Rollout.Configuration
