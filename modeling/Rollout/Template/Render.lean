import Std.Data.ExtTreeMap

namespace Rollout.Template

/-! Placeholders in texts.

A placeholder is a key between braces, where the key holds no brace.  Rendering
replaces every placeholder whose key is known, all at once: a value is copied
as it is and never searched for placeholders again.  Everything else stays.
-/

abbrev Variables := Std.ExtTreeMap String String

/-- The characters of an opening brace and of the possible key behind it, which
is kept in reverse order; outside of a placeholder there are none. -/
def unread : Option (List Char) → List Char
  | none => []
  | some reversed => '{' :: reversed.reverse

def placeholder (values : Variables) (key : List Char) : List Char :=
  match values[String.ofList key]? with
  | some value => value.toList
  | none => '{' :: key ++ ['}']

/-- Renders the characters that follow an opening brace and a possible key. -/
def renderFrom (values : Variables) : Option (List Char) → List Char → List Char
  | reading, [] => unread reading
  | reading, '{' :: chars => unread reading ++ renderFrom values (some []) chars
  | some reversed, '}' :: chars =>
      placeholder values reversed.reverse ++ renderFrom values none chars
  | some reversed, char :: chars => renderFrom values (some (char :: reversed)) chars
  | none, char :: chars => char :: renderFrom values none chars

def render (values : Variables) (text : String) : String :=
  String.ofList (renderFrom values none text.toList)

end Rollout.Template
