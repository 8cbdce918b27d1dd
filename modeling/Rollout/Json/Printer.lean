import Rollout.Json.Basic

namespace Rollout.Json

/-! Writing JSON values in one line without spaces. -/

def hexDigit (value : Nat) : Char :=
  if value < 10 then Char.ofNat (value + '0'.toNat) else Char.ofNat (value - 10 + 'a'.toNat)

def escaped (char : Char) : List Char :=
  match char with
  | '"' => ['\\', '"']
  | '\\' => ['\\', '\\']
  | '\n' => ['\\', 'n']
  | '\r' => ['\\', 'r']
  | '\t' => ['\\', 't']
  | '\x08' => ['\\', 'b']
  | '\x0c' => ['\\', 'f']
  | _ =>
      if char.toNat < 0x20 then
        ['\\', 'u', '0', '0', hexDigit (char.toNat / 16), hexDigit (char.toNat % 16)]
      else [char]

def quote (text : String) : String :=
  String.ofList ('"' :: text.toList.flatMap escaped ++ ['"'])

/-- A fraction is written positionally when its digits reach the point, and with
an exponent otherwise. -/
private def renderFraction (negative : Bool) (digits : Nat) (exponent : Int) : String :=
  let sign := if negative then "-" else ""
  let text := toString digits
  let places := (-exponent).toNat
  if exponent = 0 then sign ++ text ++ ".0"
  else if exponent < 0 ∧ places < text.length then
    sign ++ String.ofList (text.toList.take (text.length - places)) ++ "." ++
      String.ofList (text.toList.drop (text.length - places))
  else sign ++ text ++ "e" ++ toString exponent

def render : Json → String
  | .null => "null"
  | .bool value => if value then "true" else "false"
  | .whole value => toString value
  | .fraction negative digits exponent => renderFraction negative digits exponent
  | .text value => quote value
  | .array items => "[" ++ ",".intercalate (renderAll items) ++ "]"
  | .object entries => "\x7b" ++ ",".intercalate (renderEntries entries) ++ "\x7d"
  | .garbled => "\"\\ud800\""
where
  renderAll : List Json → List String
    | [] => []
    | item :: items => item.render :: renderAll items
  renderEntries : List (String × Json) → List String
    | [] => []
    | (name, item) :: entries => (quote name ++ ":" ++ item.render) :: renderEntries entries

end Rollout.Json
