import Rollout.Decimal.Binary64
import Rollout.Text.Numeral
import Rollout.Text.Pieces

namespace Rollout.Yaml

/-! What an unquoted scalar stands for.

The core schema: `null`, `true` and `false` in three spellings, whole numbers in
four bases, and decimal fractions.  Digits behind a leading zero are no number,
so `017` is a text.
-/

def isNullWord (text : String) : Bool :=
  ["null", "Null", "NULL", "~"].contains text

def boolWord? (text : String) : Option Bool :=
  if ["true", "True", "TRUE"].contains text then some true
  else if ["false", "False", "FALSE"].contains text then some false
  else none

private def baseDigit? (base : Nat) (char : Char) : Option Nat :=
  let digit? :=
    if Text.isDigit char then some (Text.digitValue char)
    else if 'a' ≤ char.toLower ∧ char.toLower ≤ 'f' then some (char.toLower.toNat - 'a'.toNat + 10)
    else none
  digit?.filter (· < base)

private def baseNumber? (base : Nat) (chars : List Char) : Option Nat :=
  if chars.isEmpty then none
  else (chars.mapM (baseDigit? base)).map (·.foldl (fun value digit => base * value + digit) 0)

def hasIdleZero (chars : List Char) : Bool :=
  let digits := match chars with
    | '-' :: rest | '+' :: rest => rest
    | _ => chars
  1 < digits.length && digits.head? == some '0' && digits.all Text.isDigit

private def size? (limit : Nat) (chars : List Char) : Option Nat :=
  let based (mark : String) (base : Nat) : Option Nat :=
    (Text.dropStart? mark.toList chars).bind fun rest => (baseNumber? base rest).filter (· < limit)
  based "0x" 16 <|> based "0o" 8 <|> based "0b" 2 <|>
    (if hasIdleZero chars then none else (baseNumber? 10 chars).filter (· < limit))

/-- A whole number below `limit`; a plus sign may precede it. -/
def natural? (limit : Nat) (text : String) : Option Nat :=
  match text.toList with
  | '+' :: chars => size? limit chars
  | chars => size? limit chars

def negative? (limit : Nat) (text : String) : Option Int :=
  match text.toList with
  | '-' :: chars => (size? (limit + 1) chars).map fun size => -(Int.ofNat size)
  | _ => none

private def fraction? (chars : List Char) : Option Rat := do
  let whole := chars.takeWhile Text.isDigit
  let chars := chars.dropWhile Text.isDigit
  let (places, chars) := match chars with
    | '.' :: rest => (rest.takeWhile Text.isDigit, rest.dropWhile Text.isDigit)
    | _ => ([], chars)
  if whole.isEmpty && places.isEmpty then none
  else
    let exponent ← match chars with
      | [] => some (0 : Int)
      | mark :: rest =>
          if mark.toLower ≠ 'e' then none
          else match rest with
            | '-' :: digits => (Text.digits? digits).map fun size => -(Int.ofNat size)
            | '+' :: digits => (Text.digits? digits).map Int.ofNat
            | digits => (Text.digits? digits).map Int.ofNat
    let exponent := max (-100000) (min 100000 exponent)
    Decimal.ofScientific? false (Text.decimalValue (whole ++ places)) (exponent - places.length)

/-- Whether a word is a fraction, infinite or no number at all but spelled so. -/
def isFraction (text : String) : Bool :=
  if hasIdleZero text.toList then false
  else if [".inf", ".Inf", ".INF", "+.inf", "+.Inf", "+.INF", "-.inf", "-.Inf", "-.INF",
      ".nan", ".NaN", ".NAN"].contains text then true
  else match text.toList with
    | '-' :: chars | '+' :: chars => (fraction? chars).isSome
    | chars => (fraction? chars).isSome

end Rollout.Yaml
