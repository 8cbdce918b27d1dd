namespace Rollout.Text

/-! Whole numbers as people write them: an optional plus sign and decimal
digits, below the limit of the field they are written in. -/

def wordLimit : Nat := Nat.pow 2 64

def smallWordLimit : Nat := Nat.pow 2 32

def isDigit (char : Char) : Bool :=
  '0' ≤ char && char ≤ '9'

def digitValue (char : Char) : Nat :=
  char.toNat - '0'.toNat

/-- The number that decimal digits denote, most significant digit first. -/
def decimalValue (digits : List Char) : Nat :=
  digits.foldl (fun value digit => 10 * value + digitValue digit) 0

/-- Reads digits only; an empty list denotes no number. -/
def digits? (chars : List Char) : Option Nat :=
  if chars.isEmpty || !chars.all isDigit then none else some (decimalValue chars)

/-- Reads an optional plus sign and digits that denote a number below `limit`. -/
def unsigned? (limit : Nat) (chars : List Char) : Option Nat :=
  let digits := match chars with
    | '+' :: rest => rest
    | _ => chars
  (digits? digits).filter (· < limit)

end Rollout.Text
