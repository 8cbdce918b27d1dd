namespace Rollout.Decimal

/-! Numbers that a 64-bit binary fraction can hold.

Amounts of money arrive as decimal texts and are kept as the nearest number of
53 significant binary digits, exactly, as a rational.  Comparing and printing
them is then plain arithmetic.
-/

/-- The multiple of one unit that is nearest to `num / den`; a half goes to the
even neighbour. -/
def roundEven (num den : Nat) : Nat :=
  let floor := num / den
  let twice := 2 * (num % den)
  if twice > den ∨ (twice = den ∧ floor % 2 = 1) then floor + 1 else floor

private def magnitude (num den : Nat) : Int :=
  let guess : Int := Int.ofNat num.log2 - Int.ofNat den.log2
  let reached :=
    if guess ≥ 0 then num ≥ den * Nat.pow 2 guess.toNat else num * Nat.pow 2 (-guess).toNat ≥ den
  if reached then guess else guess - 1

/-- The nearest binary fraction of 53 significant digits and a last digit not
below 2 to the power -1074; nothing beyond the largest one. -/
def nearest? (num den : Nat) : Option Rat :=
  if num = 0 ∨ den = 0 then some 0
  else
    let last : Int := max (magnitude num den - 52) (-1074)
    let mantissa :=
      if last ≥ 0 then roundEven num (den * Nat.pow 2 last.toNat)
      else roundEven (num * Nat.pow 2 (-last).toNat) den
    if last > 971 ∨ (last = 971 ∧ mantissa ≥ Nat.pow 2 53) then none
    else if last ≥ 0 then some (mantissa * Nat.pow 2 last.toNat : Nat)
    else some (mkRat mantissa (Nat.pow 2 (-last).toNat))

def ofScientific? (negative : Bool) (digits : Nat) (exponent : Int) : Option Rat := do
  let size ←
    if exponent ≥ 0 then nearest? (digits * Nat.pow 10 exponent.toNat) 1
    else nearest? digits (Nat.pow 10 (-exponent).toNat)
  some (if negative then -size else size)

/-- Writes a number with a fixed count of decimal places; a half goes to the even
neighbour. -/
def fixed (places : Nat) (value : Rat) : String :=
  let units := roundEven (value.num.natAbs * Nat.pow 10 places) value.den
  let digits := toString (units % Nat.pow 10 places)
  let padded := String.ofList (List.replicate (places - digits.length) '0') ++ digits
  (if value < 0 then "-" else "") ++ toString (units / Nat.pow 10 places) ++
    (if places = 0 then "" else "." ++ padded)

end Rollout.Decimal
