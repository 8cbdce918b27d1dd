namespace Rollout.Text.Base64

/-! Base64 with the standard alphabet and padding.

Three bytes are written as four letters.  `decode?` accepts exactly what
`encode` produces: padding is required and the unused low bits of the last
letter are zero.
-/

def letter (sextet : Nat) : Char :=
  if sextet < 26 then Char.ofNat (sextet + 'A'.toNat)
  else if sextet < 52 then Char.ofNat (sextet - 26 + 'a'.toNat)
  else if sextet < 62 then Char.ofNat (sextet - 52 + '0'.toNat)
  else if sextet = 62 then '+'
  else '/'

def sextet? (char : Char) : Option Nat :=
  if 'A' ≤ char ∧ char ≤ 'Z' then some (char.toNat - 'A'.toNat)
  else if 'a' ≤ char ∧ char ≤ 'z' then some (char.toNat - 'a'.toNat + 26)
  else if '0' ≤ char ∧ char ≤ '9' then some (char.toNat - '0'.toNat + 52)
  else if char = '+' then some 62
  else if char = '/' then some 63
  else none

def encode : List UInt8 → List Char
  | [] => []
  | [a] =>
      [letter (a.toNat / 4), letter (a.toNat % 4 * 16), '=', '=']
  | [a, b] =>
      [letter (a.toNat / 4), letter (a.toNat % 4 * 16 + b.toNat / 16),
        letter (b.toNat % 16 * 4), '=']
  | a :: b :: c :: rest =>
      letter (a.toNat / 4) :: letter (a.toNat % 4 * 16 + b.toNat / 16) ::
        letter (b.toNat % 16 * 4 + c.toNat / 64) :: letter (c.toNat % 64) :: encode rest

/-- The byte made of the low bits of one six-bit value and the high bits of the
next, where `high` is the weight of the former. -/
def joined (high left low right : Nat) : UInt8 :=
  UInt8.ofNat (left * high + right / low)

def decode? : List Char → Option (List UInt8)
  | [] => some []
  | [p, q, '=', '='] => do
      let p ← sextet? p
      let q ← sextet? q
      if q % 16 = 0 then some [joined 4 p 16 q] else none
  | [p, q, r, '='] => do
      let p ← sextet? p
      let q ← sextet? q
      let r ← sextet? r
      if r % 4 = 0 then some [joined 4 p 16 q, joined 16 (q % 16) 4 r] else none
  | p :: q :: r :: s :: rest => do
      let p ← sextet? p
      let q ← sextet? q
      let r ← sextet? r
      let s ← sextet? s
      let bytes ← decode? rest
      some (joined 4 p 16 q :: joined 16 (q % 16) 4 r :: joined 64 (r % 4) 1 s :: bytes)
  | _ => none

end Rollout.Text.Base64
