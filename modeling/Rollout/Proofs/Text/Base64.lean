import Mathlib.Algebra.Group.Nat.Defs
import Rollout.Text.Base64

namespace Rollout.Text.Base64

/-! Bytes survive being written in base64, and are written as the standard has it.

The bits of all bytes are cut into groups of six, the last one filled up with zeros.  Each
group selects a letter of the alphabet, and padding completes the last four characters.
-/

def alphabet : List Char := "ABCDEFGHIJKLMNOPQRSTUVWXYZabcdefghijklmnopqrstuvwxyz0123456789+/".toList

/-- The bits of a byte, the most significant one first. -/
def bits (byte : UInt8) : List Bool := [7, 6, 5, 4, 3, 2, 1, 0].map byte.toNat.testBit

def sixes : List Bool → List (List Bool)
  | a :: b :: c :: d :: e :: f :: rest => [a, b, c, d, e, f] :: sixes rest
  | [] => []
  | rest => [rest ++ List.replicate (6 - rest.length) false]

def number (digits : List Bool) : Nat := digits.foldl (fun before digit => 2 * before + digit.toNat) 0

def letterOf (six : List Bool) : Char := alphabet.getD (number six) '='

/-- Letters with as much padding as the last four characters lack. -/
def padded (letters : List Char) : List Char :=
  letters ++ List.replicate ((4 - letters.length % 4) % 4) '='

def spelled (bytes : List UInt8) : List Char := padded ((sixes (bytes.flatMap bits)).map letterOf)

section Letters

theorem letter_eq_alphabet : ∀ sextet < 64, letter sextet = alphabet.getD sextet '=' := by decide

theorem sextet?_letter : ∀ sextet < 64, sextet? (letter sextet) = some sextet := by decide

theorem letter_ne_padding : ∀ sextet < 64, letter sextet ≠ '=' := by decide

end Letters

section Bits

theorem forall_byte (statement : UInt8 → Prop) (below : ∀ code < 256, statement (UInt8.ofNat code))
    (byte : UInt8) : statement byte := by
  have own := below byte.toNat byte.toNat_lt
  rwa [UInt8.ofNat_toNat] at own

theorem foldl_number (digits : List Bool) (before : Nat) :
    digits.foldl (fun before digit => 2 * before + digit.toNat) before =
      before * 2 ^ digits.length + number digits := by
  induction digits generalizing before with
  | nil => simp [number]
  | cons digit digits ih =>
      have first : number (digit :: digits) = digit.toNat * 2 ^ digits.length + number digits := by
        rw [← ih]
        simp [number]
      have doubled : (2 * before + digit.toNat) * 2 ^ digits.length =
          before * 2 ^ (digits.length + 1) + digit.toNat * 2 ^ digits.length := by
        rw [Nat.add_mul, Nat.pow_succ, Nat.mul_comm (2 ^ digits.length), ← Nat.mul_assoc,
          Nat.mul_comm 2 before]
      rw [List.foldl_cons, ih, first, doubled, List.length_cons, Nat.add_assoc]

theorem number_append (front back : List Bool) :
    number (front ++ back) = number front * 2 ^ back.length + number back := by
  rw [number, List.foldl_append, foldl_number]
  rfl

theorem number_take (byte : UInt8) :
    ∀ count ≤ 8, number ((bits byte).take count) = byte.toNat / 2 ^ (8 - count) :=
  forall_byte (fun byte => ∀ count ≤ 8,
    number ((bits byte).take count) = byte.toNat / 2 ^ (8 - count)) (by decide +kernel) byte

theorem number_drop (byte : UInt8) :
    ∀ count ≤ 8, number ((bits byte).drop count) = byte.toNat % 2 ^ (8 - count) :=
  forall_byte (fun byte => ∀ count ≤ 8,
    number ((bits byte).drop count) = byte.toNat % 2 ^ (8 - count)) (by decide +kernel) byte

theorem number_lt (digits : List Bool) : number digits < 2 ^ digits.length := by
  induction digits with
  | nil => simp [number]
  | cons digit digits ih =>
      have first := number_append [digit] digits
      have single : number [digit] = digit.toNat := by simp [number]
      have most : digit.toNat ≤ 1 := Bool.toNat_le digit
      have scaled : digit.toNat * 2 ^ digits.length ≤ 2 ^ digits.length :=
        Nat.le_trans (Nat.mul_le_mul_right _ most) (by omega)
      rw [List.singleton_append, single] at first
      rw [first, List.length_cons, Nat.pow_succ]
      omega

theorem letterOf_eq {six : List Bool} (full : six.length = 6) : letterOf six = letter (number six) := by
  have small : number six < 64 := by
    have bound := number_lt six
    rwa [full] at bound
  exact (letter_eq_alphabet _ small).symm

theorem length_bits (byte : UInt8) : (bits byte).length = 8 := rfl

end Bits

section Spelling

theorem letterOf_first (a : UInt8) : letterOf ((bits a).take 6) = letter (a.toNat / 4) := by
  have value : number ((bits a).take 6) = a.toNat / 4 := number_take a 6 (by omega)
  rw [letterOf_eq (by simp [length_bits]), value]

theorem letterOf_second (a : UInt8) {high : List Bool} (four : high.length = 4) :
    letterOf ((bits a).drop 6 ++ high) = letter (a.toNat % 4 * 16 + number high) := by
  have value : number ((bits a).drop 6) = a.toNat % 4 := number_drop a 6 (by omega)
  have scale : 2 ^ high.length = 16 := congrArg (2 ^ ·) four
  rw [letterOf_eq (by simp [length_bits, four]), number_append, value, scale]

theorem letterOf_third (b : UInt8) {high : List Bool} (two : high.length = 2) :
    letterOf ((bits b).drop 4 ++ high) = letter (b.toNat % 16 * 4 + number high) := by
  have value : number ((bits b).drop 4) = b.toNat % 16 := number_drop b 4 (by omega)
  have scale : 2 ^ high.length = 4 := congrArg (2 ^ ·) two
  rw [letterOf_eq (by simp [length_bits, two]), number_append, value, scale]

theorem letterOf_fourth (c : UInt8) : letterOf ((bits c).drop 2) = letter (c.toNat % 64) := by
  have value : number ((bits c).drop 2) = c.toNat % 64 := number_drop c 2 (by omega)
  rw [letterOf_eq (by simp [length_bits]), value]

theorem padded_group (a b c d : Char) (letters : List Char) :
    padded (a :: b :: c :: d :: letters) = a :: b :: c :: d :: padded letters := by
  have same : (letters.length + 1 + 1 + 1 + 1) % 4 = letters.length % 4 := by omega
  simp only [padded, List.length_cons, same, List.cons_append]

theorem spelled_group (a b c : UInt8) (rest : List UInt8) :
    spelled (a :: b :: c :: rest) =
      letter (a.toNat / 4) :: letter (a.toNat % 4 * 16 + b.toNat / 16) ::
        letter (b.toNat % 16 * 4 + c.toNat / 64) :: letter (c.toNat % 64) :: spelled rest := by
  have groups : sixes ((a :: b :: c :: rest).flatMap bits) =
      (bits a).take 6 :: ((bits a).drop 6 ++ (bits b).take 4) ::
        ((bits b).drop 4 ++ (bits c).take 2) :: (bits c).drop 2 :: sixes (rest.flatMap bits) := rfl
  rw [spelled, groups, List.map_cons, List.map_cons, List.map_cons, List.map_cons, padded_group,
    letterOf_first, letterOf_second a (by simp [length_bits]), letterOf_third b (by simp [length_bits]),
    letterOf_fourth, number_take b 4 (by omega), number_take c 2 (by omega)]
  rfl

theorem encode_eq_spelled (bytes : List UInt8) : encode bytes = spelled bytes := by
  induction bytes using encode.induct with
  | case1 => rfl
  | case2 a =>
      have groups : spelled [a] =
          padded [letterOf ((bits a).take 6), letterOf ((bits a).drop 6 ++ List.replicate 4 false)] := rfl
      rw [groups, letterOf_first, letterOf_second a (by simp)]
      rfl
  | case3 a b =>
      have groups : spelled [a, b] =
          padded [letterOf ((bits a).take 6), letterOf ((bits a).drop 6 ++ (bits b).take 4),
            letterOf ((bits b).drop 4 ++ List.replicate 2 false)] := rfl
      rw [groups, letterOf_first, letterOf_second a (by simp [length_bits]),
        letterOf_third b (by simp), number_take b 4 (by omega)]
      rfl
  | case4 a b c rest ih => rw [spelled_group, ← ih, encode]

example : encode [102, 111, 111, 98] = "Zm9vYg==".toList := by decide

end Spelling

section Decoding

theorem joined_eq {high left low right : Nat} (byte : UInt8)
    (value : left * high + right / low = byte.toNat) : joined high left low right = byte := by
  rw [joined, value, UInt8.ofNat_toNat]

theorem decode?_one {p q : Nat} (p_lt : p < 64) (q_lt : q < 64) (unused : q % 16 = 0) :
    decode? [letter p, letter q, '=', '='] = some [joined 4 p 16 q] := by
  rw [decode?, sextet?_letter p p_lt, sextet?_letter q q_lt]
  exact if_pos unused

theorem decode?_two {p q r : Nat} (p_lt : p < 64) (q_lt : q < 64) (r_lt : r < 64)
    (unused : r % 4 = 0) :
    decode? [letter p, letter q, letter r, '='] =
      some [joined 4 p 16 q, joined 16 (q % 16) 4 r] := by
  rw [decode?.eq_3 _ _ _ (letter_ne_padding r r_lt), sextet?_letter p p_lt, sextet?_letter q q_lt,
    sextet?_letter r r_lt]
  exact if_pos unused

theorem decode?_group {p q r s : Nat} (p_lt : p < 64) (q_lt : q < 64) (r_lt : r < 64) (s_lt : s < 64)
    {rest : List Char} {bytes : List UInt8} (decoded : decode? rest = some bytes) :
    decode? (letter p :: letter q :: letter r :: letter s :: rest) =
      some (joined 4 p 16 q :: joined 16 (q % 16) 4 r :: joined 64 (r % 4) 1 s :: bytes) := by
  have unpadded := letter_ne_padding s s_lt
  rw [decode?.eq_4 _ _ _ _ _ (fun _ padding _ => unpadded padding) (fun padding _ => unpadded padding),
    sextet?_letter p p_lt, sextet?_letter q q_lt, sextet?_letter r r_lt, sextet?_letter s s_lt, decoded]
  rfl

theorem decode?_encode (bytes : List UInt8) : decode? (encode bytes) = some bytes := by
  induction bytes using encode.induct with
  | case1 => rfl
  | case2 a =>
      have a_lt := a.toNat_lt
      rw [encode, decode?_one (by omega) (by omega) (by omega), joined_eq a (by omega)]
  | case3 a b =>
      have a_lt := a.toNat_lt
      have b_lt := b.toNat_lt
      rw [encode, decode?_two (by omega) (by omega) (by omega) (by omega),
        joined_eq a (by omega), joined_eq b (by omega)]
  | case4 a b c rest ih =>
      have a_lt := a.toNat_lt
      have b_lt := b.toNat_lt
      have c_lt := c.toNat_lt
      rw [encode, decode?_group (by omega) (by omega) (by omega) (by omega) ih,
        joined_eq a (by omega), joined_eq b (by omega),
        joined_eq c (by omega)]

end Decoding

end Rollout.Text.Base64
