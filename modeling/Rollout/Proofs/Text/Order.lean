import Mathlib.Algebra.Group.Nat.Defs
import Rollout.Proofs.Text.Utf8

namespace Rollout.Text.Utf8

/-! Texts in the order of their bytes.

The leading byte of a character tells how many others follow it, and all of them carry its
code from the highest bits to the lowest.  Texts in the order of their characters are
therefore in the order of their bytes.
-/

/-- The bytes that follow the leading one. -/
def continuations : Nat → Nat → List UInt8
  | 0, _ => []
  | count + 1, code => continuation (code / 64 ^ count) :: continuations count code

/-- The leading byte of a code in front of some number of others. -/
inductive Leads (code : Nat) : Nat → Nat → Prop where
  | alone (most : code ≤ 0x7F) : Leads code 0 code
  | ofTwo (least : 0x80 ≤ code) (most : code ≤ 0x7FF) : Leads code 1 (code / 64 % 32 + 192)
  | ofThree (least : 0x800 ≤ code) (most : code ≤ 0xFFFF) : Leads code 2 (code / 4096 % 16 + 224)
  | ofFour (least : 0x10000 ≤ code) (most : code < 0x110000) : Leads code 3 (code / 262144 % 8 + 240)

/-- Two lists part at a byte that is less in the first one. -/
inductive Parts : List UInt8 → List UInt8 → Prop where
  | here {low high : UInt8} {front back : List UInt8} (less : low < high) :
      Parts (low :: front) (high :: back)
  | later {byte : UInt8} {front back : List UInt8} (parts : Parts front back) :
      Parts (byte :: front) (byte :: back)

section Order

variable {front back : List UInt8} {code other count length lead first : Nat}

theorem Parts.append (parts : Parts front back) (left right : List UInt8) :
    Parts (front ++ left) (back ++ right) := by
  induction parts with
  | here less => exact .here less
  | later _ ih => exact .later ih

theorem Parts.lt (parts : Parts front back) : front < back := by
  induction parts with
  | here less => exact List.cons_lt_cons_iff.mpr (Or.inl less)
  | later _ ih => exact List.cons_lt_cons_iff.mpr (Or.inr ⟨rfl, ih⟩)

theorem continuations_parts (less : code < other) (alike : code / 64 ^ count = other / 64 ^ count) :
    Parts (continuations count code) (continuations count other) := by
  induction count with
  | zero =>
      simp only [Nat.pow_zero, Nat.div_one] at alike
      omega
  | succ count ih =>
      have highest : code / 64 ^ count / 64 = other / 64 ^ count / 64 := by
        rwa [Nat.div_div_eq_div_mul, Nat.div_div_eq_div_mul, ← Nat.pow_succ]
      have ordered : code / 64 ^ count ≤ other / 64 ^ count := Nat.div_le_div_right (by omega)
      -- The next byte holds the six bits below those that are alike.
      by_cases same : code / 64 ^ count = other / 64 ^ count
      · rw [continuations, continuations, same]
        exact .later (ih same)
      · apply Parts.here
        rw [UInt8.lt_iff_toNat_lt, toNat_continuation, toNat_continuation]
        omega

theorem Leads.lt_or_alike (leads : Leads code count lead) (also : Leads other length first)
    (less : code < other) :
    lead < first ∨ lead = first ∧ count = length ∧ code / 64 ^ count = other / 64 ^ count := by
  cases leads <;> cases also <;> omega

theorem Leads.lt_size (leads : Leads code count lead) : lead < 256 := by
  cases leads <;> omega

theorem utf8EncodeChar_eq (char : Char) : ∃ count lead, Leads char.toNat count lead ∧
    String.utf8EncodeChar char = UInt8.ofNat lead :: continuations count char.toNat := by
  have valid : char.val.toNat < 0xd800 ∨ 0xdfff < char.val.toNat ∧ char.val.toNat < 0x110000 := char.valid
  have code : char.toNat = char.val.toNat := rfl
  unfold String.utf8EncodeChar
  simp only
  split
  next one => exact ⟨0, _, .alone (by omega), rfl⟩
  next =>
    split
    next two => exact ⟨1, _, .ofTwo (by omega) (by omega), by simp [continuations, continuation]⟩
    next =>
      split
      next three => exact ⟨2, _, .ofThree (by omega) (by omega), by simp [continuations, continuation]⟩
      next => exact ⟨3, _, .ofFour (by omega) (by omega), by simp [continuations, continuation]⟩

theorem utf8EncodeChar_parts {char letter : Char} (less : char < letter) :
    Parts (String.utf8EncodeChar char) (String.utf8EncodeChar letter) := by
  obtain ⟨count, lead, leads, spelled⟩ := utf8EncodeChar_eq char
  obtain ⟨length, first, also, spelledAlso⟩ := utf8EncodeChar_eq letter
  rw [spelled, spelledAlso]
  rcases leads.lt_or_alike also less with lower | ⟨rfl, rfl, alike⟩
  · apply Parts.here
    rw [UInt8.lt_iff_toNat_lt, UInt8.toNat_ofNat', UInt8.toNat_ofNat']
    have small := leads.lt_size
    have smallAlso := also.lt_size
    omega
  · exact .later (continuations_parts less alike)

theorem encode_lt {chars letters : List Char} (less : chars < letters) :
    encode chars < encode letters := by
  induction less with
  | @nil letter letters =>
      obtain ⟨count, lead, -, spelled⟩ := utf8EncodeChar_eq letter
      rw [encode, encode, List.flatMap_cons, spelled]
      exact List.nil_lt_cons ..
  | rel less =>
      rw [encode, encode, List.flatMap_cons, List.flatMap_cons]
      exact ((utf8EncodeChar_parts less).append _ _).lt
  | cons _ ih =>
      rw [encode, encode, List.flatMap_cons, List.flatMap_cons]
      exact List.append_left_lt ih

theorem bytesOf_le_iff {text word : String} : bytesOf text ≤ bytesOf word ↔ text ≤ word := by
  constructor
  · intro ordered
    apply String.not_lt.mp
    intro after
    exact ordered (encode_lt after)
  · intro ordered after
    rcases Decidable.em (text = word) with rfl | differ
    · exact List.lt_irrefl _ after
    · have before : text < word := Std.lt_of_le_of_ne ordered differ
      exact List.lt_asymm after (encode_lt before)

end Order

end Rollout.Text.Utf8
