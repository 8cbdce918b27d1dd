import Mathlib.Data.List.Basic
import Mathlib.Data.List.Induction
import Mathlib.Data.Nat.Digits.Defs
import Rollout.Proofs.Text.Blank
import Rollout.Text.Numeral

namespace Rollout.Text

/-! Whole numbers and the texts that denote them.

A numeral is decimal digits, with or without a plus sign before them.  It denotes one number,
and it is read where that number is below the limit.
-/

/-- Decimal digits, the most significant first, and the number that they denote. -/
structure Digits (digits : List Char) (value : Nat) : Prop where
  filled : digits ≠ []
  decimal : ∀ digit ∈ digits, isDigit digit = true
  denotes : value = Nat.ofDigits 10 (digits.reverse.map digitValue)

inductive Numeral : List Char → Nat → Prop where
  | plain {digits : List Char} {value : Nat} (reads : Digits digits value) : Numeral digits value
  | signed {digits : List Char} {value : Nat} (reads : Digits digits value) :
      Numeral ('+' :: digits) value

variable {chars : List Char} {value limit : Nat}

theorem decimalValue_eq (digits : List Char) :
    decimalValue digits = Nat.ofDigits 10 (digits.reverse.map digitValue) := by
  induction digits using List.reverseRecOn with
  | nil => rfl
  | append_singleton digits digit ih =>
      have shifted : decimalValue (digits ++ [digit]) = 10 * decimalValue digits + digitValue digit :=
        List.foldl_append
      rw [shifted, ih, List.reverse_append, List.reverse_singleton, List.singleton_append,
        List.map_cons, Nat.ofDigits_cons, Nat.add_comm]

theorem digits?_eq_some_iff : digits? chars = some value ↔ Digits chars value := by
  unfold digits?
  split
  case isTrue unread =>
    refine iff_of_false nofun fun reads => ?_
    have decimal : chars.all isDigit = true := List.all_eq_true.mpr reads.decimal
    simp [decimal, reads.filled] at unread
  case isFalse readable =>
    have parts : chars ≠ [] ∧ chars.all isDigit = true := by simpa using readable
    rw [decimalValue_eq, Option.some_inj]
    exact ⟨fun same => ⟨parts.1, List.all_eq_true.mp parts.2, same.symm⟩, fun reads => reads.denotes.symm⟩

theorem isDigit_iff {char : Char} : isDigit char = true ↔ 0x30 ≤ char.toNat ∧ char.toNat ≤ 0x39 := by
  rw [isDigit, Bool.and_eq_true, decide_eq_true_iff, decide_eq_true_iff]
  rfl

def withoutSign : List Char → List Char
  | '+' :: rest => rest
  | chars => chars

/-- Only the first character can be a sign, and a sign is no digit. -/
theorem numeral_iff : Numeral chars value ↔ Digits (withoutSign chars) value := by
  constructor
  · intro numeral
    cases numeral with
    | signed reads => exact reads
    | plain reads =>
        unfold withoutSign
        split
        · exact absurd (reads.decimal '+' List.mem_cons_self) (by decide)
        · exact reads
  · intro reads
    unfold withoutSign at reads
    split at reads
    · exact .signed reads
    · exact .plain reads

theorem unsigned?_eq (limit : Nat) (chars : List Char) :
    unsigned? limit chars = (digits? (withoutSign chars)).filter (· < limit) := by
  cases chars with
  | nil => rfl
  | cons first rest =>
      by_cases sign : first = '+'
      · subst sign
        rfl
      · simp [unsigned?, withoutSign, sign]

theorem unsigned?_eq_some_iff :
    unsigned? limit chars = some value ↔ Numeral chars value ∧ value < limit := by
  rw [unsigned?_eq, Option.filter_eq_some_iff, digits?_eq_some_iff, decide_eq_true_iff, numeral_iff]

theorem Numeral.unique {other : Nat} (numeral : Numeral chars value) (also : Numeral chars other) :
    value = other := by
  have first := numeral_iff.mp numeral
  have second := numeral_iff.mp also
  exact first.denotes.trans second.denotes.symm

/-- The last character of a numeral is a digit. -/
theorem Numeral.ends (numeral : Numeral chars value) :
    ∃ front last, chars = front ++ [last] ∧ isDigit last = true := by
  have last {digits : List Char} (reads : Digits digits value) :
      ∃ front last, digits = front ++ [last] ∧ isDigit last = true := by
    obtain nothing | ⟨front, last, rfl⟩ := List.eq_nil_or_concat' digits
    · exact absurd nothing reads.filled
    · exact ⟨front, last, rfl, reads.decimal last (by simp)⟩
  cases numeral with
  | plain reads => exact last reads
  | signed reads =>
      obtain ⟨front, digit, rfl, decimal⟩ := last reads
      exact ⟨'+' :: front, digit, rfl, decimal⟩

/-- No character of a numeral is blank. -/
theorem Numeral.solid (numeral : Numeral chars value) : ∀ char ∈ chars, isBlank char = false := by
  have digit {char : Char} (decimal : isDigit char = true) : isBlank char = false := by
    have code := isDigit_iff.mp decimal
    exact isBlank_of_code (by omega) (by omega)
  cases numeral with
  | plain reads => exact fun char member => digit (reads.decimal char member)
  | signed reads =>
      exact List.forall_mem_cons.mpr ⟨by decide, fun char member => digit (reads.decimal char member)⟩

end Rollout.Text
