import Mathlib.Algebra.Group.Nat.Defs
import Rollout.Proofs.Text.Utf8

namespace Rollout.Text.Utf8

/-! Unfinished characters.

Whatever has been read, an unfinished character can still become one, and every byte that it
accepts keeps it so.  Where reading starts in the middle of it, the bytes that finish it are
broken pieces instead.
-/

variable {pending : Pending} {byte : UInt8}

namespace Pending

/-- The first code that a character can still become. -/
def firstCode (pending : Pending) : Nat :=
  (pending.value * 64 + pending.low.toNat % 64) * 64 ^ (pending.missing - 1)

/-- The code behind the last one that a character can still become. -/
def codesEnd (pending : Pending) : Nat :=
  (pending.value * 64 + pending.high.toNat % 64 + 1) * 64 ^ (pending.missing - 1)

/-- A character can be finished, and all that it can become are characters beyond the first
128. -/
structure Completes (pending : Pending) : Prop where
  due : 1 ≤ pending.missing ∧ pending.missing ≤ 3
  low : 0x80 ≤ pending.low.toNat
  order : pending.low.toNat ≤ pending.high.toNat
  high : pending.high.toNat ≤ 0xBF
  last : pending.missing = 1 → pending.high = 0xBF
  first : 0x80 ≤ pending.firstCode
  apart : pending.codesEnd ≤ 0xD800 ∨ 0xE000 ≤ pending.firstCode
  most : pending.codesEnd ≤ 0x110000

/-- The last bytes that an unfinished character accepts. -/
def closing (pending : Pending) : List UInt8 :=
  pending.high :: List.replicate (pending.missing - 1) 0xBF

theorem accepts_iff : pending.accepts byte = true ↔
    pending.low.toNat ≤ byte.toNat ∧ byte.toNat ≤ pending.high.toNat := by
  simp [accepts, UInt8.le_iff_toNat_le]

/-- Where any continuing byte is accepted, all codes with the same beginning are open. -/
theorem firstCode_tail (value left : Nat) :
    firstCode ⟨value, left + 1, 0x80, 0xBF⟩ = value * 64 ^ (left + 1) := by
  have digit : (0x80 : UInt8).toNat % 64 = 0 := by decide
  simp only [firstCode, digit, Nat.add_sub_cancel, Nat.add_zero]
  rw [Nat.mul_assoc, Nat.pow_succ, Nat.mul_comm 64]

theorem codesEnd_tail (value left : Nat) :
    codesEnd ⟨value, left + 1, 0x80, 0xBF⟩ = (value + 1) * 64 ^ (left + 1) := by
  have digit : (0xBF : UInt8).toNat % 64 = 63 := by decide
  simp only [codesEnd, digit, Nat.add_sub_cancel]
  rw [Nat.add_assoc, ← Nat.succ_mul, Nat.mul_assoc, Nat.pow_succ, Nat.mul_comm 64]

end Pending

theorem completes_start (starts : (start byte).2 = some pending) : pending.Completes := by
  have read := start_ofNat byte.toNat_lt
  rw [UInt8.ofNat_toNat] at read
  rw [read] at starts
  repeat' split at starts
  all_goals cases starts
  -- One leading byte, or one range of them, is left in each case.
  all_goals constructor <;> simp [Pending.firstCode, Pending.codesEnd] <;> omega

/-- A byte that was accepted narrows down what the character can become. -/
theorem Pending.Completes.push {next : Pending} (completes : pending.Completes)
    (accepted : pending.accepts byte = true) (pushed : (pending.push byte).2 = some next) :
    next.Completes := by
  obtain ⟨least, most⟩ := accepts_iff.mp accepted
  obtain ⟨value, missing, low, high⟩ := pending
  obtain ⟨due, above, -, below, -, first, apart, last⟩ := completes
  unfold Pending.push at pushed
  simp only at pushed due above below least most
  split at pushed
  · cases pushed
  · rename_i more
    obtain ⟨left, rfl⟩ : ∃ left, missing = left + 2 := ⟨missing - 2, by omega⟩
    cases pushed
    have digit : low.toNat % 64 ≤ byte.toNat % 64 ∧ byte.toNat % 64 ≤ high.toNat % 64 := by omega
    have lower : (value * 64 + low.toNat % 64) * 64 ^ (left + 1) ≤
        (value * 64 + byte.toNat % 64) * 64 ^ (left + 1) := Nat.mul_le_mul_right _ (by omega)
    have upper : (value * 64 + byte.toNat % 64 + 1) * 64 ^ (left + 1) ≤
        (value * 64 + high.toNat % 64 + 1) * 64 ^ (left + 1) := Nat.mul_le_mul_right _ (by omega)
    rw [← firstCode_tail (value * 64 + byte.toNat % 64)] at lower
    rw [← codesEnd_tail (value * 64 + byte.toNat % 64)] at upper
    refine ⟨by simp only; omega, by simp, by simp, by simp, fun _ => rfl, ?_, ?_, ?_⟩
    · exact Nat.le_trans first lower
    · exact apart.imp (Nat.le_trans upper) (Nat.le_trans · lower)
    · exact Nat.le_trans upper last

theorem Pending.Completes.closing_accepted (completes : pending.Completes) :
    pending.accepts pending.high = true :=
  accepts_iff.mpr ⟨completes.order, Nat.le_refl _⟩

/-- The last bytes that an unfinished character accepts finish it, and it is not the
replacement of broken pieces. -/
theorem Pending.Completes.closes (completes : pending.Completes) :
    ∃ char : Char, 0xA0 ≤ char.toNat ∧ char ≠ '\uFFFD' ∧
      ∀ rest, piecesFrom (some pending) (pending.closing ++ rest) = some char :: piecesFrom none rest := by
  obtain ⟨value, missing, low, high⟩ := pending
  have accepted := completes.closing_accepted
  obtain ⟨left, rfl⟩ : ∃ left, missing = left + 1 :=
    ⟨missing - 1, (Nat.sub_add_cancel completes.due.1).symm⟩
  induction left generalizing value low high with
  | zero =>
      obtain rfl : high = 0xBF := completes.last rfl
      have digit : (0xBF : UInt8).toNat % 64 = 63 := by decide
      have first := completes.first
      have apart := completes.apart
      have most := completes.most
      simp only [Pending.firstCode, Pending.codesEnd, digit, Nat.zero_add, Nat.sub_self, Nat.pow_zero,
        Nat.mul_one] at first apart most
      have small : low.toNat % 64 < 64 := Nat.mod_lt _ (by decide)
      have valid : (value * 64 + 63).isValidChar := by
        rcases apart with below | beyond
        · exact .inl (by omega)
        · exact .inr ⟨by omega, by omega⟩
      have code := toNat_ofNat_of_valid valid
      refine ⟨Char.ofNat (value * 64 + 63), by omega, fun same => ?_, fun rest => ?_⟩
      · have replacement : value * 64 + 63 = '\uFFFD'.toNat := by rw [← code, same]
        rw [show '\uFFFD'.toNat = 0xFFFD from rfl] at replacement
        omega
      · simp [Pending.closing, piecesFrom, step, accepted, Pending.push]
  | succ left ih =>
      have pushed : (Pending.push ⟨value, left + 2, low, high⟩ high).2 =
          some ⟨value * 64 + high.toNat % 64, left + 1, 0x80, 0xBF⟩ := by
        simp [Pending.push, tail]
      have next := completes.push accepted pushed
      obtain ⟨char, high', other, read⟩ := ih _ _ _ next next.closing_accepted
      refine ⟨char, high', other, fun rest => ?_⟩
      rw [← read rest]
      simp [Pending.closing, piecesFrom, step, accepted, Pending.push, tail, List.replicate_succ]

/-- A byte that can continue a character begins none. -/
theorem start_of_follower (least : 0x80 ≤ byte.toNat) (most : byte.toNat ≤ 0xBF) :
    start byte = ([none], none) := by
  have first : ¬ byte < 0x80 := by simpa [UInt8.lt_iff_toNat_lt] using least
  have second : byte < 0xC2 := by
    rw [UInt8.lt_iff_toNat_lt]
    exact Nat.lt_of_le_of_lt most (by decide)
  simp only [start]
  rw [if_neg first, if_pos second]

/-- The last bytes that an unfinished character accepts can all continue one, and the very last
is no control. -/
theorem Pending.Completes.closing_eq (completes : pending.Completes) :
    ∃ front, pending.closing = front ++ [0xBF] ∧
      ∀ byte ∈ front, 0x80 ≤ byte.toNat ∧ byte.toNat ≤ 0xBF := by
  obtain ⟨value, missing, low, high⟩ := pending
  obtain ⟨left, rfl⟩ : ∃ left, missing = left + 1 :=
    ⟨missing - 1, (Nat.sub_add_cancel completes.due.1).symm⟩
  cases left with
  | zero =>
      obtain rfl : high = 0xBF := completes.last rfl
      exact ⟨[], rfl, nofun⟩
  | succ left =>
      refine ⟨high :: List.replicate left 0xBF, ?_, fun byte member => ?_⟩
      · simp [Pending.closing, List.replicate_succ']
      · rcases List.mem_cons.mp member with rfl | later
        · exact ⟨Nat.le_trans completes.low completes.order, completes.high⟩
        · rw [List.eq_of_mem_replicate later]
          exact ⟨by decide, by decide⟩

end Rollout.Text.Utf8
