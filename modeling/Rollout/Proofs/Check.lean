import Mathlib.Data.List.Forall2

namespace Rollout.Check

/-! Checks that give a value or fail.

A check that goes through all parts of what it is given fails with the first of their
faults.  `Reports` names the faults, so that a check that is put together of others reports
what they report, in the order in which they are made.
-/

variable {ε ε' α β : Type}

theorem bind_eq_ok_iff {first : Except ε α} {second : α → Except ε β} {value : β} :
    first >>= second = .ok value ↔ ∃ given, first = .ok given ∧ second given = .ok value := by
  cases first <;> simp [bind, Except.bind]

theorem mapError_eq_ok_iff {result : Except ε α} {adapted : ε → ε'} {value : α} :
    result.mapError adapted = .ok value ↔ result = .ok value := by
  cases result <;> simp [Except.mapError]

theorem guarded_eq_ok_iff {isBad : Bool} {cause : ε} {given value : α} :
    (if isBad = true then .error cause else .ok given : Except ε α) = .ok value ↔
      given = value ∧ isBad = false := by
  cases isBad <;> simp

theorem mapM_eq_ok_iff {items : List α} {check : α → Except ε β} {values : List β} :
    items.mapM check = .ok values ↔ List.Forall₂ (fun item value => check item = .ok value) items values := by
  induction items generalizing values with
  | nil => simp [pure, Except.pure, eq_comm]
  | cons item items ih =>
      rw [List.mapM_cons, List.forall₂_cons_left_iff]
      simp only [bind_eq_ok_iff, ih, pure, Except.pure, Except.ok.injEq]
      constructor
      · intro ⟨value, first, others, later, same⟩
        exact ⟨value, others, first, later, same.symm⟩
      · intro ⟨value, others, first, later, same⟩
        exact ⟨value, first, others, later, same.symm⟩

/-- What comes first in two lists and is not in the first comes first in the second. -/
theorem head?_of_append {front back : List α} {item : α} (first : (front ++ back).head? = some item)
    (absent : item ∉ front) : back.head? = some item := by
  cases front with
  | nil => exact first
  | cons other front =>
      cases first
      exact absurd (List.mem_cons_self ..) absent

section Pairs

variable {relation : α → β → Prop} {items : List α} {values : List β}

theorem exists_of_mem_left (paired : List.Forall₂ relation items values) :
    ∀ item ∈ items, ∃ value ∈ values, relation item value := by
  induction paired with
  | nil => simp
  | cons related _ ih =>
      rw [List.forall_mem_cons]
      refine ⟨⟨_, List.mem_cons_self .., related⟩, fun item member => ?_⟩
      obtain ⟨value, among, relates⟩ := ih item member
      exact ⟨value, List.mem_cons_of_mem _ among, relates⟩

theorem exists_of_mem_right (paired : List.Forall₂ relation items values) :
    ∀ value ∈ values, ∃ item ∈ items, relation item value :=
  exists_of_mem_left paired.flip

end Pairs

section Reports

variable {check : Except ε α} {front back faults : List ε} {fault : ε}

/-- A check fails just if there are faults, and with the first of them. -/
def Reports (check : Except ε α) (faults : List ε) : Prop :=
  ∀ fault, check = .error fault ↔ faults.head? = some fault

theorem reports_ok (value : α) : Reports (.ok value : Except ε α) [] := by
  simp [Reports]

theorem reports_error (fault : ε) : Reports (.error fault : Except ε α) [fault] := by
  simp [Reports]

theorem Reports.succeeds_iff (reports : Reports check faults) :
    (∃ value, check = .ok value) ↔ faults = [] := by
  cases check with
  | ok value =>
      have silent : faults.head? = none := by
        rw [Option.eq_none_iff_forall_ne_some]
        intro fault first
        cases (reports fault).mpr first
      simpa using silent
  | error fault =>
      have first := (reports fault).mp rfl
      constructor
      · intro ⟨value, impossible⟩
        cases impossible
      · intro none
        simp [none] at first

theorem Reports.bind {first : Except ε α} {second : α → Except ε β} (begins : Reports first front)
    (ends : ∀ value, first = .ok value → Reports (second value) back) :
    Reports (first >>= second) (front ++ back) := by
  intro fault
  cases first with
  | error cause =>
      obtain ⟨rest, rfl⟩ := List.head?_eq_some_iff.mp ((begins cause).mp rfl)
      simp [bind, Except.bind]
  | ok value =>
      have silent : front = [] := begins.succeeds_iff.mp ⟨value, rfl⟩
      rw [silent]
      exact ends value rfl fault

section Refusals

variable {isBad : Prop} [Decidable isBad] {cause : ε}

theorem reports_guarded (value : α) :
    Reports (if isBad then .error cause else .ok value : Except ε α)
      (if isBad then [cause] else []) := by
  by_cases bad : isBad <;> simp [Reports, bad]

theorem Reports.behind_refusal (reports : Reports check faults) :
    Reports (if isBad then .error cause else check) ((if isBad then [cause] else []) ++ faults) := by
  by_cases bad : isBad
  · simp [Reports, bad]
  · simpa [bad] using reports

end Refusals

theorem Reports.mapM {items : List α} {check : α → Except ε β} {faults : α → List ε}
    (each : ∀ item ∈ items, Reports (check item) (faults item)) :
    Reports (items.mapM check) (items.flatMap faults) := by
  induction items with
  | nil => exact reports_ok []
  | cons item items ih =>
      rw [List.mapM_cons, List.flatMap_cons]
      apply (each item (by simp)).bind
      intro value _
      rw [← List.append_nil (items.flatMap faults)]
      apply (ih fun other member => each other (by simp [member])).bind
      intro values _
      exact reports_ok _

end Reports

end Rollout.Check
