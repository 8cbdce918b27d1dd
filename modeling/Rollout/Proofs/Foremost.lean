import Mathlib.Order.Lattice

namespace Rollout

/-! The first of the least in a list.

Elements are compared by a key.  A fold that keeps the best so far, and a stable sort whose
first element is taken, both find the foremost element, and there is only one.
-/

variable {α β : Type} [LinearOrder β] {key : α → β} {items : List α} {best other : α}

/-- Elements before it have greater keys, and elements after it have no less. -/
def Foremost (key : α → β) (items : List α) (best : α) : Prop :=
  ∃ front back, items = front ++ best :: back ∧ (∀ other ∈ front, key best < key other) ∧
    ∀ other ∈ back, key best ≤ key other

namespace Foremost

theorem mem (foremost : Foremost key items best) : best ∈ items := by
  obtain ⟨front, back, rfl, -, -⟩ := foremost
  simp

theorem le (foremost : Foremost key items best) (member : other ∈ items) : key best ≤ key other := by
  obtain ⟨front, back, rfl, greater, noLess⟩ := foremost
  rcases List.mem_append.mp member with before | rest
  · exact (greater other before).le
  · rcases List.mem_cons.mp rest with rfl | after
    · exact le_rfl
    · exact noLess other after

theorem head (noLess : ∀ other ∈ items, key best ≤ key other) : Foremost key (best :: items) best :=
  ⟨[], items, rfl, nofun, noLess⟩

theorem cons (foremost : Foremost key items best) {first : α} (greater : key best < key first) :
    Foremost key (first :: items) best := by
  obtain ⟨front, back, rfl, others, noLess⟩ := foremost
  exact ⟨first :: front, back, rfl, List.forall_mem_cons.mpr ⟨greater, others⟩, noLess⟩

theorem cons_cases {first : α} (foremost : Foremost key (first :: items) best) :
    best = first ∨ key best < key first ∧ Foremost key items best := by
  obtain ⟨front, back, split, greater, noLess⟩ := foremost
  cases front with
  | nil => exact .inl (List.cons.inj split).1.symm
  | cons head front =>
      obtain ⟨rfl, rfl⟩ := List.cons.inj split
      have others := List.forall_mem_cons.mp greater
      exact .inr ⟨others.1, front, back, rfl, others.2, noLess⟩

/-- There is only one first of the least. -/
theorem unique (foremost : Foremost key items best) (also : Foremost key items other) :
    best = other := by
  have same : key best = key other := le_antisymm (foremost.le also.mem) (also.le foremost.mem)
  induction items with
  | nil => exact absurd foremost.mem List.not_mem_nil
  | cons first items ih =>
      -- A first element that is not the foremost has a greater key than both.
      rcases foremost.cons_cases with rfl | ⟨less, later⟩
      · rcases also.cons_cases with rfl | ⟨less, -⟩
        · rfl
        · exact absurd same less.ne'
      · rcases also.cons_cases with rfl | ⟨-, also⟩
        · exact absurd same less.ne
        · exact ih later also

/-- The best so far stays so unless the next element is less. -/
theorem snoc (foremost : Foremost key items best) (next : α) :
    Foremost key (items ++ [next]) (if key next < key best then next else best) := by
  by_cases less : key next < key best
  · rw [if_pos less]
    exact ⟨items, [], rfl, fun other member => less.trans_le (foremost.le member), nofun⟩
  · rw [if_neg less]
    obtain ⟨front, back, rfl, greater, noLess⟩ := foremost
    refine ⟨front, back ++ [next], by simp, greater, fun other member => ?_⟩
    rcases List.mem_append.mp member with before | last
    · exact noLess other before
    · rw [List.mem_singleton.mp last]
      exact not_lt.mp less

/-- A fold that keeps the best so far finds the foremost. -/
theorem foldl (foremost : Foremost key items best) (rest : List α) :
    Foremost key (items ++ rest)
      (rest.foldl (fun best next => if key next < key best then next else best) best) := by
  induction rest generalizing items best with
  | nil => simpa using foremost
  | cons next rest ih => simpa using ih (foremost.snoc next)

end Foremost

/-- The elements in the order of their keys, those of one key in the order that they have. -/
def byKey (key : α → β) (items : List α) : List α :=
  items.mergeSort fun left right => key left ≤ key right

/-- Sorting puts the foremost first. -/
theorem foremost_of_head?_byKey (first : (byKey key items).head? = some best) :
    Foremost key items best := by
  have transitive (left middle right : α) (before : decide (key left ≤ key middle) = true)
      (after : decide (key middle ≤ key right) = true) : decide (key left ≤ key right) = true := by
    simp only [decide_eq_true_eq] at before after ⊢
    exact before.trans after
  have total (left right : α) : (decide (key left ≤ key right) || decide (key right ≤ key left)) = true := by
    simpa using le_total (key left) (key right)
  induction items with
  | nil => simp [byKey] at first
  | cons item items ih =>
      -- Sorting puts an element in front of those that are not less, wherever they stood.
      obtain ⟨front, back, sorted, without, less⟩ := List.mergeSort_cons transitive total item items
      unfold byKey at first ih
      rw [sorted] at first
      cases front with
      | nil =>
          obtain rfl : item = best := by simpa using first
          have ordered := List.pairwise_mergeSort transitive total (item :: items)
          rw [sorted, List.nil_append, List.pairwise_cons] at ordered
          apply Foremost.head
          intro other member
          have among : other ∈ back := by
            rw [List.nil_append] at without
            rw [← without]
            exact List.mem_mergeSort.mpr member
          simpa using ordered.1 other among
      | cons least front =>
          obtain rfl : least = best := by simpa using first
          apply (ih (by rw [without]; rfl)).cons
          simpa using less least List.mem_cons_self

theorem head?_byKey_eq_some_iff : (byKey key items).head? = some best ↔ Foremost key items best := by
  constructor
  · exact foremost_of_head?_byKey
  · intro foremost
    cases first : (byKey key items).head? with
    | some other => rw [(foremost_of_head?_byKey first).unique foremost]
    | none =>
        have sorted : best ∈ byKey key items := List.mem_mergeSort.mpr foremost.mem
        rw [List.head?_eq_none_iff.mp first] at sorted
        cases sorted

/-- Among the elements that satisfy a test, the others do not matter. -/
theorem foremost_filter_iff {test : α → Bool} : Foremost key (items.filter test) best ↔
    test best = true ∧ ∃ front back, items = front ++ best :: back ∧
      (∀ other ∈ front, test other = true → key best < key other) ∧
      ∀ other ∈ back, test other = true → key best ≤ key other := by
  constructor
  · intro foremost
    have passes := (List.mem_filter.mp foremost.mem).2
    obtain ⟨front, back, split, greater, noLess⟩ := foremost
    obtain ⟨left, rest, rfl, rfl, kept⟩ := List.filter_eq_append_iff.mp split
    obtain ⟨dropped, right, rfl, fails, -, rfl⟩ := List.filter_eq_cons_iff.mp kept
    refine ⟨passes, left ++ dropped, right, by simp, ?_, ?_⟩
    · intro other member tested
      rcases List.mem_append.mp member with before | between
      · exact greater other (List.mem_filter.mpr ⟨before, tested⟩)
      · exact absurd tested (fails other between)
    · intro other member tested
      exact noLess other (List.mem_filter.mpr ⟨member, tested⟩)
  · intro ⟨passes, front, back, split, greater, noLess⟩
    refine ⟨front.filter test, back.filter test, by simp [split, passes], ?_, ?_⟩
    · intro other member
      exact greater other (List.mem_filter.mp member).1 (List.mem_filter.mp member).2
    · intro other member
      exact noLess other (List.mem_filter.mp member).1 (List.mem_filter.mp member).2

end Rollout
