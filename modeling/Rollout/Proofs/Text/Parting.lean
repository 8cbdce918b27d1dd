import Mathlib.Data.List.Infix
import Rollout.Text.Pieces

namespace Rollout.Text

/-! Texts cut at a doubled character.

From left to right, every piece ends where the separator is first written twice, so a third
one belongs to the next piece.  A text has one such cut, and joining pieces that hold no
separator at all is undone by it.
-/

/-- The pieces between the places where the separator is written twice. -/
inductive Parted (separator : Char) : List Char → List (List Char) → Prop where
  | last {piece : List Char} (single : ¬ [separator, separator] <:+: piece) :
      Parted separator piece [piece]
  | cut {piece rest : List Char} {pieces : List (List Char)}
      (first : ¬ [separator, separator] <:+: piece ++ [separator])
      (later : Parted separator rest pieces) :
      Parted separator (piece ++ separator :: separator :: rest) (piece :: pieces)

variable {separator : Char} {chars piece rest : List Char} {pieces : List (List Char)}

theorem not_doubled_of_not_mem (absent : separator ∉ piece) :
    ¬ [separator, separator] <:+: piece ++ [separator] := by
  intro doubled
  have twice := doubled.sublist.count_le separator
  rw [List.count_append, List.count_eq_zero.mpr absent] at twice
  simp at twice

theorem not_doubled_cons {first second : Char} {tail : List Char}
    (single : ¬ [separator, separator] <:+: second :: tail)
    (apart : ¬ (first = separator ∧ second = separator)) :
    ¬ [separator, separator] <:+: first :: second :: tail := by
  intro doubled
  rcases List.infix_cons_iff.mp doubled with start | inside
  · obtain ⟨sameFirst, start⟩ := List.cons_prefix_cons.mp start
    obtain ⟨sameSecond, -⟩ := List.cons_prefix_cons.mp start
    exact apart ⟨sameFirst.symm, sameSecond.symm⟩
  · exact single inside

theorem not_doubled_of_snoc (single : ¬ [separator, separator] <:+: piece ++ [separator]) :
    ¬ [separator, separator] <:+: piece :=
  fun doubled => single (doubled.trans (List.prefix_append piece [separator]).isInfix)

theorem splitAtDouble_separators (chars : List Char) :
    splitAtDouble separator (separator :: separator :: chars) = [] :: splitAtDouble separator chars :=
  if_pos ⟨rfl, rfl⟩

theorem splitAtDouble_cons {first second : Char} {tail : List Char}
    (apart : ¬ (first = separator ∧ second = separator))
    (cut : splitAtDouble separator (second :: tail) = piece :: pieces) :
    splitAtDouble separator (first :: second :: tail) = (first :: piece) :: pieces := by
  rw [splitAtDouble, if_neg apart, cut]

/-- A character in front belongs to the first piece, unless it doubles the separator. -/
theorem Parted.cons {first second : Char} {tail : List Char}
    (apart : ¬ (first = separator ∧ second = separator))
    (parted : Parted separator (second :: tail) (piece :: pieces)) :
    Parted separator (first :: second :: tail) ((first :: piece) :: pieces) := by
  generalize whole : second :: tail = chars at parted
  cases parted with
  | last single =>
      subst whole
      exact .last (not_doubled_cons single apart)
  | cut single later =>
      have longer : ¬ [separator, separator] <:+: (first :: piece) ++ [separator] := by
        cases piece with
        | nil =>
            obtain ⟨rfl, -⟩ := List.cons.inj whole
            exact not_doubled_cons single apart
        | cons char piece =>
            obtain ⟨rfl, -⟩ := List.cons.inj whole
            exact not_doubled_cons single apart
      exact .cut longer later

theorem exists_parted (separator : Char) (chars : List Char) :
    ∃ piece pieces, splitAtDouble separator chars = piece :: pieces ∧
      Parted separator chars (piece :: pieces) := by
  fun_induction splitAtDouble separator chars with
  | case1 => exact ⟨[], [], rfl, .last (by simp)⟩
  | case2 char =>
      refine ⟨[char], [], rfl, .last fun doubled => ?_⟩
      have short := doubled.length_le
      simp at short
  | case3 first second chars both ih =>
      obtain ⟨piece, pieces, cut, parted⟩ := ih
      obtain ⟨rfl, rfl⟩ := both
      exact ⟨[], piece :: pieces, by rw [cut], .cut (not_doubled_of_not_mem List.not_mem_nil) parted⟩
  | case4 first second chars apart none ih =>
      obtain ⟨piece, pieces, cut, -⟩ := ih
      rw [none] at cut
      cases cut
  | case5 first second chars apart piece pieces cut ih =>
      obtain ⟨piece', pieces', cut', parted⟩ := ih
      obtain ⟨rfl, rfl⟩ := List.cons.inj (cut.symm.trans cut')
      exact ⟨first :: piece, pieces, rfl, parted.cons apart⟩

theorem parted_splitAtDouble (separator : Char) (chars : List Char) :
    Parted separator chars (splitAtDouble separator chars) := by
  obtain ⟨piece, pieces, cut, parted⟩ := exists_parted separator chars
  rwa [cut]

theorem splitAtDouble_of_single (single : ¬ [separator, separator] <:+: chars) :
    splitAtDouble separator chars = [chars] := by
  fun_induction splitAtDouble separator chars with
  | case1 => rfl
  | case2 char => rfl
  | case3 first second chars both ih =>
      obtain ⟨rfl, rfl⟩ := both
      exact absurd ⟨[], chars, rfl⟩ single
  | case4 first second chars apart none ih =>
      have tail := ih fun doubled => single (doubled.trans (List.suffix_cons first _).isInfix)
      rw [none] at tail
      cases tail
  | case5 first second chars apart piece pieces cut ih =>
      have tail := ih fun doubled => single (doubled.trans (List.suffix_cons first _).isInfix)
      rw [cut] at tail
      obtain ⟨rfl, rfl⟩ := List.cons.inj tail
      rfl

theorem splitAtDouble_append (first : ¬ [separator, separator] <:+: piece ++ [separator])
    (rest : List Char) :
    splitAtDouble separator (piece ++ separator :: separator :: rest) =
      piece :: splitAtDouble separator rest := by
  induction piece with
  | nil => exact splitAtDouble_separators rest
  | cons char piece ih =>
      have tail := ih fun doubled => first (doubled.trans (List.suffix_cons char _).isInfix)
      have apart (second : Char) (after : List Char) (starts : piece ++ [separator] = second :: after) :
          ¬ (char = separator ∧ second = separator) := by
        rintro ⟨rfl, rfl⟩
        exact first ⟨[], after, by rw [List.cons_append, starts]; rfl⟩
      cases piece with
      | nil => exact splitAtDouble_cons (apart separator [] rfl) tail
      | cons second piece => exact splitAtDouble_cons (apart second _ rfl) tail

/-- Cutting finds the pieces and nothing else. -/
theorem parted_iff : Parted separator chars pieces ↔ splitAtDouble separator chars = pieces := by
  constructor
  · intro parted
    induction parted with
    | last single => exact splitAtDouble_of_single single
    | cut first later ih => rw [splitAtDouble_append first, ih]
  · rintro rfl
    exact parted_splitAtDouble separator chars

theorem Parted.single (parted : Parted separator chars pieces) :
    ∀ piece ∈ pieces, ¬ [separator, separator] <:+: piece := by
  induction parted with
  | last single => simpa using single
  | cut first later ih => exact List.forall_mem_cons.mpr ⟨not_doubled_of_snoc first, ih⟩

/-- Cutting undoes joining. -/
theorem parted_join (filled : pieces ≠ []) (whole : ∀ piece ∈ pieces, separator ∉ piece) :
    Parted separator (List.intercalate [separator, separator] pieces) pieces := by
  induction pieces with
  | nil => exact absurd rfl filled
  | cons piece rest ih =>
      obtain ⟨first, later⟩ := List.forall_mem_cons.mp whole
      have single := not_doubled_of_not_mem first
      cases rest with
      | nil =>
          rw [List.intercalate_singleton]
          exact .last (not_doubled_of_snoc single)
      | cons next rest =>
          rw [List.intercalate_cons_cons, List.append_assoc]
          exact .cut single (ih (List.cons_ne_nil next rest) later)

end Rollout.Text
