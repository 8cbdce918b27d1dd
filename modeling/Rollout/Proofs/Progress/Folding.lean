import Rollout.Proofs.Progress.Control
import Rollout.Proofs.Text.Blank

namespace Rollout.Progress

/-! Messages on one line.

A folded message is the trimmed lines that are not blank, with a space between each two.  It
has no blank at its ends and no line break, so there is nothing left to fold.
-/

open Text (Tight splitAt trim)

section Lines

/-- What remains of some lines when they are folded. -/
def solid (lines : List (List Char)) : List (List Char) :=
  (lines.map trim).filter fun piece => !piece.isEmpty

theorem solid_append (front back : List (List Char)) :
    solid (front ++ back) = solid front ++ solid back := by
  rw [solid, List.map_append, List.filter_append]
  rfl

theorem trim_dropReturn (line : List Char) : trim (Text.dropReturn line) = trim line := by
  unfold Text.dropReturn
  cases found : Text.dropEnd? ['\r'] line with
  | none => rfl
  | some before =>
      rw [Text.dropEnd?_eq_some_iff.mp found, Text.trim_append_blank (by decide)]
      rfl

theorem solid_dropReturn (lines : List (List Char)) :
    solid (lines.map Text.dropReturn) = solid lines := by
  rw [solid, List.map_map]
  exact congrArg (List.filter _) (List.map_congr_left fun line _ => trim_dropReturn line)

/-- For folding it makes no difference how the lines end. -/
theorem solid_lines (message : List Char) : solid (Text.lines message) = solid (splitAt '\n' message) := by
  unfold Text.lines
  split
  · rename_i none
    rw [List.reverse_eq_nil_iff.mp none]
  · rename_i before reversed
    have pieces : splitAt '\n' message = before.reverse ++ [[]] := by
      rw [← List.reverse_reverse (splitAt '\n' message), reversed, List.reverse_cons]
    rw [solid_dropReturn, pieces, solid_append]
    exact (List.append_nil _).symm
  · rename_i last before _ reversed
    have pieces : splitAt '\n' message = before.reverse ++ [last] := by
      rw [← List.reverse_reverse (splitAt '\n' message), reversed, List.reverse_cons]
    rw [pieces, solid_append, solid_append, solid_dropReturn]

theorem folded_eq (message : List Char) :
    folded message = List.intercalate [' '] (solid (splitAt '\n' message)) := by
  rw [← solid_lines]
  rfl

/-- Lines that are joined to a message are folded one by one. -/
theorem folded_join {lines : List (List Char)} (some : lines ≠ [])
    (whole : ∀ line ∈ lines, '\n' ∉ line) :
    folded (List.intercalate ['\n'] lines) = List.intercalate [' '] (solid lines) := by
  rw [folded_eq, Text.splitAt_join some whole]

example : folded "exit 1:\r\n\n  no space \n left".toList = "exit 1: no space left".toList := by decide

end Lines

section Joints

variable {pieces : List (List Char)}

/-- Words that are tight and not empty make a text that is tight. -/
theorem tight_join {between : List Char} (tight : ∀ piece ∈ pieces, Tight piece ∧ piece ≠ []) :
    Tight (List.intercalate between pieces) ∧
      (pieces ≠ [] → List.intercalate between pieces ≠ []) := by
  induction pieces with
  | nil => exact ⟨Text.tight_nil, fun some => absurd rfl some⟩
  | cons piece rest ih =>
      obtain ⟨⟨first, filled⟩, later⟩ := List.forall_mem_cons.mp tight
      cases rest with
      | nil =>
          rw [List.intercalate_singleton]
          exact ⟨first, fun _ => filled⟩
      | cons next rest =>
          obtain ⟨ends, more⟩ := ih later
          have some := more (List.cons_ne_nil next rest)
          rw [List.intercalate_cons_cons, List.append_assoc]
          refine ⟨⟨?_, ?_⟩, fun _ => List.append_ne_nil_of_left_ne_nil filled _⟩
          · intro char starts
            apply first.first
            cases piece with
            | nil => exact absurd rfl filled
            | cons head tail => exact starts
          · intro char stops
            apply ends.last
            rw [← List.append_assoc, List.getLast?_append, List.getLast?_eq_some_getLast some] at stops
            rw [List.getLast?_eq_some_getLast some]
            exact stops

theorem solid_tight (lines : List (List Char)) : ∀ piece ∈ solid lines, Tight piece ∧ piece ≠ [] := by
  intro piece member
  obtain ⟨among, filled⟩ := List.mem_filter.mp member
  obtain ⟨line, -, rfl⟩ := List.mem_map.mp among
  exact ⟨Text.tight_trim line, by simpa using filled⟩

theorem tight_folded (message : List Char) : Tight (folded message) :=
  (tight_join (solid_tight _)).1

/-- A text on one line folds to itself without the blanks at its ends. -/
theorem folded_of_not_mem {chars : List Char} (single : '\n' ∉ chars) : folded chars = trim chars := by
  have pieces := folded_join (List.cons_ne_nil chars []) (by simpa using single)
  rw [List.intercalate_singleton] at pieces
  rw [pieces]
  cases trimmed : trim chars with
  | nil => simp [solid, trimmed]
  | cons char rest => simp [solid, trimmed]

theorem folded_folded (message : List Char) : folded (folded message) = folded message := by
  rw [folded_of_not_mem (not_mem_folded message), Text.trim_of_tight (tight_folded message)]

end Joints

end Rollout.Progress
