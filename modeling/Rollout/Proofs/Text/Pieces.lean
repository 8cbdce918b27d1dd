import Rollout.Text.Pieces

namespace Rollout.Text

/-! Pieces between separators, and how they are put together again. -/

variable {separator : Char}

theorem splitAt_cons_separator (chars : List Char) :
    splitAt separator (separator :: chars) = [] :: splitAt separator chars :=
  if_pos rfl

theorem splitAt_cons {char : Char} (other : char ≠ separator) {chars piece : List Char}
    {pieces : List (List Char)} (cut : splitAt separator chars = piece :: pieces) :
    splitAt separator (char :: chars) = (char :: piece) :: pieces := by
  rw [splitAt, if_neg other, cut]

theorem exists_splitAt (separator : Char) (chars : List Char) :
    ∃ piece pieces, splitAt separator chars = piece :: pieces := by
  induction chars with
  | nil => exact ⟨[], [], rfl⟩
  | cons char chars ih =>
      by_cases same : char = separator
      · exact ⟨[], splitAt separator chars, by rw [same, splitAt_cons_separator]⟩
      · obtain ⟨piece, pieces, cut⟩ := ih
        exact ⟨char :: piece, pieces, splitAt_cons same cut⟩

theorem splitAt_append (front back : List Char) :
    splitAt separator (front ++ separator :: back) =
      splitAt separator front ++ splitAt separator back := by
  induction front with
  | nil => exact splitAt_cons_separator back
  | cons char front ih =>
      by_cases same : char = separator
      · rw [same, List.cons_append, splitAt_cons_separator, splitAt_cons_separator, ih,
          List.cons_append]
      · obtain ⟨piece, pieces, cut⟩ := exists_splitAt separator front
        rw [cut, List.cons_append] at ih
        rw [List.cons_append, splitAt_cons same ih, splitAt_cons same cut, List.cons_append]

theorem splitAt_of_not_mem {chars : List Char} (whole : separator ∉ chars) :
    splitAt separator chars = [chars] := by
  induction chars with
  | nil => rfl
  | cons char chars ih =>
      obtain ⟨other, rest⟩ := List.ne_and_not_mem_of_not_mem_cons whole
      exact splitAt_cons other.symm (ih rest)

theorem not_mem_of_mem_splitAt {chars : List Char} :
    ∀ piece ∈ splitAt separator chars, separator ∉ piece := by
  induction chars with
  | nil => simp [splitAt]
  | cons char chars ih =>
      by_cases same : char = separator
      · rw [same, splitAt_cons_separator]
        exact List.forall_mem_cons.mpr ⟨List.not_mem_nil, ih⟩
      · obtain ⟨piece, pieces, cut⟩ := exists_splitAt separator chars
        rw [cut] at ih
        rw [splitAt_cons same cut]
        obtain ⟨first, later⟩ := List.forall_mem_cons.mp ih
        refine List.forall_mem_cons.mpr ⟨?_, later⟩
        exact List.not_mem_cons_of_ne_of_not_mem (Ne.symm same) first

theorem splitAt_ended {pieces : List (List Char)} (whole : ∀ piece ∈ pieces, separator ∉ piece) :
    splitAt separator (pieces.flatMap (· ++ [separator])) = pieces ++ [[]] := by
  induction pieces with
  | nil => rfl
  | cons piece pieces ih =>
      obtain ⟨first, later⟩ := List.forall_mem_cons.mp whole
      have ends : (piece :: pieces).flatMap (· ++ [separator]) =
          piece ++ separator :: pieces.flatMap (· ++ [separator]) := by simp
      rw [ends, splitAt_append, splitAt_of_not_mem first, ih later]
      rfl

/-- Cutting undoes joining. -/
theorem splitAt_join {pieces : List (List Char)} (some : pieces ≠ [])
    (whole : ∀ piece ∈ pieces, separator ∉ piece) :
    splitAt separator (List.intercalate [separator] pieces) = pieces := by
  induction pieces with
  | nil => exact absurd rfl some
  | cons piece rest ih =>
      obtain ⟨first, later⟩ := List.forall_mem_cons.mp whole
      cases rest with
      | nil => rw [List.intercalate_singleton, splitAt_of_not_mem first]
      | cons next rest =>
          rw [List.intercalate_cons_cons, List.append_assoc, List.singleton_append, splitAt_append,
            splitAt_of_not_mem first, ih (List.cons_ne_nil next rest) later]
          rfl

/-- Joining undoes cutting. -/
theorem join_splitAt (separator : Char) (chars : List Char) :
    List.intercalate [separator] (splitAt separator chars) = chars := by
  induction chars with
  | nil => rfl
  | cons char chars ih =>
      obtain ⟨piece, pieces, cut⟩ := exists_splitAt separator chars
      by_cases same : char = separator
      · rw [same, splitAt_cons_separator, List.intercalate_cons_of_ne_nil (by simp [cut]), ih]
        rfl
      · rw [splitAt_cons same cut]
        rw [cut] at ih
        cases pieces with
        | nil =>
            rw [List.intercalate_singleton] at ih ⊢
            rw [ih]
        | cons next pieces =>
            rw [List.intercalate_cons_cons] at ih ⊢
            rw [← ih]
            rfl

theorem not_mem_intercalate {char : Char} {between : List Char} (apart : char ∉ between)
    {pieces : List (List Char)} (whole : ∀ piece ∈ pieces, char ∉ piece) :
    char ∉ List.intercalate between pieces := by
  induction pieces with
  | nil => simp
  | cons piece rest ih =>
      obtain ⟨first, later⟩ := List.forall_mem_cons.mp whole
      by_cases last : rest = []
      · simpa [last] using first
      · rw [List.intercalate_cons_of_ne_nil last]
        simp [first, apart, ih later]

theorem stripCharEnd_of_not_mem {char : Char} {chars : List Char} (absent : char ∉ chars) :
    stripCharEnd char chars = chars := by
  have still : chars.reverse.dropWhile (· == char) = chars.reverse := by
    cases reversed : chars.reverse with
    | nil => rfl
    | cons last before =>
        have other : last ≠ char := by
          rintro rfl
          exact absent (List.mem_reverse.mp (reversed ▸ List.mem_cons_self))
        exact List.dropWhile_cons_of_neg (by simpa using other)
  rw [stripCharEnd, still, List.reverse_reverse]

theorem stripCharEnd_append {char : Char} {core : List Char} (count : Nat)
    (ends : ∀ before, core ≠ before ++ [char]) :
    stripCharEnd char (core ++ List.replicate count char) = core := by
  rw [stripCharEnd, List.reverse_append, List.reverse_replicate,
    List.dropWhile_append_of_pos (by simp)]
  cases reversed : core.reverse with
  | nil => simpa using reversed.symm
  | cons last before =>
      have whole : core = before.reverse ++ [last] := by simpa using congrArg List.reverse reversed
      have other : last ≠ char := by
        rintro rfl
        exact ends _ whole
      rw [List.dropWhile_cons_of_neg (by simpa using other), whole]
      simp

/-- Stripping takes away every occurrence at the end and nothing else. -/
theorem exists_stripCharEnd (char : Char) (chars : List Char) :
    ∃ count, chars = stripCharEnd char chars ++ List.replicate count char ∧
      ∀ before, stripCharEnd char chars ≠ before ++ [char] := by
  obtain ⟨reversed, rfl⟩ : ∃ reversed, chars = reversed.reverse := ⟨chars.reverse, by simp⟩
  induction reversed with
  | nil => exact ⟨0, rfl, by simp [stripCharEnd]⟩
  | cons last front ih =>
      rw [List.reverse_cons]
      by_cases same : last = char
      · obtain ⟨count, split, ends⟩ := ih
        have shorter : stripCharEnd char (front.reverse ++ [last]) = stripCharEnd char front.reverse := by
          simp [stripCharEnd, same]
        rw [shorter]
        refine ⟨count + 1, ?_, ends⟩
        rw [List.replicate_succ', ← List.append_assoc, ← split, same]
      · have still : stripCharEnd char (front.reverse ++ [last]) = front.reverse ++ [last] := by
          simp [stripCharEnd, same]
        rw [still]
        refine ⟨0, by simp, fun before ended => same ?_⟩
        exact List.singleton_inj.mp (List.append_inj_right' ended rfl)

/-- A cut parts a text at its first separator. -/
theorem cutAt?_append {before : List Char} (absent : separator ∉ before) (after : List Char) :
    cutAt? separator (before ++ separator :: after) = some (before, after) := by
  induction before with
  | nil => simp [cutAt?]
  | cons char before ih =>
      obtain ⟨other, rest⟩ := List.ne_and_not_mem_of_not_mem_cons absent
      simp [cutAt?, other.symm, ih rest]

theorem cutAt?_of_not_mem {chars : List Char} (absent : separator ∉ chars) :
    cutAt? separator chars = none := by
  induction chars with
  | nil => rfl
  | cons char chars ih =>
      obtain ⟨other, rest⟩ := List.ne_and_not_mem_of_not_mem_cons absent
      simp [cutAt?, other.symm, ih rest]

theorem dropStart?_eq_some_iff {start chars rest : List Char} :
    dropStart? start chars = some rest ↔ chars = start ++ rest := by
  induction start generalizing chars with
  | nil => simp [dropStart?]
  | cons expected start ih =>
      cases chars with
      | nil => simp [dropStart?]
      | cons char chars => by_cases same : expected = char <;> simp [dropStart?, same, ih, eq_comm]

theorem dropEnd?_eq_some_iff {ending chars rest : List Char} :
    dropEnd? ending chars = some rest ↔ chars = rest ++ ending := by
  simp only [dropEnd?, Option.map_eq_some_iff, dropStart?_eq_some_iff]
  constructor
  · intro ⟨reversed, ends, same⟩
    rw [← List.reverse_reverse chars, ends, List.reverse_append, List.reverse_reverse, same]
  · rintro rfl
    exact ⟨rest.reverse, List.reverse_append, List.reverse_reverse rest⟩

theorem dropReturn_subset (line : List Char) : dropReturn line ⊆ line := by
  unfold dropReturn
  cases found : dropEnd? ['\r'] line with
  | none => simp
  | some before =>
      rw [dropEnd?_eq_some_iff.mp found]
      exact List.subset_append_left before ['\r']

theorem not_mem_of_mem_lines {chars : List Char} : ∀ line ∈ lines chars, '\n' ∉ line := by
  have shorter (pieces : List (List Char)) (within : ∀ piece ∈ pieces, piece ∈ splitAt '\n' chars) :
      ∀ line ∈ pieces.map dropReturn, '\n' ∉ line := by
    intro line member
    obtain ⟨piece, among, rfl⟩ := List.mem_map.mp member
    exact fun feed => not_mem_of_mem_splitAt piece (within piece among) (dropReturn_subset piece feed)
  unfold lines
  split
  · simp
  · rename_i before reversed
    apply shorter
    intro piece member
    exact List.mem_reverse.mp (reversed ▸ List.mem_cons_of_mem _ (List.mem_reverse.mp member))
  · rename_i last before _ reversed
    intro line member
    rcases List.mem_append.mp member with earlier | final
    · refine shorter before.reverse ?_ line earlier
      intro piece among
      exact List.mem_reverse.mp (reversed ▸ List.mem_cons_of_mem _ (List.mem_reverse.mp among))
    · obtain rfl := List.mem_singleton.mp final
      exact not_mem_of_mem_splitAt line (List.mem_reverse.mp (reversed ▸ List.mem_cons_self))

theorem occursIn_append (needle rest : List Char) : occursIn needle (needle ++ rest) = true := by
  cases needle with
  | nil => cases rest <;> rfl
  | cons char needle =>
      have starts : (char :: needle).isPrefixOf (char :: (needle ++ rest)) = true :=
        List.isPrefixOf_iff_prefix.mpr (List.prefix_append (char :: needle) rest)
      simp only [List.cons_append, occursIn, starts, Bool.true_or]

theorem occursIn_of_absent {char : Char} {needle chars : List Char} (absent : char ∉ chars) :
    occursIn (char :: needle) chars = false := by
  induction chars with
  | nil => rfl
  | cons other chars ih =>
      obtain ⟨differs, later⟩ := List.ne_and_not_mem_of_not_mem_cons absent
      have unlike : (char == other) = false := beq_false_of_ne differs
      simp [occursIn, List.isPrefixOf, unlike, ih later]

end Rollout.Text
