import Mathlib.Data.List.DropRight
import Mathlib.Data.List.Forall2
import Mathlib.Data.List.TakeWhile
import Rollout.Text.Pieces

namespace Rollout.Text

/-! Texts between blanks.

A text is a tight core between blanks, and its trimmed text is that core.  Trimming is one
case of leaving out characters at both ends.
-/

section Stripping

variable {dropped wider : Char → Bool} {chars left right : List Char} {char : Char}

/-- A text from its first character that is not dropped to the last one. -/
def strip (dropped : Char → Bool) (chars : List Char) : List Char :=
  (chars.dropWhile dropped).rdropWhile dropped

theorem stripChar_eq_strip : stripChar char chars = strip (· == char) chars := rfl

theorem strip_map {change : Char → Char} :
    strip dropped (chars.map change) = (strip (dropped ∘ change) chars).map change := by
  simp [strip, List.rdropWhile, List.dropWhile_map, ← List.map_reverse]

theorem strip_append_left (outside : ∀ char ∈ left, dropped char = true) :
    strip dropped (left ++ chars) = strip dropped chars := by
  rw [strip, List.dropWhile_append_of_pos outside, strip]

theorem strip_append_right (outside : ∀ char ∈ right, dropped char = true) :
    strip dropped (chars ++ right) = strip dropped chars := by
  have gone : right.dropWhile dropped = [] := List.dropWhile_eq_nil_iff.mpr outside
  have reversed : ∀ char ∈ right.reverse, dropped char = true := by simpa using outside
  rw [strip, strip, List.dropWhile_append, gone]
  split
  case isTrue nothing => rw [List.isEmpty_iff.mp nothing]
  case isFalse =>
    rw [List.rdropWhile, List.reverse_append, List.dropWhile_append_of_pos reversed, List.rdropWhile]

theorem exists_strip (dropped : Char → Bool) (chars : List Char) :
    ∃ left right, chars = left ++ strip dropped chars ++ right ∧ (∀ char ∈ left, dropped char = true) ∧
      ∀ char ∈ right, dropped char = true := by
  refine ⟨chars.takeWhile dropped, (chars.dropWhile dropped).rtakeWhile dropped, ?_,
    fun _ => List.mem_takeWhile_imp, fun _ => List.mem_rtakeWhile_imp⟩
  rw [List.append_assoc, strip, List.rdropWhile_append_rtakeWhile, List.takeWhile_append_dropWhile]

/-- Where more is dropped, what was dropped before makes no difference. -/
theorem strip_strip (wide : ∀ char, dropped char = true → wider char = true) :
    strip wider (strip dropped chars) = strip wider chars := by
  obtain ⟨left, right, split, leading, trailing⟩ := exists_strip dropped chars
  conv_rhs => rw [split]
  rw [strip_append_right fun char member => wide char (trailing char member),
    strip_append_left fun char member => wide char (leading char member)]

theorem first_strip : ∀ char ∈ (strip dropped chars).head?, dropped char = false := by
  intro char first
  have stops := List.head?_dropWhile_not dropped chars
  obtain ⟨rest, whole⟩ := List.rdropWhile_prefix dropped (l := chars.dropWhile dropped)
  have start : (chars.dropWhile dropped).head? = some char := by
    rw [← whole, List.head?_append]
    rw [show ((chars.dropWhile dropped).rdropWhile dropped).head? = some char from first]
    rfl
  rw [start] at stops
  simpa using stops

theorem last_strip : ∀ char ∈ (strip dropped chars).getLast?, dropped char = false := by
  intro char last
  have stops := List.head?_dropWhile_not dropped (chars.dropWhile dropped).reverse
  rw [strip, List.rdropWhile, List.getLast?_reverse] at last
  rw [last] at stops
  simpa using stops

theorem strip_of_ends (first : ∀ char ∈ chars.head?, dropped char = false)
    (last : ∀ char ∈ chars.getLast?, dropped char = false) : strip dropped chars = chars := by
  cases chars with
  | nil => rfl
  | cons char chars =>
      have starts : dropped char = false := first char rfl
      rw [strip, List.dropWhile_cons_of_neg (by simp [starts]), List.rdropWhile_eq_self_iff]
      intro some_
      simpa using last _ (List.getLast?_eq_getLast_of_ne_nil some_)

end Stripping

/-- A text with no blank at its ends. -/
structure Tight (chars : List Char) : Prop where
  first : ∀ char ∈ chars.head?, isBlank char = false
  last : ∀ char ∈ chars.getLast?, isBlank char = false

/-- A text is a core between blanks. -/
structure Frames (chars core : List Char) : Prop where
  split : ∃ left right, chars = left ++ core ++ right ∧ (∀ char ∈ left, isBlank char = true) ∧
    ∀ char ∈ right, isBlank char = true
  tight : Tight core

variable {chars core left right : List Char}

theorem tight_nil : Tight [] := ⟨nofun, nofun⟩

theorem tight_of_solid (solid : ∀ char ∈ chars, isBlank char = false) : Tight chars where
  first char starts := solid char (List.mem_of_head? starts)
  last char ends := solid char (List.mem_of_getLast? ends)

theorem solid_of_all (all : chars.all (!isBlank ·) = true) : ∀ char ∈ chars, isBlank char = false := by
  simpa using all

theorem trimLeft_of_first (first : ∀ char ∈ chars.head?, isBlank char = false) :
    trimLeft chars = chars := by
  cases chars with
  | nil => rfl
  | cons char chars =>
      have solid : isBlank char = false := first char rfl
      exact List.dropWhile_cons_of_neg (by simp [solid])

theorem trimRight_split (chars : List Char) :
    ∃ right, chars = trimRight chars ++ right ∧ ∀ char ∈ right, isBlank char = true :=
  ⟨chars.rtakeWhile isBlank, List.rdropWhile_append_rtakeWhile.symm,
    fun _ => List.mem_rtakeWhile_imp⟩

theorem trim_eq_strip : trim chars = strip isBlank chars := rfl

/-- Every text is framed by blanks around its trimmed text. -/
theorem frames_trim (chars : List Char) : Frames chars (trim chars) where
  split := exists_strip isBlank chars
  tight := ⟨first_strip, last_strip⟩

/-- Only one core is framed by blanks. -/
theorem trim_of_frames (frames : Frames chars core) : trim chars = core := by
  obtain ⟨⟨left, right, rfl, leading, trailing⟩, first, last⟩ := frames
  rw [trim_eq_strip, strip_append_right trailing, strip_append_left leading, strip_of_ends first last]

theorem trim_of_tight (tight : Tight chars) : trim chars = chars :=
  trim_of_frames ⟨⟨[], [], by simp, nofun, nofun⟩, tight⟩

theorem tight_trim (chars : List Char) : Tight (trim chars) := (frames_trim chars).tight

theorem trim_append_blank {char : Char} (blank : isBlank char = true) (chars : List Char) :
    trim (chars ++ [char]) = trim chars := by
  obtain ⟨⟨left, right, split, leading, trailing⟩, tight⟩ := frames_trim chars
  refine trim_of_frames ⟨⟨left, right ++ [char], ?_, leading, ?_⟩, tight⟩
  · rw [← List.append_assoc, ← split]
  · intro other member
    rcases List.mem_append.mp member with inside | same
    · exact trailing other inside
    · rw [List.mem_singleton.mp same, blank]

theorem isBlankText_iff (text : String) : isBlankText text = true ↔ trimmed text = "" := by
  have blank : isBlankText text = true ↔ ∀ char ∈ text.toList, isBlank char = true :=
    List.all_eq_true
  have empty : trimmed text = "" ↔ trim text.toList = [] := String.ofList_eq_empty_iff
  rw [blank, empty]
  constructor
  · intro blanks
    exact trim_of_frames ⟨⟨text.toList, [], by simp, blanks, nofun⟩, tight_nil⟩
  · intro nothing
    obtain ⟨left, right, split, leading, trailing⟩ := (frames_trim text.toList).split
    rw [split, nothing, List.append_nil]
    exact fun char member => (List.mem_append.mp member).elim (leading char) (trailing char)

theorem isEmpty_trimmed (text : String) : (trimmed text).isEmpty = isBlankText text := by
  rw [Bool.eq_iff_iff, isBlankText_iff, String.isEmpty_iff]

theorem tight_trimmed (text : String) : Tight (trimmed text).toList := by
  rw [trimmed, String.toList_ofList]
  exact tight_trim text.toList

theorem trimmed_trimmed (text : String) : trimmed (trimmed text) = trimmed text := by
  unfold trimmed
  rw [String.toList_ofList, trim_of_tight (tight_trim text.toList)]

theorem isBlankText_trimmed (text : String) : isBlankText (trimmed text) = isBlankText text := by
  rw [Bool.eq_iff_iff, isBlankText_iff, isBlankText_iff, trimmed_trimmed]

section Letters

/-- No visible ASCII character is blank. -/
theorem isBlank_of_code {char : Char} (low : 0x21 ≤ char.toNat) (high : char.toNat ≤ 0x7E) :
    isBlank char = false := by
  simp only [isBlank, Bool.or_eq_false_iff, Bool.and_eq_false_iff, decide_eq_false_iff_not,
    beq_eq_false_iff_ne]
  omega

theorem toNat_toLower (char : Char) : char.toLower.toNat =
    if 0x41 ≤ char.toNat ∧ char.toNat ≤ 0x5A then char.toNat + 0x20 else char.toNat := by
  unfold Char.toLower
  split
  next upper =>
    have letter : 0x41 ≤ char.toNat ∧ char.toNat ≤ 0x5A := upper
    rw [if_pos letter]
    show (char.val + ('a'.val - 'A'.val)).toNat = char.toNat + 0x20
    rw [UInt32.toNat_add]
    show (char.toNat + 0x20) % 2 ^ 32 = _
    omega
  next other => exact (if_neg other).symm

theorem isBlank_toLower (char : Char) : isBlank char.toLower = isBlank char := by
  have code := toNat_toLower char
  by_cases letter : 0x41 ≤ char.toNat ∧ char.toNat ≤ 0x5A
  · rw [if_pos letter] at code
    rw [isBlank_of_code (by omega) (by omega), isBlank_of_code (by omega) (by omega)]
  · rw [if_neg letter] at code
    rw [isBlank, code, isBlank]

theorem toNat_toUpper (char : Char) : char.toUpper.toNat =
    if 0x61 ≤ char.toNat ∧ char.toNat ≤ 0x7A then char.toNat - 0x20 else char.toNat := by
  unfold Char.toUpper
  split
  next lower =>
    have letter : 0x61 ≤ char.toNat ∧ char.toNat ≤ 0x7A := lower
    rw [if_pos letter]
    show (char.val + ('A'.val - 'a'.val)).toNat = char.val.toNat - 0x20
    rw [UInt32.toNat_add, show ('A'.val - 'a'.val).toNat = 2 ^ 32 - 0x20 from rfl]
    have code : char.toNat = char.val.toNat := rfl
    omega
  next other => exact (if_neg other).symm

theorem isBlank_toUpper (char : Char) : isBlank char.toUpper = isBlank char := by
  have code := toNat_toUpper char
  by_cases letter : 0x61 ≤ char.toNat ∧ char.toNat ≤ 0x7A
  · rw [if_pos letter] at code
    rw [isBlank_of_code (by omega) (by omega), isBlank_of_code (by omega) (by omega)]
  · rw [if_neg letter] at code
    rw [isBlank, code, isBlank]

theorem isUpper_iff {char : Char} : char.isUpper = true ↔ 0x41 ≤ char.toNat ∧ char.toNat ≤ 0x5A :=
  decide_eq_true_iff

theorem isLower_iff {char : Char} : char.isLower = true ↔ 0x61 ≤ char.toNat ∧ char.toNat ≤ 0x7A :=
  Bool.and_eq_true_iff.trans (and_congr decide_eq_true_iff decide_eq_true_iff)

/-- No letter in upper case is one in lower case. -/
theorem isLower_toUpper (char : Char) : char.toUpper.isLower = false := by
  rw [Bool.eq_false_iff, ne_eq, isLower_iff, toNat_toUpper]
  split <;> omega

theorem isAlphanum_iff {char : Char} :
    char.isAlphanum = true ↔ char.isUpper = true ∨ char.isLower = true ∨ char.isDigit = true :=
  Bool.or_eq_true_iff.trans ((or_congr_left Bool.or_eq_true_iff).trans or_assoc)

theorem isAlphanum_toLower (char : Char) : char.toLower.isAlphanum = char.isAlphanum := by
  rw [Bool.eq_iff_iff]
  simp only [isAlphanum_iff, isUpper_iff, isLower_iff, Char.isDigit_iff_toNat, toNat_toLower]
  split <;> omega

theorem isAlphanum_of_isBlank {char : Char} (blank : isBlank char = true) : char.isAlphanum = false := by
  rw [Bool.eq_false_iff]
  intro visible
  simp only [isAlphanum_iff, isUpper_iff, isLower_iff, Char.isDigit_iff_toNat] at visible
  have zero : '0'.toNat = 0x30 := rfl
  have nine : '9'.toNat = 0x39 := rfl
  rw [isBlank_of_code (by omega) (by omega)] at blank
  cases blank

/-- Texts stay tight where blanks stay blanks and the others stay others. -/
theorem tight_map_iff {change : Char → Char} (keeps : ∀ char, isBlank (change char) = isBlank char) :
    Tight (chars.map change) ↔ Tight chars := by
  have same {end_ : Option Char} :
      (∀ char ∈ end_.map change, isBlank char = false) ↔ ∀ char ∈ end_, isBlank char = false := by
    cases end_ <;> simp [keeps]
  constructor
  · intro ⟨first, last⟩
    rw [List.head?_map, same] at first
    rw [List.getLast?_map, same] at last
    exact ⟨first, last⟩
  · intro ⟨first, last⟩
    exact ⟨by rwa [List.head?_map, same], by rwa [List.getLast?_map, same]⟩

theorem Frames.map {change : Char → Char} (keeps : ∀ char, isBlank (change char) = isBlank char)
    (frames : Frames chars core) : Frames (chars.map change) (core.map change) := by
  obtain ⟨left, right, rfl, leading, trailing⟩ := frames.split
  have blanks {side : List Char} (blank : ∀ char ∈ side, isBlank char = true) :
      ∀ char ∈ side.map change, isBlank char = true := by
    intro char member
    obtain ⟨original, among, rfl⟩ := List.mem_map.mp member
    rw [keeps]
    exact blank original among
  refine ⟨⟨_, _, ?_, blanks leading, blanks trailing⟩, (tight_map_iff keeps).mpr frames.tight⟩
  rw [List.map_append, List.map_append]

theorem trim_map_toLower (chars : List Char) :
    trim (chars.map Char.toLower) = (trim chars).map Char.toLower :=
  trim_of_frames ((frames_trim chars).map isBlank_toLower)

/-- A text with the letters of a tight one has no blanks to trim. -/
theorem trimmed_of_sameLetters {text word : String} (same : sameLetters text word = true)
    (tight : Tight (lower word).toList) : trimmed text = text := by
  have lowered : lower text = lower word := by simpa [sameLetters] using same
  have mapped : Tight (text.toList.map Char.toLower) := by
    rw [← lowered, lower, String.toList_ofList] at tight
    exact tight
  rw [trimmed, trim_of_tight ((tight_map_iff isBlank_toLower).mp mapped), String.ofList_toList]

/-- A text that spells a word of small letters, where each of them may be a capital. -/
def InAnyCase (text word : String) : Prop :=
  List.Forall₂ (fun char letter => char = letter ∨ char = letter.toUpper) text.toList word.toList

instance (text word : String) : Decidable (InAnyCase text word) :=
  inferInstanceAs (Decidable (List.Forall₂ _ _ _))

theorem toLower_eq_iff {char letter : Char} (small : letter.isLower = true) :
    char.toLower = letter ↔ char = letter ∨ char = letter.toUpper := by
  have range := isLower_iff.mp small
  have lowered := toNat_toLower char
  have raised := toNat_toUpper letter
  rw [if_pos range] at raised
  simp only [← Char.toNat_inj, lowered, raised]
  split <;> omega

theorem map_toLower_eq_iff {letters : List Char} (small : ∀ letter ∈ letters, letter.isLower = true) :
    chars.map Char.toLower = letters ↔
      List.Forall₂ (fun char letter => char = letter ∨ char = letter.toUpper) chars letters := by
  induction letters generalizing chars with
  | nil => simp
  | cons letter letters ih =>
      obtain ⟨first, rest⟩ := List.forall_mem_cons.mp small
      cases chars with
      | nil => simp
      | cons char chars =>
          rw [List.map_cons, List.cons.injEq, toLower_eq_iff first, ih rest, List.forall₂_cons]

theorem sameLetters_iff_inAnyCase (text word : String)
    (small : word.toList.all Char.isLower = true) :
    sameLetters text word = true ↔ InAnyCase text word := by
  have letters : ∀ letter ∈ word.toList, letter.isLower = true := List.all_eq_true.mp small
  have unchanged : word.toList.map Char.toLower = word.toList :=
    (map_toLower_eq_iff letters).mpr (List.forall₂_same.mpr fun letter _ => .inl rfl)
  rw [sameLetters, beq_iff_eq, lower, lower, String.ofList_inj, unchanged, map_toLower_eq_iff letters]
  rfl

end Letters

end Rollout.Text
