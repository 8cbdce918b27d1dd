import Rollout.Proofs.Text.Blank
import Rollout.Proofs.Text.Parting
import Rollout.Proofs.Text.Pieces
import Rollout.Template.Condition

namespace Rollout.Template

open Text (Parted Tight isBlank splitAtDouble trim trim_of_frames)

/-! What guards decide.

A formula is a disjunction of conjunctions of flags and negated flags.  However it is written,
with whatever blanks around its tokens, its guard holds exactly if the formula is true.  Of any
other expression each operand counts by itself, and one that lacks a name somewhere never holds.
-/

/-- A flag that is not set is not true, so its negation is. -/
def Literal.IsTrue (flags : Flags) (literal : Literal) : Prop :=
  if literal.negated then flags[literal.name]? ≠ some true else flags[literal.name]? = some true

theorem Literal.holds_iff (flags : Flags) (literal : Literal) :
    literal.holds flags = true ↔ literal.IsTrue flags := by
  unfold Literal.holds Literal.IsTrue
  cases literal.negated <;> rcases flags[literal.name]? with _ | _ | _ <;> simp

section Tokens

def Gap (chars : List Char) : Prop := ∀ char ∈ chars, isBlank char = true

theorem not_mem_gap {char : Char} {blanks : List Char} (gap : Gap blanks) (solid : isBlank char = false) :
    char ∉ blanks := by
  intro member
  have blank := gap char member
  rw [solid] at blank
  cases blank

theorem not_doubled_of_gap {char : Char} {blanks : List Char} (gap : Gap blanks)
    (solid : isBlank char = false) : ¬ [char, char] <:+: blanks := by
  intro doubled
  exact not_mem_gap gap solid (doubled.subset List.mem_cons_self)

/-- The names that formulas are written with. -/
structure Nameable (name : List Char) : Prop where
  filled : name ≠ []
  tight : Tight name
  unmarked : ∀ char ∈ name.head?, char ≠ '!'
  bare : '|' ∉ name ∧ '&' ∉ name

/-- A literal as it is written: with blanks around it, and behind its exclamation mark if it is
negated. -/
structure Placed extends Literal where
  left : List Char
  between : List Char
  right : List Char
  nameable : Nameable name.toList
  blank : Gap left ∧ Gap between ∧ Gap right

def Placed.token (placed : Placed) : List Char :=
  let mark := if placed.negated then '!' :: placed.between else []
  placed.left ++ mark ++ placed.name.toList ++ placed.right

/-- A token that is blank, or an exclamation mark between blanks. -/
def Nameless (token : List Char) : Prop :=
  Gap token ∨ ∃ left right, Gap left ∧ Gap right ∧ token = left ++ '!' :: right

variable {token name : List Char}

theorem Nameable.tight_marked (nameable : Nameable name) (gap : List Char) :
    Tight ('!' :: (gap ++ name)) where
  first := by
    rintro char ⟨⟩
    decide
  last := by
    intro char ends
    apply nameable.tight.last
    rwa [← List.cons_append, List.getLast?_append_of_ne_nil _ nameable.filled] at ends

theorem ofToken?_of_name (nameable : Nameable name) (trimmed : trim token = name) :
    Literal.ofToken? token = some { negated := false, name := String.ofList name } := by
  unfold Literal.ofToken?
  rw [trimmed]
  cases name with
  | nil => exact absurd rfl nameable.filled
  | cons char rest =>
      have other : char ≠ '!' := nameable.unmarked char rfl
      simp [other]

theorem ofToken?_of_marked {rest : List Char} (trimmed : trim token = '!' :: rest) :
    Literal.ofToken? token = if (trim rest).isEmpty then none
      else some { negated := true, name := String.ofList (trim rest) } := by
  unfold Literal.ofToken?
  rw [trimmed]
  rfl

/-- A written literal is read back. -/
theorem ofToken?_token (placed : Placed) : Literal.ofToken? placed.token = some placed.toLiteral := by
  obtain ⟨⟨negated, name⟩, left, between, right, nameable, leading, inside, trailing⟩ := placed
  cases negated with
  | false =>
      have trimmed : trim (left ++ [] ++ name.toList ++ right) = name.toList :=
        trim_of_frames ⟨⟨left, right, by simp, leading, trailing⟩, nameable.tight⟩
      have read := ofToken?_of_name nameable trimmed
      rwa [String.ofList_toList] at read
  | true =>
      have trimmed : trim (left ++ ('!' :: between) ++ name.toList ++ right) =
          '!' :: (between ++ name.toList) :=
        trim_of_frames ⟨⟨left, right, by simp, leading, trailing⟩, nameable.tight_marked between⟩
      have inner : trim (between ++ name.toList) = name.toList :=
        trim_of_frames ⟨⟨between, [], by simp, inside, nofun⟩, nameable.tight⟩
      have filled : name.toList.isEmpty = false := by simpa using nameable.filled
      have read := ofToken?_of_marked trimmed
      rwa [inner, filled, String.ofList_toList] at read

theorem ofToken?_of_nameless (nameless : Nameless token) : Literal.ofToken? token = none := by
  rcases nameless with blank | ⟨left, right, leading, trailing, rfl⟩
  · have trimmed : trim token = [] :=
      trim_of_frames ⟨⟨token, [], by simp, blank, nofun⟩, Text.tight_nil⟩
    unfold Literal.ofToken?
    rw [trimmed]
    rfl
  · have mark : Tight ['!'] := by
      constructor <;> · rintro char ⟨⟩; decide
    have trimmed : trim (left ++ '!' :: right) = ['!'] :=
      trim_of_frames ⟨⟨left, right, by simp, leading, trailing⟩, mark⟩
    exact ofToken?_of_marked trimmed

/-- A character that is in no name, no mark and no gap is in no token. -/
theorem Placed.not_mem_token {char : Char} (placed : Placed) (solid : isBlank char = false)
    (unmarked : char ≠ '!') (absent : char ∉ placed.name.toList) : char ∉ placed.token := by
  obtain ⟨leading, inside, trailing⟩ := placed.blank
  have marked : char ∉ if placed.negated then '!' :: placed.between else [] := by
    split
    · exact List.not_mem_cons_of_ne_of_not_mem unmarked (not_mem_gap inside solid)
    · exact List.not_mem_nil
  simp only [Placed.token, List.mem_append, not_or]
  exact ⟨⟨⟨not_mem_gap leading solid, marked⟩, absent⟩, not_mem_gap trailing solid⟩

end Tokens

section Formulas

/-- A formula as it is written. -/
abbrev Layout := List (List Placed)

def joinedTokens (operand : List Placed) : List Char :=
  List.intercalate ['&', '&'] (operand.map Placed.token)

def Layout.written (layout : Layout) : String :=
  String.ofList (List.intercalate ['|', '|'] (layout.map joinedTokens))

variable {layout : Layout} {operand : List Placed}

theorem splitAtDouble_joinedTokens (filled : operand ≠ []) :
    splitAtDouble '&' (joinedTokens operand) = operand.map Placed.token := by
  apply Text.parted_iff.mp
  apply Text.parted_join (by simpa using filled)
  intro token member
  obtain ⟨placed, -, rfl⟩ := List.mem_map.mp member
  exact placed.not_mem_token (by decide) (by decide) placed.nameable.bare.2

theorem not_mem_joinedTokens (operand : List Placed) : '|' ∉ joinedTokens operand := by
  apply Text.not_mem_intercalate (by decide)
  intro token member
  obtain ⟨placed, -, rfl⟩ := List.mem_map.mp member
  exact placed.not_mem_token (by decide) (by decide) placed.nameable.bare.1

theorem splitAtDouble_written (filled : layout ≠ []) :
    splitAtDouble '|' layout.written.toList = layout.map joinedTokens := by
  apply Text.parted_iff.mp
  rw [Layout.written, String.toList_ofList]
  apply Text.parted_join (by simpa using filled)
  intro operand member
  obtain ⟨placed, -, rfl⟩ := List.mem_map.mp member
  exact not_mem_joinedTokens placed

/-- A written formula is read back. -/
theorem parse_written (filled : layout ≠ []) (operands : ∀ operand ∈ layout, operand ≠ []) :
    Condition.parse layout.written = layout.map fun operand => operand.map fun placed =>
      some placed.toLiteral := by
  rw [Condition.parse, splitAtDouble_written filled, List.map_map]
  apply List.map_congr_left
  intro operand member
  rw [Function.comp_apply, splitAtDouble_joinedTokens (operands operand member), List.map_map]
  exact List.map_congr_left fun placed _ => ofToken?_token placed

/-- A name by itself stands for its flag. -/
theorem evaluate_name {name : String} (nameable : Nameable name.toList) (flags : Flags) :
    evaluate flags name = flags[name]?.getD false := by
  let placed : Placed :=
    { negated := false, name, left := [], between := [], right := [], nameable
      blank := ⟨nofun, nofun, nofun⟩ }
  have written : Layout.written [[placed]] = name := by
    simp [Layout.written, joinedTokens, Placed.token, placed]
  have parsed : Condition.parse (Layout.written [[placed]]) = [[some ⟨false, name⟩]] :=
    parse_written (by simp) (by simp)
  rw [evaluate, ← written, parsed, written]
  simp [Condition.holds, Literal.holds]

end Formulas

section Operands

variable {flags : Flags} {expression : String} {operand : List Char}

/-- An operand without a name somewhere. -/
def Malformed (operand : List Char) : Prop :=
  ∃ tokens, Parted '&' operand tokens ∧ ∃ token ∈ tokens, Nameless token

/-- Every token of an operand is a literal that is true. -/
def HoldsThroughout (flags : Flags) (operand : List Char) : Prop :=
  ∀ token ∈ splitAtDouble '&' operand, ∃ literal ∈ Literal.ofToken? token, literal.IsTrue flags

theorem Condition.holds_iff (flags : Flags) (condition : Condition) :
    condition.holds flags = true ↔
      ∃ operand ∈ condition, ∀ token ∈ operand, ∃ literal ∈ token, literal.IsTrue flags := by
  simp only [Condition.holds, List.any_eq_true, List.all_eq_true]
  refine exists_congr fun operand => and_congr_right fun _ => forall₂_congr fun token _ => ?_
  cases token with
  | none => simp
  | some literal => simpa using literal.holds_iff flags

theorem evaluate_iff (flags : Flags) (expression : String) :
    evaluate flags expression = true ↔
      ∃ operand ∈ splitAtDouble '|' expression.toList, HoldsThroughout flags operand := by
  rw [evaluate, Condition.holds_iff]
  simp [Condition.parse, HoldsThroughout]

theorem evaluate_operand (whole : ¬ ['|', '|'] <:+: operand) :
    evaluate flags (String.ofList operand) = true ↔ HoldsThroughout flags operand := by
  rw [evaluate_iff, String.toList_ofList, Text.splitAtDouble_of_single whole]
  simp

theorem Malformed.fails (malformed : Malformed operand) : ¬ HoldsThroughout flags operand := by
  obtain ⟨tokens, parted, token, member, nameless⟩ := malformed
  intro holds
  obtain ⟨literal, read, -⟩ := holds token (by rwa [Text.parted_iff.mp parted])
  rw [ofToken?_of_nameless nameless] at read
  cases read

theorem malformed_of_blank (blank : Gap operand) : Malformed operand :=
  ⟨[operand], .last (not_doubled_of_gap blank (by decide)), operand, List.mem_singleton_self operand,
    .inl blank⟩

end Operands

/-- A guard decides its formula.

A formula with at least one operand, each with at least one literal, holds however it is written
exactly if all literals of one operand are true.  Every expression is cut into operands in one
way and holds exactly if one of them does; an operand in which a token has no name does not, nor
does a blank expression. -/
theorem evaluate_decides_formula (flags : Flags) :
    (∀ layout : Layout, layout ≠ [] → (∀ operand ∈ layout, operand ≠ []) →
      (evaluate flags layout.written = true ↔
        ∃ operand ∈ layout, ∀ placed ∈ operand, placed.toLiteral.IsTrue flags)) ∧
    (∀ expression : String, ∃ operands, Parted '|' expression.toList operands ∧
      (∀ others, Parted '|' expression.toList others → others = operands) ∧
      (evaluate flags expression = true ↔
        ∃ operand ∈ operands, evaluate flags (String.ofList operand) = true) ∧
      (∀ operand ∈ operands, Malformed operand → evaluate flags (String.ofList operand) = false) ∧
      ((∀ operand ∈ operands, Malformed operand) → evaluate flags expression = false)) ∧
    ∀ expression : String, Gap expression.toList → evaluate flags expression = false := by
  have parted (expression : String) := Text.parted_splitAtDouble '|' expression.toList
  have alone {expression : String} {operand : List Char}
      (among : operand ∈ splitAtDouble '|' expression.toList) :
      evaluate flags (String.ofList operand) = true ↔ HoldsThroughout flags operand :=
    evaluate_operand ((parted expression).single operand among)
  have fails {expression : String}
      (malformed : ∀ operand ∈ splitAtDouble '|' expression.toList, Malformed operand) :
      evaluate flags expression = false := by
    apply Bool.eq_false_iff.mpr
    intro holds
    obtain ⟨operand, among, throughout⟩ := (evaluate_iff flags expression).mp holds
    exact (malformed operand among).fails throughout
  refine ⟨?_, ?_, ?_⟩
  · intro layout filled operands
    rw [evaluate, parse_written filled operands, Condition.holds_iff]
    simp
  · intro expression
    refine ⟨_, parted expression, fun others other => (Text.parted_iff.mp other).symm, ?_, ?_, fails⟩
    · rw [evaluate_iff]
      exact exists_congr fun operand => and_congr_right fun among => (alone among).symm
    · intro operand among malformed
      apply Bool.eq_false_iff.mpr
      intro holds
      exact malformed.fails ((alone among).mp holds)
  · intro expression blank
    apply fails
    rw [Text.splitAtDouble_of_single (not_doubled_of_gap blank (by decide))]
    simpa using malformed_of_blank blank

example : evaluate ((∅ : Flags).insert "opts.EnableSSL" true)
    " && opts.EnableSSL ||  opts.EnableSSL&& ! opts.Email " = true := by decide +kernel

end Rollout.Template
