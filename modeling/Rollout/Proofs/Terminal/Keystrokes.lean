import Rollout.Proofs.Template.Context
import Rollout.Terminal.Automation

namespace Rollout.Terminal

open Template (answerFlag keyOf said? said?_eq_false_iff said?_eq_true_iff)
open Text (InAnyCase)

/-! What guards and keys make of one answer.

Guards take `true` and `false` in any case of their letters, the terminal only in small ones.  So
the two agree on all answers but those in which one of these words is spelled with a capital.
-/

def Unbroken (text : String) : Prop := '\n' ∉ text.toList ∧ '\r' ∉ text.toList

instance (text : String) : Decidable (Unbroken text) := inferInstanceAs (Decidable (_ ∧ _))

/-- A text as it is typed, with a carriage return unless it has a line break of its own. -/
def asTyped (text : String) : String :=
  if Unbroken text then text ++ "\r" else text

/-- What keys say to a question of yes or no. -/
def keyed? (keys : String) : Option Bool :=
  if keys = "y\r" then some true
  else if keys = "n\r" then some false
  else none

/-- What an answer is typed as that is nothing but the placeholder of a field. -/
def keysOf (context : Template.Context) (field : String) : String :=
  answerKeystrokes (context.render ("\x7b" ++ keyOf field ++ "\x7d"))

variable {answer letter text value : String}

section Keys

theorem answerKeystrokes_eq (answer : String) : answerKeystrokes answer =
    asTyped (if answer = "true" then "y" else if answer = "false" then "n" else answer) := by
  unfold answerKeystrokes asTyped
  generalize (if answer = "true" then "y" else if answer = "false" then "n" else answer) = keys
  have broken : (keys.toList.any fun char => char = '\n' || char = '\r') = true ↔ ¬ Unbroken keys := by
    simp [Unbroken, and_or_left, exists_or, imp_iff_not_or]
  simp only [broken, ite_not]

theorem asTyped_eq_iff (unbroken : Unbroken letter) :
    asTyped text = letter ++ "\r" ↔ text = letter ∨ text = letter ++ "\r" := by
  have broken : ¬ Unbroken (letter ++ "\r") := fun whole => whole.2 (by simp)
  unfold asTyped
  split
  case isTrue solid =>
    have bare : text ≠ letter ++ "\r" := fun same => broken (same ▸ solid)
    rw [or_iff_left bare, String.append_left_inj]
  case isFalse split =>
    have other : text ≠ letter := fun same => split (same ▸ unbroken)
    rw [or_iff_right other]

theorem answerKeystrokes_eq_yes_iff :
    answerKeystrokes answer = "y\r" ↔ answer ∈ ["true", "y", "y\r"] := by
  rw [answerKeystrokes_eq, show "y\r" = "y" ++ "\r" from rfl, asTyped_eq_iff (by decide)]
  split
  · simp [*]
  · split <;> simp [*]

theorem answerKeystrokes_eq_no_iff :
    answerKeystrokes answer = "n\r" ↔ answer ∈ ["false", "n", "n\r"] := by
  rw [answerKeystrokes_eq, show "n\r" = "n" ++ "\r" from rfl, asTyped_eq_iff (by decide)]
  split
  · simp [*]
  · split <;> simp [*]

theorem answerKeystrokes_of_other (other : answer ∉ ["true", "false"]) :
    answerKeystrokes answer = asTyped answer := by
  obtain ⟨yes, no⟩ : answer ≠ "true" ∧ answer ≠ "false" := by simpa using other
  rw [answerKeystrokes_eq, if_neg yes, if_neg no]

end Keys

section Agreement

/-- The answers that say `y` or `n` as they are typed, without being turned into it. -/
def literals : List String := ["y", "n", "y\r", "n\r"]

theorem yes_iff (other : value ∉ literals) : answerKeystrokes value = "y\r" ↔ value = "true" := by
  obtain ⟨plain, -, whole, -⟩ : value ≠ "y" ∧ value ≠ "n" ∧ value ≠ "y\r" ∧ value ≠ "n\r" := by
    simpa [literals] using other
  simp [answerKeystrokes_eq_yes_iff, plain, whole]

theorem no_iff (other : value ∉ literals) : answerKeystrokes value = "n\r" ↔ value = "false" := by
  obtain ⟨-, plain, -, whole⟩ : value ≠ "y" ∧ value ≠ "n" ∧ value ≠ "y\r" ∧ value ≠ "n\r" := by
    simpa [literals] using other
  simp [answerKeystrokes_eq_no_iff, plain, whole]

/-- What guards take an answer to say is what its keys say, unless it says it with a capital. -/
theorem said?_agrees_iff (other : value ∉ literals) :
    ((said? value = some true ↔ answerKeystrokes value = "y\r") ∧
      (said? value = some false ↔ answerKeystrokes value = "n\r")) ↔
    (InAnyCase value "true" → value = "true") ∧ (InAnyCase value "false" → value = "false") := by
  have small (word : String) (spelled : InAnyCase word word) : value = word → InAnyCase value word := by
    rintro rfl
    exact spelled
  rw [said?_eq_true_iff, said?_eq_false_iff, yes_iff other, no_iff other]
  constructor
  · rintro ⟨yes, no⟩
    exact ⟨yes.mp, no.mp⟩
  · rintro ⟨yes, no⟩
    exact ⟨⟨yes, small "true" (by decide)⟩, ⟨no, small "false" (by decide)⟩⟩

theorem isEmpty_of_said? {flag : Bool} (said : said? value = some flag) : value.isEmpty = false := by
  rw [Bool.eq_false_iff]
  intro empty
  obtain rfl := String.isEmpty_iff.mp empty
  cases said

/-- A guard has the flag that the keys ask for, unless the answer denies it with a capital. -/
theorem answerFlag_agrees_iff (other : value ∉ literals) :
    answerFlag value = (keyed? (answerKeystrokes value)).getD (!value.isEmpty) ↔
      (InAnyCase value "false" → value = "false") := by
  simp only [answerFlag, keyed?, yes_iff other, no_iff other]
  by_cases denied : InAnyCase value "false"
  · have said : said? value = some false := said?_eq_false_iff.mpr denied
    have yes : value ≠ "true" := by
      rintro rfl
      cases said
    rw [said, isEmpty_of_said? said, if_neg yes]
    by_cases small : value = "false"
    · rw [if_pos small]
      exact iff_of_true rfl fun _ => small
    · rw [if_neg small]
      exact iff_of_false (by decide) fun spelled => small (spelled denied)
  · have small : value ≠ "false" := by
      rintro rfl
      exact denied (by decide)
    refine iff_of_true ?_ fun spelled => absurd spelled denied
    rw [if_neg small]
    cases said : said? value with
    | none =>
        have yes : value ≠ "true" := by
          rintro rfl
          cases said
        rw [if_neg yes]
    | some flag =>
        cases flag with
        | false => exact absurd (said?_eq_false_iff.mp said) denied
        | true =>
            rw [isEmpty_of_said? said]
            split <;> rfl

end Agreement

/-- Guards and keys read an answer alike unless it is `true` or `false` with a capital letter.

An answer that is merged gives its flag, and with it the guard of its field, what it says in any
case of its letters, and otherwise whether it is there at all.  What is typed for its placeholder
says yes or no just for `true` and `false` in small letters, and for texts that are these keys
already; all else is typed as it stands.  So both take the same texts for yes and no just if
neither word has a capital in it, and the flag is what the keys ask for just if `false` has none. -/
theorem guards_and_keys_differ_in_capitals (context : Template.Context)
    (answers : Template.Variables) (field value : String) (given : answers[field]? = some value)
    (bare : '{' ∉ field.toList ∧ '}' ∉ field.toList) :
    (context.mergeAnswers answers).flag? field = some (answerFlag value) ∧
    (Template.Nameable (keyOf field).toList →
      (context.mergeAnswers answers).evaluate (keyOf field) = answerFlag value) ∧
    (keysOf (context.mergeAnswers answers) field = "y\r" ↔ value ∈ ["true", "y", "y\r"]) ∧
    (keysOf (context.mergeAnswers answers) field = "n\r" ↔ value ∈ ["false", "n", "n\r"]) ∧
    (value ∉ ["true", "false"] → keysOf (context.mergeAnswers answers) field = asTyped value) ∧
    (value ∉ literals →
      (((said? value = some true ↔ keysOf (context.mergeAnswers answers) field = "y\r") ∧
          (said? value = some false ↔ keysOf (context.mergeAnswers answers) field = "n\r")) ↔
        (InAnyCase value "true" → value = "true") ∧ (InAnyCase value "false" → value = "false")) ∧
      ((context.mergeAnswers answers).flag? field =
          some ((keyed? (keysOf (context.mergeAnswers answers) field)).getD (!value.isEmpty)) ↔
        (InAnyCase value "false" → value = "false"))) := by
  have held : (context.mergeAnswers answers).get? field = some value := by
    rw [Template.get?_mergeAnswers, given, Option.some_or]
  have flag : (context.mergeAnswers answers).flag? field = some (answerFlag value) := by
    rw [Template.flag?_mergeAnswers, given, Option.map_some, Option.some_or]
  have keys : keysOf (context.mergeAnswers answers) field = answerKeystrokes value := by
    rw [keysOf, Template.render_field bare held]
  have guard (nameable : Template.Nameable (keyOf field).toList) :
      (context.mergeAnswers answers).evaluate (keyOf field) = answerFlag value := by
    rw [Template.evaluate_field nameable, flag, Option.getD_some]
  rw [keys, flag]
  exact ⟨rfl, guard, answerKeystrokes_eq_yes_iff, answerKeystrokes_eq_no_iff, answerKeystrokes_of_other,
    fun other => ⟨said?_agrees_iff other, Option.some_inj.trans (answerFlag_agrees_iff other)⟩⟩

/-- An answer in capitals clears its flag and is typed all the same. -/
theorem denial_in_capitals :
    (((∅ : Template.Variables).insert "confirm" "FALSE")["confirm"]? = some "FALSE" ∧
      '{' ∉ "confirm".toList ∧ '}' ∉ "confirm".toList) ∧
    (Template.Context.empty.mergeAnswers ((∅ : Template.Variables).insert "confirm" "FALSE")).flag?
      "confirm" = some false ∧
    keysOf (Template.Context.empty.mergeAnswers ((∅ : Template.Variables).insert "confirm" "FALSE"))
      "confirm" = "FALSE\r" := by
  have given : ((∅ : Template.Variables).insert "confirm" "FALSE")["confirm"]? = some "FALSE" :=
    getElem?_insert_iff
  have bare : '{' ∉ "confirm".toList ∧ '}' ∉ "confirm".toList := by decide
  obtain ⟨flag, -, -, -, typed, -⟩ :=
    guards_and_keys_differ_in_capitals .empty _ "confirm" "FALSE" given bare
  exact ⟨⟨given, bare⟩, flag.trans (by decide), (typed (by decide)).trans (by decide)⟩

end Rollout.Terminal
