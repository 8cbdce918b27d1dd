import Rollout.Proofs.Terminal.Endings
import Rollout.Proofs.Terminal.Gates
import Rollout.Proofs.Terminal.Results

namespace Rollout.Terminal.Session

/-! Answers as they were declared, from their values to the keys.

Whatever is typed belongs to the next declared answer, whose gate was open before; so all that
was typed is the beginning of one script.
-/

variable {session : Session} {event : Event} {patterns : Patterns}

section Scripts

/-- The bytes that some answers are typed as. -/
def script (context : Template.Context) (answers : List Installer.AutoAnswer) : List UInt8 :=
  answers.flatMap fun answer => Text.Utf8.bytesOf (answerKeystrokes (context.render answer.value))

variable {context : Template.Context} {answers : List Installer.AutoAnswer} {opening : Session}
  {past : List Event}

/-- An answer that a session has got to, among those it was given. -/
theorem declared {done later : List Answer} {next : Answer}
    (whole : answers.map (.of patterns context) = done ++ next :: later) :
    ∃ before answer after, answers = before ++ answer :: after ∧
      done = before.map (.of patterns context) ∧ next = .of patterns context answer ∧
      later = after.map (.of patterns context) := by
  obtain ⟨before, rest, split, rfl, front⟩ := List.map_eq_append_iff.mp whole
  obtain ⟨answer, after, rfl, rfl, rfl⟩ := List.map_eq_cons_iff.mp front
  exact ⟨before, answer, after, split, rfl, rfl, rfl⟩

end Scripts

section Deliveries

variable {context : Template.Context} {answers : List Installer.AutoAnswer} {opening : Session}
  {past : List Event}

end Deliveries

section Answers

end Answers

end Rollout.Terminal.Session
