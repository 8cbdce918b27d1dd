import Rollout.Proofs.Procedure.Traces

namespace Rollout.Procedure

/-! Which questions a procedure can ask, whatever the answers. -/

variable {Question : Type} {Answer : Question → Type} {α β ε ε' : Type}
  {allowed : Question → Prop}

def Asks (allowed : Question → Prop) : Procedure Question Answer α → Prop
  | .done _ => True
  | .ask question next => allowed question ∧ ∀ answer, (next answer).Asks allowed

theorem asks_pure (value : α) : (pure value : Procedure Question Answer α).Asks allowed := trivial

theorem asks_any (procedure : Procedure Question Answer α) : procedure.Asks fun _ => True := by
  induction procedure with
  | done value => exact trivial
  | ask question next ih => exact ⟨trivial, ih⟩

theorem asks_query {question : Question} (isAllowed : allowed question) :
    (query question : Procedure Question Answer _).Asks allowed :=
  ⟨isAllowed, fun _ => trivial⟩

theorem Asks.bind {first : Procedure Question Answer α}
    {second : α → Procedure Question Answer β} (begins : first.Asks allowed)
    (ends : ∀ value, (second value).Asks allowed) : (first >>= second).Asks allowed := by
  induction first with
  | done value => exact ends value
  | ask question next ih => exact ⟨begins.1, fun answer => ih answer (begins.2 answer)⟩

theorem Asks.mono {wider : Question → Prop} {procedure : Procedure Question Answer α}
    (asks : procedure.Asks allowed) (within : ∀ question, allowed question → wider question) :
    procedure.Asks wider := by
  induction procedure with
  | done value => exact trivial
  | ask question next ih => exact ⟨within _ asks.1, fun answer => ih answer (asks.2 answer)⟩

theorem Asks.of_mem {procedure : Procedure Question Answer α} {trace : Trace Question Answer}
    {value : α} (asks : procedure.Asks allowed) (traced : Traces procedure trace value) :
    ∀ event ∈ trace, allowed event.1 := by
  induction traced with
  | done value => simp
  | ask later ih =>
      intro event member
      rcases List.mem_cons.mp member with rfl | member
      · exact asks.1
      · exact ih (asks.2 _) event member

section Failures

variable {first : ExceptT ε (Procedure Question Answer) α}

theorem asks_run_pure (value : α) :
    (pure value : ExceptT ε (Procedure Question Answer) α).run.Asks allowed := trivial

theorem asks_run_throw (error : ε) :
    (throw error : ExceptT ε (Procedure Question Answer) α).run.Asks allowed := trivial

theorem asks_run_bind {second : α → ExceptT ε (Procedure Question Answer) β}
    (begins : first.run.Asks allowed) (ends : ∀ value, (second value).run.Asks allowed) :
    (first >>= second).run.Asks allowed := by
  rw [ExceptT.run_bind]
  apply begins.bind
  intro result
  cases result with
  | error error => exact asks_pure _
  | ok value => exact ends value

theorem asks_run_lift {procedure : Procedure Question Answer α} (asks : procedure.Asks allowed) :
    (ExceptT.lift procedure : ExceptT ε (Procedure Question Answer) α).run.Asks allowed := by
  rw [run_lift]
  exact asks.bind fun _ => asks_pure _

theorem asks_run_adapt {adapted : ε → ε'} (asks : first.run.Asks allowed) :
    (first.adapt adapted).run.Asks allowed := by
  rw [run_adapt]
  exact asks.bind fun _ => asks_pure _

end Failures

theorem Asks.interpret {Question' : Type} {Answer' : Question' → Type}
    {reply : (question : Question) → Procedure Question' Answer' (Answer question)}
    {permitted : Question' → Prop} {procedure : Procedure Question Answer α}
    (asks : procedure.Asks allowed)
    (replies : ∀ question, allowed question → (reply question).Asks permitted) :
    (procedure.interpret reply).Asks permitted := by
  induction procedure with
  | done value => exact trivial
  | ask question next ih =>
      exact Asks.bind (replies question asks.1) fun answer => ih answer (asks.2 answer)

end Rollout.Procedure
