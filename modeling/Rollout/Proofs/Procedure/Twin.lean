import Rollout.Proofs.Procedure.Parallel
import Rollout.Proofs.Procedure.Upholds

namespace Rollout.Procedure

/-! Two procedures that differ in their questions.

A link tells which questions of the one correspond to which of the other, and which
answers to them.  `Twin` procedures ask corresponding questions one after the other as
long as the answers correspond, and end with values that are alike.  Unlike `Parallel` it
compares two procedures step by step and not their traces, so one can be put in the place
of the other.
-/

variable {Question Question' : Type} {Answer : Question → Type} {Answer' : Question' → Type}
  {α α' β β' ε ε' : Type}

/-- Two questions are linked by a relation between their answers. -/
abbrev Link (Question : Type) (Answer : Question → Type) :=
  (question question' : Question) → (Answer question → Answer question' → Prop) → Prop

inductive Twin (link : Link Question Answer) (alike : α → α' → Prop) :
    Procedure Question Answer α → Procedure Question Answer α' → Prop where
  | done {value : α} {value' : α'} (isAlike : alike value value') :
      Twin link alike (.done value) (.done value')
  | ask {question question' : Question} {agree : Answer question → Answer question' → Prop}
      {next : Answer question → Procedure Question Answer α}
      {next' : Answer question' → Procedure Question Answer α'}
      (linked : link question question' agree)
      (later : ∀ answer answer', agree answer answer' → Twin link alike (next answer) (next' answer')) :
      Twin link alike (.ask question next) (.ask question' next')

variable {link : Link Question Answer} {alike : α → α' → Prop} {similar : β → β' → Prop}

theorem twin_query {question question' : Question} {agree : Answer question → Answer question' → Prop}
    (linked : link question question' agree) :
    Twin link agree (query question : Procedure Question Answer _) (query question') :=
  .ask linked fun _ _ agrees => .done agrees

theorem twin_refl (reflexive : ∀ question, link question question Eq)
    (procedure : Procedure Question Answer α) : Twin link Eq procedure procedure := by
  induction procedure with
  | done value => exact .done rfl
  | ask question next ih =>
      apply Twin.ask (reflexive question)
      intro answer answer' same
      subst same
      exact ih answer

theorem Twin.bind {first : Procedure Question Answer α} {first' : Procedure Question Answer α'}
    {second : α → Procedure Question Answer β} {second' : α' → Procedure Question Answer β'}
    (begins : Twin link alike first first')
    (ends : ∀ value value', alike value value' → Twin link similar (second value) (second' value')) :
    Twin link similar (first >>= second) (first' >>= second') := by
  induction begins with
  | done isAlike => exact ends _ _ isAlike
  | ask linked later ih => exact .ask linked ih

theorem Twin.mono {wider : α → α' → Prop} {first : Procedure Question Answer α}
    {second : Procedure Question Answer α'} (twin : Twin link alike first second)
    (within : ∀ value value', alike value value' → wider value value') :
    Twin link wider first second := by
  induction twin with
  | done isAlike => exact .done (within _ _ isAlike)
  | ask linked later ih => exact .ask linked ih

/-- Linked questions may be replaced by twin procedures. -/
theorem Twin.interpret {link' : Link Question' Answer'}
    {reply reply' : (question : Question) → Procedure Question' Answer' (Answer question)}
    {first : Procedure Question Answer α} {second : Procedure Question Answer α'}
    (twin : Twin link alike first second)
    (replies : ∀ question question' agree, link question question' agree →
      Twin link' agree (reply question) (reply' question')) :
    Twin link' alike (first.interpret reply) (second.interpret reply') := by
  induction twin with
  | done isAlike => exact .done isAlike
  | ask linked later ih => exact (replies _ _ _ linked).bind ih

theorem twin_interpret_self {link' : Link Question' Answer'}
    {reply reply' : (question : Question) → Procedure Question' Answer' (Answer question)}
    (replies : ∀ question, Twin link' Eq (reply question) (reply' question))
    (procedure : Procedure Question Answer α) :
    Twin link' Eq (procedure.interpret reply) (procedure.interpret reply') := by
  induction procedure with
  | done value => exact .done rfl
  | ask question next ih =>
      apply (replies question).bind
      intro answer answer' same
      subst same
      exact ih answer

section Failures

variable {first : ExceptT ε (Procedure Question Answer) α}
  {first' : ExceptT ε (Procedure Question Answer) α'}

theorem twin_run_refl (reflexive : ∀ question, link question question Eq)
    (first : ExceptT ε (Procedure Question Answer) α) :
    Twin link (SameOutcome Eq) first.run first.run :=
  (twin_refl reflexive first.run).mono fun _ _ same => sameOutcome_of_eq same

theorem twin_run_given {given : Except ε α} {given' : Except ε α'} (same : SameOutcome alike given given') :
    Twin link (SameOutcome alike) (liftM given : ExceptT ε (Procedure Question Answer) α).run
      (liftM given' : ExceptT ε (Procedure Question Answer) α').run :=
  .done same

theorem twin_run_pure {value : α} {value' : α'} (isAlike : alike value value') :
    Twin link (SameOutcome alike) (pure value : ExceptT ε (Procedure Question Answer) α).run
      (pure value' : ExceptT ε (Procedure Question Answer) α').run :=
  .done (.ok isAlike)

theorem twin_run_throw (error : ε) :
    Twin link (SameOutcome alike) (throw error : ExceptT ε (Procedure Question Answer) α).run
      (throw error : ExceptT ε (Procedure Question Answer) α').run :=
  .done (.error error)

theorem twin_run_bind {second : α → ExceptT ε (Procedure Question Answer) β}
    {second' : α' → ExceptT ε (Procedure Question Answer) β'}
    (begins : Twin link (SameOutcome alike) first.run first'.run)
    (ends : ∀ value value', alike value value' →
      Twin link (SameOutcome similar) (second value).run (second' value').run) :
    Twin link (SameOutcome similar) (first >>= second).run (first' >>= second').run := by
  rw [ExceptT.run_bind, ExceptT.run_bind]
  apply begins.bind
  intro result result' same
  cases same with
  | error error => exact .done (.error error)
  | ok isAlike => exact ends _ _ isAlike

/-- Where the first parts have the same value, so have the second parts. -/
theorem twin_run_then {first first' : ExceptT ε (Procedure Question Answer) α}
    {second : α → ExceptT ε (Procedure Question Answer) β}
    {second' : α → ExceptT ε (Procedure Question Answer) β'}
    (begins : Twin link (SameOutcome Eq) first.run first'.run)
    (ends : ∀ value, Twin link (SameOutcome similar) (second value).run (second' value).run) :
    Twin link (SameOutcome similar) (first >>= second).run (first' >>= second').run := by
  apply twin_run_bind begins
  intro value value' same
  subst same
  exact ends value

theorem twin_run_lift {procedure : Procedure Question Answer α}
    {procedure' : Procedure Question Answer α'} (twin : Twin link alike procedure procedure') :
    Twin link (SameOutcome alike) (ExceptT.lift procedure : ExceptT ε (Procedure Question Answer) α).run
      (ExceptT.lift procedure' : ExceptT ε (Procedure Question Answer) α').run := by
  rw [run_lift, run_lift]
  exact twin.bind fun _ _ isAlike => .done (.ok isAlike)

theorem twin_run_adapt {adapted : ε → ε'}
    (twin : Twin link (SameOutcome alike) first.run first'.run) :
    Twin link (SameOutcome alike) (first.adapt adapted).run (first'.adapt adapted).run := by
  rw [run_adapt, run_adapt]
  apply twin.bind
  intro result result' same
  cases same with
  | error error => exact .done (.error _)
  | ok isAlike => exact .done (.ok isAlike)

end Failures

section Following

variable {Event : Type} {shown : (question : Question) × Answer question → Event}
  {first : Procedure Question Answer α} {second : Procedure Question Answer α'}

/-- Whatever is answered to a question, its twin can be answered so that they look the
same and the answers correspond. -/
def Matches (link : Link Question Answer) (shown : (question : Question) × Answer question → Event) :
    Prop :=
  ∀ question question' agree, link question question' agree → ∀ answer, ∃ answer',
    agree answer answer' ∧ shown ⟨question, answer⟩ = shown ⟨question', answer'⟩

theorem Twin.follow (matching : Matches link shown) (twin : Twin link alike first second)
    {trace : Trace Question Answer} {value : α} (traced : Traces first trace value) :
    ∃ trace' value', Traces second trace' value' ∧ trace.map shown = trace'.map shown ∧
      alike value value' := by
  induction twin generalizing trace with
  | done isAlike =>
      cases traced
      exact ⟨[], _, .done _, rfl, isAlike⟩
  | ask linked later ih =>
      obtain _ | ⟨follows⟩ := traced
      obtain ⟨answer', agrees, same⟩ := matching _ _ _ linked _
      obtain ⟨trace', value', traced', same', isAlike⟩ := ih _ answer' agrees follows
      exact ⟨_, value', .ask traced', by rw [List.map_cons, List.map_cons, same, same'], isAlike⟩

theorem Twin.raise (matching : Matches link shown) (twin : Twin link alike first second)
    {trace : Trace Question Answer} {raised : Question} (raises : Raises first trace raised) :
    ∃ trace' raised' agree, Raises second trace' raised' ∧ trace.map shown = trace'.map shown ∧
      link raised raised' agree := by
  induction twin generalizing trace with
  | done isAlike => cases raises
  | ask linked later ih =>
      obtain _ | ⟨follows⟩ := raises
      · exact ⟨[], _, _, .now, rfl, linked⟩
      · obtain ⟨answer', agrees, same⟩ := matching _ _ _ linked _
        obtain ⟨trace', raised', agree, raises', same', linked'⟩ := ih _ answer' agrees follows
        exact ⟨_, raised', agree, .later raises', by rw [List.map_cons, List.map_cons, same, same'],
          linked'⟩

end Following

end Rollout.Procedure
