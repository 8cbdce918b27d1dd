import Rollout.Proofs.Procedure.Asks

namespace Rollout.Procedure

/-! Questions and results that fit what came before them.

`Asks` bounds what a procedure asks at all.  `Upholds` bounds what it asks, and how it
ends, by the questions and answers so far.  It speaks of every question that is raised,
so it also covers runs that break off.
-/

variable {Question : Type} {Answer : Question → Type} {α β ε ε' : Type}

inductive Raises : Procedure Question Answer α → Trace Question Answer → Question → Prop where
  | now {question : Question} {next : Answer question → Procedure Question Answer α} :
      Raises (.ask question next) [] question
  | later {question raised : Question} {answer : Answer question}
      {next : Answer question → Procedure Question Answer α} {trace : Trace Question Answer}
      (raises : Raises (next answer) trace raised) :
      Raises (.ask question next) (⟨question, answer⟩ :: trace) raised

theorem Raises.of_traces {procedure : Procedure Question Answer α} {question : Question}
    {answer : Answer question} {front back : Trace Question Answer} {value : α}
    (traced : Traces procedure (front ++ ⟨question, answer⟩ :: back) value) :
    Raises procedure front question := by
  induction front generalizing procedure with
  | nil =>
      cases traced
      exact .now
  | cons event front ih =>
      obtain _ | ⟨later⟩ := traced
      exact .later (ih later)

theorem Asks.of_raises {procedure : Procedure Question Answer α} {allowed : Question → Prop}
    {trace : Trace Question Answer} {raised : Question} (asks : procedure.Asks allowed)
    (raises : Raises procedure trace raised) : allowed raised := by
  induction raises with
  | now => exact asks.1
  | later raises ih => exact ih (asks.2 _)

/-- A question that gets an answer is the only one that is raised where it is. -/
theorem Raises.question_of_longer {procedure : Procedure Question Answer α} {question other : Question}
    {answer : Answer other} {front back : Trace Question Answer} {raised : Question}
    (raises : Raises procedure front question)
    (longer : Raises procedure (front ++ ⟨other, answer⟩ :: back) raised) : other = question := by
  induction raises with
  | now =>
      obtain _ | ⟨_⟩ := longer
      rfl
  | later raises ih =>
      obtain _ | ⟨longer⟩ := longer
      exact ih longer

section Sequences

variable {trace : Trace Question Answer} {question : Question}

theorem not_raises_pure {value : α} :
    ¬ Raises (pure value : Procedure Question Answer α) trace question := nofun

theorem raises_query_iff {asked : Question} :
    Raises (query asked : Procedure Question Answer _) trace question ↔
      trace = [] ∧ question = asked := by
  constructor
  · intro raises
    cases raises with
    | now => exact ⟨rfl, rfl⟩
    | later raises => exact absurd raises not_raises_pure
  · intro same
    obtain ⟨rfl, rfl⟩ := same
    exact .now

/-- A sequence raises a question in its first part, or in the second part after the first. -/
theorem raises_bind_iff {first : Procedure Question Answer α}
    {second : α → Procedure Question Answer β} :
    Raises (first >>= second) trace question ↔ Raises first trace question ∨
      ∃ front back value, trace = front ++ back ∧ Traces first front value ∧
        Raises (second value) back question := by
  constructor
  · intro raises
    induction first generalizing trace with
    | done value => exact .inr ⟨[], trace, value, rfl, .done value, raises⟩
    | ask asked next ih =>
        obtain _ | ⟨raises⟩ := raises
        · exact .inl .now
        · obtain early | ⟨front, back, value, rfl, traced, late⟩ := ih _ raises
          · exact .inl (.later early)
          · exact .inr ⟨_ :: front, back, value, rfl, .ask traced, late⟩
  · intro parts
    obtain early | ⟨front, back, value, rfl, traced, late⟩ := parts
    · induction early with
      | now => exact .now
      | later early ih => exact .later ih
    · induction traced with
      | done value => exact late
      | ask traced ih => exact .later (ih late)

section Failures

variable {first : ExceptT ε (Procedure Question Answer) α}

theorem not_raises_run_throw {error : ε} :
    ¬ Raises (throw error : ExceptT ε (Procedure Question Answer) α).run trace question := nofun

theorem raises_run_bind_iff {second : α → ExceptT ε (Procedure Question Answer) β} :
    Raises (first >>= second).run trace question ↔ Raises first.run trace question ∨
      ∃ front back value, trace = front ++ back ∧ Traces first.run front (.ok value) ∧
        Raises (second value).run back question := by
  rw [ExceptT.run_bind, raises_bind_iff]
  apply or_congr_right
  constructor
  · intro parts
    obtain ⟨front, back, result, rfl, traced, late⟩ := parts
    cases result with
    | error error => exact absurd late not_raises_pure
    | ok value => exact ⟨front, back, value, rfl, traced, late⟩
  · intro parts
    obtain ⟨front, back, value, rfl, traced, late⟩ := parts
    exact ⟨front, back, .ok value, rfl, traced, late⟩

theorem raises_run_adapt_iff {adapted : ε → ε'} :
    Raises (first.adapt adapted).run trace question ↔ Raises first.run trace question := by
  rw [run_adapt, raises_bind_iff, or_iff_left]
  intro parts
  obtain ⟨front, back, value, -, -, late⟩ := parts
  exact not_raises_pure late

end Failures

end Sequences

/-- Where a question is raised, no trace goes on without an answer to it. -/
theorem Raises.question_of_traces {procedure : Procedure Question Answer α} {question other : Question}
    {answer : Answer other} {front back : Trace Question Answer} {value : α}
    (raises : Raises procedure front question)
    (traced : Traces procedure (front ++ ⟨other, answer⟩ :: back) value) : other = question := by
  induction raises with
  | now =>
      cases traced
      rfl
  | later raises ih =>
      obtain _ | ⟨traced⟩ := traced
      exact ih traced

theorem Asks.of_mem_raises {procedure : Procedure Question Answer α} {allowed : Question → Prop}
    {trace : Trace Question Answer} {raised : Question} (asks : procedure.Asks allowed)
    (raises : Raises procedure trace raised) : ∀ event ∈ trace, allowed event.1 := by
  induction raises with
  | now => exact nofun
  | later raises ih => exact List.forall_mem_cons.mpr ⟨asks.1, ih (asks.2 _)⟩

section Meetings

variable {State : Type}

/-- Surroundings that may leave questions unanswered give the answers of a trace. -/
inductive Met (reply : State → (question : Question) → Option (Answer question × State)) :
    State → Trace Question Answer → State → Prop where
  | done (state : State) : Met reply state [] state
  | ask {state next last : State} {question : Question} {answer : Answer question}
      {trace : Trace Question Answer} (replies : reply state question = some (answer, next))
      (later : Met reply next trace last) : Met reply state (⟨question, answer⟩ :: trace) last

/-- A procedure goes on until it is done or is left without an answer. -/
theorem exists_met (reply : State → (question : Question) → Option (Answer question × State))
    (procedure : Procedure Question Answer α) (state : State) :
    ∃ trace last, Met reply state trace last ∧ ((∃ value, Traces procedure trace value) ∨
      ∃ question, Raises procedure trace question ∧ reply last question = none) := by
  induction procedure generalizing state with
  | done value => exact ⟨[], state, .done state, .inl ⟨value, .done value⟩⟩
  | ask question next ih =>
      cases replies : reply state question with
      | none => exact ⟨[], state, .done state, .inr ⟨question, .now, replies⟩⟩
      | some given =>
          obtain ⟨answer, following⟩ := given
          obtain ⟨trace, last, met, ends | ⟨raised, raises, unanswered⟩⟩ := ih answer following
          · obtain ⟨value, traced⟩ := ends
            exact ⟨_, last, .ask replies met, .inl ⟨value, .ask traced⟩⟩
          · exact ⟨_, last, .ask replies met, .inr ⟨raised, .later raises, unanswered⟩⟩

/-- What is run in surroundings is what they meet. -/
theorem run?_of_met {reply : State → (question : Question) → Option (Answer question × State)}
    {procedure : Procedure Question Answer α} {state last : State} {trace : Trace Question Answer}
    {value : α} (met : Met reply state trace last) (traced : Traces procedure trace value) :
    procedure.run? reply state = some (value, last) := by
  induction met generalizing procedure with
  | done state =>
      cases traced
      rfl
  | ask replies later ih =>
      obtain _ | ⟨traced⟩ := traced
      simp only [run?, replies, Option.bind_eq_bind, Option.bind_some]
      exact ih traced

end Meetings

/-- Every question is fit to be asked after the past, and the value at the end is right
by it. -/
def Upholds (fit : Trace Question Answer → Question → Prop)
    (right : Trace Question Answer → α → Prop) :
    Procedure Question Answer α → Trace Question Answer → Prop
  | .done value, past => right past value
  | .ask question next, past =>
      fit past question ∧ ∀ answer, (next answer).Upholds fit right (past ++ [⟨question, answer⟩])

variable {fit : Trace Question Answer → Question → Prop} {past trace : Trace Question Answer}
  {procedure : Procedure Question Answer α} {right : Trace Question Answer → α → Prop}

theorem Upholds.of_raises {question : Question} (upholds : procedure.Upholds fit right past)
    (raises : Raises procedure trace question) : fit (past ++ trace) question := by
  induction raises generalizing past with
  | now => simpa using upholds.1
  | later raises ih => simpa using ih (upholds.2 _)

theorem Upholds.of_traces {value : α} (upholds : procedure.Upholds fit right past)
    (traced : Traces procedure trace value) : right (past ++ trace) value := by
  induction traced generalizing past with
  | done value => simpa [Upholds] using upholds
  | ask later ih => simpa using ih (upholds.2 _)

theorem Upholds.mono {wider : Trace Question Answer → α → Prop}
    (upholds : procedure.Upholds fit right past)
    (within : ∀ past value, right past value → wider past value) :
    procedure.Upholds fit wider past := by
  induction procedure generalizing past with
  | done value => exact within past value upholds
  | ask question next ih => exact ⟨upholds.1, fun answer => ih answer (upholds.2 answer)⟩

theorem Upholds.loosen {looser : Trace Question Answer → Question → Prop}
    (upholds : procedure.Upholds fit right past)
    (within : ∀ later question, fit (past ++ later) question → looser (past ++ later) question) :
    procedure.Upholds looser right past := by
  induction procedure generalizing past with
  | done value => exact upholds
  | ask question next ih =>
      refine ⟨by simpa using within [] question (by simpa using upholds.1), fun answer => ?_⟩
      apply ih answer (upholds.2 answer)
      intro later raised isFit
      simpa using within (⟨question, answer⟩ :: later) raised (by simpa using isFit)

theorem upholds_pure {value : α} :
    (pure value : Procedure Question Answer α).Upholds fit right past ↔ right past value :=
  Iff.rfl

theorem upholds_query (question : Question) {right : Trace Question Answer → Answer question → Prop}
    (isFit : fit past question) (isRight : ∀ answer, right (past ++ [⟨question, answer⟩]) answer) :
    (query question : Procedure Question Answer _).Upholds fit right past :=
  ⟨isFit, isRight⟩

theorem Upholds.bind {second : α → Procedure Question Answer β}
    {right : Trace Question Answer → β → Prop}
    (upholds : procedure.Upholds fit (fun past value => (second value).Upholds fit right past) past) :
    (procedure >>= second).Upholds fit right past := by
  induction procedure generalizing past with
  | done value => exact upholds
  | ask question next ih => exact ⟨upholds.1, fun answer => ih answer (upholds.2 answer)⟩

theorem Asks.upholds {allowed : Question → Prop} (asks : procedure.Asks allowed)
    (isFit : ∀ later question, allowed question → fit (past ++ later) question)
    (isRight : ∀ later value, Traces procedure later value → right (past ++ later) value) :
    procedure.Upholds fit right past := by
  induction procedure generalizing past with
  | done value => simpa [Upholds] using isRight [] value (.done value)
  | ask question next ih =>
      refine ⟨by simpa using isFit [] question asks.1, fun answer => ?_⟩
      apply ih answer (asks.2 answer)
      · intro later raised isAllowed
        simpa using isFit (⟨question, answer⟩ :: later) raised isAllowed
      · intro later value traced
        simpa using isRight (⟨question, answer⟩ :: later) value (.ask traced)

theorem Upholds.within {allowed : Question → Prop} (upholds : procedure.Upholds fit right past)
    (asks : procedure.Asks allowed) :
    procedure.Upholds fit (fun present value => right present value ∧
      ∃ later, present = past ++ later ∧ ∀ event ∈ later, allowed event.1) past := by
  induction procedure generalizing past with
  | done value => exact ⟨upholds, [], by simp, by simp⟩
  | ask question next ih =>
      refine ⟨upholds.1, fun answer => ?_⟩
      apply (ih answer (upholds.2 answer) (asks.2 answer)).mono
      rintro present value ⟨isRight, later, rfl, allAllowed⟩
      exact ⟨isRight, ⟨question, answer⟩ :: later, by simp,
        List.forall_mem_cons.mpr ⟨asks.1, allAllowed⟩⟩

theorem Upholds.traced (upholds : procedure.Upholds fit right past) :
    procedure.Upholds fit (fun present value => right present value ∧
      ∃ later, present = past ++ later ∧ Traces procedure later value) past := by
  induction procedure generalizing past with
  | done value => exact ⟨upholds, [], by simp, .done value⟩
  | ask question next ih =>
      refine ⟨upholds.1, fun answer => ?_⟩
      apply (ih answer (upholds.2 answer)).mono
      rintro present value ⟨isRight, later, rfl, follows⟩
      exact ⟨isRight, ⟨question, answer⟩ :: later, by simp, .ask follows⟩

section Failures

variable {first : ExceptT ε (Procedure Question Answer) α}

theorem upholds_run_bind {second : α → ExceptT ε (Procedure Question Answer) β}
    {right : Trace Question Answer → Except ε β → Prop}
    (upholds : first.run.Upholds fit (fun past result =>
      match result with
      | .error error => right past (.error error)
      | .ok value => (second value).run.Upholds fit right past) past) :
    (first >>= second).run.Upholds fit right past := by
  rw [ExceptT.run_bind]
  apply Upholds.bind
  apply upholds.mono
  intro past result isRight
  cases result with
  | error error => exact isRight
  | ok value => exact isRight

theorem upholds_run_pure {value : α} {right : Trace Question Answer → Except ε α → Prop}
    (isRight : right past (.ok value)) :
    (pure value : ExceptT ε (Procedure Question Answer) α).run.Upholds fit right past :=
  upholds_pure.mpr isRight

theorem upholds_run_throw {error : ε} {right : Trace Question Answer → Except ε α → Prop}
    (isRight : right past (.error error)) :
    (throw error : ExceptT ε (Procedure Question Answer) α).run.Upholds fit right past :=
  upholds_pure.mpr isRight

theorem upholds_run_adapt {adapted : ε → ε'} {right : Trace Question Answer → Except ε' α → Prop}
    (upholds : first.run.Upholds fit (fun past result => right past (result.mapError adapted)) past) :
    (first.adapt adapted).run.Upholds fit right past := by
  rw [run_adapt]
  exact upholds.bind

theorem upholds_run_lift {procedure : Procedure Question Answer α}
    {right : Trace Question Answer → Except ε α → Prop}
    (upholds : procedure.Upholds fit (fun past value => right past (.ok value)) past) :
    (ExceptT.lift procedure : ExceptT ε (Procedure Question Answer) α).run.Upholds fit right past := by
  rw [run_lift]
  exact upholds.bind

end Failures

-- Unfolding it on a procedure would run the procedure.
attribute [irreducible] Upholds

section Yielding

/-! A failure ends a procedure, so what is asked behind a stage is asked after questions and
answers that made the stage yield a value. -/

variable {first : ExceptT ε (Procedure Question Answer) α}
  {second : α → ExceptT ε (Procedure Question Answer) β} {middle : Trace Question Answer → α → Prop}
  {good : Trace Question Answer → β → Prop}

/-- A result that is good by its past unless it is a failure. -/
def Yields (good : Trace Question Answer → α → Prop) (past : Trace Question Answer)
    (result : Except ε α) : Prop :=
  ∀ value, result = .ok value → good past value

theorem yields_error {good : Trace Question Answer → α → Prop} {error : ε} :
    Yields good past (.error error : Except ε α) := nofun

theorem yields_ok {good : Trace Question Answer → α → Prop} {value : α} (isGood : good past value) :
    Yields good past (.ok value : Except ε α) := by
  intro other same
  cases same
  exact isGood

theorem upholds_bind_yields (begins : first.run.Upholds fit (Yields middle) past)
    (ends : ∀ past value, middle past value → (second value).run.Upholds fit (Yields good) past) :
    (first >>= second).run.Upholds fit (Yields good) past := by
  apply upholds_run_bind
  apply begins.mono
  intro past result yields
  cases result with
  | error error => exact yields_error
  | ok value => exact ends past value (yields value rfl)

end Yielding

end Rollout.Procedure
