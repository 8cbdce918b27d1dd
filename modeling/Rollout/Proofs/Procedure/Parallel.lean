import Rollout.Proofs.Procedure.Asks

namespace Rollout.Procedure

/-! Two procedures in surroundings that agree on some questions.

The visible questions are answered alike in both runs as long as both runs have seen
the same so far; the hidden ones are answered in any way.  `Parallel` says that the
runs then stay alike: they ask the same visible questions and end with values that
correspond.
-/

variable {Question : Type} {Answer : Question → Type} {α α' β β' ε ε' : Type}

/-- Neither trace has another answer to a question than the other one if they are the
same up to it. -/
def Concordant (first second : Trace Question Answer) : Prop :=
  ∀ past question one two rest rest',
    first = past ++ ⟨question, one⟩ :: rest → second = past ++ ⟨question, two⟩ :: rest' → one = two

def visible (isVisible : Question → Bool) (trace : Trace Question Answer) : Trace Question Answer :=
  trace.filter (isVisible ·.1)

def Parallel (isVisible : Question → Bool) (alike : α → α' → Prop)
    (first : Procedure Question Answer α) (second : Procedure Question Answer α') : Prop :=
  ∀ trace trace' value value', Traces first trace value → Traces second trace' value' →
    Concordant (visible isVisible trace) (visible isVisible trace') →
    visible isVisible trace = visible isVisible trace' ∧ alike value value'

section Concordance

variable {past front front' back back' : Trace Question Answer}

theorem Concordant.left (concordant : Concordant (front ++ back) (front' ++ back')) :
    Concordant front front' := by
  rintro past question one two rest rest' rfl rfl
  exact concordant past question one two (rest ++ back) (rest' ++ back') (by simp) (by simp)

theorem Concordant.right (concordant : Concordant (past ++ back) (past ++ back')) :
    Concordant back back' := by
  rintro before question one two rest rest' rfl rfl
  exact concordant (past ++ before) question one two rest rest' (by simp) (by simp)

theorem Concordant.head {question : Question} {one two : Answer question}
    (concordant : Concordant (⟨question, one⟩ :: back) (⟨question, two⟩ :: back')) : one = two :=
  concordant [] question one two back back' rfl rfl

end Concordance

variable {isVisible : Question → Bool} {alike : α → α' → Prop} {similar : β → β' → Prop}

theorem visible_append (front back : Trace Question Answer) :
    visible isVisible (front ++ back) = visible isVisible front ++ visible isVisible back :=
  List.filter_append ..

theorem visible_of_hidden {trace : Trace Question Answer}
    (hidden : ∀ event ∈ trace, isVisible event.1 = false) : visible isVisible trace = [] := by
  apply List.filter_eq_nil_iff.mpr
  intro event member
  simp [hidden event member]

theorem parallel_pure {value : α} {value' : α'} (isAlike : alike value value') :
    Parallel isVisible alike (pure value : Procedure Question Answer α) (pure value') := by
  intro trace trace' result result' traced traced' _
  obtain ⟨rfl, rfl⟩ := traces_pure_iff.mp traced
  obtain ⟨rfl, rfl⟩ := traces_pure_iff.mp traced'
  exact ⟨rfl, isAlike⟩

theorem Parallel.bind {first : Procedure Question Answer α} {first' : Procedure Question Answer α'}
    {second : α → Procedure Question Answer β} {second' : α' → Procedure Question Answer β'}
    (begins : Parallel isVisible alike first first')
    (ends : ∀ value value', alike value value' →
      Parallel isVisible similar (second value) (second' value')) :
    Parallel isVisible similar (first >>= second) (first' >>= second') := by
  intro trace trace' result result' traced traced' concordant
  obtain ⟨front, back, value, rfl, starts, later⟩ := traces_bind_iff.mp traced
  obtain ⟨front', back', value', rfl, starts', later'⟩ := traces_bind_iff.mp traced'
  rw [visible_append, visible_append] at concordant
  obtain ⟨same, isAlike⟩ := begins _ _ _ _ starts starts' concordant.left
  rw [same] at concordant
  obtain ⟨same', isSimilar⟩ := ends _ _ isAlike _ _ _ _ later later' concordant.right
  rw [visible_append, visible_append, same, same']
  exact ⟨rfl, isSimilar⟩

theorem Parallel.mono {wider : α → α' → Prop} {first : Procedure Question Answer α}
    {second : Procedure Question Answer α'} (parallel : Parallel isVisible alike first second)
    (within : ∀ value value', alike value value' → wider value value') :
    Parallel isVisible wider first second := by
  intro trace trace' value value' traced traced' concordant
  obtain ⟨same, isAlike⟩ := parallel _ _ _ _ traced traced' concordant
  exact ⟨same, within _ _ isAlike⟩

/-- A procedure runs in parallel to itself if the answers to its hidden questions tell
nothing. -/
theorem Asks.parallel_self {allowed : Question → Prop} {procedure : Procedure Question Answer α}
    (asks : procedure.Asks allowed)
    (tells : ∀ question, allowed question → isVisible question = true ∨ Subsingleton (Answer question)) :
    Parallel isVisible Eq procedure procedure := by
  induction procedure with
  | done value => exact parallel_pure rfl
  | ask question next ih =>
      intro trace trace' value value' traced traced' concordant
      obtain _ | @⟨_, one, _, rest, _, later⟩ := traced
      obtain _ | @⟨_, two, _, rest', _, later'⟩ := traced'
      -- A visible question is answered alike in both runs, a hidden one in one way only.
      by_cases shown : isVisible question = true
      · have seen (answer : Answer question) (rest : Trace Question Answer) :
            visible isVisible (⟨question, answer⟩ :: rest) =
              [⟨question, answer⟩] ++ visible isVisible rest := by
          simp [visible, shown]
        rw [seen, seen] at concordant
        obtain rfl := concordant.head
        rw [seen, seen]
        obtain ⟨same, isAlike⟩ := ih one (asks.2 one) _ _ _ _ later later' concordant.right
        exact ⟨congrArg _ same, isAlike⟩
      · have unseen (answer : Answer question) (rest : Trace Question Answer) :
            visible isVisible (⟨question, answer⟩ :: rest) = visible isVisible rest := by
          simp [visible, shown]
        rw [unseen, unseen] at concordant ⊢
        obtain impossible | only := tells question asks.1
        · exact absurd impossible shown
        · obtain rfl := only.allEq one two
          exact ih one (asks.2 one) _ _ _ _ later later' concordant

theorem Asks.parallel_hidden {first : Procedure Question Answer α}
    {second : Procedure Question Answer α'} (asks : first.Asks (isVisible · = false))
    (asks' : second.Asks (isVisible · = false))
    (isAlike : ∀ trace trace' value value', Traces first trace value →
      Traces second trace' value' → alike value value') :
    Parallel isVisible alike first second := by
  intro trace trace' value value' traced traced' _
  rw [visible_of_hidden (asks.of_mem traced), visible_of_hidden (asks'.of_mem traced')]
  exact ⟨rfl, isAlike _ _ _ _ traced traced'⟩

section Failures

inductive SameOutcome (alike : α → α' → Prop) : Except ε α → Except ε α' → Prop where
  | error (error : ε) : SameOutcome alike (.error error) (.error error)
  | ok {value : α} {value' : α'} (isAlike : alike value value') :
      SameOutcome alike (.ok value) (.ok value')

theorem sameOutcome_of_eq {first second : Except ε α} (same : first = second) :
    SameOutcome Eq first second := by
  subst same
  cases first with
  | error error => exact .error error
  | ok value => exact .ok rfl

theorem SameOutcome.bind {first : Except ε α} {first' : Except ε α'} {second : α → Except ε β}
    {second' : α' → Except ε β'} (begins : SameOutcome alike first first')
    (ends : ∀ value value', alike value value' → SameOutcome similar (second value) (second' value')) :
    SameOutcome similar (first >>= second) (first' >>= second') := by
  cases begins with
  | error error => exact .error error
  | ok isAlike => exact ends _ _ isAlike

theorem SameOutcome.mapError {first : Except ε α} {second : Except ε α'}
    (same : SameOutcome alike first second) (adapted : ε → ε') :
    SameOutcome alike (first.mapError adapted) (second.mapError adapted) := by
  cases same with
  | error error => exact .error (adapted error)
  | ok isAlike => exact .ok isAlike

theorem SameOutcome.eq {first second : Except ε α} (same : SameOutcome Eq first second) :
    first = second := by
  cases same with
  | error error => rfl
  | ok isAlike => exact congrArg _ isAlike

theorem SameOutcome.isNone_eq {first : Except ε α} {second : Except ε α'}
    (same : SameOutcome alike first second) : first.toOption.isNone = second.toOption.isNone := by
  cases same with
  | error error => rfl
  | ok isAlike => rfl

variable {first : ExceptT ε (Procedure Question Answer) α}
  {first' : ExceptT ε (Procedure Question Answer) α'}

theorem parallel_run_bind {second : α → ExceptT ε (Procedure Question Answer) β}
    {second' : α' → ExceptT ε (Procedure Question Answer) β'}
    (begins : Parallel isVisible (SameOutcome alike) first.run first'.run)
    (ends : ∀ value value', alike value value' →
      Parallel isVisible (SameOutcome similar) (second value).run (second' value').run) :
    Parallel isVisible (SameOutcome similar) (first >>= second).run (first' >>= second').run := by
  rw [ExceptT.run_bind, ExceptT.run_bind]
  apply begins.bind
  intro result result' same
  cases same with
  | error error => exact parallel_pure (.error error)
  | ok isAlike => exact ends _ _ isAlike

theorem parallel_run_pure {value : α} {value' : α'} (isAlike : alike value value') :
    Parallel isVisible (SameOutcome alike) (pure value : ExceptT ε (Procedure Question Answer) α).run
      (pure value' : ExceptT ε (Procedure Question Answer) α').run :=
  parallel_pure (.ok isAlike)

theorem parallel_run_throw {error : ε} :
    Parallel isVisible (SameOutcome alike)
      (throw error : ExceptT ε (Procedure Question Answer) α).run
      (throw error : ExceptT ε (Procedure Question Answer) α').run :=
  parallel_pure (.error error)

theorem parallel_run_lift {procedure : Procedure Question Answer α}
    {procedure' : Procedure Question Answer α'} (parallel : Parallel isVisible alike procedure procedure') :
    Parallel isVisible (SameOutcome alike)
      (ExceptT.lift procedure : ExceptT ε (Procedure Question Answer) α).run
      (ExceptT.lift procedure' : ExceptT ε (Procedure Question Answer) α').run := by
  rw [run_lift, run_lift]
  exact parallel.bind fun _ _ isAlike => parallel_pure (.ok isAlike)

theorem parallel_run_adapt {adapted : ε → ε'}
    (parallel : Parallel isVisible (SameOutcome alike) first.run first'.run) :
    Parallel isVisible (SameOutcome alike) (first.adapt adapted).run (first'.adapt adapted).run := by
  rw [run_adapt, run_adapt]
  apply parallel.bind
  intro result result' isSame
  cases isSame with
  | error error => exact parallel_pure (.error _)
  | ok isAlike => exact parallel_pure (.ok isAlike)

end Failures

end Rollout.Procedure
