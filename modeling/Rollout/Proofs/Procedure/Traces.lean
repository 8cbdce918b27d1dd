import Mathlib.Data.List.Forall2
import Rollout.Procedure

namespace Rollout.Procedure

/-! What the traces of a composed procedure are made of.

`Traces` follows the questions one by one.  The lemmas here follow the way in which
procedures are written: a sequence has a trace of its first part followed by one of
its second part, and a part that fails ends the sequence.
-/

variable {Question : Type} {Answer : Question → Type} {α β γ ε ε' : Type}

theorem bind_assoc (first : Procedure Question Answer α)
    (second : α → Procedure Question Answer β) (third : β → Procedure Question Answer γ) :
    (first.bind second).bind third = first.bind fun value => (second value).bind third := by
  induction first with
  | done value => rfl
  | ask question next ih => exact congrArg (Procedure.ask question) (funext ih)

theorem bind_done (procedure : Procedure Question Answer α) :
    procedure.bind Procedure.done = procedure := by
  induction procedure with
  | done value => rfl
  | ask question next ih => exact congrArg (Procedure.ask question) (funext ih)

instance : LawfulMonad (Procedure Question Answer) :=
  LawfulMonad.mk' _ bind_done (fun _ _ => rfl) bind_assoc

section Sequences

variable {trace : Trace Question Answer} {value : α}
  {first : Procedure Question Answer α} {second : α → Procedure Question Answer β}

theorem traces_pure_iff {given : α} :
    Traces (pure given : Procedure Question Answer α) trace value ↔ trace = [] ∧ value = given := by
  constructor
  · intro traced
    cases traced
    exact ⟨rfl, rfl⟩
  · rintro ⟨rfl, rfl⟩
    exact .done _

theorem traces_query_iff {question : Question} {answer : Answer question} :
    Traces (query question) trace answer ↔ trace = [⟨question, answer⟩] := by
  constructor
  · intro traced
    obtain _ | ⟨later⟩ := traced
    cases later
    rfl
  · rintro rfl
    exact .ask (.done _)

theorem Traces.bind {front back : Trace Question Answer} {result : β}
    (begins : Traces first front value) (ends : Traces (second value) back result) :
    Traces (first.bind second) (front ++ back) result := by
  induction begins with
  | done value => exact ends
  | ask later ih => exact .ask (ih ends)

theorem Traces.of_bind {result : β} (traced : Traces (first.bind second) trace result) :
    ∃ front back value, trace = front ++ back ∧ Traces first front value ∧
      Traces (second value) back result := by
  induction first generalizing trace with
  | done value => exact ⟨[], trace, value, rfl, .done value, traced⟩
  | ask question next ih =>
      obtain _ | ⟨later⟩ := traced
      obtain ⟨front, back, value, rfl, begins, ends⟩ := ih _ later
      exact ⟨_ :: front, back, value, rfl, .ask begins, ends⟩

theorem traces_bind_iff {result : β} :
    Traces (first >>= second) trace result ↔ ∃ front back value, trace = front ++ back ∧
      Traces first front value ∧ Traces (second value) back result := by
  constructor
  · exact Traces.of_bind
  · rintro ⟨front, back, value, rfl, begins, ends⟩
    exact begins.bind ends

/-- No trace of a procedure continues another one, so a trace that starts with one
of its first part leaves the rest to its second part. -/
theorem Traces.rest_of_bind {front back : Trace Question Answer} {result : β}
    (begins : Traces first front value)
    (traced : Traces (first.bind second) (front ++ back) result) :
    Traces (second value) back result := by
  induction begins with
  | done value => exact traced
  | ask later ih =>
      obtain _ | ⟨rest⟩ := traced
      exact ih rest

theorem Traces.not_continued {front back : Trace Question Answer} {other : α}
    (begins : Traces first front value) (longer : Traces first (front ++ back) other) :
    back = [] ∧ other = value := by
  rw [← bind_done first] at longer
  exact traces_pure_iff.mp (begins.rest_of_bind longer)

theorem Traces.unique {other : α} (traced : Traces first trace value)
    (also : Traces first trace other) : value = other := by
  rw [← List.append_nil trace] at also
  exact (traced.not_continued also).2.symm

/-- A trace starts with at most one trace of a procedure. -/
theorem Traces.start_unique {front front' back back' : Trace Question Answer} {other : α}
    (begins : Traces first front value) (also : Traces first front' other)
    (split : front ++ back = front' ++ back') : front = front' ∧ back = back' ∧ value = other := by
  rcases List.append_eq_append_iff.mp split with ⟨between, rfl, rfl⟩ | ⟨between, rfl, rfl⟩
  · obtain ⟨rfl, rfl⟩ := begins.not_continued also
    simp
  · obtain ⟨rfl, rfl⟩ := also.not_continued begins
    simp

end Sequences

section Failures

variable {trace : Trace Question Answer} {first : ExceptT ε (Procedure Question Answer) α}

theorem run_lift (procedure : Procedure Question Answer α) :
    (ExceptT.lift procedure : ExceptT ε (Procedure Question Answer) α).run =
      procedure >>= fun value => pure (.ok value) :=
  map_eq_pure_bind _ _

theorem run_adapt (first : ExceptT ε (Procedure Question Answer) α) (adapted : ε → ε') :
    (first.adapt adapted).run = first.run >>= fun result => pure (result.mapError adapted) :=
  map_eq_pure_bind _ _

theorem traces_run_pure_iff {given : α} {outcome : Except ε α} :
    Traces (pure given : ExceptT ε (Procedure Question Answer) α).run trace outcome ↔
      trace = [] ∧ outcome = .ok given :=
  traces_pure_iff

theorem traces_run_throw_iff {error : ε} {outcome : Except ε α} :
    Traces (throw error : ExceptT ε (Procedure Question Answer) α).run trace outcome ↔
      trace = [] ∧ outcome = .error error :=
  traces_pure_iff

theorem traces_run_lift_iff {procedure : Procedure Question Answer α} {outcome : Except ε α} :
    Traces (ExceptT.lift procedure : ExceptT ε (Procedure Question Answer) α).run trace outcome ↔
      ∃ value, outcome = .ok value ∧ Traces procedure trace value := by
  rw [run_lift, traces_bind_iff]
  constructor
  · rintro ⟨front, back, value, rfl, begins, ends⟩
    obtain ⟨rfl, rfl⟩ := traces_pure_iff.mp ends
    exact ⟨value, rfl, by simpa using begins⟩
  · rintro ⟨value, rfl, traced⟩
    exact ⟨trace, [], value, by simp, traced, .done _⟩

theorem traces_run_bind_iff {second : α → ExceptT ε (Procedure Question Answer) β}
    {outcome : Except ε β} :
    Traces (first >>= second).run trace outcome ↔
      (∃ error, outcome = .error error ∧ Traces first.run trace (.error error)) ∨
      ∃ front back value, trace = front ++ back ∧ Traces first.run front (.ok value) ∧
        Traces (second value).run back outcome := by
  rw [ExceptT.run_bind, traces_bind_iff]
  constructor
  · rintro ⟨front, back, result, rfl, begins, ends⟩
    cases result with
    | error error =>
        obtain ⟨rfl, rfl⟩ := traces_pure_iff.mp ends
        exact .inl ⟨error, rfl, by simpa using begins⟩
    | ok value => exact .inr ⟨front, back, value, rfl, begins, ends⟩
  · rintro (⟨error, rfl, begins⟩ | ⟨front, back, value, rfl, begins, ends⟩)
    · exact ⟨trace, [], .error error, by simp, begins, .done _⟩
    · exact ⟨front, back, .ok value, rfl, begins, ends⟩

theorem traces_run_bind_ok_iff {second : α → ExceptT ε (Procedure Question Answer) β} {result : β} :
    Traces (first >>= second).run trace (.ok result) ↔
      ∃ front back value, trace = front ++ back ∧ Traces first.run front (.ok value) ∧
        Traces (second value).run back (.ok result) := by
  rw [traces_run_bind_iff]
  constructor
  · rintro (⟨_, impossible, -⟩ | succeeds)
    · cases impossible
    · exact succeeds
  · exact .inr

theorem traces_run_ask_iff {question : Question} {outcome : Except ε (Answer question)} :
    Traces (ExceptT.lift (query question) : ExceptT ε (Procedure Question Answer) _).run trace outcome ↔
      ∃ answer, outcome = .ok answer ∧ trace = [⟨question, answer⟩] := by
  simp only [traces_run_lift_iff, traces_query_iff]

theorem traces_run_ask_bind_iff {question : Question}
    {second : Answer question → ExceptT ε (Procedure Question Answer) β} {outcome : Except ε β} :
    Traces (ExceptT.lift (query question) >>= second).run trace outcome ↔
      ∃ answer rest, trace = ⟨question, answer⟩ :: rest ∧ Traces (second answer).run rest outcome := by
  rw [traces_run_bind_iff]
  constructor
  · rintro (⟨error, -, begins⟩ | ⟨front, back, answer, rfl, begins, ends⟩)
    · obtain ⟨answer, impossible, -⟩ := traces_run_ask_iff.mp begins
      cases impossible
    · obtain ⟨answer, answered, rfl⟩ := traces_run_ask_iff.mp begins
      cases answered
      exact ⟨_, back, rfl, ends⟩
  · rintro ⟨answer, rest, rfl, ends⟩
    exact .inr ⟨[_], rest, answer, rfl, traces_run_ask_iff.mpr ⟨answer, rfl, rfl⟩, ends⟩

theorem traces_run_adapt_iff {adapted : ε → ε'} {outcome : Except ε' α} :
    Traces (first.adapt adapted).run trace outcome ↔
      ∃ original, outcome = original.mapError adapted ∧ Traces first.run trace original := by
  rw [run_adapt, traces_bind_iff]
  constructor
  · rintro ⟨front, back, result, rfl, begins, ends⟩
    obtain ⟨rfl, rfl⟩ := traces_pure_iff.mp ends
    exact ⟨result, rfl, by simpa using begins⟩
  · rintro ⟨result, rfl, traced⟩
    exact ⟨trace, [], result, by simp, traced, .done _⟩

theorem traces_run_adapt_ok_iff {adapted : ε → ε'} {value : α} :
    Traces (first.adapt adapted).run trace (.ok value) ↔ Traces first.run trace (.ok value) := by
  rw [traces_run_adapt_iff]
  constructor
  · rintro ⟨original, same, traced⟩
    cases original with
    | error error => cases same
    | ok given =>
        obtain rfl := Except.ok.inj same
        exact traced
  · intro traced
    exact ⟨.ok value, rfl, traced⟩

end Failures

section Interpretation

variable {Question' : Type} {Answer' : Question' → Type}
  {reply : (question : Question) → Procedure Question' Answer' (Answer question)}

theorem interpret_bind (first : Procedure Question Answer α)
    (second : α → Procedure Question Answer β) :
    (first >>= second).interpret reply =
      first.interpret reply >>= fun value => (second value).interpret reply := by
  induction first with
  | done value => rfl
  | ask question next ih =>
      have later : (fun answer => ((next answer).bind second).interpret reply) =
          fun answer => ((next answer).interpret reply).bind fun value =>
            (second value).interpret reply := funext ih
      show (reply question).bind _ = ((reply question).bind _).bind _
      rw [bind_assoc, later]

/-- A part that fails ends the sequence also where its questions are interpreted. -/
theorem interpret_run_bind (first : ExceptT ε (Procedure Question Answer) α)
    (second : α → ExceptT ε (Procedure Question Answer) β) :
    (first >>= second).run.interpret reply =
      (ExceptT.mk (first.run.interpret reply) >>= fun value =>
        ExceptT.mk ((second value).run.interpret reply)).run := by
  rw [ExceptT.run_bind, ExceptT.run_bind, interpret_bind]
  apply congrArg (first.run.interpret reply >>= ·)
  funext result
  cases result <;> rfl

theorem interpret_run_adapt (first : ExceptT ε (Procedure Question Answer) α) (adapted : ε → ε') :
    (first.adapt adapted).run.interpret reply =
      ((ExceptT.mk (first.run.interpret reply)).adapt adapted).run := by
  rw [run_adapt, run_adapt, interpret_bind]
  rfl

end Interpretation

/-- A procedure that is asked in place of each question by one question has its
traces translated event by event. -/
theorem Traces.of_interpret {Question' : Type} {Answer' : Question' → Type}
    {reply : (question : Question) → Procedure Question' Answer' (Answer question)}
    {translate : (question : Question) × Answer question → (question : Question') × Answer' question}
    (one : ∀ {question trace answer}, Traces (reply question) trace answer →
      trace = [translate ⟨question, answer⟩])
    {procedure : Procedure Question Answer α} {trace : Trace Question' Answer'} {value : α}
    (traced : Traces (procedure.interpret reply) trace value) :
    ∃ inner, Traces procedure inner value ∧ trace = inner.map translate := by
  induction procedure generalizing trace with
  | done given =>
      obtain ⟨rfl, rfl⟩ := traces_pure_iff.mp traced
      exact ⟨[], .done _, rfl⟩
  | ask question next ih =>
      obtain ⟨front, back, answer, rfl, replies, later⟩ := Traces.of_bind traced
      obtain ⟨inner, follows, rfl⟩ := ih answer later
      obtain rfl := one replies
      exact ⟨_, .ask follows, rfl⟩

section Passing

/-! Where each question is passed on as one question of another kind, a trace of what was
passed on tells the procedure's own trace, event by event. -/

variable {Question' : Type} {Answer' : Question' → Type} (asked : Question → Question')
  (heard : (question : Question) → Answer' (asked question) → Answer question)

/-- An event in which a question is passed on, and what it tells of the question. -/
inductive Conveys : (question : Question') × Answer' question →
    (question : Question) × Answer question → Prop where
  | passed (question : Question) (answer : Answer' (asked question)) :
      Conveys ⟨asked question, answer⟩ ⟨question, heard question answer⟩

/-- A procedure asks another question in place of each of its own. -/
def pass (procedure : Procedure Question Answer α) : Procedure Question' Answer' α :=
  procedure.interpret fun question =>
    query (asked question) >>= fun answer => pure (heard question answer)

variable {asked heard} {procedure : Procedure Question Answer α} {trace : Trace Question' Answer'}
  {value : α}

theorem Conveys.of_heard {question : Question} {answer : Answer' (asked question)}
    {given : Answer question} (hears : heard question answer = given) :
    Conveys asked heard ⟨asked question, answer⟩ ⟨question, given⟩ :=
  hears ▸ .passed question answer

theorem traces_pass_iff : Traces (procedure.pass asked heard) trace value ↔
    ∃ told, List.Forall₂ (Conveys asked heard) trace told ∧ Traces procedure told value := by
  constructor
  · intro traced
    induction procedure generalizing trace with
    | done given =>
        obtain ⟨rfl, rfl⟩ := traces_pure_iff.mp traced
        exact ⟨[], .nil, .done _⟩
    | ask question next ih =>
        obtain _ | ⟨later⟩ := traced
        obtain ⟨told, conveyed, follows⟩ := ih _ later
        exact ⟨_ :: told, .cons (.passed question _) conveyed, .ask follows⟩
  · intro both
    obtain ⟨told, conveyed, traced⟩ := both
    induction traced generalizing trace with
    | done given =>
        cases conveyed
        exact .done _
    | ask later ih =>
        obtain _ | ⟨first, rest⟩ := conveyed
        cases first
        exact .ask (ih rest)

end Passing

def noting (answer : (question : Question) → Option (Answer question))
    (past : Trace Question Answer) (question : Question) :
    Option (Answer question × Trace Question Answer) :=
  (answer question).map fun given => (given, past ++ [⟨question, given⟩])

theorem traces_run?_noting {answer : (question : Question) → Option (Answer question)}
    {procedure : Procedure Question Answer α} {past noted : Trace Question Answer} {value : α}
    (ran : procedure.run? (noting answer) past = some (value, noted)) :
    ∃ trace, noted = past ++ trace ∧ Traces procedure trace value := by
  induction procedure generalizing past with
  | done given =>
      cases ran
      exact ⟨[], (List.append_nil _).symm, .done _⟩
  | ask question next ih =>
      cases answered : answer question with
      | none => simp [run?, noting, answered] at ran
      | some given =>
          simp only [run?, noting, answered] at ran
          obtain ⟨trace, rfl, follows⟩ := ih given ran
          exact ⟨⟨question, given⟩ :: trace, by simp, .ask follows⟩

section Replies

variable {State : Type}

/-- Surroundings that go from one state to another give the answers of a trace. -/
inductive Replied (reply : State → (question : Question) → Answer question × State) :
    State → Trace Question Answer → State → Prop where
  | done (state : State) : Replied reply state [] state
  | ask {state last : State} {question : Question} {trace : Trace Question Answer}
      (later : Replied reply (reply state question).2 trace last) :
      Replied reply state (⟨question, (reply state question).1⟩ :: trace) last

theorem run_bind (reply : State → (question : Question) → Answer question × State)
    (first : Procedure Question Answer α) (second : α → Procedure Question Answer β) (state : State) :
    (first >>= second).run reply state =
      (second (first.run reply state).1).run reply (first.run reply state).2 := by
  induction first generalizing state with
  | done value => rfl
  | ask question next ih => exact ih _ _

theorem run_ask_bind (reply : State → (question : Question) → Answer question × State)
    (question : Question) (next : Answer question → ExceptT ε (Procedure Question Answer) β)
    (state : State) :
    (ExceptT.lift (query question) >>= next).run.run reply state =
      (next (reply state question).1).run.run reply (reply state question).2 := rfl

theorem run_run_bind (reply : State → (question : Question) → Answer question × State)
    (first : ExceptT ε (Procedure Question Answer) α)
    (next : α → ExceptT ε (Procedure Question Answer) β) (state : State) :
    (first >>= next).run.run reply state =
      match first.run.run reply state with
      | (.ok value, later) => (next value).run.run reply later
      | (.error error, later) => (.error error, later) := by
  rw [ExceptT.run_bind, run_bind]
  rcases first.run.run reply state with ⟨result, later⟩
  cases result <;> rfl

theorem traces_run (reply : State → (question : Question) → Answer question × State)
    (procedure : Procedure Question Answer α) (state : State) :
    ∃ trace, Traces procedure trace (procedure.run reply state).1 ∧
      Replied reply state trace (procedure.run reply state).2 := by
  induction procedure generalizing state with
  | done value => exact ⟨[], .done value, .done state⟩
  | ask question next ih =>
      obtain ⟨trace, traced, replied⟩ := ih (reply state question).1 (reply state question).2
      exact ⟨_, .ask traced, .ask replied⟩

end Replies

section Leaves

/-! Properties of traces that a whole has if its parts have them. -/

structure Additive (kept : Trace Question Answer → Prop) : Prop where
  nil : kept []
  append : ∀ {front back}, kept front → kept back → kept (front ++ back)

def Leaves (kept : Trace Question Answer → Prop) (procedure : Procedure Question Answer α) : Prop :=
  ∀ trace value, Traces procedure trace value → kept trace

variable {kept : Trace Question Answer → Prop}

theorem leaves_pure (additive : Additive kept) (value : α) :
    Leaves kept (pure value : Procedure Question Answer α) := by
  intro trace result traced
  obtain ⟨rfl, -⟩ := traces_pure_iff.mp traced
  exact additive.nil

theorem Leaves.bind (additive : Additive kept) {first : Procedure Question Answer α}
    {second : α → Procedure Question Answer β} (begins : Leaves kept first)
    (ends : ∀ value, Leaves kept (second value)) : Leaves kept (first >>= second) := by
  intro trace result traced
  obtain ⟨front, back, value, rfl, starts, later⟩ := traces_bind_iff.mp traced
  exact additive.append (begins _ _ starts) (ends value _ _ later)

section Failures

variable {first : ExceptT ε (Procedure Question Answer) α}

theorem leaves_run_bind (additive : Additive kept)
    {second : α → ExceptT ε (Procedure Question Answer) β} (begins : Leaves kept first.run)
    (ends : ∀ value, Leaves kept (second value).run) : Leaves kept (first >>= second).run := by
  intro trace result traced
  rcases traces_run_bind_iff.mp traced with ⟨error, -, fails⟩ | ⟨front, back, value, rfl, starts, later⟩
  · exact begins _ _ fails
  · exact additive.append (begins _ _ starts) (ends value _ _ later)

theorem leaves_run_adapt {adapted : ε → ε'} (leaves : Leaves kept first.run) :
    Leaves kept (first.adapt adapted).run := by
  intro trace result traced
  obtain ⟨original, -, follows⟩ := traces_run_adapt_iff.mp traced
  exact leaves _ _ follows

theorem leaves_run_lift {procedure : Procedure Question Answer α} (leaves : Leaves kept procedure) :
    Leaves kept (ExceptT.lift procedure : ExceptT ε (Procedure Question Answer) α).run := by
  intro trace result traced
  obtain ⟨value, -, follows⟩ := traces_run_lift_iff.mp traced
  exact leaves _ _ follows

end Failures

end Leaves

end Rollout.Procedure
