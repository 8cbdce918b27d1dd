import Rollout.Installer.Run
import Rollout.Proofs.Procedure.Traces

namespace Rollout.Installer

open Procedure

/-! What one step asks of its surroundings.

A step announces itself and pauses; nothing comes back from that.  Then it has at
most one exchange with the machine, shows what came of it, and fails exactly when
the exchange did.
-/

abbrev Event := (action : Action) × action.Result

def Action.isExchange : Action → Bool
  | .command _ | .terminal .. => true
  | .emit _ | .pause _ => false

def Action.isQuiet : Action → Bool
  | .emit (.plain _) | .pause _ => true
  | .emit _ | .command _ | .terminal .. => false

/-- What a step sends to the machine, and the label under which it fails. -/
structure Errand where
  label : String
  command : String
  /-- What is typed, if the command is to run in a terminal. -/
  answers : Option (List Terminal.Answer)

def Errand.action (errand : Errand) : Action :=
  match errand.answers with
  | some answers => .terminal errand.command answers
  | none => .command errand.command

def Step.command (step : Step) (context : Template.Context) : String :=
  Remote.stepCommand (context.render step.run)

def Step.errand? (step : Step) (index : Nat) (context : Template.Context) : Option Errand :=
  if Text.isBlankText step.run then none
  else some {
    label := step.label index
    command := step.command context
    answers :=
      if step.terminal.enabled then
        some (step.terminal.autoAnswers.map (.of Regex.Pattern.compile? context))
      else none }

def Event.failure? (label : String) : Event → Option StepError
  | ⟨.command _, .error cause⟩ => some (.unreachable label cause)
  | ⟨.command _, .ok output⟩ =>
      if output.isSuccess then none
      else some (.commandFailed label (statusText output.code) (stderrTail output.stderr))
  | ⟨.terminal .., .unopened cause⟩ => some (.terminalLost label (.opening cause))
  | ⟨.terminal .., .ran _ (.error cause)⟩ => some (.terminalLost label cause)
  | ⟨.terminal .., .ran _ (.ok code)⟩ =>
      if code = some 0 then none else some (.terminalFailed label (statusText code))
  | _ => none

def Event.shown : Event → List Progress.Line
  | ⟨.command _, .ok output⟩ =>
      (shownLines output.stdout ++ shownLines output.stderr).map (.plain ∘ String.ofList)
  | ⟨.terminal .., .ran transcript _⟩ => transcript.lines
  | _ => []

def told (line : Progress.Line) : Event := ⟨.emit line, ()⟩

/-- How a step ends that fails for a reason or for none. -/
def ended {α : Type} (value : α) : Option StepError → Except StepError α
  | none => .ok value
  | some error => .error error

@[simp] theorem ended_none {α : Type} (value : α) : ended value none = .ok value := rfl

@[simp] theorem ended_some {α : Type} (value : α) (error : StepError) :
    ended value (some error) = .error error := rfl

variable {trace : Trace Action Action.Result}

theorem traces_forM_emit {lines : List Progress.Line} {outcome : Except StepError Unit}
    (traced : Traces (lines.forM fun line => ask (.emit line)).run trace outcome) :
    outcome = .ok () ∧ trace = lines.map told := by
  induction lines generalizing trace with
  | nil =>
      obtain ⟨rfl, rfl⟩ := traces_run_pure_iff.mp traced
      exact ⟨rfl, rfl⟩
  | cons line rest ih =>
      obtain ⟨-, back, rfl, later⟩ := traces_run_ask_bind_iff.mp traced
      obtain ⟨rfl, rfl⟩ := ih later
      exact ⟨rfl, rfl⟩

theorem traces_forM_say {texts : List String} {outcome : Except StepError Unit}
    (traced : Traces (texts.forM say).run trace outcome) :
    outcome = .ok () ∧ trace = (texts.map .plain).map told := by
  apply traces_forM_emit
  have same : (texts.map Progress.Line.plain).forM (fun line => ask (.emit line)) =
      (texts.forM say : Steps Unit) := List.forM_map
  rwa [same]

theorem traces_verdict {succeeded : Prop} [Decidable succeeded] {error : StepError}
    {outcome : Except StepError Unit}
    (traced : Traces (if succeeded then pure () else throw error : Steps Unit).run trace outcome) :
    trace = [] ∧ outcome = ended () (if succeeded then none else some error) := by
  by_cases success : succeeded
  · rw [if_pos success] at traced ⊢
    exact traces_run_pure_iff.mp traced
  · rw [if_neg success] at traced ⊢
    exact traces_run_throw_iff.mp traced

theorem traces_runCommand {label command : String} {outcome : Except StepError Unit}
    (traced : Traces (runCommand label command).run trace outcome) :
    ∃ event : Event, event.1 = .command command ∧
      trace = event :: (Event.shown event).map told ∧ outcome = ended () (event.failure? label) := by
  obtain ⟨answer, rest, rfl, later⟩ := traces_run_ask_bind_iff.mp traced
  refine ⟨⟨.command command, answer⟩, rfl, ?_⟩
  cases answer with
  | error cause =>
      obtain ⟨rfl, rfl⟩ := traces_run_throw_iff.mp later
      exact ⟨rfl, rfl⟩
  | ok output =>
      have relayed : relay output =
          ((shownLines output.stdout ++ shownLines output.stderr).map String.ofList).forM say :=
        List.forM_map.symm
      simp only [relayed] at later
      rcases traces_run_bind_iff.mp later with ⟨error, -, spoken⟩ | ⟨front, back, _, rfl, spoken, last⟩
      · cases (traces_forM_say spoken).1
      · obtain ⟨-, rfl⟩ := traces_forM_say spoken
        obtain ⟨rfl, rfl⟩ := traces_verdict last
        exact ⟨by simp [Event.shown], rfl⟩

theorem traces_runTerminal {label command : String} {answers : List Terminal.Answer}
    {outcome : Except StepError Unit}
    (traced : Traces (runTerminal label command answers).run trace outcome) :
    ∃ event : Event, event.1 = .terminal command answers ∧
      trace = event :: (Event.shown event).map told ∧ outcome = ended () (event.failure? label) := by
  obtain ⟨answer, rest, rfl, later⟩ := traces_run_ask_bind_iff.mp traced
  refine ⟨⟨.terminal command answers, answer⟩, rfl, ?_⟩
  cases answer with
  | unopened cause =>
      obtain ⟨rfl, rfl⟩ := traces_run_throw_iff.mp later
      exact ⟨rfl, rfl⟩
  | ran transcript result =>
      rcases traces_run_bind_iff.mp later with ⟨error, -, emits⟩ | ⟨front, back, _, rfl, emits, last⟩
      · cases (traces_forM_emit emits).1
      · obtain ⟨-, rfl⟩ := traces_forM_emit emits
        cases result with
        | error cause =>
            obtain ⟨rfl, rfl⟩ := traces_run_throw_iff.mp last
            exact ⟨by simp [Event.shown], rfl⟩
        | ok code =>
            obtain ⟨rfl, rfl⟩ := traces_verdict last
            exact ⟨by simp [Event.shown], rfl⟩

theorem Step.traces_rest {step : Step} {outcome : Except StepError Unit}
    (traced : Traces step.rest.run trace outcome) :
    outcome = .ok () ∧ ∀ event ∈ trace, event.1.isQuiet = true := by
  unfold Step.rest at traced
  split at traced
  · obtain ⟨-, back, rfl, later⟩ := traces_run_ask_bind_iff.mp traced
    obtain ⟨-, rfl, rfl⟩ := traces_run_ask_iff.mp later
    exact ⟨rfl, by simp [Action.isQuiet]⟩
  · obtain ⟨rfl, rfl⟩ := traces_run_pure_iff.mp traced
    exact ⟨rfl, by simp⟩

theorem Step.traces_carryOut {step : Step} {index : Nat} {context : Template.Context}
    {outcome : Except StepError Unit}
    (traced : Traces (step.carryOut index context).run trace outcome) :
    (step.errand? index context = none ∧ trace = [] ∧ outcome = .ok ()) ∨
      ∃ errand event, step.errand? index context = some errand ∧ event.1 = errand.action ∧
        trace = event :: (Event.shown event).map told ∧
        outcome = ended () (event.failure? errand.label) := by
  unfold Step.carryOut at traced
  by_cases blank : Text.isBlankText step.run = true
  · rw [if_pos blank] at traced
    obtain ⟨rfl, rfl⟩ := traces_run_pure_iff.mp traced
    exact .inl ⟨by simp [Step.errand?, blank], rfl, rfl⟩
  · rw [if_neg blank] at traced
    right
    by_cases enabled : step.terminal.enabled = true
    · simp only [enabled, if_true] at traced
      obtain ⟨event, asked, shown, verdict⟩ := traces_runTerminal traced
      let answers := step.terminal.autoAnswers.map
        (Terminal.Answer.of Regex.Pattern.compile? context)
      exact ⟨⟨step.label index, step.command context, some answers⟩, event,
        by simp [Step.errand?, blank, enabled, answers], asked, shown, verdict⟩
    · simp only [enabled] at traced
      obtain ⟨event, asked, shown, verdict⟩ := traces_runCommand traced
      exact ⟨⟨step.label index, step.command context, none⟩, event,
        by simp [Step.errand?, blank, enabled], asked, shown, verdict⟩

/-- A step says and pauses as it likes, has its exchange, and shows what came of it. -/
theorem Step.traces_perform {step : Step} {index : Nat} {context : Template.Context}
    {outcome : Except StepError Unit}
    (traced : Traces (step.perform index context).run trace outcome) :
    ∃ quiet, (∀ event ∈ quiet, event.1.isQuiet = true) ∧
      ((step.errand? index context = none ∧ trace = quiet ∧ outcome = .ok ()) ∨
        ∃ errand event, step.errand? index context = some errand ∧ event.1 = errand.action ∧
          trace = quiet ++ event :: (Event.shown event).map told ∧
          outcome = ended () (event.failure? errand.label)) := by
  rcases traces_run_bind_iff.mp traced with ⟨error, -, spoken⟩ | ⟨remarks, back, _, rfl, spoken, later⟩
  · cases (traces_forM_say spoken).1
  rcases traces_run_bind_iff.mp later with ⟨error, -, rests⟩ | ⟨pause, work, _, rfl, rests, works⟩
  · cases (Step.traces_rest rests).1
  obtain ⟨-, rfl⟩ := traces_forM_say spoken
  obtain ⟨-, paused⟩ := Step.traces_rest rests
  refine ⟨(((step.remarks context).map .plain).map told) ++ pause, ?_, ?_⟩
  · intro event member
    rcases List.mem_append.mp member with said | member
    · simp only [List.map_map, List.mem_map] at said
      obtain ⟨text, -, rfl⟩ := said
      rfl
    · exact paused event member
  · rcases Step.traces_carryOut works with ⟨none, rfl, rfl⟩ | ⟨errand, event, some, asked, rfl, verdict⟩
    · exact .inl ⟨none, by simp, rfl⟩
    · exact .inr ⟨errand, event, some, asked, by simp, verdict⟩

end Rollout.Installer
