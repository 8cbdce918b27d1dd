import Rollout.Proofs.Installer.Steps

namespace Rollout.Installer

open Procedure

/-! What a phase sends to a machine.

A phase serves the errands of its steps one after the other and stops at the first
that fails.  `Served` says which exchanges that takes, whatever the machine answers.
-/

/-- The steps of a phase with their places in the document.  A step with a guard is
among them if its guard is true. -/
def Spec.selected (spec : Spec) (phase : Phase) (context : Template.Context) : List (Step × Nat) :=
  spec.steps.zipIdx.filter fun (step, _) =>
    step.phase = phase ∧ (phase = .ssl → context.evaluate step.condition = true)

def errandsOf (context : Template.Context) (placed : List (Step × Nat)) : List Errand :=
  placed.filterMap fun (step, index) => step.errand? index context

def Spec.errands (spec : Spec) (phase : Phase) (context : Template.Context) : List Errand :=
  errandsOf context (spec.selected phase context)

theorem commands_errandsOf (context : Template.Context) (placed : List (Step × Nat)) :
    (errandsOf context placed).map (·.command) =
      (placed.filter fun (step, _) => !Text.isBlankText step.run).map fun (step, _) =>
        step.command context := by
  induction placed with
  | nil => rfl
  | cons first rest ih =>
      obtain ⟨step, index⟩ := first
      cases blank : Text.isBlankText step.run with
      | true => simpa [errandsOf, Step.errand?, blank] using ih
      | false => simpa [errandsOf, Step.errand?, blank] using ih

def exchanges (trace : Trace Action Action.Result) : List Event :=
  trace.filter (·.1.isExchange)

/-- Errands are served by exchanges up to the first that fails, or all of them. -/
inductive Served : List Errand → List Event → Option StepError → Prop where
  | all : Served [] [] none
  | next {errand : Errand} {event : Event} {errands : List Errand} {events : List Event}
      {failure : Option StepError} (asked : event.1 = errand.action)
      (fine : event.failure? errand.label = none) (later : Served errands events failure) :
      Served (errand :: errands) (event :: events) failure
  | stop {errand : Errand} {event : Event} {errands : List Errand} {error : StepError}
      (asked : event.1 = errand.action) (failed : event.failure? errand.label = some error) :
      Served (errand :: errands) [event] (some error)

def Action.script? : Action → Option String
  | .command text | .terminal text _ => some text
  | .emit _ | .pause _ => none

def sent (trace : Trace Action Action.Result) : List String :=
  trace.filterMap (·.1.script?)

theorem Step.runsIn_iff {step : Step} {phase : Phase} {context : Template.Context} :
    step.runsIn phase context = true ↔
      step.phase = phase ∧ (phase = .ssl → context.evaluate step.condition = true) := by
  cases phase <;> simp [Step.runsIn]

theorem Errand.isExchange (errand : Errand) : errand.action.isExchange = true := by
  unfold Errand.action
  split <;> rfl

theorem Errand.script? (errand : Errand) : errand.action.script? = some errand.command := by
  unfold Errand.action
  split <;> rfl

theorem sent_exchanges (trace : Trace Action Action.Result) : sent (exchanges trace) = sent trace := by
  induction trace with
  | nil => rfl
  | cons event rest ih =>
      obtain ⟨action, answer⟩ := event
      have first : sent (⟨action, answer⟩ :: rest) = action.script?.toList ++ sent rest := by
        cases action <;> rfl
      rw [first, ← ih]
      cases action <;> rfl

theorem Served.sends {errands : List Errand} {events : List Event} {failure : Option StepError}
    (served : Served errands events failure) :
    sent events <+: errands.map (·.command) ∧ (failure ≠ none → sent events ≠ []) := by
  induction served with
  | all => simp [sent]
  | @next errand event errands events failure asked fine later ih =>
      have first : sent (event :: events) = errand.command :: sent events := by
        simp [sent, asked, errand.script?]
      rw [first]
      exact ⟨by simpa using ih.1, by simp⟩
  | @stop errand event errands error asked failed =>
      have only : sent [event] = [errand.command] := by
        simp [sent, asked, errand.script?]
      rw [only]
      exact ⟨by simp, by simp⟩

theorem exchanges_cons (event : Event) (trace : Trace Action Action.Result) :
    exchanges (event :: trace) =
      if event.1.isExchange then event :: exchanges trace else exchanges trace :=
  List.filter_cons

theorem exchanges_append (front back : Trace Action Action.Result) :
    exchanges (front ++ back) = exchanges front ++ exchanges back :=
  List.filter_append ..

theorem exchanges_quiet {trace : Trace Action Action.Result}
    (quiet : ∀ event ∈ trace, event.1.isQuiet = true) : exchanges trace = [] := by
  apply List.filter_eq_nil_iff.mpr
  intro event member
  have still := quiet event member
  revert still
  cases event.1 <;> simp [Action.isQuiet, Action.isExchange]

theorem exchanges_told (lines : List Progress.Line) : exchanges (lines.map told) = [] := by
  apply List.filter_eq_nil_iff.mpr
  intro event member
  obtain ⟨line, -, rfl⟩ := List.mem_map.mp member
  simp [told, Action.isExchange]

variable {trace : Trace Action Action.Result} {phase : Phase} {context : Template.Context}

/-- A step has one exchange if it sends something, and none otherwise. -/
theorem Step.exchanges_perform {step : Step} {index : Nat} {outcome : Except StepError Unit}
    (traced : Traces (step.perform index context).run trace outcome) :
    (step.errand? index context = none ∧ exchanges trace = [] ∧ outcome = .ok ()) ∨
      ∃ errand event, step.errand? index context = some errand ∧ event.1 = errand.action ∧
        exchanges trace = [event] ∧ outcome = ended () (event.failure? errand.label) := by
  obtain ⟨quiet, still, ⟨silent, rfl, rfl⟩ | ⟨errand, event, sent, asked, rfl, verdict⟩⟩ :=
    Step.traces_perform traced
  · exact .inl ⟨silent, exchanges_quiet still, rfl⟩
  · have exchanged : event.1.isExchange = true := by
      rw [asked]
      exact errand.isExchange
    have last : exchanges (event :: (Event.shown event).map told) = [event] := by
      rw [exchanges_cons, if_pos exchanged, exchanges_told]
    exact .inr ⟨errand, event, sent, asked,
      by rw [exchanges_append, exchanges_quiet still, last, List.nil_append], verdict⟩

theorem traces_counted {rest : Steps Nat} {outcome : Except StepError Nat}
    (traced : Traces (do let count ← rest; pure (count + 1) : Steps Nat).run trace outcome) :
    ∃ counted, Traces rest.run trace counted ∧ outcome = counted.map (· + 1) := by
  rcases traces_run_bind_iff.mp traced with ⟨error, rfl, fails⟩ | ⟨front, back, count, rfl, counts, adds⟩
  · exact ⟨.error error, fails, rfl⟩
  · obtain ⟨rfl, rfl⟩ := traces_run_pure_iff.mp adds
    exact ⟨.ok count, by simpa using counts, rfl⟩

theorem map_ended (count : Nat) (failure : Option StepError) :
    (ended count failure).map (· + 1) = ended (count + 1) failure := by
  cases failure <;> rfl

theorem traces_runSteps {steps : List Step} {index : Nat} {outcome : Except StepError Nat}
    (traced : Traces (runSteps phase context index steps).run trace outcome) :
    let selected := (steps.zipIdx index).filter (·.1.runsIn phase context)
    ∃ failure, Served (errandsOf context selected) (exchanges trace) failure ∧
      outcome = ended selected.length failure := by
  induction steps generalizing index trace outcome with
  | nil =>
      obtain ⟨rfl, rfl⟩ := traces_run_pure_iff.mp traced
      exact ⟨none, .all, rfl⟩
  | cons step rest ih =>
      unfold runSteps at traced
      by_cases runs : step.runsIn phase context = true
      · rw [if_pos runs] at traced
        simp only [List.zipIdx_cons, List.filter_cons, runs, if_true, List.length_cons]
        rcases traces_run_bind_iff.mp traced with
          ⟨error, rfl, performs⟩ | ⟨front, back, _, rfl, performs, later⟩
        -- The step has failed and the others are not reached.
        · rcases Step.exchanges_perform performs with
            ⟨-, -, impossible⟩ | ⟨errand, event, sent, asked, only, verdict⟩
          · cases impossible
          · cases failed : event.failure? errand.label with
            | none => simp [failed] at verdict
            | some cause =>
                refine ⟨some cause, ?_, by simpa [failed] using verdict⟩
                simp only [errandsOf, List.filterMap_cons, sent, only]
                exact .stop asked failed
        · obtain ⟨counted, counts, rfl⟩ := traces_counted later
          obtain ⟨failure, served, rfl⟩ := ih counts
          refine ⟨failure, ?_, map_ended _ failure⟩
          rw [exchanges_append]
          rcases Step.exchanges_perform performs with
            ⟨silent, only, -⟩ | ⟨errand, event, sent, asked, only, verdict⟩
          · simpa only [errandsOf, List.filterMap_cons, silent, only, List.nil_append] using served
          · simp only [errandsOf, List.filterMap_cons, sent, only, List.singleton_append]
            cases failed : event.failure? errand.label with
            | none => exact .next asked failed served
            | some cause => simp [failed] at verdict
      · rw [if_neg runs] at traced
        simp only [List.zipIdx_cons, List.filter_cons, runs]
        exact ih traced

theorem Spec.selected_eq (spec : Spec) :
    spec.selected phase context = spec.steps.zipIdx.filter (·.1.runsIn phase context) := by
  apply List.filter_congr
  intro placed _
  rw [Bool.eq_iff_iff, Step.runsIn_iff]
  exact decide_eq_true_iff

/-- What the install phase sends are the scripts of the steps without a guard. -/
theorem Spec.commands_install (spec : Spec) (context : Template.Context) :
    (spec.errands .install context).map (·.command) =
      ((spec.stepsIn .install).filter fun step => !Text.isBlankText step.run).map
        (·.command context) := by
  have placed : spec.stepsIn .install = (spec.selected .install context).map (·.1) := by
    have steps : spec.steps = spec.steps.zipIdx.map (·.1) := (List.zipIdx_map_fst 0 spec.steps).symm
    calc spec.stepsIn .install
        = (spec.steps.zipIdx.map (·.1)).filter (·.phase = .install) := by rw [← steps]; rfl
      _ = (spec.selected .install context).map (·.1) := by
          rw [List.filter_map]
          simp [Spec.selected, Function.comp_def]
  rw [Spec.errands, commands_errandsOf, placed, List.filter_map, List.map_map]
  rfl

theorem traces_runPhase {spec : Spec} {outcome : Except StepError Nat}
    (traced : Traces (spec.runPhase phase context).run trace outcome) :
    ∃ failure, Served (spec.errands phase context) (exchanges trace) failure ∧
      outcome = ended (spec.selected phase context).length failure := by
  rw [Spec.errands, Spec.selected_eq]
  exact traces_runSteps traced

end Rollout.Installer
