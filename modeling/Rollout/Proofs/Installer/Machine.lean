import Mathlib.Data.List.Sigma
import Rollout.Proofs.Installer.Phase

namespace Rollout.Installer

open Procedure

/-! Phases on a machine that answers as it likes.

A machine may answer a command by all that it was sent before.  It receives the
commands of a phase up to the first that fails and none after it, and that command
alone decides the outcome.
-/

/-- How a machine answers the next command, by the commands it has received. -/
structure Machine where
  output : List String → String → Except Remote.Error Remote.Output
  terminal : List String → String → List Terminal.Answer → Terminal.Reply

namespace Machine

def reply (machine : Machine) (received : List String) :
    (action : Action) → action.Result × List String
  | .emit _ => ((), received)
  | .pause _ => ((), received)
  | .command text => (machine.output received text, received ++ [text])
  | .terminal text answers => (machine.terminal received text answers, received ++ [text])

def run {α : Type} (machine : Machine) (received : List String) (steps : Steps α) :
    Except StepError α × List String :=
  Procedure.run machine.reply steps.run received

def failure? (machine : Machine) (received : List String) (errand : Errand) : Option StepError :=
  Event.failure? errand.label ⟨errand.action, (machine.reply received errand.action).1⟩

/-- The first of several errands that fails when all before it were sent, by its
place, and why. -/
def firstFailure? (machine : Machine) (received : List String) (errands : List Errand) :
    Option (Nat × StepError) :=
  (List.range errands.length).findSome? fun place => do
    let errand ← errands[place]?
    let before := (errands.take place).map (·.command)
    let error ← machine.failure? (received ++ before) errand
    some (place, error)

variable {machine : Machine} {received last : List String}

theorem firstFailure?_cons {errand : Errand} {rest : List Errand} :
    machine.firstFailure? received (errand :: rest) =
      match machine.failure? received errand with
      | some error => some (0, error)
      | none => (machine.firstFailure? (received ++ [errand.command]) rest).map fun (place, error) =>
          (place + 1, error) := by
  unfold firstFailure?
  rw [List.length_cons, List.range_succ_eq_map, List.findSome?_cons, List.findSome?_map]
  cases failed : machine.failure? received errand with
  | some error => simp [failed]
  | none => simp [failed, Function.comp_def, List.map_findSome?]

inductive Answers (machine : Machine) : List String → List Event → List String → Prop where
  | done (received : List String) : Answers machine received [] received
  | next {received last : List String} {action : Action} {events : List Event}
      (later : Answers machine (machine.reply received action).2 events last) :
      Answers machine received (⟨action, (machine.reply received action).1⟩ :: events) last

theorem reply_of_not_exchange {action : Action} (still : ¬ action.isExchange = true) :
    (machine.reply received action).2 = received := by
  cases action <;> first | rfl | exact absurd rfl still

theorem answers_of_replied {trace : Trace Action Action.Result}
    (replied : Replied machine.reply received trace last) :
    machine.Answers received (exchanges trace) last := by
  induction replied with
  | done received => exact .done received
  | @ask received last action trace later ih =>
      by_cases exchanged : action.isExchange = true
      · rw [exchanges_cons, if_pos exchanged]
        exact .next ih
      · rw [exchanges_cons, if_neg exchanged]
        rwa [reply_of_not_exchange exchanged] at ih

theorem reply_errand (errand : Errand) :
    (machine.reply received errand.action).2 = received ++ [errand.command] := by
  unfold Errand.action
  split <;> rfl

theorem served_on_machine {errands : List Errand} {events : List Event}
    {failure : Option StepError} (served : Served errands events failure)
    (answers : machine.Answers received events last) :
    (failure, last) =
      match machine.firstFailure? received errands with
      | none => (none, received ++ errands.map (·.command))
      | some (place, error) =>
          (some error, received ++ (errands.take (place + 1)).map (·.command)) := by
  -- The commands received so far decide the next answer, so they vary with the errands.
  induction served generalizing received with
  | all =>
      cases answers
      simp [firstFailure?]
  | @next errand event errands events failure asked fine later ih =>
      obtain _ | @⟨_, _, action, _, rest⟩ := answers
      obtain rfl : action = errand.action := asked
      have verdict : machine.failure? received errand = none := fine
      rw [reply_errand] at rest
      rw [ih rest, firstFailure?_cons, verdict]
      cases machine.firstFailure? (received ++ [errand.command]) errands with
      | none => simp
      | some first => simp
  | @stop errand event errands error asked failed =>
      obtain _ | @⟨_, _, action, _, rest⟩ := answers
      obtain rfl : action = errand.action := asked
      have verdict : machine.failure? received errand = some error := failed
      cases rest
      rw [firstFailure?_cons, verdict, reply_errand]
      simp

theorem run_phase (machine : Machine) (received : List String) (spec : Spec) (phase : Phase)
    (context : Template.Context) :
    let errands := spec.errands phase context
    machine.run received (spec.runPhase phase context) =
      match machine.firstFailure? received errands with
      | none => (.ok (spec.selected phase context).length, received ++ errands.map (·.command))
      | some (place, error) =>
          (.error error, received ++ (errands.take (place + 1)).map (·.command)) := by
  intro errands
  obtain ⟨trace, traced, replied⟩ := traces_run machine.reply
    (spec.runPhase phase context).run received
  obtain ⟨failure, served, outcome⟩ := traces_runPhase traced
  have ends := served_on_machine served (answers_of_replied replied)
  have ran : machine.run received (spec.runPhase phase context) =
      (ended (spec.selected phase context).length failure,
        (machine.run received (spec.runPhase phase context)).2) := Prod.ext outcome rfl
  rw [ran]
  cases first : machine.firstFailure? received errands with
  | none =>
      obtain ⟨rfl, last⟩ := Prod.mk.inj (first ▸ ends)
      exact Prod.ext rfl last
  | some found =>
      obtain ⟨rfl, last⟩ := Prod.mk.inj (first ▸ ends)
      exact Prod.ext rfl last

theorem run_phase_sends (machine : Machine) (received : List String) (spec : Spec) (phase : Phase)
    (context : Template.Context) :
    ∃ ran : List (Step × Nat), ran.Sublist (spec.selected phase context) ∧
      (machine.run received (spec.runPhase phase context)).2 =
        received ++ ran.map fun (step, _) => step.command context := by
  let scripted := (spec.selected phase context).filter fun (step, _) => !Text.isBlankText step.run
  have within : scripted.Sublist (spec.selected phase context) := List.filter_sublist
  have scripts : (spec.errands phase context).map (·.command) =
      scripted.map fun (step, _) => step.command context :=
    commands_errandsOf context _
  have sends := congrArg Prod.snd (run_phase machine received spec phase context)
  split at sends
  · exact ⟨scripted, within, by rw [sends, scripts]⟩
  · rename_i place error _
    refine ⟨scripted.take (place + 1), (List.take_sublist _ _).trans within, ?_⟩
    rw [sends, List.map_take, scripts, List.map_take]

end Machine

theorem Spec.nodup_selected (spec : Spec) (phase : Phase) (context : Template.Context) :
    (spec.selected phase context).Nodup :=
  (List.nodup_zipIdx_map_snd spec.steps).of_map.filter _

theorem Spec.selected_subset (spec : Spec) (phase : Phase) (context : Template.Context) :
    spec.selected phase context ⊆ spec.steps.zipIdx :=
  List.filter_subset_self _

theorem Spec.disjoint_selected (spec : Spec) (context : Template.Context) :
    (spec.selected .install context).Disjoint (spec.selected .ssl context) := by
  intro placed installs secures
  have first := (List.mem_filter.mp installs).2
  have second := (List.mem_filter.mp secures).2
  simp only [decide_eq_true_eq] at first second
  have same := first.1.symm.trans second.1
  cases same

/-- On a machine that answers as it likes, a phase sends the scripts of its steps in
declared order up to the first that fails, and that failure is its outcome; without one,
it counts its steps.  One phase after the other sends the script of no step twice. -/
theorem phases_run_successful_prefix (machine : Machine) (received : List String) (spec : Spec)
    (context : Template.Context) :
    (∀ phase,
      let errands := spec.errands phase context
      machine.run received (spec.runPhase phase context) =
        match machine.firstFailure? received errands with
        | none => (.ok (spec.selected phase context).length, received ++ errands.map (·.command))
        | some (place, error) =>
            (.error error, received ++ (errands.take (place + 1)).map (·.command))) ∧
      ∃ ran : List (Step × Nat), ran.Nodup ∧ ran ⊆ spec.steps.zipIdx ∧
        let installed := machine.run received (spec.runPhase .install context)
        (machine.run installed.2 (spec.runPhase .ssl context)).2 =
          received ++ ran.map fun (step, _) => step.command context := by
  refine ⟨fun phase => machine.run_phase received spec phase context, ?_⟩
  obtain ⟨first, within, sends⟩ := machine.run_phase_sends received spec .install context
  obtain ⟨second, later, resumes⟩ := machine.run_phase_sends
    (machine.run received (spec.runPhase .install context)).2 spec .ssl context
  refine ⟨first ++ second, ?_, ?_, ?_⟩
  · refine List.nodup_append'.mpr ⟨(spec.nodup_selected .install context).sublist within,
      (spec.nodup_selected .ssl context).sublist later, ?_⟩
    intro placed installs secures
    exact spec.disjoint_selected context (within.subset installs) (later.subset secures)
  · intro placed member
    rcases List.mem_append.mp member with installs | secures
    · exact spec.selected_subset .install context (within.subset installs)
    · exact spec.selected_subset .ssl context (later.subset secures)
  · intro installed
    rw [resumes, sends, List.map_append, List.append_assoc]

end Rollout.Installer
