import Rollout.Proofs.Installer.Phase
import Rollout.Proofs.Text.ShellWord

namespace Rollout.Remote

open Procedure
open Text.ShellWord (bare literal words? wordsFrom wordsFrom_quote)

/-! What a remote shell makes of the command for a script.

The command is one plain command of three words, and the script is the end of the last one.
All of its characters are literal there, so whatever is rendered into a script, the outer shell
finds nothing in it that ends the word, expands, or starts another command.
-/

/-- The command for a script is one plain command, in which the script is literal. -/
theorem words?_stepCommand (script : String) :
    words? (stepCommand script) =
      some [bare "bash".toList, bare "-lc".toList, literal ("set -e\n" ++ script).toList] := by
  have special : ("set -e\n" ++ script).toList.all Text.ShellWord.isPlain = false := by
    rw [String.toList_append, List.all_append]
    rfl
  have line : (stepCommand script).toList =
      "bash -lc ".toList ++ Text.ShellWord.quote ("set -e\n" ++ script).toList := by
    rw [stepCommand, String.toList_append]
    exact congrArg _ String.toList_ofList
  have started (rest : List Char) : wordsFrom .between ("bash -lc ".toList ++ rest) =
      ((wordsFrom .between rest).map (bare "-lc".toList :: ·)).map (bare "bash".toList :: ·) := rfl
  rw [words?, line, started, wordsFrom_quote special]
  rfl

/-- What a phase sends are commands for rendered scripts of its steps. -/
theorem step_of_sent {spec : Installer.Spec} {phase : Installer.Phase} {context : Template.Context}
    {trace : Trace Installer.Action Installer.Action.Result}
    {outcome : Except Installer.StepError Nat}
    (traced : Traces (spec.runPhase phase context).run trace outcome) :
    ∀ command ∈ Installer.sent trace, ∃ step ∈ spec.steps,
      command = stepCommand (context.render step.run) := by
  obtain ⟨failure, served, -⟩ := Installer.traces_runPhase traced
  obtain ⟨sends, -⟩ := served.sends
  rw [Installer.sent_exchanges, Installer.Spec.errands, Installer.commands_errandsOf] at sends
  intro command sent
  obtain ⟨⟨step, index⟩, placed, rfl⟩ := List.mem_map.mp (sends.subset sent)
  have selected := (List.mem_filter.mp placed).1
  have numbered := (List.mem_filter.mp selected).1
  exact ⟨step, List.fst_mem_of_mem_zipIdx numbered, rfl⟩

/-- Scripts survive the outer shell.  Read by its rules for quotes, escapes and blanks, the
command for a script is exactly the words `bash`, `-lc` and the script behind `set -e`, and
every character of that last word is literal.  So is whatever a phase of an installation
renders into the scripts that it sends. -/
theorem scripts_stay_literal :
    (∀ script : String, words? (stepCommand script) =
      some [bare "bash".toList, bare "-lc".toList, literal ("set -e\n" ++ script).toList]) ∧
    ∀ (spec : Installer.Spec) (phase : Installer.Phase) (context : Template.Context)
      (trace : Trace Installer.Action Installer.Action.Result)
      (outcome : Except Installer.StepError Nat),
      Traces (spec.runPhase phase context).run trace outcome →
      ∀ command ∈ Installer.sent trace, ∃ step ∈ spec.steps, words? command =
        some [bare "bash".toList, bare "-lc".toList,
          literal ("set -e\n" ++ context.render step.run).toList] := by
  refine ⟨words?_stepCommand, ?_⟩
  intro spec phase context trace outcome traced command sent
  obtain ⟨step, member, rfl⟩ := step_of_sent traced command sent
  exact ⟨step, member, words?_stepCommand _⟩

example : words? (stepCommand "touch it's; reboot") =
    some [bare "bash".toList, bare "-lc".toList, literal "set -e\ntouch it's; reboot".toList] := by
  decide +kernel

end Rollout.Remote
