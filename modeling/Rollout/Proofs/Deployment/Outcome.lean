import Rollout.Proofs.Deployment.ControlLines
import Rollout.Proofs.Progress.Folding

namespace Rollout

/-! The outcome that a deployment reports.

However a deployment comes to its end, the last thing it does is to tell the outcome, and it
tells it only then.  What it tells of a failure is the message on one line.
-/

open Procedure Progress

/-- Lines that tell how a deployment has ended. -/
def Progress.Line.isOutcome : Line → Bool
  | .done | .failed _ => true
  | _ => false

namespace Progress

theorem isControl_of_isOutcome {line : Line} (ends : line.isOutcome = true) :
    line.isControl = true := by
  cases line with
  | done => rfl
  | failed message => rfl
  | _ => cases ends

theorem failed_text (message : String) :
    (Line.failed message).text = "[SELFHOSTED::ERROR] " ++ String.ofList (folded message.toList) :=
  rfl

/-- The failure line of a message is also that of its payload. -/
theorem failed_payload (message : String) :
    (Line.failed (String.ofList (folded message.toList))).text = (Line.failed message).text := by
  rw [failed_text, failed_text, String.toList_ofList, folded_folded]

theorem exists_joined (message : String) :
    ∃ lines, lines ≠ [] ∧ (∀ line ∈ lines, '\n' ∉ line) ∧
      message = String.ofList (List.intercalate ['\n'] lines) := by
  obtain ⟨piece, pieces, cut⟩ := Text.exists_splitAt '\n' message.toList
  refine ⟨Text.splitAt '\n' message.toList, by simp [cut], Text.not_mem_of_mem_splitAt, ?_⟩
  rw [Text.join_splitAt, String.ofList_toList]

theorem failed_joined {lines : List (List Char)} (some : lines ≠ [])
    (whole : ∀ line ∈ lines, '\n' ∉ line) :
    (Line.failed (String.ofList (List.intercalate ['\n'] lines))).text =
      "[SELFHOSTED::ERROR] " ++ String.ofList (List.intercalate [' '] (solid lines)) := by
  rw [failed_text, String.toList_ofList, folded_join some whole]

end Progress

namespace Deployment

variable {Backend : Type} {site : Site Backend} {options : Options} {story : Story Backend}
  {outcome : Except Error Summary}

theorem outcomeLine_isOutcome (outcome : Except Error Summary) :
    (outcomeLine outcome).isOutcome = true := by
  cases outcome <;> rfl

theorem story_ends (traced : Traces (run site options) story outcome) :
    ∃ before, story = before ++ [⟨.emit (outcomeLine outcome), ()⟩] := by
  obtain ⟨front, back, result, rfl, -, tells⟩ := traces_bind_iff.mp traced
  obtain ⟨last, ends, _, rfl, emits, stops⟩ := traces_bind_iff.mp tells
  obtain ⟨rfl, rfl⟩ := traces_pure_iff.mp stops
  obtain rfl := traces_query_iff.mp emits
  exact ⟨front, rfl⟩

/-- Terminal sessions tell nothing of the outcome. -/
theorem not_isOutcome_of_mem_lines {transcript : Terminal.Transcript} {line : Line}
    (member : line ∈ transcript.lines) : line.isOutcome = false := by
  rcases cases_of_mem_lines member with rfl | ⟨bytes, rfl⟩ | rfl
  · rfl
  · rfl
  · rfl

/-- A deployment tells an outcome once. -/
theorem outcomes_run (traced : Traces (run site options) story outcome) :
    (emitted story).filter Line.isOutcome = [outcomeLine outcome] := by
  have sessions : ((transcripts story).flatMap (·.lines)).filter Line.isOutcome = [] := by
    apply List.filter_eq_nil_iff.mpr
    intro line member
    obtain ⟨transcript, -, inside⟩ := List.mem_flatMap.mp member
    simp [not_isOutcome_of_mem_lines inside]
  have controls : (emitted story).filter Line.isOutcome =
      ((emitted story).filter Line.isControl).filter Line.isOutcome := by
    rw [List.filter_filter]
    apply List.filter_congr
    intro line member
    cases ends : line.isOutcome with
    | false => rfl
    | true => rw [isControl_of_isOutcome ends]; rfl
  rw [controls, (emitted_run traced).2, List.filter_append, sessions,
    List.filter_cons_of_pos (outcomeLine_isOutcome outcome)]
  rfl

/-- What a deployment reports agrees with what it comes to.

The last thing it does is to tell the outcome, and no other line tells one.  For every message
the failure line is the marker, a space and one line, which folds to itself; it is made of the
lines of the message that are not blank, trimmed and with a space between each two. -/
theorem outcome_reported (site : Site Backend) (options : Options) :
    (∀ story outcome, Traces (run site options) story outcome →
      (∃ before, story = before ++ [⟨.emit (outcomeLine outcome), ()⟩] ∧
        ∀ line ∈ emitted before, line.isOutcome = false) ∧
      (emitted story).getLast? = some (outcomeLine outcome) ∧
      (∀ summary, outcome = .ok summary → (outcomeLine outcome).text = "[SELFHOSTED::DONE]") ∧
      ∀ error, outcome = .error error →
        (outcomeLine outcome).text = (Line.failed error.message).text) ∧
    (∀ message, ∃ payload, (Line.failed message).text = "[SELFHOSTED::ERROR] " ++ payload ∧
      '\n' ∉ payload.toList ∧ (Line.failed payload).text = (Line.failed message).text) ∧
    (∀ message, ∃ lines, lines ≠ [] ∧ (∀ line ∈ lines, '\n' ∉ line) ∧
      message = String.ofList (List.intercalate ['\n'] lines)) ∧
    (∀ lines, lines ≠ [] → (∀ line ∈ lines, '\n' ∉ line) →
      (Line.failed (String.ofList (List.intercalate ['\n'] lines))).text =
        "[SELFHOSTED::ERROR] " ++ String.ofList (List.intercalate [' '] (solid lines))) ∧
    ∀ line, Text.Frames line (Text.trim line) ∧ Text.trim (line ++ ['\r']) = Text.trim line := by
  refine ⟨?_, ?_, ?_, ?_, ?_⟩
  · intro story outcome traced
    obtain ⟨before, rfl⟩ := story_ends traced
    have last : emitted (before ++ [⟨.emit (outcomeLine outcome), ()⟩]) =
        emitted before ++ [outcomeLine outcome] := emitted_append _ _
    have once := outcomes_run traced
    rw [last, List.filter_append, List.filter_cons_of_pos (outcomeLine_isOutcome outcome)] at once
    have none : (emitted before).filter Line.isOutcome = [] := List.append_left_eq_self.mp once
    refine ⟨⟨before, rfl, ?_⟩, ?_, ?_, ?_⟩
    · intro line member
      simpa using List.filter_eq_nil_iff.mp none line member
    · rw [last, List.getLast?_concat]
    · rintro summary rfl
      rfl
    · rintro error rfl
      rfl
  · intro message
    refine ⟨String.ofList (folded message.toList), failed_text message, ?_, failed_payload message⟩
    rw [String.toList_ofList]
    exact not_mem_folded message.toList
  · exact exists_joined
  · intro lines some whole
    exact failed_joined some whole
  · intro line
    exact ⟨Text.frames_trim line, Text.trim_append_blank (by decide) line⟩

end Deployment

end Rollout
