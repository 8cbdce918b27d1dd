import Rollout.Proofs.Progress.Reading
import Rollout.Proofs.Terminal.Results

namespace Rollout.Terminal.Session

/-! The output of a terminal as a client reads it.

In the lines of progress a client finds the chunks of both streams, whatever else is told
between them.
-/

variable {session : Session}

section Openings

theorem Told.isOfSession (told : session.Told) : ∀ line ∈ session.lines, line.isOfSession = true := by
  obtain ⟨chunks, lines⟩ := told
  rw [lines]
  cases session.stage with
  | ended =>
      intro line member
      have kinds : line = .sessionStarted session.id ∨
          (∃ bytes ∈ chunks, .terminalOutput bytes = line) ∨ line = .sessionEnded session.id := by
        simpa [Stage.told, Transcript.lines] using member
      rcases kinds with rfl | ⟨bytes, -, rfl⟩ | rfl <;> rfl
  | _ => simp [Stage.told, Progress.Line.isOfSession]

end Openings

/-- The output of a session, for every way in which its streams are read and their reads fall
among all else that happens.

What a client finds in the lines of progress is an interleaving of what was read from the two
streams, each up to its end; the window and every other sink are given the same chunks.  In a
session that is not abandoned no read from the announcement to the end of its stream is missed,
and it closes only at the ends of both streams.  Base64 is that of the standard. -/
theorem output_streamed (sessions : Sessions) (id : String) (now : Nat) (answers : List Answer)
    (sinks : List Sink) :
    let opening := sinks.foldl withSink (start sessions id now answers)
    (∀ events,
      let shown := Progress.outputsIn (opening.run events).lines
      let stdout := chunksOf (opening.reads .stdout events)
      let stderr := chunksOf (opening.reads .stderr events)
      Interleaves stdout stderr shown ∧
      Interleaves stdout.flatten stderr.flatten shown.flatten ∧
      (opening.run events).window = shown.foldl Window.append .empty ∧
      (opening.run events).sinks =
        sinks.map fun sink => { chunks := sink.chunks ++ shown.map (id, ·) }) ∧
    (∀ past later source, (opening.run past).stage = .registered → .abandoned ∉ later →
      chunksOf (opening.reads source (past ++ .proceed :: later)) =
        chunksOf (later.filterMap (Event.readOf? source))) ∧
    (∀ events, .abandoned ∉ events → (opening.run events).stage.isClosed = true →
      ∀ source, (endOf? (opening.reads source events)).isSome = true) ∧
    ∀ bytes, Text.Base64.decode? (Text.Base64.encode bytes) = some bytes ∧
      Text.Base64.encode bytes = Text.Base64.spelled bytes := by
  intro opening
  have opens : opening = { start sessions id now answers with sinks } := foldl_withSink _ sinks
  have told : opening.Told := ⟨[], by rw [opens]; rfl⟩
  have unended (source : Source) : opening.ending? source = none := by
    rw [opens]
    cases source <;> rfl
  have exhausted : opening.Exhausted := by
    intro closed
    rw [opens] at closed
    cases closed
  refine ⟨?_, ?_, ?_, ?_⟩
  · intro events shown stdout stderr
    have shows := run_shows opening events
    have found : shown = (opening.gains events).map Prod.snd := by
      have outputs := shows.outputs
      rw [opens] at outputs
      exact (Progress.outputsIn_eq (told.run events).isOfSession).trans (opens ▸ outputs)
    have from' (source : Source) :
        (opening.gains events).filterMap (fromSource? source) = chunksOf (opening.reads source events) := by
      rw [gains_of_source, unended]
      rfl
    have interleaves : Interleaves stdout stderr shown := by
      rw [found]
      show Interleaves (chunksOf _) (chunksOf _) _
      rw [← from', ← from']
      exact interleaves_gains _
    refine ⟨interleaves, interleaves.flatten, ?_, ?_⟩
    · rw [found, shows.window, opens]
      rfl
    · rw [found, shows.sinks, opens]
      rfl
  · intro past later source registered kept
    exact (reads_since (unended source) registered kept).1
  · intro events kept closed source
    have ended := (exhausted.run kept closed).1 source
    rwa [run_ending, unended] at ended
  · intro bytes
    exact ⟨Text.Base64.decode?_encode bytes, Text.Base64.encode_eq_spelled bytes⟩

end Rollout.Terminal.Session
