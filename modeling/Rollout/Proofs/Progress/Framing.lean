import Rollout.Progress.Reading
import Rollout.Proofs.Text.Pieces
import Rollout.Proofs.Text.Utf8

namespace Rollout.Progress

/-! What a reader gets of the texts that are sent on a stream.

While the stream is enabled, the connection has taken every byte of every text, and
the complete lines in these bytes are those of the texts.
-/

theorem Connection.write_received {connection next : Connection} {bytes : List UInt8}
    {reception : Reception} (written : connection.write bytes = (next, reception)) :
    next.received = connection.received ++ bytes.take reception.size := by
  obtain ⟨rfl, rfl⟩ := Prod.mk.inj written
  rfl

theorem Connection.writeAll_received (connection : Connection) (bytes : List UInt8)
    (isWritten : (connection.writeAll bytes).2 = true) :
    (connection.writeAll bytes).1.received = connection.received ++ bytes := by
  induction connection, bytes using Connection.writeAll.induct with
  | case1 connection => simp [writeAll]
  | case2 connection byte rest next failed =>
      rw [writeAll, failed] at isWritten
      cases isWritten
  | case3 connection byte rest next count taken ih =>
      rw [writeAll, taken] at isWritten ⊢
      have first := write_received taken
      simp only [Reception.size, List.take_succ_cons] at first
      rw [ih isWritten, first, List.append_assoc, List.cons_append, List.take_append_drop]

theorem Stream.send_received {stream : Stream} {text : String}
    (enabled : (stream.send text).disabled = false) :
    stream.disabled = false ∧
      (stream.send text).connection.received = stream.connection.received ++ framed text := by
  unfold send at enabled ⊢
  cases broken : stream.disabled with
  | true => simp [broken] at enabled
  | false =>
      cases written : (stream.connection.writeAll (framed text)).2 with
      | false => simp [broken, written] at enabled
      | true =>
          have received := stream.connection.writeAll_received (framed text) written
          simp [written, Connection.flush, received]

theorem Stream.sendAll_received {stream : Stream} {texts : List String}
    (enabled : (stream.sendAll texts).disabled = false) :
    stream.disabled = false ∧ (stream.sendAll texts).connection.received =
      stream.connection.received ++ texts.flatMap framed := by
  induction texts generalizing stream with
  | nil => exact ⟨enabled, by simp [sendAll]⟩
  | cons text rest ih =>
      obtain ⟨still, received⟩ := ih enabled
      obtain ⟨before, first⟩ := send_received still
      refine ⟨before, received.trans ?_⟩
      rw [first, List.append_assoc, List.flatMap_cons]

section Sturdy

structure Connection.Sturdy (connection : Connection) : Prop where
  takes : ∀ number, connection.reception number ≠ .fails
  flushes : ∀ number, connection.flushed number = true

theorem Connection.Sturdy.writeAll {connection : Connection} (sturdy : connection.Sturdy)
    (bytes : List UInt8) :
    (connection.writeAll bytes).2 = true ∧ (connection.writeAll bytes).1.Sturdy := by
  induction connection, bytes using Connection.writeAll.induct with
  | case1 connection => exact ⟨by rw [Connection.writeAll], by rwa [Connection.writeAll]⟩
  | case2 connection byte rest next failed =>
      exact absurd (Prod.mk.inj failed).2 (sturdy.takes _)
  | case3 connection byte rest next count taken ih =>
      rw [Connection.writeAll, taken]
      obtain ⟨rfl, -⟩ := Prod.mk.inj taken
      exact ih ⟨sturdy.takes, sturdy.flushes⟩

theorem Stream.send_sturdy {stream : Stream} (sturdy : stream.connection.Sturdy)
    (enabled : stream.disabled = false) (text : String) :
    (stream.send text).connection.Sturdy ∧ (stream.send text).disabled = false := by
  obtain ⟨isWritten, still⟩ := sturdy.writeAll (framed text)
  have sent : stream.send text =
      { connection := (stream.connection.writeAll (framed text)).1.flush.1
        disabled := !(stream.connection.writeAll (framed text)).1.flush.2 } := by
    simp [send, enabled, isWritten]
  rw [sent]
  exact ⟨⟨still.takes, still.flushes⟩, by simp [Connection.flush, still.flushes]⟩

theorem Stream.sendAll_sturdy {stream : Stream} (sturdy : stream.connection.Sturdy)
    (enabled : stream.disabled = false) (texts : List String) :
    (stream.sendAll texts).disabled = false := by
  induction texts generalizing stream with
  | nil => exact enabled
  | cons text rest ih =>
      obtain ⟨still, stays⟩ := send_sturdy sturdy enabled text
      exact ih still stays

end Sturdy

theorem not_mem_wholeLines (text : List Char) : ∀ line ∈ wholeLines text, '\n' ∉ line :=
  Text.not_mem_of_mem_splitAt

theorem wholeLines_of_not_mem {text : List Char} (single : '\n' ∉ text) : wholeLines text = [text] := by
  rw [wholeLines, Text.stripCharEnd_of_not_mem single, Text.splitAt_of_not_mem single]

theorem framed_flatMap (texts : List String) :
    texts.flatMap framed = Text.Utf8.encode
      ((texts.flatMap fun text => wholeLines text.toList).flatMap (· ++ ['\n'])) := by
  induction texts with
  | nil => rfl
  | cons text rest ih =>
      rw [List.flatMap_cons, ih, List.flatMap_cons, List.flatMap_append, Text.Utf8.encode_append]
      rfl

/-- A reader finds the lines of all texts. -/
theorem linesIn_framed (texts : List String) :
    linesIn (texts.flatMap framed) = texts.flatMap fun text => wholeLines text.toList := by
  have whole : ∀ line ∈ texts.flatMap fun text => wholeLines text.toList, '\n' ∉ line := by
    intro line member
    obtain ⟨text, -, among⟩ := List.mem_flatMap.mp member
    exact not_mem_wholeLines text.toList line among
  rw [linesIn, framed_flatMap, Text.Utf8.decodeLossy_encode, Text.splitAt_ended whole]
  exact List.dropLast_concat

end Rollout.Progress
