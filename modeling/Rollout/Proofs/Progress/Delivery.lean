import Rollout.Progress.Interruption
import Rollout.Proofs.Progress.Control

namespace Rollout.Progress

/-! What the connection of a stream takes of the calls that are made on it.

While every write and flush succeeds, it takes the frame of every call.  The first that
fails leaves a beginning of one frame behind it and disables the stream, and nothing
more is handed over.  So a reader sees whole lines of the calls, in their order.
-/

/-- The lines of a text: put together with line feeds between them, they are all of it but
the line feeds at its end. -/
structure Cut (text : List Char) (lines : List (List Char)) : Prop where
  joined : ∃ feeds, text = List.intercalate ['\n'] lines ++ List.replicate feeds '\n'
  ends : ∀ before, List.intercalate ['\n'] lines ≠ before ++ ['\n']
  single : ∀ line ∈ lines, '\n' ∉ line
  nonempty : lines ≠ []

theorem cut_iff {text : List Char} {lines : List (List Char)} : Cut text lines ↔ lines = wholeLines text := by
  constructor
  · intro cut
    obtain ⟨feeds, joined⟩ := cut.joined
    rw [wholeLines, joined, Text.stripCharEnd_append feeds cut.ends, Text.splitAt_join cut.nonempty cut.single]
  · rintro rfl
    obtain ⟨feeds, split, ends⟩ := Text.exists_stripCharEnd '\n' text
    obtain ⟨piece, pieces, parts⟩ := Text.exists_splitAt '\n' (Text.stripCharEnd '\n' text)
    have joined := Text.join_splitAt '\n' (Text.stripCharEnd '\n' text)
    refine ⟨⟨feeds, ?_⟩, ?_, not_mem_wholeLines text, by simp [wholeLines, parts]⟩
    · rw [wholeLines, joined]
      exact split
    · rw [wholeLines, joined]
      exact ends

namespace Connection

variable {before after last : Connection} {bytes taken more : List UInt8}
  {isWell isStill : Bool}

/-- Of the writes and flushes that were made between two states, one failed. -/
def Broke (before after : Connection) : Prop :=
  (∃ number, before.writes ≤ number ∧ number < after.writes ∧ before.reception number = .fails) ∨
    ∃ number, before.flushes ≤ number ∧ number < after.flushes ∧ before.flushed number = false

/-- A connection has taken some bytes, and all went well or something failed. -/
structure Goes (before : Connection) (taken : List UInt8) (isWell : Bool) (after : Connection) :
    Prop where
  received : after.received = before.received ++ taken
  reception : after.reception = before.reception
  flushed : after.flushed = before.flushed
  writes : before.writes ≤ after.writes
  flushes : before.flushes ≤ after.flushes
  broke : Broke before after ↔ isWell = false

theorem Goes.refl (connection : Connection) : Goes connection [] true connection where
  received := by simp
  reception := rfl
  flushed := rfl
  writes := Nat.le_refl _
  flushes := Nat.le_refl _
  broke := by
    simp only [Bool.true_eq_false, iff_false]
    rintro (⟨number, least, most, -⟩ | ⟨number, least, most, -⟩) <;> omega

theorem Goes.broke_trans (first : Goes before taken isWell after)
    (second : Goes after more isStill last) :
    Broke before last ↔ Broke before after ∨ Broke after last := by
  have writes := first.writes
  have flushes := first.flushes
  constructor
  · rintro (⟨number, least, most, fails⟩ | ⟨number, least, most, fails⟩)
    · by_cases early : number < after.writes
      · exact .inl (.inl ⟨number, least, early, fails⟩)
      · exact .inr (.inl ⟨number, by omega, most, first.reception ▸ fails⟩)
    · by_cases early : number < after.flushes
      · exact .inl (.inr ⟨number, least, early, fails⟩)
      · exact .inr (.inr ⟨number, by omega, most, first.flushed ▸ fails⟩)
  · have laterWrites := second.writes
    have laterFlushes := second.flushes
    rintro ((⟨number, least, most, fails⟩ | ⟨number, least, most, fails⟩) |
      (⟨number, least, most, fails⟩ | ⟨number, least, most, fails⟩))
    · exact .inl ⟨number, least, by omega, fails⟩
    · exact .inr ⟨number, least, by omega, fails⟩
    · exact .inl ⟨number, by omega, most, first.reception ▸ fails⟩
    · exact .inr ⟨number, by omega, most, first.flushed ▸ fails⟩

theorem Goes.trans (first : Goes before taken isWell after)
    (second : Goes after more isStill last) :
    Goes before (taken ++ more) (isWell && isStill) last where
  received := by rw [second.received, first.received, List.append_assoc]
  reception := second.reception.trans first.reception
  flushed := second.flushed.trans first.flushed
  writes := Nat.le_trans first.writes second.writes
  flushes := Nat.le_trans first.flushes second.flushes
  broke := by rw [first.broke_trans second, first.broke, second.broke, Bool.and_eq_false_iff]

theorem write_goes (connection : Connection) (bytes : List UInt8) :
    Goes connection (bytes.take (connection.write bytes).2.size) ((connection.write bytes).2 ≠ .fails)
      (connection.write bytes).1 where
  received := write_received rfl
  reception := rfl
  flushed := rfl
  writes := Nat.le_succ _
  flushes := Nat.le_refl _
  broke := by
    simp only [ne_eq, decide_not, Bool.not_eq_false', decide_eq_true_eq]
    constructor
    · rintro (⟨number, least, most, fails⟩ | ⟨number, least, most, -⟩)
      · have only : number = connection.writes := by
          simp only [write] at most
          omega
        rwa [only] at fails
      · simp only [write] at most
        omega
    · exact fun fails => .inl ⟨connection.writes, Nat.le_refl _, Nat.lt_succ_self _, fails⟩

theorem flush_goes (connection : Connection) :
    Goes connection [] connection.flush.2 connection.flush.1 where
  received := by simp [flush]
  reception := rfl
  flushed := rfl
  writes := Nat.le_refl _
  flushes := Nat.le_succ _
  broke := by
    constructor
    · rintro (⟨number, least, most, -⟩ | ⟨number, least, most, fails⟩)
      · simp only [flush] at most
        omega
      · have only : number = connection.flushes := by
          simp only [flush] at most
          omega
        rwa [only] at fails
    · exact fun fails => .inr ⟨connection.flushes, Nat.le_refl _, Nat.lt_succ_self _, fails⟩

/-- Of the bytes that are written, a beginning arrives, and all of them if no write fails. -/
theorem writeAll_goes (connection : Connection) (bytes : List UInt8) :
    ∃ taken, taken <+: bytes ∧
      Goes connection taken (connection.writeAll bytes).2 (connection.writeAll bytes).1 ∧
      ((connection.writeAll bytes).2 = true → taken = bytes) := by
  induction connection, bytes using writeAll.induct with
  | case1 connection =>
      rw [writeAll]
      exact ⟨[], List.prefix_refl _, .refl connection, fun _ => rfl⟩
  | case2 connection byte rest next failed =>
      have goes := connection.write_goes (byte :: rest)
      rw [failed] at goes
      rw [writeAll, failed]
      exact ⟨[], List.nil_prefix, goes, fun isWritten => by cases isWritten⟩
  | case3 connection byte rest next count answered ih =>
      have goes := connection.write_goes (byte :: rest)
      rw [answered] at goes
      rw [writeAll, answered]
      obtain ⟨taken, begins, later, whole⟩ := ih
      have split : byte :: rest = (byte :: rest).take (count + 1) ++ rest.drop count := by simp
      refine ⟨(byte :: rest).take (count + 1) ++ taken, ?_, goes.trans later, fun isWritten => ?_⟩
      · have front := List.prefix_append_right_inj ((byte :: rest).take (count + 1)) |>.mpr begins
        rwa [← split] at front
      · rw [whole isWritten, ← split]

end Connection

namespace Stream

variable {stream : Stream} {text : String} {texts : List String}

theorem send_of_disabled (broken : stream.disabled = true) : stream.send text = stream := by
  rw [send, if_pos broken]

theorem sendAll_of_disabled (broken : stream.disabled = true) : stream.sendAll texts = stream := by
  induction texts with
  | nil => rfl
  | cons text rest ih =>
      have first : stream.send text = stream := send_of_disabled broken
      simpa only [sendAll, List.foldl_cons, first] using ih

/-- One call on an enabled stream. -/
theorem send_goes (text : String) (enabled : stream.disabled = false) :
    ∃ taken, taken <+: framed text ∧
      stream.connection.Goes taken (!(stream.send text).disabled) (stream.send text).connection ∧
      ((stream.send text).disabled = false → taken = framed text) := by
  obtain ⟨taken, begins, goes, whole⟩ := stream.connection.writeAll_goes (framed text)
  refine ⟨taken, begins, ?_⟩
  cases isWritten : (stream.connection.writeAll (framed text)).2 with
  | false =>
      rw [isWritten] at goes
      simp only [send, enabled, isWritten]
      exact ⟨goes, fun isEnabled => by cases isEnabled⟩
  | true =>
      rw [isWritten] at goes
      have flushes := goes.trans (stream.connection.writeAll (framed text)).1.flush_goes
      simp only [send, enabled, isWritten]
      exact ⟨by simpa using flushes, fun _ => whole isWritten⟩

/-- How far the calls got: to the end, or to one that failed. -/
inductive Delivered (stream : Stream) (texts : List String) : List UInt8 → Prop where
  | whole (enabled : (stream.sendAll texts).disabled = false) :
      Delivered stream texts (texts.flatMap framed)
  | broken (before : List String) {after : List String} {text : String} {taken : List UInt8}
      (calls : texts = before ++ text :: after) (begins : taken <+: framed text)
      (enabled : (stream.sendAll before).disabled = false)
      (disabled : (stream.sendAll (before ++ [text])).disabled = true) :
      Delivered stream texts (before.flatMap framed ++ taken)

theorem sendAll_delivered (texts : List String) (enabled : stream.disabled = false) :
    ∃ sent, Delivered stream texts sent ∧ stream.connection.Goes sent
      (!(stream.sendAll texts).disabled) (stream.sendAll texts).connection := by
  induction texts generalizing stream with
  | nil => exact ⟨[], .whole enabled, by simpa [sendAll, enabled] using .refl stream.connection⟩
  | cons text rest ih =>
      obtain ⟨taken, begins, first, all⟩ := send_goes text enabled
      cases broken : (stream.send text).disabled with
      | true =>
          have stays : (stream.send text).sendAll rest = stream.send text := sendAll_of_disabled broken
          have final : stream.sendAll (text :: rest) = stream.send text := stays
          refine ⟨taken, .broken [] rfl begins enabled broken, ?_⟩
          rw [final]
          exact first
      | false =>
          rw [broken] at first
          obtain rfl := all broken
          obtain ⟨sent, delivered, later⟩ := ih broken
          refine ⟨framed text ++ sent, ?_, first.trans later⟩
          cases delivered with
          | whole ends => exact .whole ends
          | broken before calls begins still ends =>
              subst calls
              rw [← List.append_assoc]
              exact .broken (text :: before) rfl begins still ends

theorem Delivered.isPrefix {sent : List UInt8} (delivered : Delivered stream texts sent) :
    sent <+: texts.flatMap framed := by
  cases delivered with
  | whole enabled => exact List.prefix_refl _
  | broken before calls begins enabled disabled =>
      rw [calls, List.flatMap_append, List.flatMap_cons]
      exact (List.prefix_append_right_inj _).mpr (begins.trans (List.prefix_append _ _))

end Stream

/-- The bytes of lines that end with a line feed each, cut anywhere, hold only whole lines
before what is still on its way. -/
theorem linesIn_of_prefix {lines : List (List Char)} (single : ∀ line ∈ lines, '\n' ∉ line)
    {taken : List UInt8}
    (begins : taken <+: Text.Utf8.encode (lines.flatMap (· ++ ['\n']))) :
    linesIn taken <+: lines := by
  induction lines generalizing taken with
  | nil =>
      obtain rfl := List.prefix_nil.mp begins
      exact List.nil_prefix
  | cons line rest ih =>
      obtain ⟨first, later⟩ := List.forall_mem_cons.mp single
      have clean := Text.Utf8.not_mem_encode first
      have written : Text.Utf8.encode ((line :: rest).flatMap (· ++ ['\n'])) =
          Text.Utf8.encode line ++ Text.Utf8.feed :: Text.Utf8.encode (rest.flatMap (· ++ ['\n'])) := by
        rw [List.flatMap_cons, List.append_assoc, Text.Utf8.encode_append]
        rfl
      rw [written] at begins
      have cut : taken <+: Text.Utf8.encode line ∨ ∃ more, taken =
          Text.Utf8.encode line ++ Text.Utf8.feed :: more ∧
          more <+: Text.Utf8.encode (rest.flatMap (· ++ ['\n'])) := by
        rcases List.prefix_or_prefix_of_prefix begins (List.prefix_append _ _) with early | ⟨more, rfl⟩
        · exact .inl early
        · have inside := (List.prefix_append_right_inj _).mp begins
          rcases List.prefix_cons_iff.mp inside with rfl | ⟨later, rfl, further⟩
          · exact .inl (by simp)
          · exact .inr ⟨later, rfl, further⟩
      rcases cut with early | ⟨more, rfl, further⟩
      · have none : Text.Utf8.feed ∉ taken := fun member => clean (early.subset member)
        have empty : linesIn taken = [] := by
          rw [linesIn, Text.splitAt_of_not_mem (Text.Utf8.not_mem_decodeLossy none)]
          rfl
        rw [empty]
        exact List.nil_prefix
      · have next : linesIn (Text.Utf8.encode line ++ Text.Utf8.feed :: more) = line :: linesIn more := by
          obtain ⟨piece, pieces, parts⟩ := Text.exists_splitAt '\n' (Text.Utf8.decodeLossy more)
          rw [linesIn, linesIn, Text.Utf8.decodeLossy_feed clean, Text.Utf8.decodeLossy_encode,
            Text.splitAt_append, Text.splitAt_of_not_mem first, parts]
          rfl
        rw [next]
        exact (List.cons_prefix_cons).mpr ⟨rfl, ih later further⟩

namespace Carrier

variable {bytes : List UInt8} {text : String} {texts : List String}

/-- Interruptions do not show in what a connection has taken and answered. -/
theorem writeAll_settles (carrier : Carrier) (bytes : List UInt8) :
    (carrier.writeAll bytes).1.connection = (carrier.connection.writeAll bytes).1 ∧
      (carrier.writeAll bytes).2 = (carrier.connection.writeAll bytes).2 := by
  induction carrier, bytes using writeAll.induct with
  | case1 carrier =>
      rw [writeAll, Connection.writeAll]
      exact ⟨rfl, rfl⟩
  | case2 carrier byte rest interrupted ih => rwa [writeAll, if_pos interrupted]
  | case3 carrier byte rest settled next failed =>
      rw [writeAll, if_neg settled, Connection.writeAll, failed]
      exact ⟨rfl, rfl⟩
  | case4 carrier byte rest settled next answered count taken ih =>
      rw [writeAll, if_neg settled, Connection.writeAll, taken]
      exact ih

namespace Stream

/-- A stream without the interruptions of its connection. -/
def settled (stream : Stream) : Progress.Stream where
  connection := stream.carrier.connection
  disabled := stream.disabled

theorem settled_send (stream : Stream) (text : String) :
    (stream.send text).settled = stream.settled.send text := by
  obtain ⟨connection, isWritten⟩ := stream.carrier.writeAll_settles (framed text)
  cases broken : stream.disabled with
  | true => simp [send, settled, Progress.Stream.send, broken]
  | false =>
      simp only [send, settled, Progress.Stream.send, broken, ← connection, ← isWritten]
      cases (stream.carrier.writeAll (framed text)).2 <;> rfl

theorem settled_sendAll (stream : Stream) (texts : List String) :
    (stream.sendAll texts).settled = stream.settled.sendAll texts := by
  induction texts generalizing stream with
  | nil => rfl
  | cons text rest ih =>
      have later := ih (stream.send text)
      rwa [settled_send] at later

theorem sendAll_of_disabled {stream : Stream} (broken : stream.disabled = true) :
    stream.sendAll texts = stream := by
  induction texts with
  | nil => rfl
  | cons text rest ih =>
      have first : stream.send text = stream := by rw [send, if_pos broken]
      simpa only [sendAll, List.foldl_cons, first] using ih

/-- The call that fails is the last that does anything. -/
theorem sendAll_of_broken {stream : Stream} {before : List String} (after : List String)
    (disabled : (stream.sendAll (before ++ [text])).disabled = true) :
    stream.sendAll (before ++ text :: after) = stream.sendAll (before ++ [text]) := by
  have split : before ++ text :: after = (before ++ [text]) ++ after := by simp
  rw [split, sendAll, List.foldl_append]
  exact sendAll_of_disabled disabled

end Stream

end Carrier

/-- What is accepted of any calls on a stream: their frames, line by line, up to a call
that fails.  A frame is the lines of the text, each with a line feed behind it.  The stream is
disabled exactly if a write or a flush has failed, and then it stays as the failed call left it. -/
theorem calls_framed_until_failure (carrier : Carrier) (calls : List Handover) :
    let opened := Carrier.Stream.opened carrier
    let texts := calls.map Handover.text
    let stream := opened.sendAll texts
    ∃ sent, stream.carrier.connection.received = carrier.connection.received ++ sent ∧
      (stream.disabled = false → sent = texts.flatMap framed) ∧
      (stream.disabled = true → ∃ before text after taken, texts = before ++ text :: after ∧
        sent = before.flatMap framed ++ taken ∧ taken <+: framed text ∧
        (opened.sendAll before).disabled = false ∧ stream = opened.sendAll (before ++ [text])) ∧
      (stream.disabled = true ↔ carrier.connection.Broke stream.carrier.connection) ∧
      (stream.disabled = true → ∀ later, stream.sendAll later = stream) ∧
      linesIn sent <+: texts.flatMap (fun text => wholeLines text.toList) ∧
      (∀ text ∈ texts, Cut text.toList (wholeLines text.toList) ∧
        framed text = Text.Utf8.encode ((wholeLines text.toList).flatMap (· ++ ['\n']))) ∧
      stream.settled = (Stream.opened carrier.connection).sendAll texts := by
  intro opened texts stream
  have settles (texts : List String) : (opened.sendAll texts).settled =
      (Stream.opened carrier.connection).sendAll texts := opened.settled_sendAll texts
  have flag (texts : List String) : (opened.sendAll texts).disabled =
      ((Stream.opened carrier.connection).sendAll texts).disabled :=
    congrArg Stream.disabled (settles texts)
  obtain ⟨sent, delivered, goes⟩ :=
    Stream.sendAll_delivered texts (rfl : (Stream.opened carrier.connection).disabled = false)
  have lines : linesIn sent <+: texts.flatMap fun text => wholeLines text.toList := by
    have begins := delivered.isPrefix
    rw [framed_flatMap] at begins
    refine linesIn_of_prefix (fun line member => ?_) begins
    obtain ⟨text, -, among⟩ := List.mem_flatMap.mp member
    exact not_mem_wholeLines text.toList line among
  have last {before after : List String} {text : String} (calls : texts = before ++ text :: after)
      (disabled : ((Stream.opened carrier.connection).sendAll (before ++ [text])).disabled = true) :
      stream = opened.sendAll (before ++ [text]) := by
    have same := Carrier.Stream.sendAll_of_broken after ((flag _).trans disabled)
    rwa [← calls] at same
  rw [← settles texts] at goes
  refine ⟨sent, goes.received, fun enabled => ?_, fun broken => ?_, ?_,
    fun broken later => Carrier.Stream.sendAll_of_disabled broken, lines,
    fun text _ => ⟨cut_iff.mpr rfl, rfl⟩, settles texts⟩
  · cases delivered with
    | whole => rfl
    | broken before calls begins still disabled =>
        rw [last calls disabled, flag, disabled] at enabled
        cases enabled
  · cases delivered with
    | whole enabled =>
        rw [← flag texts] at enabled
        exact absurd (broken.symm.trans enabled) nofun
    | broken before calls begins still disabled =>
        exact ⟨_, _, _, _, calls, rfl, begins, (flag _).trans still, last calls disabled⟩
  · have broke := goes.broke
    simp only [Bool.not_eq_false'] at broke
    exact broke.symm

end Rollout.Progress
