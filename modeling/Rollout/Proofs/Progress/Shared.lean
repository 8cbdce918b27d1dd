import Rollout.Progress.Shared
import Rollout.Proofs.Progress.Delivery

namespace Rollout.Progress

/-! Which calls hand over bytes after a failure, when several tasks use one stream.

A call looks at the stream before it has the lock and not again.  So a call that found
the stream enabled is written in full, or as far as it goes, also when another call has
failed and disabled the stream since.  The calls that may still do so are known from their
stages, and if there is none, nothing is handed over any more.
-/

theorem framed_ne_nil (text : String) : framed text ≠ [] := by
  obtain ⟨line, lines, parts⟩ := Text.exists_splitAt '\n' (Text.stripCharEnd '\n' text.toList)
  have starts : framed text = Text.Utf8.encode line ++
      Text.Utf8.feed :: Text.Utf8.encode (lines.flatMap (· ++ ['\n'])) := by
    rw [framed, frame, wholeLines, parts, List.flatMap_cons, List.append_assoc,
      Text.Utf8.encode_append]
    rfl
  rw [starts]
  simp

/-- Whether a call may still hand over bytes: it is past its look, or will find the stream
enabled. -/
def Call.mayWrite (call : Call) (disabled : Bool) : Bool :=
  match call.stage with
  | .arriving => !disabled
  | .waiting => true
  | .writing left => !left.isEmpty
  | .failed | .leaving | .ended => false

namespace Shared

variable {shared : Shared} {place other : Nat} {call : Call} {connection : Connection}

theorem step_of_absent (absent : shared.calls[place]? = none) : shared.step place = shared := by
  simp [step, absent]

theorem step_stream (found : shared.calls[place]? = some call) :
    (shared.step place).stream = (shared.next call).1 := by
  simp [step, found]

theorem step_call (found : shared.calls[place]? = some call) :
    (shared.step place).calls[place]? = some { call with stage := (shared.next call).2 } := by
  simp only [step, found, List.getElem?_set_self']
  rfl

theorem step_other (apart : other ≠ place) :
    (shared.step place).calls[other]? = shared.calls[other]? := by
  cases found : shared.calls[place]? with
  | none => rw [step_of_absent found]
  | some call => simp [step, found, apart.symm]

/-- What the calls are after a step: those that were, but for the one whose turn it was. -/
theorem of_step_call {changed : Call} (among : (shared.step place).calls[other]? = some changed) :
    shared.calls[other]? = some changed ∨ ∃ call, shared.calls[place]? = some call ∧
      other = place ∧ changed = { call with stage := (shared.next call).2 } := by
  by_cases same : other = place
  · subst same
    cases found : shared.calls[other]? with
    | none =>
        rw [step_of_absent found, found] at among
        cases among
    | some call =>
        rw [step_call found] at among
        exact .inr ⟨call, rfl, rfl, (Option.some.inj among).symm⟩
  · rw [step_other same] at among
    exact .inl among

theorem run_append (front back : List Nat) :
    shared.run (front ++ back) = (shared.run front).run back := List.foldl_append

section Silence

/-- No call may hand over bytes any more. -/
def Silent (shared : Shared) : Prop :=
  ∀ (place : Nat) (call : Call), shared.calls[place]? = some call →
    call.mayWrite shared.stream.disabled = false

/-- A call that may not hand over bytes hands over none, and may not later. -/
theorem next_of_quiet (quiet : call.mayWrite shared.stream.disabled = false) :
    (shared.next call).1.connection.writes = shared.stream.connection.writes ∧
      (shared.stream.disabled = true → (shared.next call).1.disabled = true) ∧
      ({ call with stage := (shared.next call).2 } : Call).mayWrite
        (shared.next call).1.disabled = false := by
  cases stage : call.stage with
  | arriving =>
      have disabled : shared.stream.disabled = true := by simpa [Call.mayWrite, stage] using quiet
      simp [next, stage, disabled, Call.mayWrite]
  | waiting => simp [Call.mayWrite, stage] at quiet
  | writing left =>
      have done : left = [] := by simpa [Call.mayWrite, stage] using quiet
      subst done
      cases flushed : shared.stream.connection.flushed shared.stream.connection.flushes <;>
        simp [next, stage, flushed, Call.mayWrite, Connection.flush]
  | failed => simp [next, stage, Call.mayWrite]
  | leaving => simp [next, stage, Call.mayWrite]
  | ended => simp [next, stage, Call.mayWrite]

theorem mayWrite_of_disabled {disabled later : Bool} (still : disabled = true → later = true)
    (quiet : call.mayWrite disabled = false) : call.mayWrite later = false := by
  unfold Call.mayWrite at quiet ⊢
  split at quiet
  · simpa using still (by simpa using quiet)
  all_goals exact quiet

theorem Silent.step (silent : shared.Silent) (place : Nat) :
    (shared.step place).Silent ∧
      (shared.step place).stream.connection.writes = shared.stream.connection.writes := by
  cases found : shared.calls[place]? with
  | none =>
      rw [step_of_absent found]
      exact ⟨silent, rfl⟩
  | some call =>
      obtain ⟨writes, still, quiet⟩ := next_of_quiet (silent place call found)
      refine ⟨fun other changed among => ?_, by rw [step_stream found, writes]⟩
      rw [step_stream found]
      rcases of_step_call among with before | ⟨given, known, -, rfl⟩
      · exact mayWrite_of_disabled still (silent other changed before)
      · obtain rfl := Option.some.inj (found.symm.trans known)
        exact quiet

theorem Silent.run (silent : shared.Silent) (turns : List Nat) :
    (shared.run turns).stream.connection.writes = shared.stream.connection.writes := by
  induction turns generalizing shared with
  | nil => rfl
  | cons place turns ih =>
      obtain ⟨later, writes⟩ := silent.step place
      exact (ih later).trans writes

end Silence

section Lock

/-- At most one call holds the lock. -/
def Exclusive (shared : Shared) : Prop :=
  ∀ (place other : Nat) (call rival : Call), shared.calls[place]? = some call →
    shared.calls[other]? = some rival → call.stage.holdsLock = true →
    rival.stage.holdsLock = true → place = other

theorem isLocked_iff : shared.isLocked = true ↔
    ∃ (place : Nat) (call : Call), shared.calls[place]? = some call ∧
      call.stage.holdsLock = true := by
  simp only [isLocked, List.any_eq_true, List.mem_iff_getElem?]
  constructor
  · rintro ⟨call, ⟨place, found⟩, holds⟩
    exact ⟨place, call, found, holds⟩
  · rintro ⟨place, call, found, holds⟩
    exact ⟨call, ⟨place, found⟩, holds⟩

/-- The lock is taken only where nobody holds it. -/
theorem next_holdsLock (holds : (shared.next call).2.holdsLock = true) :
    call.stage.holdsLock = true ∨ shared.isLocked = false := by
  cases stage : call.stage with
  | arriving =>
      cases disabled : shared.stream.disabled <;>
        simp [next, stage, disabled, Stage.holdsLock] at holds
  | waiting =>
      cases locked : shared.isLocked with
      | true => simp [next, stage, locked, Stage.holdsLock] at holds
      | false => exact .inr rfl
  | writing left => exact .inl rfl
  | failed => exact .inl rfl
  | leaving => exact .inl rfl
  | ended => simp [next, stage, Stage.holdsLock] at holds

theorem Exclusive.step (exclusive : shared.Exclusive) (turn : Nat) : (shared.step turn).Exclusive := by
  intro place other call rival found known holds contends
  rcases of_step_call found with before | ⟨first, taken, rfl, rfl⟩
  · rcases of_step_call known with early | ⟨second, given, rfl, rfl⟩
    · exact exclusive place other call rival before early holds contends
    · rcases next_holdsLock contends with held | free
      · exact exclusive place other call second before given holds held
      · have locked := isLocked_iff.mpr ⟨place, call, before, holds⟩
        exact absurd (locked.symm.trans free) nofun
  · rcases of_step_call known with early | ⟨second, given, same, rfl⟩
    · rcases next_holdsLock holds with held | free
      · exact exclusive place other first rival taken early held contends
      · have locked := isLocked_iff.mpr ⟨other, rival, early, contends⟩
        exact absurd (locked.symm.trans free) nofun
    · exact same.symm

theorem Exclusive.run (exclusive : shared.Exclusive) (turns : List Nat) :
    (shared.run turns).Exclusive := by
  induction turns generalizing shared with
  | nil => exact exclusive
  | cons place turns ih => exact ih (exclusive.step place)

theorem exclusive_opened (connection : Connection) (texts : List String) :
    (opened connection texts).Exclusive := by
  intro place other call rival found known holds
  have member := List.mem_of_getElem? found
  obtain ⟨text, -, rfl⟩ := List.mem_map.mp member
  cases holds

end Lock

section Late

/-- Some turns let a call hand over bytes. -/
def Writes (shared : Shared) : Prop :=
  ∃ turns, shared.stream.connection.writes < (shared.run turns).stream.connection.writes

theorem writes_of_writing {byte : UInt8} {rest : List UInt8}
    (found : shared.calls[place]? = some call) (stage : call.stage = .writing (byte :: rest)) :
    shared.Writes := by
  refine ⟨[place], ?_⟩
  have stream := step_stream found
  simp only [next, stage] at stream
  show _ < (shared.step place).stream.connection.writes
  rw [stream]
  exact Nat.lt_succ_self _

theorem Writes.of_run (turns : List Nat)
    (same : (shared.run turns).stream.connection.writes = shared.stream.connection.writes)
    (later : (shared.run turns).Writes) : shared.Writes := by
  obtain ⟨more, further⟩ := later
  exact ⟨turns ++ more, by rwa [run_append, ← same]⟩

/-- How many turns a call with nothing more to hand over needs to give the lock back. -/
def turnsLeft : Stage → Nat
  | .writing _ => 3
  | .failed => 2
  | .leaving => 1
  | .arriving | .waiting | .ended => 0

theorem turnsLeft_pos {stage : Stage} (holds : stage.holdsLock = true) : 0 < turnsLeft stage := by
  cases stage with
  | writing left => exact Nat.succ_pos _
  | failed => exact Nat.succ_pos _
  | leaving => exact Nat.succ_pos _
  | arriving => cases holds
  | waiting => cases holds
  | ended => cases holds

/-- A call that holds the lock hands over bytes, or is on its way to give the lock back. -/
theorem next_of_holder (shared : Shared) (holds : call.stage.holdsLock = true) :
    (∃ byte rest, call.stage = .writing (byte :: rest)) ∨
      (shared.next call).1.connection.writes = shared.stream.connection.writes ∧
        turnsLeft (shared.next call).2 < turnsLeft call.stage := by
  cases stage : call.stage with
  | writing left =>
      cases left with
      | nil =>
          right
          cases flushed : shared.stream.connection.flushed shared.stream.connection.flushes <;>
            simp [next, stage, flushed, Connection.flush, turnsLeft]
      | cons byte rest => exact .inl ⟨byte, rest, rfl⟩
  | failed => exact .inr (by simp [next, stage, turnsLeft])
  | leaving => exact .inr (by simp [next, stage, turnsLeft])
  | arriving => simp [stage, Stage.holdsLock] at holds
  | waiting => simp [stage, Stage.holdsLock] at holds
  | ended => simp [stage, Stage.holdsLock] at holds

theorem writes_of_free (found : shared.calls[place]? = some call) (waits : call.stage = .waiting)
    (free : shared.isLocked = false) : shared.Writes := by
  have stream : (shared.step place).stream = shared.stream := by
    rw [step_stream found]
    simp [next, waits]
  have enters := step_call found
  obtain ⟨byte, rest, bytes⟩ := List.exists_cons_of_ne_nil (framed_ne_nil call.text)
  simp only [next, waits, free, bytes, Bool.false_eq_true, if_false] at enters
  have later : (shared.step place).Writes := writes_of_writing enters rfl
  exact Writes.of_run [place] (congrArg (·.connection.writes) stream) later

/-- Whoever waits gets the lock at last, unless its holder hands over bytes itself. -/
theorem writes_of_waiting (turns : Nat) (exclusive : shared.Exclusive)
    (found : shared.calls[place]? = some call) (waits : call.stage = .waiting)
    (soon : ∀ (other : Nat) (holder : Call), shared.calls[other]? = some holder →
      holder.stage.holdsLock = true → turnsLeft holder.stage ≤ turns) : shared.Writes := by
  induction turns generalizing shared with
  | zero =>
      cases locked : shared.isLocked with
      | false => exact writes_of_free found waits locked
      | true =>
          obtain ⟨other, holder, known, holds⟩ := isLocked_iff.mp locked
          have none := soon other holder known holds
          have some := turnsLeft_pos holds
          omega
  | succ turns ih =>
      cases locked : shared.isLocked with
      | false => exact writes_of_free found waits locked
      | true =>
          obtain ⟨other, holder, known, holds⟩ := isLocked_iff.mp locked
          have apart : place ≠ other := by
            rintro rfl
            obtain rfl := Option.some.inj (found.symm.trans known)
            simp [waits, Stage.holdsLock] at holds
          rcases next_of_holder shared holds with ⟨byte, rest, stage⟩ | ⟨writes, sooner⟩
          · exact writes_of_writing known stage
          · have still : (shared.step other).Writes := by
              refine ih (exclusive.step other) (by rwa [step_other apart]) ?_
              intro next rival among contends
              rcases of_step_call among with before | ⟨given, same, -, rfl⟩
              · obtain rfl := exclusive other next holder rival known before holds contends
                rw [step_call known] at among
                obtain rfl := Option.some.inj among
                have := soon other holder known holds
                simp only
                omega
              · obtain rfl := Option.some.inj (known.symm.trans same)
                have := soon other holder known holds
                simp only
                omega
            exact Writes.of_run [other] (by
              show (shared.step other).stream.connection.writes = _
              rw [step_stream known, writes]) still

theorem turnsLeft_le (stage : Stage) : turnsLeft stage ≤ 3 := by
  cases stage <;> simp [turnsLeft]

/-- More bytes may follow exactly if some call may still hand over bytes. -/
theorem writes_iff (exclusive : shared.Exclusive) :
    shared.Writes ↔ ∃ call ∈ shared.calls, call.mayWrite shared.stream.disabled = true := by
  constructor
  · rintro ⟨turns, writes⟩
    apply Classical.byContradiction
    intro quiet
    have silent : shared.Silent := fun place call found =>
      Bool.eq_false_iff.mpr fun may => quiet ⟨call, List.mem_of_getElem? found, may⟩
    have same := silent.run turns
    omega
  · rintro ⟨call, member, may⟩
    obtain ⟨place, found⟩ := List.mem_iff_getElem?.mp member
    cases stage : call.stage with
    | arriving =>
        have enabled : shared.stream.disabled = false := by simpa [Call.mayWrite, stage] using may
        have stream : (shared.step place).stream = shared.stream := by
          rw [step_stream found]
          simp [next, stage]
        have looks := step_call found
        simp only [next, stage, enabled] at looks
        have later : (shared.step place).Writes :=
          writes_of_waiting 3 (exclusive.step place) looks rfl fun _ _ _ _ => turnsLeft_le _
        exact Writes.of_run [place] (congrArg (·.connection.writes) stream) later
    | waiting => exact writes_of_waiting 3 exclusive found stage fun _ _ _ _ => turnsLeft_le _
    | writing left =>
        cases left with
        | nil => simp [Call.mayWrite, stage] at may
        | cons byte rest => exact writes_of_writing found stage
    | failed => simp [Call.mayWrite, stage] at may
    | leaving => simp [Call.mayWrite, stage] at may
    | ended => simp [Call.mayWrite, stage] at may

end Late

section Failures

/-- A write or a flush has failed, and the call that it failed for has noted it or will. -/
def HasFailed (shared : Shared) : Prop :=
  shared.stream.disabled = true ∨
    ∃ (place : Nat) (call : Call), shared.calls[place]? = some call ∧ call.stage = .failed

theorem next_goes (shared : Shared) (call : Call) :
    ∃ taken isWell, shared.stream.connection.Goes taken isWell (shared.next call).1.connection ∧
      (isWell = false ↔ (shared.next call).2 = .failed) ∧
      ((shared.next call).1.disabled = true ↔
        shared.stream.disabled = true ∨ call.stage = .failed) := by
  have stays := Connection.Goes.refl shared.stream.connection
  cases stage : call.stage with
  | arriving =>
      cases disabled : shared.stream.disabled <;>
        exact ⟨[], true, by simpa [next, stage] using stays, by simp [next, stage, disabled]⟩
  | waiting =>
      cases locked : shared.isLocked <;>
        exact ⟨[], true, by simpa [next, stage] using stays, by simp [next, stage, locked]⟩
  | writing left =>
      cases left with
      | nil =>
          have goes := shared.stream.connection.flush_goes
          refine ⟨[], _, by simpa [next, stage] using goes, ?_⟩
          cases flushed : shared.stream.connection.flush.2 <;> simp [next, stage, flushed]
      | cons byte rest =>
          have goes := shared.stream.connection.write_goes (byte :: rest)
          refine ⟨_, _, by simpa [next, stage] using goes, ?_⟩
          cases answered : (shared.stream.connection.write (byte :: rest)).2 <;>
            simp [next, stage, answered]
  | failed => exact ⟨[], true, by simpa [next, stage] using stays, by simp [next, stage]⟩
  | leaving => exact ⟨[], true, by simpa [next, stage] using stays, by simp [next, stage]⟩
  | ended => exact ⟨[], true, by simpa [next, stage] using stays, by simp [next, stage]⟩

/-- A failure is known for ever, and news of one comes only with the step that failed. -/
theorem hasFailed_step (found : shared.calls[place]? = some call) :
    (shared.step place).HasFailed ↔ shared.HasFailed ∨ (shared.next call).2 = .failed := by
  obtain ⟨-, -, -, -, disabled⟩ := next_goes shared call
  rw [← step_stream found] at disabled
  constructor
  · rintro (noted | ⟨other, changed, among, failed⟩)
    · rcases disabled.mp noted with before | failed
      · exact .inl (.inl before)
      · exact .inl (.inr ⟨place, call, found, failed⟩)
    · rcases of_step_call among with before | ⟨given, known, -, rfl⟩
      · exact .inl (.inr ⟨other, changed, before, failed⟩)
      · obtain rfl := Option.some.inj (found.symm.trans known)
        exact .inr failed
  · rintro ((before | ⟨other, unlucky, known, failed⟩) | fails)
    · exact .inl (disabled.mpr (.inl before))
    · by_cases same : other = place
      · subst same
        obtain rfl := Option.some.inj (found.symm.trans known)
        exact .inl (disabled.mpr (.inr failed))
      · exact .inr ⟨other, unlucky, (step_other same).trans known, failed⟩
    · exact .inr ⟨place, _, step_call found, fails⟩

theorem step_goes (shared : Shared) (place : Nat) :
    ∃ taken isWell,
      shared.stream.connection.Goes taken isWell (shared.step place).stream.connection ∧
      ((shared.step place).HasFailed ↔ shared.HasFailed ∨ isWell = false) := by
  cases found : shared.calls[place]? with
  | none =>
      rw [step_of_absent found]
      exact ⟨[], true, .refl _, by simp⟩
  | some call =>
      obtain ⟨taken, isWell, goes, fails, -⟩ := next_goes shared call
      exact ⟨taken, isWell, by rwa [step_stream found], by rw [hasFailed_step found, fails]⟩

theorem run_goes (shared : Shared) (turns : List Nat) :
    ∃ taken isWell,
      shared.stream.connection.Goes taken isWell (shared.run turns).stream.connection ∧
      ((shared.run turns).HasFailed ↔ shared.HasFailed ∨ isWell = false) := by
  induction turns generalizing shared with
  | nil => exact ⟨[], true, .refl _, by simp [run]⟩
  | cons place turns ih =>
      obtain ⟨taken, isWell, goes, fails⟩ := shared.step_goes place
      obtain ⟨more, isStill, later, broken⟩ := ih (shared.step place)
      refine ⟨taken ++ more, isWell && isStill, goes.trans later, ?_⟩
      show ((shared.step place).run turns).HasFailed ↔ _
      rw [broken, fails, Bool.and_eq_false_iff, or_assoc]

theorem not_hasFailed_opened (connection : Connection) (texts : List String) :
    ¬ (opened connection texts).HasFailed := by
  rintro (disabled | ⟨place, call, found, failed⟩)
  · cases disabled
  · obtain ⟨text, -, rfl⟩ := List.mem_map.mp (List.mem_of_getElem? found)
    cases failed

end Failures

/-- Whatever turns the calls took, a failure stands behind every one of these states: the
stream is disabled, or the call that met the failure is about to disable it.  More bytes can
be handed over then, as ever, exactly if there is a call that may still do so, which can be
one that looked at the stream before the failure and has waited for the lock since. -/
theorem bytes_follow_iff (connection : Connection) (texts : List String) (turns : List Nat) :
    let shared := (opened connection texts).run turns
    (connection.Broke shared.stream.connection ↔ shared.HasFailed) ∧
      (shared.Writes ↔ ∃ call ∈ shared.calls, call.mayWrite shared.stream.disabled = true) := by
  obtain ⟨taken, isWell, goes, fails⟩ := run_goes (opened connection texts) turns
  refine ⟨?_, writes_iff ((exclusive_opened connection texts).run turns)⟩
  rw [fails, or_iff_right (not_hasFailed_opened connection texts)]
  exact goes.broke

/-- A connection whose first write fails, while those after it take all they are given. -/
def recovering : Connection where
  reception number := if number = 0 then .fails else .takes 100
  flushed _ := true
  received := []
  writes := 0
  flushes := 0

/-- Both calls look at the stream before the first of them writes. -/
theorem keep_alive_follows_failure :
    let failed := (opened recovering ["Done", Stream.keepAliveLine]).run [0, 1, 0, 0, 0, 0]
    recovering.Broke failed.stream.connection ∧ failed.stream.disabled = true ∧ failed.Writes ∧
      (failed.run [1, 1]).stream.connection.received = framed Stream.keepAliveLine := by
  intro failed
  obtain ⟨broke, follow⟩ := bytes_follow_iff recovering ["Done", Stream.keepAliveLine] [0, 1, 0, 0, 0, 0]
  have disabled : failed.stream.disabled = true := by decide +kernel
  have waits : ∃ call ∈ failed.calls, call.mayWrite failed.stream.disabled = true := by decide +kernel
  exact ⟨broke.mpr (.inl disabled), disabled, follow.mpr waits, by decide +kernel⟩

end Shared

end Rollout.Progress
