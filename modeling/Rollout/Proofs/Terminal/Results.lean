import Rollout.Proofs.Terminal.Streaming

namespace Rollout.Terminal

/-! What a session comes to.

The result is there once both streams and the program have ended.  It is the failure of the
output, or that of the diagnostics, or what the program made of itself, in this order.  A
session that is not abandoned goes on until it has heard all three.
-/

def Event.exit? : Event → Option (Except Remote.Error (Option Int))
  | .exited outcome => some outcome
  | _ => none

/-- The result of two readings and an exit, if all of them are over. -/
def verdict (stdout stderr : Option (Except Error Unit))
    (exit : Option (Except Remote.Error (Option Int))) : Option (Except Error (Option Int)) :=
  match stdout, stderr, exit with
  | some (.error cause), some _, some _ => some (.error cause)
  | some (.ok ()), some (.error cause), some _ => some (.error cause)
  | some (.ok ()), some (.ok ()), some (.error cause) => some (.error (.exiting cause))
  | some (.ok ()), some (.ok ()), some (.ok code) => some (.ok code)
  | _, _, _ => none

namespace Session

variable {session next : Session} {event : Event}

section Exits

theorem settled_exit (session : Session) : session.settled.exit = session.exit := by
  unfold settled
  cases session.result? <;> rfl

theorem endStream_exit (source : Source) (ending : Except Error Unit) :
    (session.endStream source ending).exit = session.exit := by
  cases source with
  | stdout => exact settled_exit _
  | stderr => exact settled_exit _

theorem read_exit (bytes : List UInt8) : (session.read bytes).exit = session.exit := by
  cases session
  rfl

theorem pump_exit (source : Source) (outcome : Except String (List UInt8)) :
    (session.pump source outcome).exit = session.exit := by
  unfold pump
  split
  · rfl
  · exact endStream_exit _ _
  · exact endStream_exit _ _
  · exact read_exit _

theorem TypesOnly.exit (types : TypesOnly session next) : next.exit = session.exit := by
  obtain ⟨handles, automation, rfl⟩ := types
  rfl

theorem shutDown_exit (handle : Option Nat) : (session.shutDown handle).leave.exit = session.exit := by
  cases handle <;> rfl

theorem Stepped.exit (stepped : Stepped session event next)
    (unheard : ∀ outcome, event = .exited outcome → session.stage ≠ .live) :
    next.exit = session.exit := by
  cases stepped with
  | pumped source outcome live => exact pump_exit source outcome
  | exited outcome live => exact absurd live (unheard outcome rfl)
  | shut handle before free => exact shutDown_exit handle
  | automated => exact (automate_typesOnly session event).exit
  | _ => rfl

theorem step_exit_of_unheard (session : Session)
    (unheard : ∀ outcome, event = .exited outcome → session.stage ≠ .live) :
    (session.step event).exit = session.exit :=
  (step_stepped session event).exit unheard

/-- The first exit counts. -/
theorem step_exit (session : Session) (event : Event) :
    (session.step event).exit =
      session.exit.or ((session.heard? Event.exit? event).map (·.mapError .exiting)) := by
  by_cases live : session.stage = .live
  · rw [heard?, if_pos live]
    cases event with
    | exited outcome =>
        have steps : session.step (.exited outcome) = session.exited outcome := by
          simp only [step, live]
        rw [steps, exited]
        cases exit : session.exit with
        | some earlier => exact exit
        | none => exact settled_exit _
    | _ =>
        refine (session.step_exit_of_unheard ?_).trans Option.or_none.symm
        intro outcome exits
        cases exits
  · rw [heard?, if_neg live]
    exact (session.step_exit_of_unheard fun _ _ => live).trans Option.or_none.symm

theorem run_exit (session : Session) (events : List Event) :
    (session.run events).exit =
      session.exit.or ((session.heard Event.exit? events).head?.map (·.mapError .exiting)) := by
  induction events generalizing session with
  | nil => exact Option.or_none.symm
  | cons event rest ih =>
      have later := ih (session.step event)
      have whole : session.heard Event.exit? (event :: rest) =
          (session.heard? Event.exit? event).toList ++ (session.step event).heard Event.exit? rest := rfl
      rw [whole]
      refine later.trans ?_
      rw [step_exit]
      cases session.heard? Event.exit? event with
      | none => rw [Option.map_none, Option.or_none]; rfl
      | some outcome => cases session.exit <;> rfl

end Exits

section Stages

theorem step_isBegun (begun : session.stage.isBegun = true) (event : Event) :
    (session.step event).stage.isBegun = true := by
  cases step_changes session event with
  | idle stage lines bound quiet => rwa [stage]
  | operated operation operates stage lines sessions => rwa [stage]
  | registered handle opens before stage lines sessions => rw [before] at begun; cases begun
  | unopened cause before stage lines sessions => rw [before] at begun; cases begun
  | announced before stage lines sessions => rw [stage]; rfl
  | read bytes before stage lines sessions => rw [stage]; rfl
  | closed before stage lines bound => rw [stage]; rfl
  | left before stage lines bound => rw [stage]; rfl
  | ended before stage lines sessions => rw [stage]; rfl

theorem run_isBegun (begun : session.stage.isBegun = true) (events : List Event) :
    (session.run events).stage.isBegun = true := by
  induction events generalizing session with
  | nil => exact begun
  | cons event rest ih => exact ih (step_isBegun begun event)

theorem isBegun_of_isClosed {stage : Stage} (closed : stage.isClosed = true) : stage.isBegun = true := by
  cases stage with
  | closing handle => rfl
  | leaving => rfl
  | ended => rfl
  | _ => cases closed

/-- Once a session is closed its automation may be dropped. -/
theorem step_dropped (closed : session.stage.isClosed = true) :
    session.step .dropped = { session with automation := .stopped } := by
  simp only [step, isBegun_of_isClosed closed, automate, dropAutomation, closed, if_true]

/-- Before a session is live it hears nothing. -/
theorem heard_of_unbegun {View : Type} (view : Event → Option View) {events : List Event}
    (unbegun : (session.run events).stage.isBegun = false) : session.heard view events = [] := by
  induction events generalizing session with
  | nil => rfl
  | cons event rest ih =>
      have unlive : session.stage ≠ .live := by
        intro live
        have begun : session.stage.isBegun = true := by
          rw [live]
          rfl
        have still := run_isBegun begun (event :: rest)
        rw [unbegun] at still
        cases still
      rw [heard, heard?, if_neg unlive]
      exact ih unbegun

end Stages

section Endings

/-- A session that is closed has read both streams to their ends, and its program has exited. -/
def Exhausted (session : Session) : Prop :=
  session.stage.isClosed = true →
    (∀ source, (session.ending? source).isSome = true) ∧ session.exit.isSome = true

theorem settled_exhausted (live : session.stage = .live) : session.settled.Exhausted := by
  intro closed
  have ended : session.stdout.isSome = true ∧ session.stderr.isSome = true ∧
      session.exit.isSome = true := by
    unfold settled at closed
    cases result : session.result? with
    | none =>
        rw [result, live] at closed
        cases closed
    | some outcome =>
        unfold result? at result
        rw [live] at result
        obtain ⟨stdout, first, rest⟩ := Option.bind_eq_some_iff.mp result
        obtain ⟨stderr, second, rest⟩ := Option.bind_eq_some_iff.mp rest
        obtain ⟨exit, third, -⟩ := Option.bind_eq_some_iff.mp rest
        exact ⟨by rw [first]; rfl, by rw [second]; rfl, by rw [third]; rfl⟩
  rw [settled_exit]
  refine ⟨fun source => ?_, ended.2.2⟩
  rw [settled_ending]
  cases source with
  | stdout => exact ended.1
  | stderr => exact ended.2.1

theorem exhausted_of_live (live : session.stage = .live) : session.Exhausted := by
  intro closed
  rw [live] at closed
  cases closed

theorem pump_exhausted {outcome : Except String (List UInt8)} (live : session.stage = .live) :
    (session.pump source outcome).Exhausted := by
  have ends (ending : Except Error Unit) : (session.endStream source ending).Exhausted := by
    cases source with
    | stdout => exact settled_exhausted live
    | stderr => exact settled_exhausted live
  unfold pump
  split
  · exact exhausted_of_live live
  · exact ends _
  · exact ends _
  · exact exhausted_of_live ((read_stage _).trans live)

theorem exited_exhausted {outcome : Except Remote.Error (Option Int)} (live : session.stage = .live) :
    (session.exited outcome).Exhausted := by
  unfold exited
  split
  · exact exhausted_of_live live
  · exact settled_exhausted live

theorem Stepped.exhausted (stepped : Stepped session event next) (live : session.stage = .live)
    (kept : event ≠ .abandoned) : next.Exhausted := by
  have elsewhere {stage : Stage} (before : session.stage = stage) (other : stage ≠ .live) :
      next.Exhausted :=
    absurd (before.symm.trans live) other
  cases stepped with
  | ticked time => exact exhausted_of_live live
  | operated operation => exact exhausted_of_live live
  | opened handle before => exact elsewhere before nofun
  | failed cause before => exact elsewhere before nofun
  | forgone before => exact elsewhere before nofun
  | announced before => exact elsewhere before nofun
  | pumped source outcome live => exact pump_exhausted live
  | exited outcome live => exact exited_exhausted live
  | abandoned before => exact absurd rfl kept
  | shut handle before free => exact elsewhere before nofun
  | ended before => exact elsewhere before nofun
  | automated =>
      exact exhausted_of_live ((automate_typesOnly session event).stage.trans live)
  | idle => exact exhausted_of_live live

theorem live_step_exhausted (live : session.stage = .live) (kept : event ≠ .abandoned) :
    (session.step event).Exhausted :=
  (step_stepped session event).exhausted live kept

theorem Exhausted.step (exhausted : session.Exhausted) (kept : event ≠ .abandoned) :
    (session.step event).Exhausted := by
  have before (closed : session.stage.isClosed = true) :
      (∀ source, ((session.step event).ending? source).isSome = true) ∧
        (session.step event).exit.isSome = true := by
    obtain ⟨ended, exited⟩ := exhausted closed
    refine ⟨fun source => ?_, ?_⟩
    · rw [step_ending, Option.isSome_or, ended source]
      rfl
    · rw [step_exit, Option.isSome_or, exited]
      rfl
  intro closed
  have early {stage' : Stage} (stage : (session.step event).stage = stage')
      (unclosed : stage'.isClosed = false) : False := by
    rw [stage, unclosed] at closed
    cases closed
  cases step_changes session event with
  | idle stage lines bound quiet => exact before (stage ▸ closed)
  | operated operation operates stage lines sessions => exact before (stage ▸ closed)
  | registered handle opens was stage lines sessions => exact (early stage rfl).elim
  | unopened cause was stage lines sessions => exact (early stage rfl).elim
  | announced was stage lines sessions => exact (early stage rfl).elim
  | read bytes was stage lines sessions => exact (early stage rfl).elim
  | closed was stage lines bound => exact live_step_exhausted was kept closed
  | left was stage lines bound =>
      rcases was with was | ⟨handle, was⟩
      · exact live_step_exhausted was kept closed
      · exact before (by rw [was]; rfl)
  | ended was stage lines sessions => exact before (by rw [was]; rfl)

theorem Exhausted.run {events : List Event} (exhausted : session.Exhausted)
    (kept : .abandoned ∉ events) : (session.run events).Exhausted := by
  induction events generalizing session with
  | nil => exact exhausted
  | cons event rest ih =>
      obtain ⟨first, later⟩ := List.ne_and_not_mem_of_not_mem_cons kept
      exact ih (exhausted.step first.symm) later

end Endings

section Hearing

variable {later : List Event} {source : Source}

theorem live_of_begun (begun : session.stage.isBegun = true) (unclosed : session.stage.isClosed ≠ true) :
    session.stage = .live := by
  cases stage : session.stage with
  | live => rfl
  | closing handle => exact absurd (by rw [stage]; rfl) unclosed
  | leaving => exact absurd (by rw [stage]; rfl) unclosed
  | ended => exact absurd (by rw [stage]; rfl) unclosed
  | opening => rw [stage] at begun; cases begun
  | unopened cause => rw [stage] at begun; cases begun
  | registered => rw [stage] at begun; cases begun

/-- A session that is not abandoned reads its streams to their ends, whatever else happens. -/
theorem reads_of_begun (begun : session.stage.isBegun = true) (exhausted : session.Exhausted)
    (kept : .abandoned ∉ later) (unread : session.ending? source = none) :
    chunksOf (session.reads source later) = chunksOf (later.filterMap (Event.readOf? source)) ∧
      endOf? (session.reads source later) = endOf? (later.filterMap (Event.readOf? source)) := by
  induction later generalizing session with
  | nil => exact ⟨rfl, rfl⟩
  | cons event rest ih =>
      obtain ⟨first, others⟩ := List.ne_and_not_mem_of_not_mem_cons kept
      have live : session.stage = .live := by
        apply live_of_begun begun
        intro closed
        have ended := (exhausted closed).1 source
        rw [unread] at ended
        cases ended
      have heard : session.heard? (Event.readOf? source) event = event.readOf? source := if_pos live
      have whole : (event :: rest).filterMap (Event.readOf? source) =
          (event.readOf? source).toList ++ rest.filterMap (Event.readOf? source) := by
        cases read : event.readOf? source <;> simp [read]
      rw [reads_cons, whole, heard, chunksOf_append, chunksOf_append, endOf?_append, endOf?_append]
      cases ends : endOf? (event.readOf? source).toList with
      | some ending => exact ⟨rfl, rfl⟩
      | none =>
          have unended : (session.step event).ending? source = none := by
            rw [step_ending, unread, heard, ends]
            rfl
          obtain ⟨chunks, ending⟩ :=
            ih (step_isBegun begun event) (exhausted.step first.symm) others unended
          exact ⟨congrArg _ chunks, ending⟩

theorem exits_of_begun (begun : session.stage.isBegun = true) (exhausted : session.Exhausted)
    (kept : .abandoned ∉ later) (running : session.exit = none) :
    (session.heard Event.exit? later).head? = (later.filterMap Event.exit?).head? := by
  induction later generalizing session with
  | nil => rfl
  | cons event rest ih =>
      obtain ⟨first, others⟩ := List.ne_and_not_mem_of_not_mem_cons kept
      have live : session.stage = .live := by
        apply live_of_begun begun
        intro closed
        have exited := (exhausted closed).2
        rw [running] at exited
        cases exited
      have heard : session.heard? Event.exit? event = event.exit? := if_pos live
      rw [Session.heard, heard]
      cases exits : event.exit? with
      | some outcome => simp [exits]
      | none =>
          have unexited : (session.step event).exit = none := by
            rw [step_exit, running, heard, exits]
            rfl
          rw [List.filterMap_cons_none exits]
          exact ih (step_isBegun begun event) (exhausted.step first.symm) others unexited

theorem heard_append {View : Type} (view : Event → Option View) (session : Session)
    (events later : List Event) :
    session.heard view (events ++ later) =
      session.heard view events ++ (session.run events).heard view later := by
  induction events generalizing session with
  | nil => rfl
  | cons event rest ih =>
      have first := ih (session.step event)
      rw [List.cons_append, heard, heard, first, List.append_assoc]
      rfl

theorem unbegun_of_registered {stage : Stage} (registered : stage = .registered) :
    stage.isBegun = false := by
  rw [registered]
  rfl

/-- What is heard is heard from the announcement on. -/
theorem heard_since {View : Type} (view : Event → Option View) {opening : Session} {past : List Event}
    (registered : (opening.run past).stage = .registered) (later : List Event) :
    opening.heard view (past ++ .proceed :: later) = (opening.run past).announce.heard view later := by
  have nothing : opening.heard view past = [] :=
    heard_of_unbegun view (unbegun_of_registered registered)
  have unlive : (opening.run past).stage ≠ .live := by
    rw [registered]
    exact Stage.noConfusion
  have announces : (opening.run past).step .proceed = (opening.run past).announce := by
    simp only [step, registered]
  rw [heard_append, nothing, heard, heard?, if_neg unlive, announces]
  rfl

theorem reads_since {opening : Session} {past : List Event}
    (unread : opening.ending? source = none) (registered : (opening.run past).stage = .registered)
    (kept : .abandoned ∉ later) :
    chunksOf (opening.reads source (past ++ .proceed :: later)) =
        chunksOf (later.filterMap (Event.readOf? source)) ∧
      endOf? (opening.reads source (past ++ .proceed :: later)) =
        endOf? (later.filterMap (Event.readOf? source)) := by
  have unended : (opening.run past).ending? source = none := by
    rw [run_ending, unread, reads, heard_of_unbegun _ (unbegun_of_registered registered)]
    rfl
  have announced : (opening.run past).announce.ending? source = none := by
    cases source <;> exact unended
  rw [reads, heard_since _ registered]
  exact reads_of_begun rfl (exhausted_of_live rfl) kept announced

theorem exits_since {opening : Session} {past : List Event}
    (running : opening.exit = none) (registered : (opening.run past).stage = .registered)
    (kept : .abandoned ∉ later) :
    (opening.heard Event.exit? (past ++ .proceed :: later)).head? =
      (later.filterMap Event.exit?).head? := by
  have unexited : (opening.run past).exit = none := by
    rw [run_exit, running, heard_of_unbegun _ (unbegun_of_registered registered)]
    rfl
  rw [heard_since _ registered]
  exact exits_of_begun rfl (exhausted_of_live rfl) kept unexited

end Hearing

/-- What a run comes to is told by its readings and its exit. -/
theorem run_result {session : Session} (unread : ∀ source, session.ending? source = none)
    (running : session.exit = none) (events : List Event)
    (opened : (session.run events).stage.isUnopened = false) :
    (session.run events).result? =
      verdict (endOf? (session.reads .stdout events)) (endOf? (session.reads .stderr events))
        (session.heard Event.exit? events).head? := by
  have stdout : (session.run events).stdout = endOf? (session.reads .stdout events) := by
    have ending := run_ending session events .stdout
    rwa [unread, Option.none_or] at ending
  have stderr : (session.run events).stderr = endOf? (session.reads .stderr events) := by
    have ending := run_ending session events .stderr
    rwa [unread, Option.none_or] at ending
  have exit := run_exit session events
  rw [running, Option.none_or] at exit
  have started : (session.run events).result? =
      (session.run events).stdout.bind fun stdout => (session.run events).stderr.bind fun stderr =>
        (session.run events).exit.bind fun code =>
          some (stdout.bind fun _ => stderr.bind fun _ => code) := by
    unfold result?
    split
    · rename_i stage
      rw [stage] at opened
      cases opened
    · rfl
  rw [started, stdout, stderr, exit]
  unfold verdict
  cases endOf? (session.reads .stdout events) with
  | none => rfl
  | some stdout =>
      cases endOf? (session.reads .stderr events) with
      | none => cases stdout <;> rfl
      | some stderr =>
          cases (session.heard Event.exit? events).head? with
          | none => cases stdout <;> cases stderr <;> rfl
          | some outcome => cases stdout <;> cases stderr <;> cases outcome <;> rfl

theorem isUnopened_of_isBegun {stage : Stage} (begun : stage.isBegun = true) :
    stage.isUnopened = false := by
  cases stage with
  | opening => cases begun
  | unopened cause => cases begun
  | _ => rfl

/-- A session that is not abandoned comes to what its streams and its program come to. -/
theorem result_since {opening : Session} {past later : List Event}
    (unread : ∀ source, opening.ending? source = none) (running : opening.exit = none)
    (registered : (opening.run past).stage = .registered) (kept : .abandoned ∉ later) :
    (opening.run (past ++ .proceed :: later)).result? =
      verdict (endOf? (later.filterMap (Event.readOf? .stdout)))
        (endOf? (later.filterMap (Event.readOf? .stderr))) (later.filterMap Event.exit?).head? := by
  have live : ((opening.run past).step .proceed).stage = .live := by
    simp only [step, registered, announce]
  have begun : (opening.run (past ++ .proceed :: later)).stage.isBegun = true := by
    rw [run_append]
    exact run_isBegun (by rw [live]; rfl) later
  rw [run_result unread running _ (isUnopened_of_isBegun begun),
    (reads_since (unread .stdout) registered kept).2, (reads_since (unread .stderr) registered kept).2,
    exits_since running registered kept]

end Session

end Rollout.Terminal
