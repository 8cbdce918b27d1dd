import Rollout.Proofs.Terminal.Results

namespace Rollout.Terminal.Session

/-! How a session comes to life and to its end.

With the ends of both streams and of the program a session closes.  From there on it goes to its
end step by step, and waits only for what the automation may still be handing over.
-/

variable {session opening : Session}

theorem registered_of_opened (stage : session.stage = .opening) (handle : Handle) :
    (session.step (.opened (.ok handle))).stage = .registered := by
  simp only [step, stage, register]

theorem live_of_registered (registered : session.stage = .registered) :
    (session.step .proceed).stage = .live := by
  simp only [step, registered, announce]

/-- A session that has heard of everything it waits for is closed. -/
theorem closed_of_ended {past later : List Event} (unfinished : opening.Unfinished)
    (unread : ∀ source, opening.ending? source = none) (running : opening.exit = none)
    (registered : (opening.run past).stage = .registered) (kept : .abandoned ∉ later)
    (ended : ∀ source, (endOf? (later.filterMap (Event.readOf? source))).isSome = true)
    (exits : (later.filterMap Event.exit?).head?.isSome = true) :
    (opening.run (past ++ .proceed :: later)).stage.isClosed = true := by
  have result := result_since unread running registered kept
  obtain ⟨stdout, first⟩ := Option.isSome_iff_exists.mp (ended .stdout)
  obtain ⟨stderr, second⟩ := Option.isSome_iff_exists.mp (ended .stderr)
  obtain ⟨exit, third⟩ := Option.isSome_iff_exists.mp exits
  rw [first, second, third] at result
  have begun : (opening.run (past ++ .proceed :: later)).stage.isBegun = true := by
    have announced : (opening.run past).step .proceed = (opening.run past).announce := by
      simp only [step, registered]
    rw [run_append]
    exact run_isBegun (by rw [announced]; rfl) later
  cases closed : (opening.run (past ++ .proceed :: later)).stage.isClosed with
  | true => rfl
  | false =>
      have live := live_of_begun begun (by rw [closed]; exact Bool.false_ne_true)
      rw [(unfinished.run _).of_live live] at result
      cases stdout <;> cases stderr <;> cases exit <;> cases result

theorem Told.last (told : session.Told) (ended : session.stage = .ended) :
    session.lines.getLast? = some (.sessionEnded session.id) := by
  obtain ⟨chunks, lines⟩ := told
  rw [lines, ended]
  exact List.getLast?_concat

theorem leaving_of_closing {handle : Option Nat} (closing : session.stage = .closing handle)
    (idle : ∀ number, session.automation.holds number = false) :
    (session.step .proceed).stage = .leaving := by
  have free : session.shutsDown handle = true := by
    cases handle with
    | none => rfl
    | some number => simp [shutsDown, idle number]
  simp only [step, closing, if_pos free]
  rfl

theorem ended_of_leaving (leaving : session.stage = .leaving) :
    (session.step .proceed).stage = .ended := by
  simp only [step, leaving, announceEnd]

theorem ended_of_ended (ended : session.stage = .ended) : (session.step .proceed).stage = .ended := by
  simp only [step, ended, Stage.isBegun, automate, if_true]

/-- A closed session goes to its end unless its automation holds a handle. -/
theorem ended_of_closed (closed : session.stage.isClosed = true)
    (idle : ∀ number, session.automation.holds number = false) :
    (session.run [.proceed, .proceed]).stage = .ended := by
  show ((session.step .proceed).step .proceed).stage = .ended
  cases stage : session.stage with
  | closing handle => exact ended_of_leaving (leaving_of_closing stage idle)
  | leaving => exact ended_of_ended (ended_of_leaving stage)
  | ended => exact ended_of_ended (ended_of_ended stage)
  | _ =>
      rw [stage] at closed
      cases closed

theorem leaves_of_closed (told : session.Told) (closed : session.stage.isClosed = true)
    (idle : ∀ number, session.automation.holds number = false) :
    let final := session.run [.proceed, .proceed]
    final.stage = .ended ∧ final.lines.getLast? = some (.sessionEnded session.id) ∧
      (session.stage.hasLeft = false → final.sessions.bound[session.id]? = none) := by
  intro final
  have ended := ended_of_closed closed idle
  refine ⟨ended, ?_, ?_⟩
  · rw [← run_id session [.proceed, .proceed]]
    exact (told.run _).last ended
  · intro unleft
    exact unbound_of_given isClosed_of_hasLeft rfl unleft (by simp [operated, Event.operation?])
      (by rw [ended]; rfl)

/-- The life of a terminal session, for every order in which its streams, its program, its
automation, the operators and its abandonment come.

Without a terminal, nothing is registered and nothing told.  With one, it is registered and then
live; its start is told first and its end last, both once; its id is bound to its handle from before the start is
told until the streams and the program have ended or it is abandoned, unless an operator
rebinds the id; and afterwards the id is not bound, unless an operator registers it.  Only
operators change other bindings, and to remove the id a second time changes nothing.

A session whose streams and program have ended closes by itself, whatever else happens.  A
session that closes leaves and tells its end as soon as its automation holds no handle, and the
automation that it calls off holds none once it is dropped.  A session that is abandoned ends
likewise. -/
theorem session_lifecycle (sessions : Sessions) (id : String) (now : Nat) (answers : List Answer) :
    let opening := start sessions id now answers
    (∀ before cause after, (opening.run before).stage = .opening →
      (opening.run (before ++ .opened (.error cause) :: after)).stage = .unopened (some cause)) ∧
    (∀ before handle, (opening.run before).stage = .opening →
      (opening.run (before ++ [.opened (.ok handle)])).stage = .registered) ∧
    (∀ past, (opening.run past).stage = .registered →
      (opening.run (past ++ [.proceed])).stage = .live) ∧
    (∀ events, (opening.run events).stage.isUnopened = true →
      (opening.run events).lines = [] ∧
        (opening.run events).sessions = sessions.applyAll (operated events)) ∧
    (∀ events, ∃ chunks,
      (opening.run events).lines = (opening.run events).stage.told id chunks) ∧
    (∀ before handle after, (opening.run before).stage = .opening →
      (∀ operation ∈ operated after, operation.id? = some id → operation.binding = .kept) →
      (opening.run (before ++ .opened (.ok handle) :: after)).stage.isActive = true →
      (opening.run (before ++ .opened (.ok handle) :: after)).sessions.bound[id]? =
        some (opening.run before).sessions.handles.length) ∧
    (∀ before after, (opening.run before).stage.hasLeft = false →
      (∀ handle, .register id handle ∉ operated after) →
      (opening.run (before ++ after)).stage.hasLeft = true →
      (opening.run (before ++ after)).sessions.bound[id]? = none) ∧
    (∀ before after, (opening.run before).stage.isClosed = false →
      (∀ handle, .register id handle ∉ operated after) →
      (opening.run (before ++ after)).stage.isClosed = true →
      (opening.run (before ++ after)).leave.sessions = (opening.run (before ++ after)).sessions) ∧
    (∀ events event other, event.operation? = none → other ≠ id →
      ((opening.run events).step event).sessions.bound[other]? =
        (opening.run events).sessions.bound[other]?) ∧
    (∀ past later, (opening.run past).stage = .registered → .abandoned ∉ later →
      (∀ source, (endOf? (later.filterMap (Event.readOf? source))).isSome = true) →
      (later.filterMap Event.exit?).head?.isSome = true →
      (opening.run (past ++ .proceed :: later)).stage.isClosed = true) ∧
    (∀ events, (opening.run events).stage.isClosed = true →
      (∀ number, (opening.run events).automation.holds number = false) →
      let final := opening.run (events ++ [.proceed, .proceed])
      final.stage = .ended ∧ final.lines.getLast? = some (.sessionEnded id) ∧
        ((opening.run events).stage.hasLeft = false → final.sessions.bound[id]? = none)) ∧
    (∀ events, (opening.run events).stage.isClosed = true →
      (opening.run (events ++ [.dropped])).stage = (opening.run events).stage ∧
        ∀ number, (opening.run (events ++ [.dropped])).automation.holds number = false) ∧
    ∀ events, ((opening.run events).stage = .live → (opening.run events).result? = none) ∧
      (opening.run (events ++ [.proceed, .abandoned, .proceed])).isOver = true := by
  intro opening
  have named (events : List Event) : (opening.run events).id = id := run_id opening events
  have told (events : List Event) : (opening.run events).Told := Told.run ⟨[], rfl⟩ events
  have unread : opening.Unfinished := rfl
  refine ⟨?_, ?_, ?_, ?_, ?_, ?_, ?_, ?_, ?_, ?_, ?_, ?_, ?_⟩
  · intro before cause after stage
    rw [run_append]
    exact unopened_of_error stage after
  · intro before handle stage
    rw [run_append]
    exact registered_of_opened stage handle
  · intro past registered
    rw [run_append]
    exact live_of_registered registered
  · intro events unopened
    exact ⟨(told events).nothing unopened, (run_unopened unopened).2⟩
  · intro events
    obtain ⟨chunks, lines⟩ := told events
    exact ⟨chunks, named events ▸ lines⟩
  · intro before handle after stage spared active
    rw [run_append] at active ⊢
    rw [← named before] at spared ⊢
    exact bound_of_active stage spared active
  · intro before after unleft unregistered left
    rw [run_append] at left ⊢
    rw [← named before] at unregistered ⊢
    exact unbound_of_given isClosed_of_hasLeft rfl unleft unregistered left
  · intro before after unclosed unregistered closed
    apply leave_twice
    rw [run_append] at closed ⊢
    rw [← named before] at unregistered
    rw [run_id]
    exact unbound_of_given (fun _ closed => closed) rfl unclosed unregistered closed
  · intro events event other unoperated differs
    exact step_bound_other unoperated (named events ▸ differs)
  · intro past later registered kept ended exits
    have unheard (source : Source) : opening.ending? source = none := by cases source <;> rfl
    exact closed_of_ended unread unheard rfl registered kept ended exits
  · intro events closed idle final
    have leaves := leaves_of_closed (told events) closed idle
    rw [← named events]
    show (opening.run (events ++ _)).stage = _ ∧ (opening.run (events ++ _)).lines.getLast? = _ ∧
      (_ → (opening.run (events ++ _)).sessions.bound[_]? = _)
    rwa [run_append]
  · intro events closed
    have dropped : opening.run (events ++ [.dropped]) =
        { opening.run events with automation := .stopped } := by
      rw [run_append]
      exact step_dropped closed
    rw [dropped]
    exact ⟨rfl, fun _ => rfl⟩
  · intro events
    refine ⟨(unread.run events).of_live, ?_⟩
    rw [run_append]
    exact abandoned_ends _

end Rollout.Terminal.Session
