import Rollout.Proofs.Terminal.Answering
import Rollout.Proofs.Terminal.Handle

namespace Rollout.Terminal

/-! What is still typed when a session is over.

The end of a session calls its automation off, but an answer in flight may go on until the
automation is dropped.  No other answer is begun once the id is out of the directory.  The
session shuts its handle down before it announces its end, and waits for the handle if the
automation holds it, so whatever comes later is handed to a handle that is shut down.
-/

section Handles

variable {handles : List Handle} {place : Nat}

/-- Every handle is still there, and shut down if it was. -/
def Retained (handles later : List Handle) : Prop :=
  ∀ (number : Nat) (handle : Handle), handles[number]? = some handle →
    ∃ after : Handle, later[number]? = some after ∧ (handle.isShut = true → after.isShut = true)

theorem retained_refl (handles : List Handle) : Retained handles handles :=
  fun _ handle stored => ⟨handle, stored, fun shut => shut⟩

theorem retained_append (handles fresh : List Handle) : Retained handles (handles ++ fresh) := by
  intro number handle stored
  have within : number < handles.length := (List.getElem?_eq_some_iff.mp stored).1
  exact ⟨handle, (List.getElem?_append_left within).trans stored, fun shut => shut⟩

theorem retained_modify {change : Handle → Handle}
    (keeps : ∀ handle : Handle, handle.isShut = true → (change handle).isShut = true) :
    Retained handles (handles.modify place change) := by
  intro number handle stored
  rw [List.getElem?_modify, stored]
  by_cases same : place = number
  · exact ⟨change handle, by simp [same], keeps handle⟩
  · exact ⟨handle, by simp [same], fun shut => shut⟩

theorem retained_set {old new : Handle} (found : handles[place]? = some old)
    (keeps : old.isShut = true → new.isShut = true) : Retained handles (handles.set place new) := by
  intro number handle stored
  by_cases same : place = number
  · subst same
    obtain rfl := Option.some.inj (found.symm.trans stored)
    have within : place < handles.length := (List.getElem?_eq_some_iff.mp found).1
    exact ⟨new, List.getElem?_set_self within, keeps⟩
  · exact ⟨handle, (List.getElem?_set_ne same).trans stored, fun shut => shut⟩

theorem write_retained (sessions : Sessions) (id : String) (bytes : List UInt8) :
    Retained sessions.handles (sessions.write id bytes).1.handles := by
  unfold Sessions.write
  split
  · exact retained_refl _
  · rename_i number handle found
    apply retained_set (Sessions.find?_eq_some_iff.mp found).2
    intro shut
    rw [Handle.write_isShut, shut]

theorem apply_retained (sessions : Sessions) (operation : Sessions.Operation) :
    Retained sessions.handles (sessions.apply operation).1.handles := by
  cases operation with
  | register id handle => exact retained_append _ _
  | write id bytes => exact write_retained sessions id bytes
  | inject request =>
      simp only [Sessions.apply, Sessions.inject]
      split
      · exact retained_refl _
      · exact write_retained sessions _ _
  | close id =>
      simp only [Sessions.apply, Sessions.close]
      split
      · exact retained_refl _
      · rename_i number handle found
        exact retained_set (Sessions.find?_eq_some_iff.mp found).2 fun _ => Handle.shutdown_isShut
  | remove id => exact retained_refl _
  | contains id => exact retained_refl _
  | size => exact retained_refl _

end Handles

namespace Automation

/-- What is left of the answer in flight. -/
def pending : Automation → List UInt8
  | .reaching _ keys _ => keys
  | .typing _ left _ => left
  | .waiting .. | .stopped => []

/-- The handle that was found for the answer in flight. -/
def handle? : Automation → Option Nat
  | .reaching number _ _ => some number
  | .typing number _ _ => some number
  | .waiting .. | .stopped => none

theorem start_handle? (now : Nat) (answers : List Answer) : (start now answers).handle? = none := by
  cases answers <;> rfl

end Automation

namespace Session

variable {session next : Session} {event : Event}

section Flights

end Flights

section Departures

theorem Stepped.retained (stepped : Stepped session event next) :
    Retained session.sessions.handles next.sessions.handles := by
  cases stepped with
  | operated operation => exact apply_retained session.sessions operation
  | opened handle before => exact retained_append _ _
  | pumped source outcome live =>
      rw [(pump_sameInput source outcome).handles]
      exact retained_refl _
  | exited outcome live =>
      rw [(exited_sameInput outcome).handles]
      exact retained_refl _
  | shut handle before free =>
      cases handle with
      | none => exact retained_refl _
      | some number => exact retained_modify fun _ _ => Handle.shutdown_isShut
  | automated =>
      cases event with
      | taken count =>
          simp only [automate, typeKeys]
          split
          · exact retained_modify fun _ shut => shut
          · exact retained_refl _
      | _ =>
          rw [(automate_answersOnly fun _ => Event.noConfusion).sameInput.handles]
          exact retained_refl _
  | _ => exact retained_refl _

/-- A session, its automation and its handle, from the opening of the terminal on. -/
structure Tied (session : Session) (number : Nat) : Prop where
  holds : session.Holds number
  vacates : session.Vacates Stage.isClosed
  active : session.Active
  types : ∀ target, session.automation.handle? = some target → target = number
  closes : ∀ handle, session.stage = .closing handle → handle = some number
  stored : ∃ handle, session.sessions.handles[number]? = some handle ∧
    (session.stage.hasLeft = true → handle.isShut = true)

theorem isActive_or_isClosed {stage : Stage} (begun : stage.isBegun = true) :
    stage.isActive = true ∨ stage.isClosed = true := by
  cases stage with
  | live => exact .inl rfl
  | closing handle => exact .inr rfl
  | leaving => exact .inr rfl
  | ended => exact .inr rfl
  | _ => cases begun

theorem Tied.types_step {number : Nat} (tied : session.Tied number) (event : Event) (target : Nat)
    (found : (session.step event).automation.handle? = some target) : target = number := by
  cases step_moves session event with
  | kept automation idle stage => exact tied.types target (automation ▸ found)
  | started proceeds before automation idle =>
      rw [automation, Automation.start_handle?] at found
      cases found
  | began waits lets bound automation idle =>
      rw [automation] at found
      obtain rfl := Option.some.inj found
      have begun : session.stage.isBegun = true := tied.active.begun (by rw [waits]; nofun)
      rcases isActive_or_isClosed begun with active | closed
      · exact Option.some.inj (bound.symm.trans (tied.holds.bound active))
      · rw [tied.vacates closed] at bound
        cases bound
  | acquired reaches automation idle =>
      refine tied.types target ?_
      rw [automation] at found
      rwa [reaches]
  | typed count types automation delivers =>
      refine tied.types target ?_
      rw [automation] at found
      rwa [types]
  | finished flushes types automation idle =>
      rw [automation, Automation.start_handle?] at found
      cases found
  | lost begins waits lets missing automation idle => rw [automation] at found; cases found
  | refused refuses types automation idle => rw [automation] at found; cases found
  | dropped drops closed automation stage idle => rw [automation] at found; cases found

theorem Tied.closes_step {number : Nat} (tied : session.Tied number) (event : Event)
    (handle : Option Nat) (closing : (session.step event).stage = .closing handle) :
    handle = some number := by
  have elsewhere {stage : Stage} (now : (session.step event).stage = stage)
      (other : stage ≠ .closing handle) : handle = some number :=
    absurd (now.symm.trans closing) other
  cases step_changes session event with
  | idle stage lines bound quiet => exact tied.closes handle (stage ▸ closing)
  | operated operation operates stage lines sessions => exact tied.closes handle (stage ▸ closing)
  | registered opened opens before stage => exact elsewhere stage nofun
  | unopened cause before stage => exact elsewhere stage nofun
  | announced before stage => exact elsewhere stage nofun
  | read bytes before stage => exact elsewhere stage nofun
  | closed before stage lines bound =>
      have held := tied.holds.bound (by rw [before]; rfl)
      rw [stage, held] at closing
      exact (Stage.closing.inj closing).symm
  | left before stage => exact elsewhere stage nofun
  | ended before stage => exact elsewhere stage nofun

theorem settled_unleft (unleft : session.stage.hasLeft = false) :
    session.settled.stage.hasLeft = false := by
  unfold settled
  cases session.result? with
  | none => exact unleft
  | some result => rfl

theorem pump_unleft {source : Source} {outcome : Except String (List UInt8)}
    (unleft : session.stage.hasLeft = false) :
    (session.pump source outcome).stage.hasLeft = false := by
  have ends (ending : Except Error Unit) : (session.endStream source ending).stage.hasLeft = false := by
    cases source <;> exact settled_unleft unleft
  unfold pump
  split
  · exact unleft
  · exact ends _
  · exact ends _
  · rwa [read_stage]

theorem exited_unleft {outcome : Except Remote.Error (Option Int)}
    (unleft : session.stage.hasLeft = false) : (session.exited outcome).stage.hasLeft = false := by
  unfold exited
  split
  · exact unleft
  · exact settled_unleft unleft

/-- A session that leaves by itself has shut its handle down. -/
theorem Tied.stored_stepped {number : Nat} (tied : session.Tied number)
    (stepped : Stepped session event next) (kept : event ≠ .abandoned) :
    ∃ handle, next.sessions.handles[number]? = some handle ∧
      (next.stage.hasLeft = true → handle.isShut = true) := by
  obtain ⟨handle, stored, shut⟩ := tied.stored
  obtain ⟨after, retained, stays⟩ := stepped.retained number handle stored
  refine ⟨after, retained, fun left => ?_⟩
  have unmoved (same : session.stage.hasLeft = true) : after.isShut = true := stays (shut same)
  cases stepped with
  | abandoned before => exact absurd rfl kept
  | shut target before free =>
      obtain rfl := tied.closes target before
      have shuts : ((session.shutDown (some number)).leave).sessions.handles[number]? =
          some handle.shutdown.1 := by
        simp [shutDown, leave, Sessions.remove, stored]
      obtain rfl := Option.some.inj (retained.symm.trans shuts)
      exact Handle.shutdown_isShut
  | ended before => exact unmoved (by rw [before]; rfl)
  | ticked time => exact unmoved left
  | operated operation => exact unmoved left
  | idle => exact unmoved left
  | automated => exact unmoved ((automate_typesOnly session event).stage ▸ left)
  | pumped source outcome live =>
      rw [pump_unleft (by rw [live]; rfl)] at left
      cases left
  | exited outcome live =>
      rw [exited_unleft (by rw [live]; rfl)] at left
      cases left
  | _ => cases left

theorem unregistered_of_spared {id : String} {operation? : Option Sessions.Operation}
    (spared : ∀ operation, operation? = some operation → operation.id? = some id →
      operation.binding = .kept) (handle : Handle) : operation? ≠ some (.register id handle) := by
  intro registers
  cases spared _ registers rfl

theorem Tied.step {number : Nat} (tied : session.Tied number) (kept : event ≠ .abandoned)
    (spared : ∀ operation, event.operation? = some operation → operation.id? = some session.id →
      operation.binding = .kept) : (session.step event).Tied number where
  holds := tied.holds.step spared
  vacates := tied.vacates.step (fun _ closed => closed) rfl (unregistered_of_spared spared)
  active := tied.active.step event
  types := tied.types_step event
  closes := tied.closes_step event
  stored := tied.stored_stepped (step_stepped session event) kept

theorem Tied.opened {handle : Handle} (stage : session.stage = .opening)
    (stopped : session.automation = .stopped) :
    (session.step (.opened (.ok handle))).Tied session.sessions.handles.length := by
  have holds : (session.step (.opened (.ok handle))).Holds session.sessions.handles.length :=
    Holds.opened stage
  have opens : session.step (.opened (.ok handle)) = session.register handle := by
    simp only [Session.step, stage]
  rw [opens] at holds ⊢
  have stands : (session.register handle).stage = .registered := rfl
  refine { holds, active := .inl stopped, vacates := ?_, types := ?_, closes := ?_, stored := ?_ }
  · intro closed
    rw [stands] at closed
    cases closed
  · intro target found
    change session.automation.handle? = some target at found
    rw [stopped] at found
    cases found
  · intro other closing
    cases stands.symm.trans closing
  · refine ⟨handle, by simp [register, Sessions.register], fun left => ?_⟩
    rw [stands] at left
    cases left

theorem Tied.run {number : Nat} {events : List Event} (tied : session.Tied number)
    (kept : .abandoned ∉ events)
    (spared : ∀ operation ∈ operated events, operation.id? = some session.id →
      operation.binding = .kept) : (session.run events).Tied number := by
  induction events generalizing session with
  | nil => exact tied
  | cons event rest ih =>
      obtain ⟨first, others⟩ := List.ne_and_not_mem_of_not_mem_cons kept
      have next : (session.step event).Tied number := by
        apply tied.step first.symm
        intro operation operates
        exact spared operation (List.mem_filterMap.mpr ⟨event, by simp, operates⟩)
      apply ih next others
      intro operation member
      rw [step_id]
      obtain ⟨later, among, operates⟩ := List.mem_filterMap.mp member
      exact spared operation (List.mem_filterMap.mpr ⟨later, by simp [among], operates⟩)

end Departures

end Session

end Rollout.Terminal
