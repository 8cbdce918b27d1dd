import Rollout.Proofs.Terminal.Directory
import Rollout.Terminal.Session

namespace Rollout.Terminal

/-! From the opening of a terminal to the end of its session.

`Change` is all that a step can do to the stage of a session, to what it has told and to
the directory.  The rest of the module only follows these changes.
-/

open Sessions (Operation)

def Event.operation? : Event → Option Operation
  | .operator operation => some operation
  | _ => none

/-- What operators do to the directory. -/
def operated (events : List Event) : List Operation := events.filterMap Event.operation?

def Sessions.applyAll (sessions : Sessions) (operations : List Operation) : Sessions :=
  operations.foldl (fun sessions operation => (sessions.apply operation).1) sessions

namespace Session

variable {session next : Session} {event : Event}

section Typing

/-- Two sessions apart only by what is typed. -/
def TypesOnly (session next : Session) : Prop :=
  ∃ handles automation,
    next = { session with sessions := { session.sessions with handles }, automation }

/-- Two sessions apart only by how far the answers have got. -/
def AnswersOnly (session next : Session) : Prop := ∃ automation, next = { session with automation }

theorem AnswersOnly.typesOnly (answers : AnswersOnly session next) : TypesOnly session next := by
  obtain ⟨automation, rfl⟩ := answers
  exact ⟨session.sessions.handles, automation, rfl⟩

theorem answersOnly_refl : AnswersOnly session session := ⟨session.automation, rfl⟩

theorem beginAnswer_answersOnly (session : Session) : AnswersOnly session session.beginAnswer := by
  unfold beginAnswer
  split
  · split
    · split <;> exact ⟨_, rfl⟩
    · exact answersOnly_refl
  · exact answersOnly_refl

theorem holdHandle_answersOnly (session : Session) : AnswersOnly session session.holdHandle := by
  unfold holdHandle
  split
  · exact ⟨_, rfl⟩
  · exact answersOnly_refl

theorem finishAnswer_answersOnly (session : Session) : AnswersOnly session session.finishAnswer := by
  unfold finishAnswer
  split
  · exact ⟨_, rfl⟩
  · exact answersOnly_refl

theorem stopTyping_answersOnly (session : Session) : AnswersOnly session session.stopTyping := by
  unfold stopTyping
  split
  · exact ⟨_, rfl⟩
  · exact answersOnly_refl

theorem dropAutomation_answersOnly (session : Session) :
    AnswersOnly session session.dropAutomation := by
  unfold dropAutomation
  split
  · exact ⟨_, rfl⟩
  · exact answersOnly_refl

/-- Handles are given something only when they take keys. -/
theorem automate_answersOnly (untaken : ∀ count, event ≠ .taken count) :
    AnswersOnly session (session.automate event) := by
  cases event with
  | answer => exact beginAnswer_answersOnly session
  | acquired => exact holdHandle_answersOnly session
  | taken count => exact absurd rfl (untaken count)
  | flushed => exact finishAnswer_answersOnly session
  | refused => exact stopTyping_answersOnly session
  | dropped => exact dropAutomation_answersOnly session
  | _ => exact answersOnly_refl

theorem typeKeys_typesOnly (session : Session) (count : Nat) :
    TypesOnly session (session.typeKeys count) := by
  unfold typeKeys
  split
  · exact ⟨_, _, rfl⟩
  · exact answersOnly_refl.typesOnly

theorem automate_typesOnly (session : Session) (event : Event) :
    TypesOnly session (session.automate event) := by
  cases event with
  | taken count => exact typeKeys_typesOnly session count
  | _ => exact (automate_answersOnly fun _ => Event.noConfusion).typesOnly

end Typing

section Steps

/-- What a step makes of a session, event by event. -/
inductive Stepped (session : Session) : Event → Session → Prop where
  | ticked (time : Nat) : Stepped session (.clock time) { session with now := max session.now time }
  | operated (operation : Operation) : Stepped session (.operator operation)
      { session with sessions := (session.sessions.apply operation).1 }
  | opened (handle : Handle) (before : session.stage = .opening) :
      Stepped session (.opened (.ok handle)) (session.register handle)
  | failed (cause : Remote.Error) (before : session.stage = .opening) :
      Stepped session (.opened (.error cause)) { session with stage := .unopened (some cause) }
  | forgone (before : session.stage = .opening) :
      Stepped session .abandoned { session with stage := .unopened none }
  | announced (before : session.stage = .registered) : Stepped session .proceed session.announce
  | pumped (source : Source) (outcome : Except String (List UInt8)) (live : session.stage = .live) :
      Stepped session (.read source outcome) (session.pump source outcome)
  | exited (outcome : Except Remote.Error (Option Int)) (live : session.stage = .live) :
      Stepped session (.exited outcome) (session.exited outcome)
  | abandoned (before : session.stage = .live ∨ ∃ handle, session.stage = .closing handle) :
      Stepped session .abandoned session.leave
  | shut (handle : Option Nat) (before : session.stage = .closing handle)
      (free : session.shutsDown handle = true) :
      Stepped session .proceed (session.shutDown handle).leave
  | ended (before : session.stage = .leaving) : Stepped session .proceed session.announceEnd
  | automated (event : Event) (begun : session.stage.isBegun = true) :
      Stepped session event (session.automate event)
  | idle (event : Event) (still : session.stage.isBegun = true → event = .proceed) :
      Stepped session event session

theorem step_stepped (session : Session) (event : Event) :
    Stepped session event (session.step event) := by
  unfold step
  split
  · exact .ticked _
  · exact .operated _
  · rename_i before
    exact .opened _ before
  · rename_i before
    exact .failed _ before
  · rename_i before
    exact .forgone before
  · rename_i before
    exact .announced before
  · rename_i live
    exact .pumped _ _ live
  · rename_i live
    exact .exited _ live
  · rename_i live
    exact .abandoned (.inl live)
  · rename_i handle before
    exact .abandoned (.inr ⟨handle, before⟩)
  · rename_i handle before
    split
    · rename_i free
      exact .shut handle before free
    · exact .idle _ fun _ => rfl
  · rename_i before
    exact .ended before
  · split
    · rename_i begun
      exact .automated _ begun
    · rename_i unbegun
      exact .idle _ fun begun => absurd begun unbegun

/-- What a step makes of the stage of a session, of what it has told and of the directory. -/
inductive Change (session : Session) (event : Event) (next : Session) : Prop where
  | idle (stage : next.stage = session.stage) (lines : next.lines = session.lines)
      (bound : next.sessions.bound = session.sessions.bound)
      (quiet : session.stage.isBegun = false → next.sessions = session.sessions)
  | operated (operation : Operation) (operates : event = .operator operation)
      (stage : next.stage = session.stage) (lines : next.lines = session.lines)
      (sessions : next.sessions = (session.sessions.apply operation).1)
  | registered (handle : Handle) (opens : event = .opened (.ok handle))
      (before : session.stage = .opening) (stage : next.stage = .registered)
      (lines : next.lines = session.lines)
      (sessions : next.sessions = session.sessions.register session.id handle)
  | unopened (cause : Option Remote.Error) (before : session.stage = .opening)
      (stage : next.stage = .unopened cause) (lines : next.lines = session.lines)
      (sessions : next.sessions = session.sessions)
  | announced (before : session.stage = .registered) (stage : next.stage = .live)
      (lines : next.lines = session.lines ++ [.sessionStarted session.id])
      (sessions : next.sessions = session.sessions)
  | read (bytes : List UInt8) (before : session.stage = .live) (stage : next.stage = .live)
      (lines : next.lines = session.lines ++ [.terminalOutput bytes])
      (sessions : next.sessions = session.sessions)
  | closed (before : session.stage = .live)
      (stage : next.stage = .closing session.sessions.bound[session.id]?)
      (lines : next.lines = session.lines)
      (bound : next.sessions.bound = session.sessions.bound.erase session.id)
  | left (before : session.stage = .live ∨ ∃ handle, session.stage = .closing handle)
      (stage : next.stage = .leaving) (lines : next.lines = session.lines)
      (bound : next.sessions.bound = session.sessions.bound.erase session.id)
  | ended (before : session.stage = .leaving) (stage : next.stage = .ended)
      (lines : next.lines = session.lines ++ [.sessionEnded session.id])
      (sessions : next.sessions = session.sessions)

theorem change_refl : Change session event session :=
  .idle rfl rfl rfl fun _ => rfl

-- The session is taken apart so that no window has to be compared with the one before.
theorem read_changes {bytes : List UInt8} (live : session.stage = .live) :
    Change session event (session.read bytes) := by
  cases session
  exact .read bytes live live rfl rfl

theorem settled_changes (live : session.stage = .live) (id : next.id = session.id)
    (stage : next.stage = session.stage) (lines : next.lines = session.lines)
    (sessions : next.sessions = session.sessions) : Change session event next.settled := by
  unfold settled
  cases next.result? with
  | none => exact .idle stage lines (congrArg _ sessions) fun _ => sessions
  | some result =>
      refine .closed live ?_ lines ?_
      · simp only [id, sessions]
      · simp only [Sessions.remove, id, sessions]

theorem settled_id : session.settled.id = session.id := by
  unfold settled
  cases session.result? <;> rfl

theorem shutDown_bound {handle : Option Nat} :
    (session.shutDown handle).sessions.bound = session.sessions.bound := by
  cases handle <;> rfl

theorem shutDown_lines {handle : Option Nat} : (session.shutDown handle).lines = session.lines := by
  cases handle <;> rfl

theorem shutDown_id {handle : Option Nat} : (session.shutDown handle).id = session.id := by
  cases handle <;> rfl

theorem endStream_changes {source : Source} {ending : Except Error Unit} (live : session.stage = .live) :
    Change session event (session.endStream source ending) := by
  cases source with
  | stdout => exact settled_changes live rfl rfl rfl rfl
  | stderr => exact settled_changes live rfl rfl rfl rfl

theorem pump_changes {source : Source} {outcome : Except String (List UInt8)}
    (live : session.stage = .live) : Change session event (session.pump source outcome) := by
  unfold pump
  split
  · exact change_refl
  · exact endStream_changes live
  · exact endStream_changes live
  · exact read_changes live

theorem exited_changes {outcome : Except Remote.Error (Option Int)} (live : session.stage = .live) :
    Change session event (session.exited outcome) := by
  unfold exited
  split
  · exact change_refl
  · exact settled_changes live rfl rfl rfl rfl

theorem TypesOnly.changes (types : TypesOnly session next) (begun : session.stage.isBegun = true) :
    Change session event next := by
  obtain ⟨handles, automation, rfl⟩ := types
  refine .idle rfl rfl rfl fun unbegun => ?_
  rw [begun] at unbegun
  cases unbegun

theorem Stepped.changes (stepped : Stepped session event next) : Change session event next := by
  cases stepped with
  | ticked time => exact .idle rfl rfl rfl fun _ => rfl
  | operated operation => exact .operated operation rfl rfl rfl rfl
  | opened handle before => exact .registered handle rfl before rfl rfl rfl
  | failed cause before => exact .unopened (some cause) before rfl rfl rfl
  | forgone before => exact .unopened none before rfl rfl rfl
  | announced before => exact .announced before rfl rfl rfl
  | pumped source outcome live => exact pump_changes live
  | exited outcome live => exact exited_changes live
  | abandoned before => exact .left before rfl rfl rfl
  | shut handle before free =>
      refine .left (.inr ⟨handle, before⟩) rfl shutDown_lines ?_
      simp only [leave, Sessions.remove, shutDown_bound, shutDown_id]
  | ended before => exact .ended before rfl rfl rfl
  | automated _ begun => exact (automate_typesOnly session event).changes begun
  | idle => exact change_refl

theorem step_changes (session : Session) (event : Event) : Change session event (session.step event) :=
  (step_stepped session event).changes

theorem endStream_id {source : Source} {ending : Except Error Unit} :
    (session.endStream source ending).id = session.id := by
  cases source with
  | stdout => exact settled_id
  | stderr => exact settled_id

theorem exited_id {outcome : Except Remote.Error (Option Int)} :
    (session.exited outcome).id = session.id := by
  unfold exited
  split
  · rfl
  · exact settled_id

theorem read_id {bytes : List UInt8} : (session.read bytes).id = session.id := by
  cases session
  rfl

theorem pump_id {source : Source} {outcome : Except String (List UInt8)} :
    (session.pump source outcome).id = session.id := by
  unfold pump
  split
  · rfl
  · exact endStream_id
  · exact endStream_id
  · exact read_id

theorem TypesOnly.stage (types : TypesOnly session next) : next.stage = session.stage := by
  obtain ⟨handles, automation, rfl⟩ := types
  rfl

theorem TypesOnly.id (types : TypesOnly session next) : next.id = session.id := by
  obtain ⟨handles, automation, rfl⟩ := types
  rfl

theorem Stepped.id (stepped : Stepped session event next) : next.id = session.id := by
  cases stepped with
  | pumped source outcome live => exact pump_id
  | exited outcome live => exact exited_id
  | shut handle before free => exact shutDown_id
  | automated => exact (automate_typesOnly session event).id
  | _ => rfl

theorem step_id (session : Session) (event : Event) : (session.step event).id = session.id :=
  (step_stepped session event).id

theorem run_id (session : Session) (events : List Event) : (session.run events).id = session.id := by
  induction events generalizing session with
  | nil => rfl
  | cons event rest ih => exact (ih (session.step event)).trans (step_id session event)

end Steps

section Lines

/-- What a session has told when it has got this far. -/
def Stage.told (id : String) (chunks : List (List UInt8)) : Stage → List Progress.Line
  | .opening | .unopened _ | .registered => []
  | .live | .closing _ | .leaving => .sessionStarted id :: chunks.map .terminalOutput
  | .ended => Transcript.lines { id, chunks }

def Told (session : Session) : Prop :=
  ∃ chunks, session.lines = session.stage.told session.id chunks

theorem Told.step (told : session.Told) (event : Event) : (session.step event).Told := by
  obtain ⟨chunks, told⟩ := told
  unfold Told
  rw [step_id]
  cases step_changes session event with
  | idle stage lines bound quiet => exact ⟨chunks, by rw [lines, stage, told]⟩
  | operated operation operates stage lines sessions => exact ⟨chunks, by rw [lines, stage, told]⟩
  | registered handle opens before stage lines sessions =>
      exact ⟨chunks, by rw [lines, stage, told, before]; rfl⟩
  | unopened cause before stage lines sessions =>
      exact ⟨chunks, by rw [lines, stage, told, before]; rfl⟩
  | announced before stage lines sessions => exact ⟨[], by rw [lines, stage, told, before]; rfl⟩
  | read bytes before stage lines sessions =>
      exact ⟨chunks ++ [bytes], by rw [lines, stage, told, before]; simp [Stage.told]⟩
  | closed before stage lines bound =>
      exact ⟨chunks, by rw [lines, stage, told, before]; rfl⟩
  | left before stage lines bound =>
      rcases before with before | ⟨handle, before⟩ <;>
        exact ⟨chunks, by rw [lines, stage, told, before]; rfl⟩
  | ended before stage lines sessions => exact ⟨chunks, by rw [lines, stage, told, before]; rfl⟩

theorem Told.run (told : session.Told) (events : List Event) : (session.run events).Told := by
  induction events generalizing session with
  | nil => exact told
  | cons event rest ih => exact ih (told.step event)

end Lines

section Registrations

def Stage.isActive : Stage → Bool
  | .registered | .live => true
  | _ => false

def Stage.hasLeft : Stage → Bool
  | .leaving | .ended => true
  | _ => false

/-- Other ids are left to the operators. -/
theorem step_bound_other {other : String} (unoperated : event.operation? = none)
    (differs : other ≠ session.id) :
    (session.step event).sessions.bound[other]? = session.sessions.bound[other]? := by
  have elsewhere : (session.sessions.bound.erase session.id)[other]? = session.sessions.bound[other]? :=
    getElem?_erase_iff.trans (if_neg (Ne.symm differs))
  cases step_changes session event with
  | idle stage lines bound quiet => rw [bound]
  | operated operation operates stage lines sessions =>
      rw [operates] at unoperated
      cases unoperated
  | registered handle opens before stage lines sessions =>
      rw [sessions]
      exact getElem?_insert_iff.trans (if_neg (Ne.symm differs))
  | unopened cause before stage lines sessions => rw [sessions]
  | announced before stage lines sessions => rw [sessions]
  | read bytes before stage lines sessions => rw [sessions]
  | closed before stage lines bound => rw [bound, elsewhere]
  | left before stage lines bound => rw [bound, elsewhere]
  | ended before stage lines sessions => rw [sessions]

/-- Once its terminal is open, a session keeps its binding while it is active. -/
structure Holds (session : Session) (number : Nat) : Prop where
  begun : session.stage ≠ .opening
  bound : session.stage.isActive = true → session.sessions.bound[session.id]? = some number

theorem Holds.step {number : Nat} (holds : session.Holds number) {event : Event}
    (spared : ∀ operation, event.operation? = some operation → operation.id? = some session.id →
      operation.binding = .kept) : (session.step event).Holds number := by
  have kept (stage : (session.step event).stage = session.stage)
      (bound : (session.step event).sessions.bound[session.id]? = session.sessions.bound[session.id]?) :
      (session.step event).Holds number := by
    constructor
    · rw [stage]
      exact holds.begun
    · intro active
      rw [step_id, bound]
      exact holds.bound (stage ▸ active)
  have inactive {stage' : Stage} (stage : (session.step event).stage = stage')
      (later : stage' ≠ .opening) (idle : stage'.isActive = false) :
      (session.step event).Holds number := by
    constructor
    · rwa [stage]
    · intro active
      rw [stage, idle] at active
      cases active
  cases step_changes session event with
  | idle stage lines bound quiet => exact kept stage (congrArg (·[session.id]?) bound)
  | operated operation operates stage lines sessions =>
      apply kept stage
      rw [sessions]
      apply Sessions.apply_bound_of_spared
      exact spared operation (by rw [operates]; rfl)
  | registered handle opens before stage lines sessions => exact absurd before holds.begun
  | unopened cause before stage lines sessions => exact absurd before holds.begun
  | announced before stage lines sessions =>
      constructor
      · simp [stage]
      · intro _
        rw [step_id, sessions]
        exact holds.bound (by rw [before]; rfl)
  | read bytes before stage lines sessions =>
      exact kept (stage.trans before.symm) (by rw [sessions])
  | closed before stage lines bound => exact inactive stage (by simp) rfl
  | left before stage lines bound => exact inactive stage (by simp) rfl
  | ended before stage lines sessions => exact inactive stage (by simp) rfl

theorem Holds.run {number : Nat} (holds : session.Holds number) {events : List Event}
    (spared : ∀ operation ∈ operated events, operation.id? = some session.id →
      operation.binding = .kept) : (session.run events).Holds number := by
  induction events generalizing session with
  | nil => exact holds
  | cons event rest ih =>
      have next : (session.step event).Holds number := by
        apply holds.step
        intro operation operates
        exact spared operation (List.mem_filterMap.mpr ⟨event, by simp, operates⟩)
      apply ih next
      intro operation member
      rw [step_id]
      obtain ⟨later, among, operates⟩ := List.mem_filterMap.mp member
      exact spared operation (List.mem_filterMap.mpr ⟨later, by simp [among], operates⟩)

theorem Holds.opened {handle : Handle} (stage : session.stage = .opening) :
    (session.step (.opened (.ok handle))).Holds session.sessions.handles.length := by
  have opens : session.step (.opened (.ok handle)) = session.register handle := by
    simp only [Session.step, stage]
  rw [opens]
  exact ⟨by simp [register], fun _ => getElem?_insert_iff.trans (if_pos rfl)⟩

/-- In some of the stages after the id was given up it is not bound. -/
def Vacates (given : Stage → Bool) (session : Session) : Prop :=
  given session.stage = true → session.sessions.bound[session.id]? = none

/-- The id stays unbound as long as nobody registers it. -/
theorem Vacates.step {given : Stage → Bool} (vacates : session.Vacates given)
    (only : ∀ stage, given stage = true → stage.isClosed = true) (leaving : given .leaving = true)
    (unregistered : ∀ handle, event.operation? ≠ some (.register session.id handle)) :
    (session.step event).Vacates given := by
  unfold Vacates
  rw [step_id]
  have erased : (session.sessions.bound.erase session.id)[session.id]? = none :=
    getElem?_erase_iff.trans (if_pos rfl)
  intro gone
  have early {stage' : Stage} (stage : (session.step event).stage = stage')
      (before : stage'.isClosed = false) : False := by
    have closed := only _ gone
    rw [stage, before] at closed
    cases closed
  cases step_changes session event with
  | idle stage lines bound quiet =>
      rw [bound]
      exact vacates (stage ▸ gone)
  | operated operation operates stage lines sessions =>
      rw [sessions]
      apply Sessions.apply_bound_of_unbound (vacates (stage ▸ gone))
      intro handle same
      exact unregistered handle (by rw [operates, same]; rfl)
  | closed before stage lines bound => rw [bound, erased]
  | left before stage lines bound => rw [bound, erased]
  | ended before stage lines sessions =>
      rw [sessions]
      exact vacates (by rw [before]; exact leaving)
  | registered handle opens before stage lines sessions => exact (early stage rfl).elim
  | unopened cause before stage lines sessions => exact (early stage rfl).elim
  | announced before stage lines sessions => exact (early stage rfl).elim
  | read bytes before stage lines sessions => exact (early stage rfl).elim

theorem Vacates.run {given : Stage → Bool} (vacates : session.Vacates given)
    (only : ∀ stage, given stage = true → stage.isClosed = true) (leaving : given .leaving = true)
    {events : List Event} (unregistered : ∀ handle, .register session.id handle ∉ operated events) :
    (session.run events).Vacates given := by
  induction events generalizing session with
  | nil => exact vacates
  | cons event rest ih =>
      have next : (session.step event).Vacates given := by
        apply vacates.step only leaving
        intro handle registers
        exact unregistered handle (List.mem_filterMap.mpr ⟨event, by simp, registers⟩)
      apply ih next
      intro handle member
      rw [step_id] at member
      obtain ⟨later, among, registers⟩ := List.mem_filterMap.mp member
      exact unregistered handle (List.mem_filterMap.mpr ⟨later, by simp [among], registers⟩)

theorem bound_of_active {handle : Handle} {after : List Event} (stage : session.stage = .opening)
    (spared : ∀ operation ∈ operated after, operation.id? = some session.id →
      operation.binding = .kept)
    (active : (session.run (.opened (.ok handle) :: after)).stage.isActive = true) :
    (session.run (.opened (.ok handle) :: after)).sessions.bound[session.id]? =
      some session.sessions.handles.length := by
  rw [← step_id session (.opened (.ok handle))] at spared
  have bound := ((Holds.opened stage).run spared).bound active
  rwa [run_id, step_id] at bound

theorem unbound_of_given {given : Stage → Bool} {after : List Event}
    (only : ∀ stage, given stage = true → stage.isClosed = true) (leaving : given .leaving = true)
    (before : given session.stage = false)
    (unregistered : ∀ handle, .register session.id handle ∉ operated after)
    (gone : given (session.run after).stage = true) :
    (session.run after).sessions.bound[session.id]? = none := by
  have vacates : session.Vacates given := by
    intro already
    rw [before] at already
    cases already
  rw [← run_id session after]
  exact vacates.run only leaving unregistered gone

theorem isClosed_of_hasLeft (stage : Stage) (left : stage.hasLeft = true) :
    stage.isClosed = true := by
  cases stage with
  | leaving => rfl
  | ended => rfl
  | _ => cases left

end Registrations

section Endings

def Stage.isUnopened : Stage → Bool
  | .opening | .unopened _ => true
  | _ => false

theorem isBegun_of_isUnopened {stage : Stage} (unopened : stage.isUnopened = true) :
    stage.isBegun = false := by
  cases stage with
  | opening => rfl
  | unopened cause => rfl
  | _ => cases unopened

theorem Told.nothing (told : session.Told) (unopened : session.stage.isUnopened = true) :
    session.lines = [] := by
  obtain ⟨chunks, lines⟩ := told
  rw [lines]
  cases stage : session.stage with
  | opening => rfl
  | unopened cause => rfl
  | _ =>
      rw [stage] at unopened
      cases unopened

/-- Before a terminal is open, only operators use the directory. -/
theorem step_unopened (unopened : (session.step event).stage.isUnopened = true) :
    session.stage.isUnopened = true ∧
      (session.step event).sessions =
        Sessions.applyAll session.sessions event.operation?.toList := by
  cases operation : event.operation? with
  | some operation' =>
      obtain rfl : event = .operator operation' := by
        cases event <;> simp_all [Event.operation?]
      exact ⟨unopened, rfl⟩
  | none =>
      have opened {stage' : Stage} (stage : (session.step event).stage = stage')
          (later : stage'.isUnopened = false) : False := by
        rw [stage, later] at unopened
        cases unopened
      cases step_changes session event with
      | idle stage lines bound quiet =>
          have before : session.stage.isUnopened = true := stage ▸ unopened
          refine ⟨before, quiet (isBegun_of_isUnopened before)⟩
      | operated operation' operates stage lines sessions =>
          rw [operates] at operation
          cases operation
      | unopened cause before stage lines sessions => exact ⟨by rw [before]; rfl, sessions⟩
      | registered handle opens before stage lines sessions => exact (opened stage rfl).elim
      | announced before stage lines sessions => exact (opened stage rfl).elim
      | read bytes before stage lines sessions => exact (opened stage rfl).elim
      | closed before stage lines bound => exact (opened stage rfl).elim
      | left before stage lines bound => exact (opened stage rfl).elim
      | ended before stage lines sessions => exact (opened stage rfl).elim

theorem run_unopened {events : List Event} (unopened : (session.run events).stage.isUnopened = true) :
    session.stage.isUnopened = true ∧
      (session.run events).sessions = Sessions.applyAll session.sessions (operated events) := by
  induction events generalizing session with
  | nil => exact ⟨unopened, rfl⟩
  | cons event rest ih =>
      obtain ⟨next, later⟩ := ih unopened
      obtain ⟨first, sessions⟩ := step_unopened next
      refine ⟨first, ?_⟩
      change ((session.step event).run rest).sessions = _
      rw [later, sessions]
      unfold operated Sessions.applyAll
      cases operation : event.operation? <;> simp [operation]

/-- Before a session is live, no stream has ended; while it is live, not everything has. -/
def Unfinished (session : Session) : Prop :=
  match session.stage with
  | .opening | .registered => session.stdout = none
  | .live => session.result? = none
  | _ => True

theorem settled_unfinished (live : session.stage = .live) : session.settled.Unfinished := by
  unfold settled
  cases result : session.result? with
  | some _ => exact trivial
  | none =>
      unfold Unfinished
      rw [live]
      exact result

theorem announce_unfinished (unread : session.stdout = none) : session.announce.Unfinished := by
  change session.announce.result? = none
  simp [result?, announce, unread]

theorem endStream_unfinished {source : Source} {ending : Except Error Unit}
    (live : session.stage = .live) : (session.endStream source ending).Unfinished := by
  cases source with
  | stdout => exact settled_unfinished live
  | stderr => exact settled_unfinished live

theorem Unfinished.shown (unfinished : session.Unfinished) (window : Window)
    (lines : List Progress.Line) (sinks : List Sink) :
    ({ session with window, lines, sinks } : Session).Unfinished :=
  unfinished

theorem Unfinished.pump {source : Source} {outcome : Except String (List UInt8)}
    (unfinished : session.Unfinished) (live : session.stage = .live) :
    (session.pump source outcome).Unfinished := by
  unfold Session.pump
  split
  · exact unfinished
  · exact endStream_unfinished live
  · exact endStream_unfinished live
  · exact unfinished.shown _ _ _

theorem Unfinished.exited {outcome : Except Remote.Error (Option Int)}
    (unfinished : session.Unfinished) (live : session.stage = .live) :
    (session.exited outcome).Unfinished := by
  unfold Session.exited
  split
  · exact unfinished
  · exact settled_unfinished live

theorem Unfinished.automate (unfinished : session.Unfinished) (types : TypesOnly session next) :
    next.Unfinished := by
  obtain ⟨handles, automation, rfl⟩ := types
  exact unfinished

theorem Unfinished.stepped (unfinished : session.Unfinished) (stepped : Stepped session event next) :
    next.Unfinished := by
  have fresh {stage : Stage} (before : session.stage = stage)
      (unread : stage = .opening ∨ stage = .registered) : session.stdout = none := by
    unfold Unfinished at unfinished
    rcases unread with rfl | rfl <;> rwa [before] at unfinished
  cases stepped with
  | ticked time => exact unfinished
  | operated operation => exact unfinished
  | opened handle before => exact fresh before (.inl rfl)
  | failed cause before => exact trivial
  | forgone before => exact trivial
  | announced before => exact announce_unfinished (fresh before (.inr rfl))
  | pumped source outcome live => exact unfinished.pump live
  | exited outcome live => exact unfinished.exited live
  | abandoned before => exact trivial
  | shut handle before free => exact trivial
  | ended before => exact trivial
  | automated => exact unfinished.automate (automate_typesOnly session event)
  | idle => exact unfinished

theorem Unfinished.step (unfinished : session.Unfinished) (event : Event) :
    (session.step event).Unfinished :=
  unfinished.stepped (step_stepped session event)

theorem Unfinished.run (unfinished : session.Unfinished) (events : List Event) :
    (session.run events).Unfinished := by
  induction events generalizing session with
  | nil => exact unfinished
  | cons event rest ih => exact ih (unfinished.step event)

theorem isOver_of_closing {handle : Option Nat} (closing : session.stage = .closing handle) :
    (session.run [.abandoned, .proceed]).isOver = true := by
  simp [run, step, closing, isOver, leave, announceEnd]

theorem isOver_of_leaving (leaving : session.stage = .leaving) :
    (session.run [.abandoned, .proceed]).isOver = true := by
  simp [run, step, leaving, isOver, Stage.isBegun, automate, announceEnd]

theorem abandoned_ends (session : Session) :
    (session.run [.proceed, .abandoned, .proceed]).isOver = true := by
  cases stage : session.stage with
  | opening => simp [run, step, stage, isOver, Stage.isBegun]
  | unopened cause => simp [run, step, stage, isOver, Stage.isBegun]
  | registered => simp [run, step, stage, isOver, announce, leave, announceEnd]
  | live => simp [run, step, stage, isOver, Stage.isBegun, automate, leave, announceEnd]
  | closing handle =>
      -- The end waits for the automation only as long as nobody abandons the session.
      change ((session.step .proceed).run [.abandoned, .proceed]).isOver = true
      by_cases free : session.shutsDown handle = true
      · apply isOver_of_leaving
        simp only [step, stage, if_pos free]
        rfl
      · have waits : (session.step .proceed).stage = .closing handle := by
          simp only [step, stage, if_neg free]
        exact isOver_of_closing waits
  | leaving => simp [run, step, stage, isOver, Stage.isBegun, automate, announceEnd]
  | ended => simp [run, step, stage, isOver, Stage.isBegun, automate]

theorem run_append (session : Session) (events later : List Event) :
    session.run (events ++ later) = (session.run events).run later :=
  List.foldl_append ..

theorem unopened_stays {cause : Option Remote.Error} (stage : session.stage = .unopened cause)
    (events : List Event) : (session.run events).stage = .unopened cause := by
  induction events generalizing session with
  | nil => exact stage
  | cons event rest ih =>
      apply ih
      cases step_changes session event with
      | idle same lines bound quiet => exact same.trans stage
      | operated operation operates same lines sessions => exact same.trans stage
      | left before =>
          rcases before with before | ⟨handle, before⟩ <;>
          · rw [stage] at before
            cases before
      | _ =>
          rename_i before _ _ _
          rw [stage] at before
          cases before

theorem unopened_of_error {cause : Remote.Error} (stage : session.stage = .opening)
    (after : List Event) :
    (session.run (.opened (.error cause) :: after)).stage = .unopened (some cause) := by
  have failed : (session.step (.opened (.error cause))).stage = .unopened (some cause) := by
    simp only [step, stage]
  exact unopened_stays failed after

theorem Unfinished.of_live (unfinished : session.Unfinished) (live : session.stage = .live) :
    session.result? = none := by
  unfold Unfinished at unfinished
  rwa [live] at unfinished

/-- Removing an id that is not bound leaves the directory as it is. -/
theorem leave_twice (vacant : session.sessions.bound[session.id]? = none) :
    session.leave.sessions = session.sessions :=
  congrArg (Sessions.mk session.sessions.handles) (erase_of_absent vacant)

end Endings

end Session

end Rollout.Terminal
