import Mathlib.Data.List.Induction
import Rollout.Proofs.Terminal.Results

namespace Rollout.Terminal

/-! Answers, from their gates to the handle of the session.

`Move` is all that a step can do to the typing of answers.  What was typed, and when its gate
was open, is then told by induction along the past of a session.
-/

namespace Session

/-- The keys that the automation hands over in a step, and the handle that takes them. -/
def delivery? (session : Session) (event : Event) : Option (Nat × List UInt8) :=
  match event, session.stage.isBegun, session.automation with
  | .taken count, true, .typing number left _ => some (number, left.take count)
  | _, _, _ => none

def keysIn (session : Session) (event : Event) : List UInt8 :=
  ((session.delivery? event).map Prod.snd).getD []

/-- The keys that the automation hands over in a run. -/
def typed : Session → List Event → List UInt8
  | _, [] => []
  | session, event :: rest => session.keysIn event ++ (session.step event).typed rest

/-- What a step makes of the automation. -/
inductive Move (session : Session) (event : Event) (next : Session) : Prop where
  | kept (automation : next.automation = session.automation)
      (idle : session.delivery? event = none)
      (stage : next.stage = .live → session.stage = .live)
  | started (proceeds : event = .proceed) (before : session.stage = .registered)
      (automation : next.automation = .start next.now session.answers)
      (idle : session.delivery? event = none)
  | began {since : Nat} {answer : Answer} {later : List Answer} {number : Nat}
      (waits : session.automation = .waiting since answer later)
      (lets : answer.gate.lets session.window (session.now - since) = true)
      (bound : session.sessions.bound[session.id]? = some number)
      (automation : next.automation = .reaching number answer.keys later)
      (idle : session.delivery? event = none)
  | lost {since : Nat} {answer : Answer} {later : List Answer} (begins : event = .answer)
      (waits : session.automation = .waiting since answer later)
      (lets : answer.gate.lets session.window (session.now - since) = true)
      (missing : session.sessions.find? session.id = none)
      (automation : next.automation = .stopped) (idle : session.delivery? event = none)
  | acquired {number : Nat} {keys : List UInt8} {later : List Answer}
      (reaches : session.automation = .reaching number keys later)
      (automation : next.automation = .typing number keys later)
      (idle : session.delivery? event = none)
  | typed {number : Nat} {left : List UInt8} {later : List Answer} (count : Nat)
      (types : session.automation = .typing number left later)
      (automation : next.automation = .typing number (left.drop count) later)
      (delivers : session.delivery? event = some (number, left.take count))
  | finished {number : Nat} {later : List Answer} (flushes : event = .flushed)
      (types : session.automation = .typing number [] later)
      (automation : next.automation = .start next.now later)
      (idle : session.delivery? event = none)
  | refused {number : Nat} {left : List UInt8} {later : List Answer} (refuses : event = .refused)
      (types : session.automation = .typing number left later)
      (automation : next.automation = .stopped) (idle : session.delivery? event = none)
  | dropped (drops : event = .dropped) (closed : session.stage.isClosed = true)
      (automation : next.automation = .stopped) (stage : next.stage = session.stage)
      (idle : session.delivery? event = none)

variable {session next : Session} {event : Event}

section Moves

theorem shutDown_automation {handle : Option Nat} :
    (session.shutDown handle).leave.automation = session.automation := by
  cases handle <;> rfl

theorem delivery?_of_untaken (untaken : ∀ count, event ≠ .taken count) :
    session.delivery? event = none := by
  unfold delivery?
  split
  · exact absurd rfl (untaken _)
  · rfl

theorem delivery?_of_unbegun (unbegun : session.stage.isBegun = false) :
    session.delivery? event = none := by
  unfold delivery?
  rw [unbegun]
  split
  · rename_i begun _
    cases begun
  · rfl

theorem delivery?_of_still (still : session.stage.isBegun = true → event = .proceed) :
    session.delivery? event = none := by
  cases begun : session.stage.isBegun with
  | false => exact delivery?_of_unbegun begun
  | true =>
      obtain rfl := still begun
      rfl

theorem moves_refl (idle : session.delivery? event = none) : Move session event session :=
  .kept rfl idle fun live => live

theorem settled_moves (live : session.stage = .live) (idle : session.delivery? event = none)
    (automation : next.automation = session.automation) : Move session event next.settled := by
  unfold settled
  cases next.result? with
  | none => exact .kept automation idle fun _ => live
  | some result => exact .kept automation idle fun _ => live

theorem pump_moves {source : Source} {outcome : Except String (List UInt8)}
    (live : session.stage = .live) :
    Move session (.read source outcome) (session.pump source outcome) := by
  have ends (ending : Except Error Unit) :
      Move session (.read source outcome) (session.endStream source ending) := by
    cases source with
    | stdout => exact settled_moves live rfl rfl
    | stderr => exact settled_moves live rfl rfl
  unfold pump
  split
  · exact moves_refl rfl
  · exact ends _
  · exact ends _
  · refine .kept ?_ rfl fun _ => live
    cases session
    rfl

theorem exited_moves {outcome : Except Remote.Error (Option Int)} (live : session.stage = .live) :
    Move session (.exited outcome) (session.exited outcome) := by
  unfold exited
  split
  · exact moves_refl rfl
  · exact settled_moves live rfl rfl

theorem beginAnswer_moves : Move session .answer session.beginAnswer := by
  unfold beginAnswer
  split
  · rename_i since next later waits
    split
    · rename_i lets
      split
      · rename_i number handle found
        have bound := (Sessions.find?_eq_some_iff.mp found).1
        exact .began waits lets bound rfl rfl
      · rename_i missing
        exact .lost rfl waits lets missing rfl rfl
    · exact moves_refl rfl
  · exact moves_refl rfl

theorem holdHandle_moves : Move session .acquired session.holdHandle := by
  unfold holdHandle
  split
  · rename_i reaches
    exact .acquired reaches rfl rfl
  · exact moves_refl rfl

theorem typeKeys_moves {count : Nat} (begun : session.stage.isBegun = true) :
    Move session (.taken count) (session.typeKeys count) := by
  unfold typeKeys
  split
  · rename_i number left later types
    exact .typed count types rfl (by simp only [delivery?, begun, types])
  · rename_i idle
    apply moves_refl
    unfold delivery?
    split
    · rename_i types
      exact absurd types (idle _ _ _)
    · rfl

theorem finishAnswer_moves : Move session .flushed session.finishAnswer := by
  unfold finishAnswer
  split
  · rename_i types
    exact .finished rfl types rfl rfl
  · exact moves_refl rfl

theorem stopTyping_moves : Move session .refused session.stopTyping := by
  unfold stopTyping
  split
  · rename_i types
    exact .refused rfl types rfl rfl
  · exact moves_refl rfl

theorem dropAutomation_moves : Move session .dropped session.dropAutomation := by
  unfold dropAutomation
  split
  · rename_i closed
    exact .dropped rfl closed rfl rfl rfl
  · exact moves_refl rfl

theorem automate_moves (begun : session.stage.isBegun = true) :
    Move session event (session.automate event) := by
  cases event with
  | answer => exact beginAnswer_moves
  | acquired => exact holdHandle_moves
  | taken count => exact typeKeys_moves begun
  | flushed => exact finishAnswer_moves
  | refused => exact stopTyping_moves
  | dropped => exact dropAutomation_moves
  | _ => exact moves_refl rfl

theorem Stepped.moves (stepped : Stepped session event next) : Move session event next := by
  cases stepped with
  | ticked time => exact .kept rfl rfl fun live => live
  | operated operation => exact .kept rfl rfl fun live => live
  | opened handle before => exact .kept rfl rfl nofun
  | failed cause before => exact .kept rfl rfl nofun
  | forgone before => exact .kept rfl rfl nofun
  | announced before => exact .started rfl before rfl rfl
  | pumped source outcome live => exact pump_moves live
  | exited outcome live => exact exited_moves live
  | abandoned before => exact .kept rfl rfl nofun
  | shut handle before free => exact .kept shutDown_automation rfl nofun
  | ended before => exact .kept rfl rfl nofun
  | automated _ begun => exact automate_moves begun
  | idle _ still => exact moves_refl (delivery?_of_still still)

theorem step_moves (session : Session) (event : Event) : Move session event (session.step event) :=
  (step_stepped session event).moves

end Moves

section Keys

theorem keysIn_of_idle (idle : session.delivery? event = none) : session.keysIn event = [] := by
  rw [keysIn, idle]
  rfl

theorem keysIn_of_delivery {number : Nat} {bytes : List UInt8}
    (delivers : session.delivery? event = some (number, bytes)) : session.keysIn event = bytes := by
  rw [keysIn, delivers]
  rfl

theorem typed_append (session : Session) (events later : List Event) :
    session.typed (events ++ later) = session.typed events ++ (session.run events).typed later := by
  induction events generalizing session with
  | nil => rfl
  | cons event rest ih =>
      have first := ih (session.step event)
      rw [List.cons_append, typed, typed, first, List.append_assoc]
      rfl

theorem run_snoc (session : Session) (past : List Event) (event : Event) :
    session.run (past ++ [event]) = (session.run past).step event :=
  run_append session past [event]

theorem typed_snoc (session : Session) (past : List Event) (event : Event) :
    session.typed (past ++ [event]) = session.typed past ++ (session.run past).keysIn event := by
  rw [typed_append]
  exact congrArg (session.typed past ++ ·) (List.append_nil _)

theorem typed_of_idle (session : Session) (past : List Event) (event : Event)
    (idle : (session.run past).delivery? event = none) :
    session.typed (past ++ [event]) = session.typed past := by
  rw [typed_snoc, keysIn_of_idle idle, List.append_nil]

end Keys

section Histories

variable {opening : Session} {past : List Event}

/-- The turn comes to some answers: to all with the announcement of the session, and to the rest
once the answer before has been typed and flushed. -/
def Turns (opening : Session) (done later : List Answer) (first : List Event) : Prop :=
  ∃ before event, first = before ++ [event] ∧
    ((done = [] ∧ event = .proceed ∧ (opening.run before).stage = .registered) ∨
      (done ≠ [] ∧ event = .flushed ∧
        ∃ number, (opening.run before).automation = .typing number [] later))

/-- The answers before one have been typed, and it begins to wait at its gate. -/
structure Begins (opening : Session) (done : List Answer) (next : Answer) (later : List Answer)
    (first : List Event) : Prop where
  typed : opening.typed first = done.flatMap Answer.keys
  waits : (opening.run first).automation = .waiting (opening.run first).now next later
  turn : Turns opening done (next :: later) first

/-- Some time after it has begun to wait, the gate of an answer lets it through to the handle
that the session is bound to. -/
structure Passes (opening : Session) (done : List Answer) (next : Answer) (first mid : List Event)
    (number : Nat) : Prop where
  after : first <+: mid
  typed : opening.typed mid = done.flatMap Answer.keys
  lets : next.gate.lets (opening.run mid).window
    ((opening.run mid).now - (opening.run first).now) = true
  bound : (opening.run mid).sessions.bound[opening.id]? = some number

/-- An answer was broken off: its handle refused it, or the session was over and its automation
was dropped. -/
def BrokenOff (opening : Session) (past : List Event) : Prop :=
  ∃ before event after number left later, past = before ++ event :: after ∧
    (opening.run before).automation = .typing number left later ∧
    (event = .refused ∨ event = .dropped ∧ (opening.run before).stage.isClosed = true) ∧
    opening.typed past = opening.typed before

/-- How far the answers have got. -/
def Reached (opening : Session) (past : List Event) : Automation → Prop
  | .waiting since next later => ∃ done first, opening.answers = done ++ next :: later ∧
      Begins opening done next later first ∧ first <+: past ∧ since = (opening.run first).now ∧
      opening.typed past = done.flatMap Answer.keys
  | .reaching number keys later => ∃ done next first mid, opening.answers = done ++ next :: later ∧
      Begins opening done next later first ∧ Passes opening done next first mid number ∧
      mid <+: past ∧ keys = next.keys ∧ opening.typed past = done.flatMap Answer.keys
  | .typing number left later => ∃ done next first mid front,
      opening.answers = done ++ next :: later ∧ Begins opening done next later first ∧
      Passes opening done next first mid number ∧ mid <+: past ∧ front ++ left = next.keys ∧
      opening.typed past = done.flatMap Answer.keys ++ front
  | .stopped => (∃ done later, opening.answers = done ++ later ∧
      opening.typed past = done.flatMap Answer.keys) ∨ BrokenOff opening past

theorem Reached.still {automation : Automation} (reached : Reached opening past automation)
    (still : opening.typed (past ++ [event]) = opening.typed past) :
    Reached opening (past ++ [event]) automation := by
  have later {first : List Event} (before : first <+: past) : first <+: past ++ [event] :=
    before.trans (List.prefix_append _ _)
  cases automation with
  | waiting since next rest =>
      obtain ⟨done, first, whole, begins, before, moment, typed⟩ := reached
      exact ⟨done, first, whole, begins, later before, moment, still.trans typed⟩
  | reaching number keys rest =>
      obtain ⟨done, next, first, mid, whole, begins, passes, before, all, typed⟩ := reached
      exact ⟨done, next, first, mid, whole, begins, passes, later before, all, still.trans typed⟩
  | typing number left rest =>
      obtain ⟨done, next, first, mid, front, whole, begins, passes, before, keys, typed⟩ := reached
      exact ⟨done, next, first, mid, front, whole, begins, passes, later before, keys,
        still.trans typed⟩
  | stopped =>
      rcases reached with ⟨done, rest, whole, typed⟩ | broken
      · exact .inl ⟨done, rest, whole, still.trans typed⟩
      · obtain ⟨before, last, after, number, left, rest, rfl, types, ends, typed⟩ := broken
        exact .inr ⟨before, last, after ++ [event], number, left, rest, by simp, types, ends,
          still.trans typed⟩

/-- With some answers typed, the next one begins to wait, or none is left. -/
theorem reached_start (done : List Answer) {later : List Answer} (whole : opening.answers = done ++ later)
    (typed : opening.typed past = done.flatMap Answer.keys)
    (starts : (opening.run past).automation = .start (opening.run past).now later)
    (turn : Turns opening done later past) :
    Reached opening past (.start (opening.run past).now later) := by
  cases later with
  | nil => exact .inl ⟨done, [], whole, typed⟩
  | cons next later =>
      exact ⟨done, past, whole, ⟨typed, starts, turn⟩, List.prefix_rfl, rfl, typed⟩

/-- Once an answer is typed to its end, so are all up to it. -/
theorem Reached.whole {number : Nat} {later : List Answer}
    (reached : Reached opening past (.typing number [] later)) :
    ∃ done, done ≠ [] ∧ opening.answers = done ++ later ∧
      opening.typed past = done.flatMap Answer.keys := by
  obtain ⟨done, next, first, mid, front, whole, begins, passes, before, keys, typed⟩ := reached
  rw [List.append_nil] at keys
  refine ⟨done ++ [next], by simp, ?_, ?_⟩
  · rw [whole, List.append_assoc]
    rfl
  · rw [typed, keys, List.flatMap_append, List.flatMap_singleton]

theorem Reached.step (reached : Reached opening past (opening.run past).automation)
    (fresh : (opening.run past).stage = .registered → opening.typed past = [])
    (answers : (opening.run past).answers = opening.answers) (event : Event) :
    Reached opening (past ++ [event]) (opening.run (past ++ [event])).automation := by
  have same := run_snoc opening past event
  have still := typed_of_idle opening past event
  cases step_moves (opening.run past) event with
  | kept automation idle stage =>
      rw [same, automation]
      exact reached.still (still idle)
  | started proceeds before automation idle =>
      rw [← same, answers] at automation
      rw [automation]
      have typed := (still idle).trans (fresh before)
      exact reached_start [] rfl typed automation
        ⟨past, event, rfl, .inl ⟨rfl, proceeds, before⟩⟩
  | began waits lets bound automation idle =>
      rw [waits] at reached
      obtain ⟨done, first, whole, begins, before, rfl, typed⟩ := reached
      rw [run_id] at bound
      rw [same, automation]
      exact ⟨done, _, first, past, whole, begins, ⟨before, typed, lets, bound⟩,
        List.prefix_append _ _, rfl, (still idle).trans typed⟩
  | lost begins waits lets missing automation idle =>
      rw [waits] at reached
      obtain ⟨done, first, whole, begins, before, moment, typed⟩ := reached
      rw [same, automation]
      exact .inl ⟨done, _, whole, (still idle).trans typed⟩
  | acquired reaches automation idle =>
      rw [reaches] at reached
      obtain ⟨done, next, first, mid, whole, begins, passes, before, rfl, typed⟩ := reached
      rw [same, automation]
      exact ⟨done, next, first, mid, [], whole, begins, passes,
        before.trans (List.prefix_append _ _), rfl,
        (still idle).trans (by rw [typed, List.append_nil])⟩
  | @typed number left later count types automation delivers =>
      rw [types] at reached
      obtain ⟨done, next, first, mid, front, whole, begins, passes, before, keys, typed⟩ := reached
      rw [same, automation]
      refine ⟨done, next, first, mid, front ++ left.take count, whole, begins, passes,
        before.trans (List.prefix_append _ _), ?_, ?_⟩
      · rw [List.append_assoc, List.take_append_drop, keys]
      · rw [typed_snoc, keysIn_of_delivery delivers, typed, List.append_assoc]
  | finished flushes types automation idle =>
      rw [types] at reached
      obtain ⟨done, some, whole, typed⟩ := reached.whole
      rw [← same] at automation
      rw [automation]
      exact reached_start done whole ((still idle).trans typed) automation
        ⟨past, event, rfl, .inr ⟨some, flushes, _, types⟩⟩
  | refused refuses types automation idle =>
      rw [same, automation]
      exact .inr ⟨past, event, [], _, _, _, rfl, types, .inl refuses, still idle⟩
  | dropped drops closed automation stage idle =>
      rw [same, automation]
      cases before : (opening.run past).automation with
      | waiting since next later =>
          rw [before] at reached
          obtain ⟨done, first, whole, begins, earlier, moment, typed⟩ := reached
          exact .inl ⟨done, _, whole, (still idle).trans typed⟩
      | reaching number keys later =>
          rw [before] at reached
          obtain ⟨done, next, first, mid, whole, begins, passes, earlier, all, typed⟩ := reached
          exact .inl ⟨done, _, whole, (still idle).trans typed⟩
      | typing number left later =>
          exact .inr ⟨past, event, [], number, left, later, rfl, before, .inr ⟨drops, closed⟩,
            still idle⟩
      | stopped =>
          rw [before] at reached
          exact reached.still (still idle)

end Histories

section Stages

/-- Answers are under way from the announcement of a session on. -/
def Active (session : Session) : Prop :=
  session.automation = .stopped ∨ session.stage.isBegun = true

theorem Active.step (active : session.Active) (event : Event) : (session.step event).Active := by
  rcases active with stopped | begun
  · cases step_moves session event with
    | kept automation idle stage => exact .inl (automation.trans stopped)
    | started proceeds before automation idle =>
        refine .inr ?_
        rw [proceeds]
        simp only [Session.step, before]
        rfl
    | lost begins waits lets missing automation idle => exact .inl automation
    | refused refuses types automation idle => exact .inl automation
    | dropped drops closed automation stage idle => exact .inl automation
    | began waits => rw [stopped] at waits; cases waits
    | acquired reaches => rw [stopped] at reaches; cases reaches
    | typed count types => rw [stopped] at types; cases types
    | finished flushes types => rw [stopped] at types; cases types
  · exact .inr (step_isBegun begun event)

theorem Active.run (active : session.Active) (events : List Event) : (session.run events).Active := by
  induction events generalizing session with
  | nil => exact active
  | cons event rest ih => exact ih (active.step event)

theorem Active.begun (active : session.Active) (busy : session.automation ≠ .stopped) :
    session.stage.isBegun = true :=
  active.resolve_left busy

end Stages

section Handles

/-- Two sessions with the same answers to type and the same handles. -/
structure SameInput (session next : Session) : Prop where
  answers : next.answers = session.answers
  handles : next.sessions.handles = session.sessions.handles

theorem settled_sameInput (same : SameInput session next) : SameInput session next.settled := by
  unfold settled
  cases next.result? with
  | none => exact same
  | some result => exact ⟨same.answers, same.handles⟩

theorem pump_sameInput (source : Source) (outcome : Except String (List UInt8)) :
    SameInput session (session.pump source outcome) := by
  have ends (ending : Except Error Unit) : SameInput session (session.endStream source ending) := by
    cases source with
    | stdout => exact settled_sameInput ⟨rfl, rfl⟩
    | stderr => exact settled_sameInput ⟨rfl, rfl⟩
  unfold pump
  split
  · exact ⟨rfl, rfl⟩
  · exact ends _
  · exact ends _
  · cases session
    exact ⟨rfl, rfl⟩

theorem exited_sameInput (outcome : Except Remote.Error (Option Int)) :
    SameInput session (session.exited outcome) := by
  unfold exited
  split
  · exact ⟨rfl, rfl⟩
  · exact settled_sameInput ⟨rfl, rfl⟩

theorem AnswersOnly.sameInput (answers : AnswersOnly session next) : SameInput session next := by
  obtain ⟨automation, rfl⟩ := answers
  exact ⟨rfl, rfl⟩

theorem TypesOnly.answers (types : TypesOnly session next) : next.answers = session.answers := by
  obtain ⟨handles, automation, rfl⟩ := types
  rfl

theorem Stepped.answers (stepped : Stepped session event next) : next.answers = session.answers := by
  cases stepped with
  | pumped source outcome live => exact (pump_sameInput source outcome).answers
  | exited outcome live => exact (exited_sameInput outcome).answers
  | shut handle before free => cases handle <;> rfl
  | automated => exact (automate_typesOnly session event).answers
  | _ => rfl

/-- The keys that the automation hands to a handle in a step. -/
def keysFor (session : Session) (event : Event) (number : Nat) : List UInt8 :=
  match session.delivery? event with
  | some (target, bytes) => if target = number then bytes else []
  | none => []

theorem keysFor_of_idle {number : Nat} (idle : session.delivery? event = none) :
    session.keysFor event number = [] := by
  rw [keysFor, idle]

theorem received_of_handles {number : Nat} {handle : Handle}
    (stored : session.sessions.handles[number]? = some handle)
    (same : next.sessions.handles = session.sessions.handles)
    (idle : session.delivery? event = none) :
    ∃ after, next.sessions.handles[number]? = some after ∧
      after.received = handle.received ++ session.keysFor event number := by
  refine ⟨handle, by rw [same, stored], ?_⟩
  rw [keysFor_of_idle idle, List.append_nil]

theorem typeKeys_received {count number : Nat} {handle : Handle}
    (begun : session.stage.isBegun = true)
    (stored : session.sessions.handles[number]? = some handle) :
    ∃ after, (session.typeKeys count).sessions.handles[number]? = some after ∧
      after.received = handle.received ++ session.keysFor (.taken count) number := by
  unfold typeKeys
  split
  · rename_i target left later types
    have delivers : session.delivery? (.taken count) = some (target, left.take count) := by
      simp only [delivery?, begun, types]
    simp only [keysFor, delivers, Sessions.deliver, List.getElem?_modify, stored]
    by_cases same : target = number
    · simp only [if_pos same]
      exact ⟨_, rfl, rfl⟩
    · simp only [if_neg same]
      exact ⟨_, rfl, (List.append_nil _).symm⟩
  · rename_i idle
    refine received_of_handles stored rfl ?_
    unfold delivery?
    split
    · rename_i types
      exact absurd types (idle _ _ _)
    · rfl

theorem shutDown_received {number : Nat} {handle : Handle} (target : Option Nat)
    (stored : session.sessions.handles[number]? = some handle) :
    ∃ after, (session.shutDown target).leave.sessions.handles[number]? = some after ∧
      after.received = handle.received := by
  cases target with
  | none => exact ⟨handle, stored, rfl⟩
  | some target =>
      simp only [shutDown, leave, Sessions.remove, List.getElem?_modify, stored]
      by_cases same : target = number
      · simp only [if_pos same]
        exact ⟨_, rfl, rfl⟩
      · simp only [if_neg same]
        exact ⟨_, rfl, rfl⟩

theorem automate_received {number : Nat} {handle : Handle} (begun : session.stage.isBegun = true)
    (stored : session.sessions.handles[number]? = some handle) :
    ∃ after, (session.automate event).sessions.handles[number]? = some after ∧
      after.received = handle.received ++ session.keysFor event number := by
  by_cases takes : ∃ count, event = .taken count
  · obtain ⟨count, rfl⟩ := takes
    exact typeKeys_received begun stored
  · have untaken (count : Nat) : event ≠ .taken count := fun same => takes ⟨count, same⟩
    exact received_of_handles stored (automate_answersOnly untaken).sameInput.handles
      (delivery?_of_untaken untaken)

/-- Apart from operators, a handle receives what the automation hands to it and nothing else. -/
theorem Stepped.received {number : Nat} {handle : Handle} (stepped : Stepped session event next)
    (unoperated : event.operation? = none)
    (stored : session.sessions.handles[number]? = some handle) :
    ∃ after, next.sessions.handles[number]? = some after ∧
      after.received = handle.received ++ session.keysFor event number := by
  cases stepped with
  | ticked time => exact received_of_handles stored rfl rfl
  | operated operation => cases unoperated
  | opened opened before =>
      have within : number < session.sessions.handles.length :=
        (List.getElem?_eq_some_iff.mp stored).1
      refine ⟨handle, (List.getElem?_append_left within).trans stored, ?_⟩
      rw [keysFor_of_idle rfl, List.append_nil]
  | failed cause before => exact received_of_handles stored rfl rfl
  | forgone before => exact received_of_handles stored rfl rfl
  | announced before => exact received_of_handles stored rfl rfl
  | pumped source outcome live =>
      exact received_of_handles stored (pump_sameInput source outcome).handles rfl
  | exited outcome live => exact received_of_handles stored (exited_sameInput outcome).handles rfl
  | abandoned before => exact received_of_handles stored rfl rfl
  | shut target before free =>
      rw [keysFor_of_idle rfl, List.append_nil]
      exact shutDown_received target stored
  | ended before => exact received_of_handles stored rfl rfl
  | automated _ begun => exact automate_received begun stored
  | idle _ still => exact received_of_handles stored rfl (delivery?_of_still still)

end Handles

section Failures

/-- A write of the automation fails: the handle refuses it, or none is bound to the id. -/
def WriteFails (session : Session) : Event → Prop
  | .refused => ∃ number left later, session.automation = .typing number left later
  | .answer => ∃ since next later, session.automation = .waiting since next later ∧
      next.gate.lets session.window (session.now - since) = true ∧
      session.sessions.find? session.id = none
  | _ => False

/-- With a write that fails the automation stops. -/
theorem WriteFails.stops (fails : session.WriteFails event) (active : session.Active) :
    session.stage.isBegun = true ∧ session.keysIn event = [] ∧
      (session.step event).automation = .stopped := by
  have begun : session.stage.isBegun = true := by
    apply active.begun
    intro stopped
    cases event with
    | refused =>
        obtain ⟨number, left, later, types⟩ := fails
        rw [stopped] at types
        cases types
    | answer =>
        obtain ⟨since, next, later, waits, -, -⟩ := fails
        rw [stopped] at waits
        cases waits
    | _ => cases fails
  refine ⟨begun, ?_⟩
  cases event with
  | refused =>
      obtain ⟨number, left, later, types⟩ := fails
      refine ⟨keysIn_of_idle rfl, ?_⟩
      simp only [step, begun, automate, stopTyping, types, if_true]
  | answer =>
      obtain ⟨since, next, later, waits, lets, missing⟩ := fails
      refine ⟨keysIn_of_idle rfl, ?_⟩
      simp only [step, begun, automate, beginAnswer, waits, lets, missing, if_true]
  | _ => cases fails

/-- While a session is live, its answers are given up only if a write fails. -/
def Spared (opening : Session) (past : List Event) : Prop :=
  (opening.run past).stage = .live → (opening.run past).automation = .stopped →
    opening.typed past = opening.answers.flatMap Answer.keys ∨
      ∃ before event after, past = before ++ event :: after ∧ (opening.run before).WriteFails event

theorem Spared.step {opening : Session} {past : List Event} (spared : Spared opening past)
    (reached : Reached opening past (opening.run past).automation)
    (fresh : (opening.run past).stage = .registered → opening.typed past = [])
    (answers : (opening.run past).answers = opening.answers) (event : Event) :
    Spared opening (past ++ [event]) := by
  intro live stopped
  rw [run_snoc] at live stopped
  have still := typed_of_idle opening past event
  cases step_moves (opening.run past) event with
  | kept automation idle stage =>
      rw [still idle]
      refine (spared (stage live) (automation.symm.trans stopped)).imp_right ?_
      rintro ⟨before, last, after, rfl, fails⟩
      exact ⟨before, last, after ++ [event], by simp, fails⟩
  | started proceeds before automation idle =>
      rw [stopped, answers] at automation
      have none : opening.answers = [] := by
        cases given : opening.answers with
        | nil => rfl
        | cons next later =>
            rw [given] at automation
            cases automation
      left
      rw [still idle, fresh before, none]
      rfl
  | began waits lets bound automation => rw [stopped] at automation; cases automation
  | lost begins waits lets missing automation idle =>
      subst begins
      exact .inr ⟨past, .answer, [], rfl, _, _, _, waits, lets, missing⟩
  | acquired reaches automation => rw [stopped] at automation; cases automation
  | typed count types automation => rw [stopped] at automation; cases automation
  | @finished number later flushes types automation idle =>
      rw [types] at reached
      obtain ⟨done, some, whole, typed⟩ := reached.whole
      obtain rfl : later = [] := by
        cases later with
        | nil => rfl
        | cons next later =>
            rw [stopped] at automation
            cases automation
      left
      rw [still idle, typed, whole, List.append_nil]
  | refused refuses types automation idle =>
      subst refuses
      exact .inr ⟨past, .refused, [], rfl, _, _, _, types⟩
  | dropped drops closed automation stage idle =>
      rw [← stage, live] at closed
      cases closed

end Failures

section Openings

variable {opening : Session}

end Openings

end Session

end Rollout.Terminal
