import Rollout.Proofs.Terminal.Commuting
import Rollout.Proofs.Terminal.Handle

namespace Rollout.Terminal

/-! What a directory of sessions owes to the operations it has seen.

A history tells for itself which handle an id is bound to, what was addressed to each
handle and which handles were closed.  The directory that results agrees with it.
-/

open Sessions (Operation)

/-- The directory after some operations, of which the latest comes first. -/
def Sessions.after : List Operation → Sessions
  | [] => .empty
  | operation :: past => ((after past).apply operation).1

def Directory.after : List Operation → Directory
  | [] => .empty
  | operation :: past => ((after past).apply operation).1

/-- The handles as they were registered. -/
def registered : List Operation → List Handle
  | [] => []
  | operation :: past => registered past ++ operation.binding.fresh

/-- The number of the handle that an id is bound to. -/
def boundIn (id : String) : List Operation → Option Nat
  | [] => none
  | operation :: past =>
      if operation.id? = some id then
        operation.binding.bound? (registered past).length (boundIn id past)
      else boundIn id past

/-- An operation after the past is about the id that a handle is bound to. -/
def isAddressed (number : Nat) (operation : Operation) (past : List Operation) : Bool :=
  match operation.id? with
  | some id => boundIn id past = some number
  | none => false

/-- The payloads that were addressed to a handle through the id it was bound to. -/
def addressed (number : Nat) : List Operation → List (List UInt8)
  | [] => []
  | operation :: past =>
      addressed number past ++
        if isAddressed number operation past then operation.payload?.toList else []

/-- A payload, and the handle that it was addressed to as it was then. -/
structure Delivery where
  handle : Handle
  payload : List UInt8

def Delivery.piece (delivery : Delivery) : List UInt8 := delivery.handle.accepted delivery.payload

def delivered (number : Nat) (operation : Operation) (past : List Operation) : List Delivery :=
  if isAddressed number operation past then
    match (Sessions.after past).handles[number]?, operation.payload? with
    | some handle, some payload => [{ handle, payload }]
    | _, _ => []
  else []

/-- What was addressed to a handle, with how the handle was then. -/
def deliveries (number : Nat) : List Operation → List Delivery
  | [] => []
  | operation :: past => deliveries number past ++ delivered number operation past

/-- A handle was closed through the id it was bound to. -/
def isClosedIn (number : Nat) : List Operation → Bool
  | [] => false
  | operation :: past =>
      isClosedIn number past || isAddressed number operation past && operation.isClose

section Bindings

variable {past : List Operation} {id : String} {number : Nat} {operation : Operation}

theorem after_sound (past : List Operation) : (Sessions.after past).Sound := by
  induction past with
  | nil => exact Sessions.sound_empty
  | cons operation past ih => exact ih.apply operation

theorem after_directory (past : List Operation) :
    (Sessions.after past).directory = Directory.after past := by
  induction past with
  | nil =>
      apply Directory.ext_find?
      intro id
      rw [Sessions.handle?_of_unbound Std.ExtTreeMap.getElem?_empty]
      exact Std.ExtTreeMap.getElem?_empty.symm
  | cons operation past ih =>
      exact ((after_sound past).apply_directory operation).1.trans (ih ▸ rfl)

theorem after_handles_length (past : List Operation) :
    (Sessions.after past).handles.length = (registered past).length := by
  induction past with
  | nil => rfl
  | cons operation past ih =>
      unfold Sessions.after registered
      cases addressed : operation.id? with
      | none =>
          rw [Sessions.apply_of_unaddressed addressed, Operation.binding_of_unaddressed addressed, ih]
          exact congrArg List.length (List.append_nil _).symm
      | some id =>
          rw [(after_sound past).apply_eq addressed, Sessions.rebind_handles]
          simp [Sessions.amend_handles_length, ih]

theorem after_bound (past : List Operation) (id : String) :
    (Sessions.after past).bound[id]? = boundIn id past := by
  induction past with
  | nil => exact Std.ExtTreeMap.getElem?_empty
  | cons operation past ih =>
      unfold Sessions.after boundIn
      cases addressed : operation.id? with
      | none =>
          rw [Sessions.apply_of_unaddressed addressed, ih]
          rfl
      | some name =>
          rw [(after_sound past).apply_eq addressed, Sessions.rebind_getElem?,
            Sessions.amend_getElem?, Sessions.amend_handles_length, after_handles_length, ih]
          simp

theorem isAddressed_of_id (addressed : operation.id? = some id) :
    isAddressed number operation past = true ↔ (Sessions.after past).bound[id]? = some number := by
  rw [after_bound]
  simp [isAddressed, addressed]

theorem isAddressed_of_unaddressed (unaddressed : operation.id? = none) :
    isAddressed number operation past = false := by
  simp only [isAddressed, unaddressed]

theorem lt_of_isAddressed (addressed : isAddressed number operation past = true) :
    number < (registered past).length := by
  cases named : operation.id? with
  | none =>
      rw [isAddressed_of_unaddressed named] at addressed
      cases addressed
  | some id =>
      rw [← after_handles_length]
      exact (after_sound past).found ((isAddressed_of_id named).mp addressed)

theorem isAddressed_of_unregistered (unregistered : (registered past).length ≤ number) :
    isAddressed number operation past = false := by
  apply Bool.eq_false_iff.mpr
  intro addressed
  exact absurd (lt_of_isAddressed addressed) (Nat.not_lt.mpr unregistered)

/-- A handle that is there was there before the latest operation, which may have been
addressed to it, or it has just been registered. -/
theorem handles_of_apply {handle : Handle}
    (stored : (Sessions.after (operation :: past)).handles[number]? = some handle) :
    (∃ before, (Sessions.after past).handles[number]? = some before ∧
      handle = if isAddressed number operation past then operation.amends before else before) ∨
    operation.binding = .renewed handle ∧ number = (registered past).length := by
  unfold Sessions.after at stored
  cases addressed : operation.id? with
  | none =>
      rw [Sessions.apply_of_unaddressed addressed] at stored
      rw [isAddressed_of_unaddressed addressed]
      exact .inl ⟨handle, stored, rfl⟩
  | some id =>
      rw [(after_sound past).apply_eq addressed, Sessions.rebind_handles, List.getElem?_append,
        Sessions.amend_handles_length, after_handles_length] at stored
      split at stored
      · rw [Sessions.amend_handles_getElem?] at stored
        refine .inl ?_
        by_cases here : (Sessions.after past).bound[id]? = some number
        · rw [if_pos here] at stored
          obtain ⟨before, there, rfl⟩ := Option.map_eq_some_iff.mp stored
          exact ⟨before, there, (if_pos ((isAddressed_of_id addressed).mpr here)).symm⟩
        · rw [if_neg here] at stored
          exact ⟨handle, stored, (if_neg (mt (isAddressed_of_id addressed).mp here)).symm⟩
      · cases binds : operation.binding with
        | kept => simp [binds, Sessions.Binding.fresh] at stored
        | cleared => simp [binds, Sessions.Binding.fresh] at stored
        | renewed fresh =>
            simp only [binds, Sessions.Binding.fresh] at stored
            obtain ⟨within, rfl⟩ := List.getElem?_eq_some_iff.mp stored
            simp only [List.length_singleton] at within
            exact .inr ⟨by simp, by omega⟩

end Bindings

section Contents

variable {past : List Operation} {number : Nat} {operation : Operation} {handle : Handle}

theorem amends_received :
    (operation.amends handle).received =
      handle.received ++ (operation.payload?.map handle.accepted).getD [] := by
  cases operation with
  | close id => simp [Operation.amends, Operation.payload?, Handle.shutdown_received]
  | _ =>
      simp only [Operation.amends]
      split
      · rename_i payload written
        simp [written, Handle.write_received]
      · rename_i unwritten
        simp [unwritten]

theorem amends_isShut :
    (operation.amends handle).isShut = (handle.isShut || operation.isClose) := by
  cases operation with
  | close id => simp [Operation.amends, Operation.isClose, Handle.shutdown_isShut]
  | _ =>
      simp only [Operation.amends, Operation.isClose, Bool.or_false]
      split
      · exact Handle.write_isShut
      · rfl

/-- Nothing was addressed to a handle before it was registered. -/
theorem untouched_of_unregistered (unregistered : (registered past).length ≤ number) :
    deliveries number past = [] ∧ isClosedIn number past = false := by
  induction past with
  | nil => exact ⟨rfl, rfl⟩
  | cons operation past ih =>
      simp only [registered, List.length_append] at unregistered
      obtain ⟨undelivered, unclosed⟩ := ih (by omega)
      have unaddressed : isAddressed number operation past = false :=
        isAddressed_of_unregistered (by omega)
      simp [deliveries, delivered, isClosedIn, undelivered, unclosed, unaddressed]

theorem deliveries_payloads (past : List Operation) (number : Nat) :
    (deliveries number past).map Delivery.payload = addressed number past := by
  induction past with
  | nil => rfl
  | cons operation past ih =>
      rw [deliveries, List.map_append, ih, addressed, delivered]
      by_cases here : isAddressed number operation past = true
      · have within := lt_of_isAddressed here
        rw [← after_handles_length] at within
        rw [if_pos here, if_pos here, List.getElem?_eq_getElem within]
        cases operation.payload? <;> rfl
      · rw [if_neg here, if_neg here]
        rfl

theorem after_handle (stored : (Sessions.after past).handles[number]? = some handle) :
    ∃ original, (registered past)[number]? = some original ∧
      handle.received = original.received ++ ((deliveries number past).map Delivery.piece).flatten ∧
      handle.isShut = (original.isShut || isClosedIn number past) := by
  induction past generalizing handle with
  | nil => simp [Sessions.after, Sessions.empty] at stored
  | cons operation past ih =>
      rcases handles_of_apply stored with ⟨before, there, rfl⟩ | ⟨binds, rfl⟩
      · obtain ⟨original, first, received, shut⟩ := ih there
        have within := (List.getElem?_eq_some_iff.mp first).1
        refine ⟨original, ?_, ?_, ?_⟩
        · rw [registered, List.getElem?_append_left within]
          exact first
        · unfold deliveries delivered
          by_cases addressed : isAddressed number operation past = true
          · rw [if_pos addressed, if_pos addressed, amends_received, received, there]
            cases operation.payload? <;> simp [Delivery.piece]
          · rw [if_neg addressed, if_neg addressed, received]
            simp
        · unfold isClosedIn
          by_cases addressed : isAddressed number operation past = true
          · rw [if_pos addressed, amends_isShut, shut, addressed]
            simp [Bool.or_assoc]
          · rw [if_neg addressed, shut]
            simp [addressed]
      · have beyond := Nat.le_refl (registered past).length
        obtain ⟨undelivered, unclosed⟩ := untouched_of_unregistered beyond
        have unaddressed : isAddressed (registered past).length operation past = false :=
          isAddressed_of_unregistered beyond
        refine ⟨handle, ?_, ?_, ?_⟩
        · simp [registered, binds, Sessions.Binding.fresh]
        · simp [deliveries, delivered, undelivered, unaddressed]
        · simp [isClosedIn, unclosed, unaddressed]

end Contents

section Failures

def failure? : (operation : Operation) → operation.Result → Option SessionError
  | .write .., .error cause => some cause
  | .inject _, .error cause => some cause
  | _, _ => none

variable {sessions : Sessions} {id : String} {cause : SessionError}

/-- Only a failure of the handle itself can leave a trace. -/
theorem write_of_failure {bytes : List UInt8} (fails : (sessions.write id bytes).2 = .error cause)
    (elsewhere : ∀ reason, cause ≠ .write reason) : (sessions.write id bytes).1 = sessions := by
  unfold Sessions.write at fails ⊢
  cases found : sessions.find? id with
  | none => rfl
  | some entry =>
      obtain ⟨number, handle⟩ := entry
      simp only [found] at fails
      obtain ⟨reason, rfl⟩ := Handle.write_error fails
      exact absurd rfl (elsewhere reason)

theorem inject_of_failure {request : KeystrokeRequest}
    (fails : (sessions.inject request).2 = .error cause) (elsewhere : ∀ reason, cause ≠ .write reason) :
    (sessions.inject request).1 = sessions := by
  unfold Sessions.inject at fails ⊢
  cases decoded : Text.Base64.decode? request.payload with
  | none => rfl
  | some bytes =>
      simp only [decoded] at fails
      exact write_of_failure fails elsewhere

theorem apply_of_failure {operation : Operation}
    (fails : failure? operation (sessions.apply operation).2 = some cause)
    (elsewhere : ∀ reason, cause ≠ .write reason) : (sessions.apply operation).1 = sessions := by
  cases operation with
  | write name bytes =>
      cases outcome : (sessions.write name bytes).2 with
      | ok done => simp [Sessions.apply, failure?, outcome] at fails
      | error reason =>
          obtain rfl : reason = cause := by simpa [Sessions.apply, failure?, outcome] using fails
          exact write_of_failure outcome elsewhere
  | inject request =>
      cases outcome : (sessions.inject request).2 with
      | ok done => simp [Sessions.apply, failure?, outcome] at fails
      | error reason =>
          obtain rfl : reason = cause := by simpa [Sessions.apply, failure?, outcome] using fails
          exact inject_of_failure outcome elsewhere
  | _ => cases fails

theorem Sessions.Sound.close_of_absent (sound : sessions.Sound) (absent : sessions.bound[id]? = none) :
    sessions.close id = sessions := by
  unfold Sessions.close
  rw [sound.find?_eq_none_iff.mpr absent]

theorem remove_of_absent (absent : sessions.bound[id]? = none) :
    sessions.remove id = (sessions, false) := by
  have missing : sessions.bound.contains id = false := by
    rw [Std.ExtTreeMap.contains_eq_isSome_getElem?, absent]
    rfl
  rw [Sessions.remove, erase_of_absent absent, missing]

end Failures

/-- The directory of sessions is a finite map from ids to handles.

After any operations, the next one has the result that it has on the map; a handle has
received the pieces it took of the payloads that were addressed to it, in order, and is
shut just when it was closed through its id; and operations on different ids commute.  A
piece is the whole payload unless the handle refused some of it. -/
theorem directory_refines_map :
    (∀ past operation,
      ((Sessions.after past).apply operation).2 = ((Directory.after past).apply operation).2) ∧
    (∀ past id, (Sessions.after past).bound[id]? = boundIn id past) ∧
    (∀ past number handle, (Sessions.after past).handles[number]? = some handle →
      ∃ original, (registered past)[number]? = some original ∧
        handle.received = original.received ++ ((deliveries number past).map Delivery.piece).flatten ∧
        handle.isShut = (original.isShut || isClosedIn number past)) ∧
    (∀ past number, (deliveries number past).map Delivery.payload = addressed number past) ∧
    (∀ delivery : Delivery,
      match (delivery.handle.writeAll delivery.payload).2 with
      | .ok () => delivery.piece = delivery.payload
      | .error _ => ∃ left, left ≠ [] ∧ delivery.piece ++ left = delivery.payload) ∧
    (∀ past id, boundIn id past = none →
      (Sessions.after past).close id = Sessions.after past ∧
        (Sessions.after past).remove id = (Sessions.after past, false)) ∧
    (∀ past operation cause,
      failure? operation ((Sessions.after past).apply operation).2 = some cause →
      (∀ reason, cause ≠ .write reason) →
      ((Sessions.after past).apply operation).1 = Sessions.after past) ∧
    ∀ (past : List Operation) (first second : Operation) (id other : String),
      first.id? = some id → second.id? = some other → id ≠ other →
      ((Sessions.after (first :: past)).apply second).2 = ((Sessions.after past).apply second).2 ∧
        ((Sessions.after (second :: past)).apply first).2 = ((Sessions.after past).apply first).2 ∧
        Sessions.Alike (Sessions.after (second :: first :: past))
          (Sessions.after (first :: second :: past)) := by
  refine ⟨?_, after_bound, ?_, deliveries_payloads, ?_, ?_, ?_, ?_⟩
  · intro past operation
    rw [← after_directory]
    exact ((after_sound past).apply_directory operation).2
  · intro past number handle stored
    exact after_handle stored
  · intro delivery
    split
    · rename_i succeeds
      exact Handle.accepted_of_writeAll_ok succeeds
    · rename_i fails
      exact Handle.accepted_of_writeAll_error fails
  · intro past id unbound
    have absent := (after_bound past id).trans unbound
    exact ⟨(after_sound past).close_of_absent absent, remove_of_absent absent⟩
  · intro past operation cause fails elsewhere
    exact apply_of_failure fails elsewhere
  · intro past first second id other addressed addressed' differs
    obtain ⟨same, alike⟩ := (after_sound past).apply_commutes addressed addressed' differs
    obtain ⟨same', -⟩ := (after_sound past).apply_commutes addressed' addressed differs.symm
    exact ⟨same, same', alike⟩

end Rollout.Terminal
