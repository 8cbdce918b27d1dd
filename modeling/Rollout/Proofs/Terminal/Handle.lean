import Rollout.Terminal.Sessions

namespace Rollout.Terminal.Handle

/-! What a handle gets of a payload.

It takes the payload piece by piece.  If it refuses a piece it keeps those before, and
no flush gives back what was taken.
-/

/-- What a handle takes of a payload, until it has all of it or refuses. -/
def accepted (handle : Handle) (bytes : List UInt8) : List UInt8 :=
  match bytes with
  | [] => []
  | byte :: rest =>
      match handle.reception handle.calls (byte :: rest) with
      | .ok count =>
          byte :: rest.take count ++ (handle.offer (byte :: rest)).1.accepted (rest.drop count)
      | .error _ => []
termination_by bytes.length
decreasing_by simp only [List.length_drop, List.length_cons]; omega

variable {handle : Handle} {byte : UInt8} {bytes rest : List UInt8} {count : Nat} {reason : String}

section Offers

theorem offer_of_ok (takes : handle.reception handle.calls bytes = .ok count) :
    handle.offer bytes =
      ((handle.after (.offer bytes)).receive (bytes.take (count + 1)), .ok count) := by
  simp only [offer, takes]

theorem offer_of_error (refuses : handle.reception handle.calls bytes = .error reason) :
    handle.offer bytes = (handle.after (.offer bytes), .error reason) := by
  simp only [offer, refuses]

theorem offer_received_of_ok (takes : handle.reception handle.calls (byte :: rest) = .ok count) :
    (handle.offer (byte :: rest)).1.received = handle.received ++ byte :: rest.take count := by
  rw [offer_of_ok takes]
  rfl

theorem offer_received_of_error (refuses : handle.reception handle.calls bytes = .error reason) :
    (handle.offer bytes).1.received = handle.received := by
  rw [offer_of_error refuses]
  rfl

theorem offer_isShut : (handle.offer bytes).1.isShut = handle.isShut := by
  cases reception : handle.reception handle.calls bytes with
  | ok count => rw [offer_of_ok reception]; rfl
  | error reason => rw [offer_of_error reception]; rfl

theorem flush_received : handle.flush.1.received = handle.received := rfl

theorem flush_isShut : handle.flush.1.isShut = handle.isShut := rfl

theorem shutdown_received : handle.shutdown.1.received = handle.received := rfl

theorem shutdown_isShut : handle.shutdown.1.isShut = true := rfl

end Offers

section Payloads

theorem writeAll_nil : handle.writeAll [] = (handle, .ok ()) := by
  rw [writeAll]

theorem writeAll_of_ok (takes : handle.reception handle.calls (byte :: rest) = .ok count) :
    handle.writeAll (byte :: rest) = (handle.offer (byte :: rest)).1.writeAll (rest.drop count) := by
  rw [writeAll, offer_of_ok takes]

theorem writeAll_of_error (refuses : handle.reception handle.calls (byte :: rest) = .error reason) :
    handle.writeAll (byte :: rest) = ((handle.offer (byte :: rest)).1, .error reason) := by
  rw [writeAll, offer_of_error refuses]

theorem writeAll_received :
    (handle.writeAll bytes).1.received = handle.received ++ handle.accepted bytes := by
  fun_induction accepted handle bytes with
  | case1 handle => simp [writeAll_nil]
  | case2 handle byte rest count takes ih =>
      rw [writeAll_of_ok takes, ih, offer_received_of_ok takes]
      simp
  | case3 handle byte rest reason refuses =>
      rw [writeAll_of_error refuses, offer_received_of_error refuses]
      simp

theorem writeAll_isShut : (handle.writeAll bytes).1.isShut = handle.isShut := by
  fun_induction accepted handle bytes with
  | case1 handle => rw [writeAll_nil]
  | case2 handle byte rest count takes ih => rw [writeAll_of_ok takes, ih, offer_isShut]
  | case3 handle byte rest reason refuses => rw [writeAll_of_error refuses, offer_isShut]

theorem accepted_of_writeAll_ok (succeeds : (handle.writeAll bytes).2 = .ok ()) :
    handle.accepted bytes = bytes := by
  fun_induction accepted handle bytes with
  | case1 handle => rfl
  | case2 handle byte rest count takes ih =>
      rw [writeAll_of_ok takes] at succeeds
      simp [ih succeeds]
  | case3 handle byte rest reason refuses =>
      rw [writeAll_of_error refuses] at succeeds
      cases succeeds

/-- A payload that a handle refuses leaves at least one byte with the writer. -/
theorem accepted_of_writeAll_error (fails : (handle.writeAll bytes).2 = .error reason) :
    ∃ left, left ≠ [] ∧ handle.accepted bytes ++ left = bytes := by
  fun_induction accepted handle bytes with
  | case1 handle =>
      rw [writeAll_nil] at fails
      cases fails
  | case2 handle byte rest count takes ih =>
      rw [writeAll_of_ok takes] at fails
      obtain ⟨left, some, whole⟩ := ih fails
      exact ⟨left, some, by rw [List.append_assoc, whole]; simp⟩
  | case3 handle byte rest reason refuses => exact ⟨byte :: rest, by simp, rfl⟩

theorem write_of_writeAll_ok (succeeds : (handle.writeAll bytes).2 = .ok ()) :
    handle.write bytes = ((handle.writeAll bytes).1.flush.1,
      (handle.writeAll bytes).1.flush.2.mapError .write) := by
  rw [write]
  split <;> rename_i wrote
  · rw [wrote] at succeeds
    cases succeeds
  · rw [wrote]

theorem write_of_writeAll_error (fails : (handle.writeAll bytes).2 = .error reason) :
    handle.write bytes = ((handle.writeAll bytes).1, .error (.write reason)) := by
  rw [write]
  split <;> rename_i wrote
  · rw [wrote] at fails ⊢
    obtain rfl := Except.error.inj fails
    rfl
  · rw [wrote] at fails
    cases fails

theorem write_received : (handle.write bytes).1.received = handle.received ++ handle.accepted bytes := by
  rw [← writeAll_received]
  cases outcome : (handle.writeAll bytes).2 with
  | ok done => rw [write_of_writeAll_ok outcome, flush_received]
  | error reason => rw [write_of_writeAll_error outcome]

theorem write_isShut : (handle.write bytes).1.isShut = handle.isShut := by
  cases outcome : (handle.writeAll bytes).2 with
  | ok done => rw [write_of_writeAll_ok outcome, flush_isShut, writeAll_isShut]
  | error reason => rw [write_of_writeAll_error outcome, writeAll_isShut]

theorem write_error {cause : SessionError} (fails : (handle.write bytes).2 = .error cause) :
    ∃ reason, cause = .write reason := by
  cases outcome : (handle.writeAll bytes).2 with
  | ok done =>
      rw [write_of_writeAll_ok outcome] at fails
      cases flushed : (handle.writeAll bytes).1.flush.2 with
      | ok done =>
          rw [flushed] at fails
          cases fails
      | error reason =>
          rw [flushed] at fails
          exact ⟨reason, (Except.error.inj fails).symm⟩
  | error reason =>
      rw [write_of_writeAll_error outcome] at fails
      exact ⟨reason, (Except.error.inj fails).symm⟩

end Payloads

end Rollout.Terminal.Handle
