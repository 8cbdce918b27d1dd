import Rollout.Network
import Rollout.Proofs.Procedure.Upholds

namespace Rollout.Network

open Procedure

/-! What is exchanged in a call to the network, above all in one that succeeds. -/

variable {ε α : Type} {trace : Trace Action Action.Result} {failed : String → ε}
  {request : Http.Request} {response : Http.Response}

theorem traces_given_iff {given outcome : Except ε α} :
    Traces (liftM given : Network ε α).run trace outcome ↔ trace = [] ∧ outcome = given :=
  traces_pure_iff

theorem lift_ok (value : α) : (liftM (.ok value : Except ε α) : Network ε α) = pure value := rfl

theorem traces_send_iff {outcome : Except ε Http.Response} :
    Traces (send failed request).run trace outcome ↔
      ∃ answer : Except String Http.Response, trace = [⟨.send request, answer⟩] ∧
        outcome = answer.mapError failed := by
  refine traces_run_ask_bind_iff.trans ?_
  constructor
  · rintro ⟨answer, rest, rfl, later⟩
    cases answer with
    | error reason =>
        obtain ⟨rfl, same⟩ := traces_run_throw_iff.mp later
        exact ⟨.error reason, rfl, same⟩
    | ok response =>
        obtain ⟨rfl, same⟩ := traces_run_pure_iff.mp later
        exact ⟨.ok response, rfl, same⟩
  · rintro ⟨answer, rfl, rfl⟩
    refine ⟨answer, [], rfl, ?_⟩
    cases answer with
    | error reason => exact traces_run_throw_iff.mpr ⟨rfl, rfl⟩
    | ok response => exact traces_run_pure_iff.mpr ⟨rfl, rfl⟩

theorem traces_send_ok_iff :
    Traces (send failed request).run trace (.ok response) ↔
      trace = [⟨.send request, .ok response⟩] := by
  rw [traces_send_iff]
  constructor
  · rintro ⟨answer, rfl, same⟩
    cases answer with
    | error reason => cases same
    | ok received =>
        obtain rfl := Except.ok.inj same
        rfl
  · rintro rfl
    exact ⟨.ok response, rfl, rfl⟩

theorem traces_send_bind {β : Type} {next : Http.Response → Network ε β} {outcome : Except ε β}
    (traced : Traces (send failed request >>= next).run trace outcome) :
    (∃ reason, trace = [⟨.send request, .error reason⟩] ∧ outcome = .error (failed reason)) ∨
      ∃ response rest, trace = ⟨.send request, .ok response⟩ :: rest ∧
        Traces (next response).run rest outcome := by
  rcases traces_run_bind_iff.mp traced with ⟨error, rfl, sends⟩ | ⟨front, rest, response, rfl, sends, later⟩
  · obtain ⟨answer, rfl, same⟩ := traces_send_iff.mp sends
    cases answer with
    | error reason =>
        obtain rfl := Except.error.inj same
        exact .inl ⟨reason, rfl, rfl⟩
    | ok response => cases same
  · obtain rfl := traces_send_ok_iff.mp sends
    exact .inr ⟨response, rest, rfl, later⟩

theorem traces_decode_bind {β : Type} {read : Json → Option α} {next : α → Network ε β}
    {outcome : Except ε β}
    (traced : Traces (decode failed read response >>= next).run trace outcome) :
    (response.decode? read = none ∧ trace = [] ∧ outcome = .error (failed Http.undecodable)) ∨
      ∃ value, response.decode? read = some value ∧ Traces (next value).run trace outcome := by
  unfold decode at traced
  cases decoded : response.decode? read with
  | none =>
      rw [decoded] at traced
      exact .inl ⟨rfl, traces_run_throw_iff.mp traced⟩
  | some value =>
      rw [decoded] at traced
      exact .inr ⟨value, rfl, traced⟩

theorem traces_decode_ok_iff {read : Json → Option α} {value : α} :
    Traces (decode failed read response).run trace (.ok value) ↔
      trace = [] ∧ response.decode? read = some value := by
  unfold decode
  cases response.decode? read with
  | none =>
      refine traces_run_throw_iff.trans ?_
      simp
  | some found =>
      refine traces_run_pure_iff.trans ?_
      simp [eq_comm]

theorem run_discard (call : Network ε α) :
    (discard call).run = (call >>= fun _ => pure () : Network ε Unit).run :=
  congrArg ExceptT.run (map_eq_pure_bind (fun _ => PUnit.unit) call)

theorem traces_discard_ok_iff {call : Network ε α} :
    Traces (discard call).run trace (.ok ()) ↔ ∃ value, Traces call.run trace (.ok value) := by
  rw [run_discard, traces_run_bind_ok_iff]
  constructor
  · intro traced
    obtain ⟨front, back, value, rfl, calls, ends⟩ := traced
    obtain ⟨rfl, -⟩ := traces_run_pure_iff.mp ends
    exact ⟨value, by simpa using calls⟩
  · intro traced
    obtain ⟨value, calls⟩ := traced
    exact ⟨trace, [], value, by simp, calls, traces_run_pure_iff.mpr ⟨rfl, rfl⟩⟩

section Asking

variable {allowed : Action → Prop}

theorem given_asks (given : Except ε α) : (liftM given : Network ε α).run.Asks allowed := asks_pure _

theorem send_asks (isAllowed : allowed (.send request)) : (send failed request).run.Asks allowed := by
  apply asks_run_bind (asks_run_lift (asks_query isAllowed))
  intro answer
  cases answer with
  | ok response => exact asks_run_pure _
  | error reason => exact asks_run_throw _

theorem discard_asks {call : Network ε α} (asks : call.run.Asks allowed) :
    (discard call).run.Asks allowed := by
  rw [run_discard]
  exact asks_run_bind asks fun _ => asks_run_pure _

end Asking

section Yielding

variable {fit : Trace Action Action.Result → Action → Prop} {past : Trace Action Action.Result}

theorem given_yields (given : Except ε α) : (liftM given : Network ε α).run.Upholds fit
    (Yields fun later value => later = past ∧ given = .ok value) past :=
  upholds_pure.mpr fun _ same => ⟨rfl, same⟩

theorem ask_yields {action : Action} (isFit : fit past action) :
    (ask action : Network ε action.Result).run.Upholds fit (Yields fun _ _ => True) past :=
  upholds_run_lift (upholds_query action isFit fun _ => yields_ok trivial)

theorem now_yields (isFit : fit past .now) :
    (now : Network ε Nat).run.Upholds fit (Yields fun _ _ => True) past := ask_yields isFit

theorem pause_yields {time : Nat} (isFit : fit past (.pause time)) :
    (pause time : Network ε Unit).run.Upholds fit (Yields fun _ _ => True) past := ask_yields isFit

theorem send_yields (isFit : fit past (.send request)) : (send failed request).run.Upholds fit
    (Yields fun later response => later = past ++ [⟨.send request, .ok response⟩]) past := by
  apply upholds_run_bind
  apply upholds_run_lift
  apply upholds_query _ isFit
  intro answer
  cases answer with
  | error reason => exact upholds_run_throw nofun
  | ok response => exact upholds_run_pure (yields_ok rfl)

theorem decode_yields (read : Json → Option α) : (decode failed read response).run.Upholds fit
    (Yields fun later value => later = past ∧ response.decode? read = some value) past := by
  unfold decode
  cases decoded : response.decode? read with
  | none => exact upholds_run_throw nofun
  | some value => exact upholds_run_pure (yields_ok ⟨rfl, rfl⟩)

theorem discard_yields {call : Network ε α} {good : Trace Action Action.Result → α → Prop}
    (yields : call.run.Upholds fit (Yields good) past) : (discard call).run.Upholds fit
    (Yields fun later _ => ∃ value, good later value) past := by
  rw [run_discard]
  apply upholds_bind_yields yields
  intro later value isGood
  exact upholds_run_pure (yields_ok ⟨value, isGood⟩)

end Yielding

end Rollout.Network
