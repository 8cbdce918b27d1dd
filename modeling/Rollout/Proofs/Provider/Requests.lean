import Rollout.Proofs.Procedure.Network
import Rollout.Provider.DigitalOcean
import Rollout.Provider.Scaleway.Service

namespace Rollout.Provider

open Procedure

/-! What providers are sent when a request of theirs succeeds. -/

variable {trace : Trace Network.Action Network.Action.Result} {response : Http.Response}

namespace DigitalOcean

variable {account : Account}

theorem traces_request_ok_iff {method : Http.Method} {path : String} {body : Http.Body} :
    Traces (DigitalOcean.request account method path body).run trace (.ok response) ↔
      ∃ token, account.token? = .ok token ∧
        trace = [⟨.send { method, url := base ++ path, headers := [Http.bearer token], body },
          .ok response⟩] := by
  unfold DigitalOcean.request
  rw [traces_run_bind_ok_iff]
  constructor
  · intro traced
    obtain ⟨front, back, token, rfl, given, sends⟩ := traced
    obtain ⟨rfl, known⟩ := Network.traces_given_iff.mp given
    exact ⟨token, known.symm, Network.traces_send_ok_iff.mp sends⟩
  · intro sent
    obtain ⟨token, known, rfl⟩ := sent
    exact ⟨[], _, token, rfl, Network.traces_given_iff.mpr ⟨rfl, known.symm⟩,
      Network.traces_send_ok_iff.mpr rfl⟩

theorem traces_call_ok_iff {method : Http.Method} {path : String} {body : Http.Body} :
    Traces (call account method path body).run trace (.ok response) ↔
      response.isSuccess = true ∧
        Traces (DigitalOcean.request account method path body).run trace (.ok response) := by
  unfold call
  rw [traces_run_bind_ok_iff]
  constructor
  · intro traced
    obtain ⟨front, back, received, rfl, requests, ends⟩ := traced
    split at ends
    case isTrue succeeds =>
      obtain ⟨rfl, same⟩ := traces_run_pure_iff.mp ends
      obtain rfl := Except.ok.inj same
      exact ⟨succeeds, by simpa using requests⟩
    case isFalse failed => cases (traces_run_throw_iff.mp ends).2
  · intro both
    obtain ⟨succeeds, requests⟩ := both
    refine ⟨trace, [], response, by simp, requests, ?_⟩
    rw [if_pos succeeds]
    exact traces_run_pure_iff.mpr ⟨rfl, rfl⟩

theorem request_asks {method : Http.Method} {path : String} {body : Http.Body} :
    (DigitalOcean.request account method path body).run.Asks fun action => ∃ token,
      action = .send { method, url := base ++ path, headers := [Http.bearer token], body } := by
  unfold DigitalOcean.request
  apply asks_run_bind (Network.given_asks _)
  intro token
  exact Network.send_asks ⟨token, rfl⟩

theorem call_asks {method : Http.Method} {path : String} {body : Http.Body} {allowed : Network.Action → Prop}
    (asks : (DigitalOcean.request account method path body).run.Asks allowed) :
    (call account method path body).run.Asks allowed := by
  unfold call
  apply asks_run_bind asks
  intro response
  split
  · exact asks_run_pure _
  · exact asks_run_throw _

end DigitalOcean

namespace Scaleway

variable {account : Account}

theorem traces_request_ok_iff {method : Http.Method} {url : String} {body : Http.Body}
    {headers : List (String × String)} :
    Traces (Scaleway.request account method url body headers).run trace (.ok response) ↔
      ∃ key, account.secretKey? = .ok key ∧
        trace = [⟨.send { method, url, headers := keyHeader key :: headers, body }, .ok response⟩] := by
  unfold Scaleway.request
  rw [traces_run_bind_ok_iff]
  constructor
  · intro traced
    obtain ⟨front, back, key, rfl, given, sends⟩ := traced
    obtain ⟨rfl, known⟩ := Network.traces_given_iff.mp given
    exact ⟨key, known.symm, Network.traces_send_ok_iff.mp sends⟩
  · intro sent
    obtain ⟨key, known, rfl⟩ := sent
    exact ⟨[], _, key, rfl, Network.traces_given_iff.mpr ⟨rfl, known.symm⟩,
      Network.traces_send_ok_iff.mpr rfl⟩

theorem request_asks {method : Http.Method} {url : String} {body : Http.Body} :
    (Scaleway.request account method url body []).run.Asks fun action => ∃ key,
      action = .send { method, url, headers := [keyHeader key], body } := by
  unfold Scaleway.request
  apply asks_run_bind (Network.given_asks _)
  intro key
  exact Network.send_asks ⟨key, rfl⟩

theorem accept_asks {allowed : Network.Action → Prop} : (accept response).run.Asks allowed := by
  unfold accept
  split
  · exact asks_run_pure _
  · exact asks_run_throw _

theorem traces_accept_ok_iff {received : Http.Response} :
    Traces (accept response).run trace (.ok received) ↔
      trace = [] ∧ received = response ∧ response.isSuccess = true := by
  unfold accept
  split
  case isTrue succeeds => exact traces_run_pure_iff.trans (by simp [succeeds])
  case isFalse fails => exact traces_run_throw_iff.trans (by simp [fails])

end Scaleway

end Rollout.Provider
