import Rollout.Network
import Rollout.Proofs.Procedure.Network
import Rollout.Proofs.Procedure.Twin

namespace Rollout

/-! Calls to the network that differ in secrets only.

Who sends a request is told in some of its headers and nowhere else.  Two calls are
discreet if they send the same requests up to the values of these headers, as long as
they get the same responses, and if they have the same outcome.
-/

namespace Http

/-- The headers that tell who sends a request. -/
def authenticationHeaders : List String := ["authorization", "x-auth-token"]

def maskedHeader (header : String × String) : String × String :=
  (header.1, if header.1 ∈ authenticationHeaders then "" else header.2)

def Request.masked (request : Request) : Request :=
  { request with headers := request.headers.map maskedHeader }

theorem maskedHeader_bearer (token token' : String) :
    maskedHeader (bearer token) = maskedHeader (bearer token') := by
  simp [maskedHeader, bearer, authenticationHeaders]

end Http

namespace Network

open Procedure

inductive Link :
    (action action' : Action) → (action.Result → action'.Result → Prop) → Prop where
  | same (action : Action) : Link action action Eq
  | send {request request' : Http.Request} (masked : request.masked = request'.masked) :
      Link (.send request) (.send request') Eq

variable {ε α β : Type}

def Discreet (first first' : Network ε α) : Prop :=
  Twin Link (SameOutcome Eq) first.run first'.run

theorem discreet_refl (call : Network ε α) : Discreet call call :=
  twin_run_refl .same call

theorem Discreet.bind {first first' : Network ε α} {second second' : α → Network ε β}
    (begins : Discreet first first') (ends : ∀ value, Discreet (second value) (second' value)) :
    Discreet (first >>= second) (first' >>= second') :=
  twin_run_then begins ends

theorem Discreet.discard {first first' : Network ε α} (discreet : Discreet first first') :
    Discreet (discard first) (discard first') := by
  unfold Discreet
  rw [run_discard, run_discard]
  exact discreet.bind fun _ => discreet_refl _

theorem twin_ask {action action' : Action} {agree : action.Result → action'.Result → Prop}
    (linked : Link action action' agree) :
    Twin Link (SameOutcome agree) (ask action : Network ε _).run (ask action').run :=
  twin_run_lift (twin_query linked)

theorem discreet_send (failed : String → ε) {request request' : Http.Request}
    (masked : request.masked = request'.masked) :
    Discreet (Network.send failed request) (Network.send failed request') := by
  have linked : Link (.send request) (.send request') Eq := .send masked
  apply twin_run_bind (twin_ask linked)
  intro answer answer' same
  subst same
  cases answer with
  | ok response => exact discreet_refl (pure response)
  | error reason => exact discreet_refl (throw (failed reason))

/-- A secret that is missing is missing in both calls. -/
theorem discreet_given_bind {σ : Type} {secret secret' : Except ε σ} {second second' : σ → Network ε α}
    (known : SameOutcome (fun _ _ => True) secret secret')
    (ends : ∀ value value', Discreet (second value) (second' value')) :
    Discreet (liftM secret >>= second) (liftM secret' >>= second') :=
  twin_run_bind (twin_run_given known) fun value value' _ => ends value value'

end Network

end Rollout
