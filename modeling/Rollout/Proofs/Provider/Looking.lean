import Rollout.Proofs.Procedure.Network
import Rollout.Provider.DigitalOcean
import Rollout.Provider.Scaleway.Service

namespace Rollout.Provider

open Procedure

/-! What is exchanged when a provider looks at a server.

DigitalOcean is asked once and shows the server or fails.  Scaleway lists the servers that
the id stands for, one to a page, and is asked for pages up to an empty one; the last
server listed is the one seen, and there may be none.
-/

/-- Which exchanges and results a look has. -/
abbrev Sighting :=
  Trace Network.Action Network.Action.Result → Except Error (Option Server) → Prop

def OnlySends (trace : Trace Network.Action Network.Action.Result) : Prop :=
  ∀ event ∈ trace, ∃ request answer, event = ⟨.send request, answer⟩

namespace DigitalOcean

variable {account : Account} {token id : String}
  {trace : Trace Network.Action Network.Action.Result}

def lookup (token id : String) : Http.Request :=
  { method := .get, url := base ++ s!"/droplets/{id}", headers := [Http.bearer token] }

/-- The server that an answer tells of, if it is a success that can be read. -/
def told? : Except String Http.Response → Option Server
  | .ok response => if response.isSuccess then response.decode? server? else none
  | .error _ => none

inductive Looked (token id : String) : Sighting where
  | lost {answer : Except String Http.Response} {reason : String} (silent : told? answer = none) :
      Looked token id [⟨.send (lookup token id), answer⟩] (.error (failed reason))
  | seen {answer : Except String Http.Response} {server : Server}
      (told : told? answer = some server) :
      Looked token id [⟨.send (lookup token id), answer⟩] (.ok (some server))

theorem request_of_known {method : Http.Method} {path : String} {body : Http.Body}
    (known : account.token? = .ok token) :
    DigitalOcean.request account method path body =
      Network.send failed { method, url := base ++ path, headers := [Http.bearer token], body } := by
  unfold DigitalOcean.request
  rw [known]
  rfl

theorem looked_of_traces {seen : Except Error (Option Server)} (known : account.token? = .ok token)
    (traced : Traces (look account id).run trace seen) : Looked token id trace seen := by
  unfold look get call at traced
  rw [request_of_known known] at traced
  simp only [LawfulMonad.bind_assoc] at traced
  rcases Network.traces_send_bind traced with ⟨reason, rfl, rfl⟩ | ⟨response, rest, rfl, later⟩
  · exact .lost rfl
  by_cases succeeds : response.isSuccess = true
  · simp only [succeeds, if_true, pure_bind] at later
    rcases Network.traces_decode_bind later with ⟨undecoded, rfl, rfl⟩ | ⟨server, decoded, ends⟩
    · exact .lost (by simp [told?, undecoded])
    · obtain ⟨rfl, rfl⟩ := traces_run_pure_iff.mp ends
      exact .seen (by simp [told?, succeeds, decoded])
  · simp only [succeeds] at later
    obtain ⟨rfl, rfl⟩ := traces_run_throw_iff.mp later
    exact .lost (by simp [told?, succeeds])

theorem Looked.sends {seen : Except Error (Option Server)}
    (looked : Looked token id trace seen) : OnlySends trace := by
  intro event member
  cases looked with
  | lost silent => exact ⟨_, _, List.mem_singleton.mp member⟩
  | seen told => exact ⟨_, _, List.mem_singleton.mp member⟩

theorem Looked.error {error : Error} (looked : Looked token id trace (.error error)) :
    ∃ reason, error = .api name reason := by
  cases looked with
  | lost silent => exact ⟨_, rfl⟩

end DigitalOcean

namespace Scaleway

variable {account : Account} {key : String} {server : Reference} {page : Nat}
  {last : Option Instance} {trace : Trace Network.Action Network.Action.Result}

def pageOf (key : String) (server : Reference) (page : Nat) : Http.Request :=
  { method := .get
    url := zoneUrl server.zone ++ "/servers"
    query := [("servers", server.id), ("per_page", "1"), ("page", toString page)]
    headers := [keyHeader key] }

/-- The servers that an answer lists, if it is no refusal and can be read. -/
def told? : Except String Http.Response → Option (List Instance)
  | .ok response =>
      if 400 ≤ response.status ∧ response.status < 600 then none
      else response.decode? (list? "servers" Instance.ofJson?)
  | .error _ => none

/-- Pages are read from one with a number on, and one server was listed last before it. -/
inductive Listed (key : String) (server : Reference) : Nat → Option Instance →
    Trace Network.Action Network.Action.Result → Except Error (Option Instance) → Prop where
  | lost {page : Nat} {last : Option Instance} {answer : Except String Http.Response}
      {reason : String} (silent : told? answer = none) :
      Listed key server page last [⟨.send (pageOf key server page), answer⟩] (.error (failed reason))
  | ended {page : Nat} {last : Option Instance} {answer : Except String Http.Response}
      (told : told? answer = some []) :
      Listed key server page last [⟨.send (pageOf key server page), answer⟩] (.ok last)
  | page {page : Nat} {last : Option Instance} {answer : Except String Http.Response}
      {earlier : List Instance} {newest : Instance} {outcome : Except Error (Option Instance)}
      {trace : Trace Network.Action Network.Action.Result}
      (told : told? answer = some (earlier ++ [newest]))
      (later : Listed key server (page + 1) (some newest) trace outcome) :
      Listed key server page last (⟨.send (pageOf key server page), answer⟩ :: trace) outcome
  | uncountable {last : Option Instance} : Listed key server Text.smallWordLimit last [] (.ok last)

def shown (server : Reference) (seen : Instance) : Server :=
  { id := server.toText, name := seen.name, address := seen.address, status := seen.state }

def Looked (key : String) (server : Reference) : Sighting := fun trace seen =>
  ∃ last, Listed key server 1 none trace last ∧ seen = last.map (·.map (shown server))

theorem told?_of_refused {answer : Except String Http.Response}
    (refused : ∀ response, answer = .ok response → 400 ≤ response.status ∧ response.status < 600) :
    told? answer = none := by
  cases answer with
  | error reason => rfl
  | ok response => exact if_pos (refused response rfl)

theorem traces_ask_bind {β : Type} {method : Http.Method} {url : String}
    {query : List (String × String)} {body : Http.Body} {next : Http.Response → Network Error β}
    {outcome : Except Error β} (known : account.clientKey? = .ok key)
    (traced : Traces (ask account method url query body >>= next).run trace outcome) :
    ∃ (answer : Except String Http.Response) (rest : Trace Network.Action Network.Action.Result),
      trace = ⟨.send { method, url, query, headers := [keyHeader key], body }, answer⟩ :: rest ∧
      (((∀ response, answer = .ok response → 400 ≤ response.status ∧ response.status < 600) ∧
          rest = [] ∧ ∃ reason, outcome = .error (failed reason)) ∨
        ∃ response, answer = .ok response ∧ ¬ (400 ≤ response.status ∧ response.status < 600) ∧
          Traces (next response).run rest outcome) := by
  unfold ask at traced
  simp only [known, Network.lift_ok, pure_bind, LawfulMonad.bind_assoc] at traced
  rcases Network.traces_send_bind traced with ⟨reason, rfl, rfl⟩ | ⟨response, rest, rfl, later⟩
  · exact ⟨.error reason, [], rfl, .inl ⟨nofun, rfl, _, rfl⟩⟩
  refine ⟨.ok response, rest, rfl, ?_⟩
  by_cases refused : 400 ≤ response.status ∧ response.status < 600
  · left
    refine ⟨fun received same => Except.ok.inj same ▸ refused, ?_⟩
    by_cases client : 400 ≤ response.status ∧ response.status < 500
    · rw [if_pos client, LawfulMonad.bind_assoc] at later
      rcases Network.traces_decode_bind later with ⟨-, rfl, rfl⟩ | ⟨refusal, -, throws⟩
      · exact ⟨rfl, _, rfl⟩
      · obtain ⟨rfl, rfl⟩ := traces_run_throw_iff.mp throws
        exact ⟨rfl, _, rfl⟩
    · have broken : 500 ≤ response.status ∧ response.status < 600 := by omega
      rw [if_neg client, if_pos broken] at later
      obtain ⟨rfl, rfl⟩ := traces_run_throw_iff.mp later
      exact ⟨rfl, _, rfl⟩
  · have served : ¬ (400 ≤ response.status ∧ response.status < 500) := by omega
    have sound : ¬ (500 ≤ response.status ∧ response.status < 600) := by omega
    rw [if_neg served, if_neg sound, pure_bind] at later
    exact .inr ⟨response, rfl, refused, later⟩

theorem listed_of_traces {pages : Nat} {result : Except Error (Option Instance)}
    (known : account.clientKey? = .ok key) (count : page + pages = Text.smallWordLimit)
    (traced : Traces (lastInstance account server pages page last).run trace result) :
    Listed key server page last trace result := by
  induction pages generalizing page last trace with
  | zero =>
      obtain ⟨rfl, rfl⟩ := traces_run_pure_iff.mp traced
      obtain rfl : page = Text.smallWordLimit := count
      exact .uncountable
  | succ pages ih =>
      unfold lastInstance at traced
      obtain ⟨answer, rest, rfl, ⟨refused, rfl, reason, rfl⟩ | ⟨response, rfl, accepted, later⟩⟩ :=
        traces_ask_bind known traced
      · exact .lost (told?_of_refused refused)
      rcases Network.traces_decode_bind later with ⟨undecoded, rfl, rfl⟩ | ⟨seen, decoded, ends⟩
      · exact .lost ((if_neg accepted).trans undecoded)
      · have told : told? (.ok response) = some seen := (if_neg accepted).trans decoded
        cases newest : seen.getLast? with
        | none =>
            rw [newest] at ends
            obtain ⟨rfl, rfl⟩ := traces_run_pure_iff.mp ends
            obtain rfl := List.getLast?_eq_none_iff.mp newest
            exact .ended told
        | some found =>
            rw [newest] at ends
            obtain ⟨earlier, rfl⟩ := List.getLast?_eq_some_iff.mp newest
            exact .page told (ih (by omega) ends)

theorem looked_of_traces {seen : Except Error (Option Server)} (known : account.clientKey? = .ok key)
    (traced : Traces (look account server).run trace seen) : Looked key server trace seen := by
  unfold look at traced
  have count : 1 + (Text.smallWordLimit - 1) = Text.smallWordLimit := by decide
  rcases traces_run_bind_iff.mp traced with ⟨error, rfl, lists⟩ | ⟨front, back, last, rfl, lists, ends⟩
  · exact ⟨.error error, listed_of_traces known count lists, rfl⟩
  · obtain ⟨rfl, rfl⟩ := traces_run_pure_iff.mp ends
    exact ⟨.ok last, by simpa using listed_of_traces known count lists, rfl⟩

theorem Listed.sends {result : Except Error (Option Instance)}
    (listed : Listed key server page last trace result) : OnlySends trace := by
  induction listed with
  | lost silent => exact fun event member => ⟨_, _, List.mem_singleton.mp member⟩
  | ended told => exact fun event member => ⟨_, _, List.mem_singleton.mp member⟩
  | page told later ih =>
      intro event member
      rcases List.mem_cons.mp member with rfl | member
      · exact ⟨_, _, rfl⟩
      · exact ih event member
  | uncountable => exact nofun

theorem Looked.sends {seen : Except Error (Option Server)} (looked : Looked key server trace seen) :
    OnlySends trace := by
  obtain ⟨last, listed, -⟩ := looked
  exact listed.sends

theorem Listed.error {error : Error} (listed : Listed key server page last trace (.error error)) :
    ∃ reason, error = .api name reason := by
  generalize fails : (Except.error error : Except Error (Option Instance)) = result at listed
  induction listed with
  | lost silent => exact ⟨_, Except.error.inj fails⟩
  | ended told => cases fails
  | page told later ih => exact ih fails
  | uncountable => cases fails

theorem Looked.error {error : Error} (looked : Looked key server trace (.error error)) :
    ∃ reason, error = .api name reason := by
  obtain ⟨result, listed, same⟩ := looked
  cases result with
  | ok last => cases same
  | error original =>
      obtain rfl := Except.error.inj same
      exact listed.error

end Scaleway

end Rollout.Provider
