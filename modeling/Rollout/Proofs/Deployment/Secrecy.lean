import Rollout.Proofs.Deployment.ControlLines
import Rollout.Proofs.Deployment.Secrets

namespace Rollout.Deployment

open Procedure Provider

/-! What a deployment shows of its secrets: nothing but the headers that they are for. -/

namespace Live

def Action.masked : Live.Action → Live.Action
  | .network (.send request) => .network (.send request.masked)
  | action => action

abbrev Event := (action : Live.Action) × action.Result

/-- An event without the secrets in the headers of its request. -/
def masked : Event → Event
  | ⟨.network (.send request), answer⟩ => ⟨.network (.send request.masked), answer⟩
  | event => event

/-- The second of two runs can do what the first one does, up to secrets in headers.  And
if their surroundings answer alike as long as they see the same of both, then they do the
same and have the same result. -/
structure Indistinct {α : Type} (first second : Live α) : Prop where
  follows : ∀ trace value, Traces first trace value →
    ∃ trace', Traces second trace' value ∧ trace.map masked = trace'.map masked
  raises : ∀ trace action, Raises first trace action →
    ∃ trace' action', Raises second trace' action' ∧ trace.map masked = trace'.map masked ∧
      action.masked = action'.masked
  together : ∀ trace trace' value value', Traces first trace value → Traces second trace' value' →
    Concordant (trace.map masked) (trace'.map masked) →
      trace.map masked = trace'.map masked ∧ value = value'

inductive Link : (action action' : Live.Action) → (action.Result → action'.Result → Prop) → Prop where
  | same (action : Live.Action) : Link action action Eq
  | network {action action' : Network.Action} {agree : action.Result → action'.Result → Prop}
      (linked : Network.Link action action' agree) : Link (.network action) (.network action') agree

section Masks

variable {action action' : Live.Action} {agree : action.Result → action'.Result → Prop}

theorem Link.masked (linked : Link action action' agree) : action.masked = action'.masked := by
  cases linked with
  | same => rfl
  | network linked =>
      cases linked with
      | same => rfl
      | send masked => exact congrArg (fun request => Action.network (.send request)) masked

theorem matches_masked : Matches Link masked := by
  intro action action' agree linked answer
  cases linked with
  | same => exact ⟨answer, rfl, rfl⟩
  | network linked =>
      cases linked with
      | same => exact ⟨answer, rfl, rfl⟩
      | @send request request' masked =>
          refine ⟨answer, rfl, ?_⟩
          exact congrArg (fun request => (⟨.network (.send request), answer⟩ : Event)) masked

/-- A mask hides nothing of an answer. -/
theorem exists_masked (action : Live.Action) (one two : action.Result) :
    ∃ (shown : Live.Action) (one' two' : shown.Result), masked ⟨action, one⟩ = ⟨shown, one'⟩ ∧
      masked ⟨action, two⟩ = ⟨shown, two'⟩ ∧ (one' = two' → one = two) := by
  cases action with
  | network action =>
      cases action with
      | send request => exact ⟨.network (.send request.masked), one, two, rfl, rfl, id⟩
      | pause time => exact ⟨_, one, two, rfl, rfl, id⟩
      | now => exact ⟨_, one, two, rfl, rfl, id⟩
  | emit line => exact ⟨_, one, two, rfl, rfl, id⟩
  | nameSuffix => exact ⟨_, one, two, rfl, rfl, id⟩
  | dial host port limit => exact ⟨_, one, two, rfl, rfl, id⟩
  | execute program arguments => exact ⟨_, one, two, rfl, rfl, id⟩
  | terminal program arguments answers => exact ⟨_, one, two, rfl, rfl, id⟩
  | keepAlive every => exact ⟨_, one, two, rfl, rfl, id⟩
  | halt => exact ⟨_, one, two, rfl, rfl, id⟩

theorem concordant_of_masked {first second : Trace Live.Action Live.Action.Result}
    (concordant : Concordant (first.map masked) (second.map masked)) : Concordant first second := by
  intro past action one two rest rest' front back
  obtain ⟨shown, one', two', showsOne, showsTwo, tells⟩ := exists_masked action one two
  apply tells
  apply concordant (past.map masked) shown one' two' (rest.map masked) (rest'.map masked)
  · rw [front, List.map_append, List.map_cons, showsOne]
  · rw [back, List.map_append, List.map_cons, showsTwo]

end Masks

variable {α : Type} {first second : Live α}

theorem indistinct_of_twin (twin : Twin Link Eq first second) : Indistinct first second where
  follows := by
    intro trace value traced
    obtain ⟨trace', _, traced', same, rfl⟩ := twin.follow matches_masked traced
    exact ⟨trace', traced', same⟩
  raises := by
    intro trace action raises
    obtain ⟨trace', action', agree, raises', same, linked⟩ := twin.raise matches_masked raises
    exact ⟨trace', action', raises', same, linked.masked⟩
  together := by
    intro trace trace' value value' traced traced' concordant
    -- The second run can follow the first one, and then it is compared with itself.
    obtain ⟨followed, _, follows, same, rfl⟩ := twin.follow matches_masked traced
    rw [same] at concordant ⊢
    have self : Parallel (fun _ => true) Eq second second :=
      (asks_any second).parallel_self fun _ _ => .inl rfl
    have agreed := self followed trace' value value' follows traced'
    simp only [visible, List.filter_true] at agreed
    obtain ⟨rfl, sameValue⟩ := agreed (concordant_of_masked concordant)
    exact ⟨rfl, sameValue⟩

section Surroundings

variable {ε : Type} {call call' : Network ε α}

theorem query_twin {action action' : Live.Action} {agree : action.Result → action'.Result → Prop}
    (linked : Link action action' agree) :
    Twin Link agree (query action : Live _) (query action' : Live _) :=
  twin_query linked

theorem ofNetwork_twin (discreet : Network.Discreet call call') :
    Twin Link Eq (ofNetwork call) (ofNetwork call') := by
  have replaced : Twin Link (SameOutcome Eq) (ofNetwork call) (ofNetwork call') := by
    apply discreet.interpret
    intro action action' agree linked
    exact query_twin (.network linked)
  exact replaced.mono fun _ _ same => same.eq

theorem registrarFor_alike {credentials credentials' : Dns.Credentials}
    (alike : CredentialsAlike credentials credentials') :
    SameOutcome RegistrarsAlike (Dns.registrarFor credentials) (Dns.registrarFor credentials') := by
  cases alike with
  | @intro registrar token token' =>
      unfold Dns.registrarFor
      by_cases supported : Text.lower registrar = Dns.Cloudflare.name
      · rw [if_pos supported, if_pos supported]
        exact .ok .intro
      · rw [if_neg supported, if_neg supported]
        exact .error _

theorem ofCourse_twin (ssh : SshSettings) (home : Option String) {course course' : Course Service α}
    (twin : Twin Deployment.Link Eq course course') :
    Twin Link Eq (ofCourse ssh home course) (ofCourse ssh home course') := by
  apply twin.interpret
  intro action action' agree linked
  cases linked with
  | same => exact twin_refl Link.same _
  | provider alike call => exact ofNetwork_twin (alike call)
  | registrar alike => exact .done (registrarFor_alike alike)
  | setRecord alike domain record =>
      obtain ⟨⟩ := alike
      exact ofNetwork_twin (Dns.Cloudflare.Client.run_discreet _ _ _)

end Surroundings

end Live

/-- Deployments that differ in their secrets only send the same requests up to the headers
for these secrets, and otherwise do the same and have the same result. -/
theorem secrets_stay_in_headers (ssh : SshSettings) (home : Option String) (site : Site Service)
    (accounts : Accounts) (registered : site.providers = accounts.registry)
    (options options' : Options) (same : SameButSecrets options options') :
    Live.Indistinct (Live.ofCourse ssh home (run site options))
      (Live.ofCourse ssh home (run site options')) :=
  Live.indistinct_of_twin (Live.ofCourse_twin ssh home (run_alike registered same))

section Keys

def keyedSite : Site Service where
  apps := Installer.Registry.register ∅ loneApp
  providers := Accounts.registry { scaleway := {}, digitalOcean := {} }
  files := .empty
  home := none
  sshPort := 22
  patience := {}

def keyedOptions (key : String) : Options where
  app := "app"
  provider := "digitalocean"
  size := "small"
  serverName := "box"
  registrar := some { registrar := "cloudflare", token := key }
  providerSettings := .ofList [("token", key)]

def offlineAnswer : (action : Live.Action) → Option action.Result
  | .emit _ => some ()
  | .network (.send _) => some (.error "offline")
  | _ => none

def headersSent (key : String) : List (List (String × String)) :=
  match (Live.ofCourse {} none (run keyedSite (keyedOptions key))).run? (noting offlineAnswer) [] with
  | some (_, trace) => trace.filterMap fun
      | ⟨.network (.send request), _⟩ => some request.headers
      | _ => none
  | none => []

theorem keyedOptions_alike {key key' : String} (visible : Visible key) (visible' : Visible key') :
    SameButSecrets (keyedOptions key) (keyedOptions key') := by
  refine SameButSecrets.intro (.some (.intro visible visible')) ?_
  exact .cons (.secret (by decide) visible visible') .nil

/-- Another key is sent in the header of the request for a server, and nothing else tells
it. -/
theorem other_key_unseen :
    SameButSecrets (keyedOptions "one") (keyedOptions "two") ∧
      Live.Indistinct (Live.ofCourse {} none (run keyedSite (keyedOptions "one")))
        (Live.ofCourse {} none (run keyedSite (keyedOptions "two"))) ∧
      headersSent "one" = [[("authorization", "Bearer one")]] ∧
      headersSent "two" = [[("authorization", "Bearer two")]] := by
  have one : Visible "one" := ⟨by decide, by simp⟩
  have two : Visible "two" := ⟨by decide, by simp⟩
  have same := keyedOptions_alike one two
  refine ⟨same, ?_, by decide +kernel, by decide +kernel⟩
  exact secrets_stay_in_headers {} none keyedSite { scaleway := {}, digitalOcean := {} } rfl _ _ same

end Keys

end Rollout.Deployment
