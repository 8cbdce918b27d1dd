import Mathlib.Data.List.Forall2
import Rollout.Proofs.Procedure.Discreet
import Rollout.Proofs.Text.Blank
import Rollout.Provider.Accounts

namespace Rollout.Provider

open Procedure Network

/-! Providers whose accounts differ in their keys only.

A key goes into the header of a request, and otherwise it only matters whether there is
one.  So two such providers send the same requests but for that header.
-/

theorem poll_discreet {look look' : Network Error (Option Server)} (looks : Discreet look look')
    (ready id : String) (interval deadline : Nat) (wasReady : Bool) (attempts : Nat) :
    Discreet (poll look ready id interval deadline wasReady attempts)
      (poll look' ready id interval deadline wasReady attempts) := by
  induction attempts generalizing wasReady with
  | zero => exact discreet_refl (throw (givenUp id wasReady))
  | succ attempts ih =>
      unfold poll
      apply (discreet_refl Network.now).bind
      intro moment
      by_cases late : deadline < moment
      · rw [if_pos late, if_pos late]
        exact discreet_refl _
      · rw [if_neg late, if_neg late]
        apply looks.bind
        intro seen
        cases seen.filter (·.status = ready) with
        | none => exact (discreet_refl (Network.pause interval)).bind fun _ => ih wasReady
        | some server =>
            cases located : server.address.isSome with
            | true => simpa only [located, if_true] using discreet_refl (pure server)
            | false =>
                simp only [located]
                exact (discreet_refl (Network.pause interval)).bind fun _ => ih true

theorem Polling.await_discreet {look look' : Network Error (Option Server)}
    (looks : Discreet look look') (polling : Polling) (ready id : String) :
    Discreet (polling.await look ready id) (polling.await look' ready id) :=
  (discreet_refl Network.now).bind fun _ => poll_discreet looks ready id _ _ false _

/-- Two services that send the same requests up to the keys of their accounts. -/
def ServicesAlike (service service' : Service) : Prop := ∀ call, Discreet (service call) (service' call)

inductive ProvidersAlike (provider : Provider Service) : Provider Service → Prop where
  | intro {service : Service} (alike : ServicesAlike provider.backend service) :
      ProvidersAlike provider { provider with backend := service }

section Settings

/-- Texts of visible ASCII characters, of which there is at least one. -/
def Visible (text : String) : Prop :=
  text ≠ "" ∧ ∀ char ∈ text.toList, 0x21 ≤ char.toNat ∧ char.toNat ≤ 0x7E

theorem Visible.not_blank {text : String} (visible : Visible text) : Text.isBlankText text = false := by
  obtain ⟨filled, seen⟩ := visible
  cases chars : text.toList with
  | nil => exact absurd (String.toList_eq_nil_iff.mp chars) filled
  | cons first rest =>
      obtain ⟨low, high⟩ := seen first (by simp [chars])
      simp [Text.isBlankText, chars, Text.isBlank_of_code low high]

/-- The settings that hold the keys of accounts. -/
def secretNames : List String := ["token", "api_token", "secret_key"]

inductive SettingAlike : String × String → String × String → Prop where
  | same (setting : String × String) : SettingAlike setting setting
  | secret {name value value' : String} (isSecret : name ∈ secretNames) (visible : Visible value)
      (visible' : Visible value') : SettingAlike (name, value) (name, value')

/-- A setting takes accounts that are alike to accounts that are alike, or neither
account takes it. -/
def Preserves {α : Type} (apply : α → String → String → Except Error α) (alike : α → α → Prop) : Prop :=
  ∀ {account account' setting setting'}, alike account account' → SettingAlike setting setting' →
    SameOutcome alike (apply account setting.1 setting.2) (apply account' setting'.1 setting'.2)

/-- Two accounts are alike, and so are their settings so far. -/
def AlikeSoFar {α : Type} (alike : α → α → Prop) (state state' : α × Except Error Unit) : Prop :=
  alike state.1 state'.1 ∧ state.2 = state'.2

theorem applySettings_alike {α : Type} {apply : α → String → String → Except Error α}
    {alike : α → α → Prop} (preserves : Preserves apply alike) {settings settings' : Settings}
    (same : List.Forall₂ SettingAlike settings.toList settings'.toList) {account account' : α}
    (isAlike : alike account account') :
    AlikeSoFar alike (applySettings apply account settings)
      (applySettings apply account' settings') := by
  have start : AlikeSoFar alike (account, .ok ()) (account', .ok ()) := ⟨isAlike, rfl⟩
  -- The accounts stay alike setting by setting, also behind one that is not accepted.
  refine List.rel_foldl ?_ start same
  intro state state' alikeSoFar setting setting' settingAlike
  obtain ⟨account, accepted⟩ := state
  obtain ⟨account', accepted'⟩ := state'
  obtain ⟨isAlike, sameSoFar⟩ : alike account account' ∧ accepted = accepted' := alikeSoFar
  subst sameSoFar
  cases accepted with
  | error error => exact ⟨isAlike, rfl⟩
  | ok _ =>
      have applied := preserves isAlike settingAlike
      dsimp only [applySetting]
      generalize apply account setting.1 setting.2 = result at applied ⊢
      generalize apply account' setting'.1 setting'.2 = result' at applied ⊢
      cases applied with
      | error error => exact ⟨isAlike, rfl⟩
      | ok isAlike => exact ⟨isAlike, rfl⟩

end Settings

namespace DigitalOcean

/-- Both accounts have a token that is not blank, or neither has. -/
inductive AccountsAlike (account : Account) : Account → Prop where
  | intro {token : Option String}
      (known : SameOutcome (fun _ _ => True) account.token? { account with token }.token?) :
      AccountsAlike account { account with token }

variable {account account' : Account}

theorem AccountsAlike.request (alike : AccountsAlike account account') (method : Http.Method)
    (path : String) (body : Http.Body) :
    Discreet (request account method path body) (request account' method path body) := by
  obtain ⟨known⟩ := alike
  apply discreet_given_bind known
  intro token token'
  apply discreet_send
  simp only [Http.Request.masked, List.map_cons, List.map_nil, Http.maskedHeader_bearer token token']

theorem AccountsAlike.call (alike : AccountsAlike account account') (method : Http.Method)
    (path : String) (body : Http.Body) :
    Discreet (call account method path body) (call account' method path body) :=
  (alike.request method path body).bind fun _ => discreet_refl _

theorem AccountsAlike.get {α : Type} (alike : AccountsAlike account account')
    (read : Json → Option α) (path : String) :
    Discreet (get account read path) (get account' read path) :=
  (alike.call .get path .empty).bind fun _ => discreet_refl _

theorem AccountsAlike.createServer (alike : AccountsAlike account account') (order : Order) :
    Discreet (createServer account order) (createServer account' order) := by
  have calls := alike.call .post "/droplets"
  obtain ⟨known⟩ := alike
  exact (calls _).bind fun _ => discreet_refl _

theorem AccountsAlike.pointDomain (alike : AccountsAlike account account') (domain : String)
    (address : Address) :
    Discreet (pointDomain account domain address) (pointDomain account' domain address) := by
  have creates (zone name : String) :
      Discreet (createRecord account zone name address) (createRecord account' zone name address) :=
    alike.request .post _ _
  unfold DigitalOcean.pointDomain
  generalize Dns.splitDomain domain = parts
  obtain ⟨zone, sub⟩ := parts
  apply (creates zone _).bind
  intro first
  by_cases missing : first.status = 404
  · simp only [missing, if_true]
    apply (alike.call .post "/domains" _).discard.bind
    intro _
    exact (creates zone _).bind fun _ => discreet_refl _
  · simp only [missing, if_false]
    exact discreet_refl _

theorem AccountsAlike.service (alike : AccountsAlike account account') :
    ServicesAlike (service account) (service account') := by
  have lists : Discreet (listSizes account) (listSizes account') := alike.get _ _
  intro call
  cases call with
  | listRegions => exact alike.get _ _
  | listSizes => exact lists
  | listSizesIn region => exact lists.bind fun _ => discreet_refl _
  | chooseSize requirement => exact lists.bind fun _ => discreet_refl _
  | createServer order => exact alike.createServer order
  | awaitServer id =>
      apply Polling.await_discreet
      exact (alike.get _ _).bind fun _ => discreet_refl _
  | destroyServer id => exact (alike.call .delete _ .empty).discard
  | pointDomain domain address => exact alike.pointDomain domain address

theorem sameOutcome_self (given : Except Error String) :
    SameOutcome (fun _ _ => True) given given := by
  cases given with
  | error error => exact .error error
  | ok token => exact .ok trivial

theorem AccountsAlike.refl (account : Account) : AccountsAlike account account :=
  .intro (sameOutcome_self account.token?)

theorem token?_of_not_blank {token : String} (filled : Text.isBlankText token = false) :
    { account with token := some token }.token? = .ok token := by
  unfold Account.token?
  rw [Option.filter_some_pos (by simp [filled])]

theorem AccountsAlike.of_visible {token token' : String} (visible : Visible token)
    (visible' : Visible token') :
    AccountsAlike { account with token := some token } { account with token := some token' } := by
  apply AccountsAlike.intro
  rw [token?_of_not_blank visible.not_blank, token?_of_not_blank visible'.not_blank]
  exact .ok trivial

theorem set_preserves : Preserves Account.set AccountsAlike := by
  intro account account' setting setting' alike same
  obtain ⟨known⟩ := alike
  unfold Account.set
  cases same with
  | same =>
      split
      · exact .ok (.refl _)
      · exact .error _
  | secret isSecret visible visible' =>
      dsimp only
      split
      · exact .ok (.of_visible visible visible')
      · exact .error _

theorem AccountsAlike.provider (alike : AccountsAlike account account') :
    ProvidersAlike account.provider account'.provider := by
  have services := alike.service
  cases alike with
  | @intro token known =>
      have same : { account with token }.provider =
          { account.provider with backend := DigitalOcean.service { account with token } } := by
        unfold Account.provider Account.needsConfig
        rw [known.isNone_eq]
      rw [same]
      exact .intro services

end DigitalOcean

namespace Scaleway

/-- Both accounts have a key, or neither has, and likewise for their clients. -/
inductive AccountsAlike (account : Account) : Account → Prop where
  | intro {secretKey clientKey : Option String}
      (known : account.secretKey.isSome = secretKey.isSome)
      (knownToClient : account.clientKey.isSome = clientKey.isSome) :
      AccountsAlike account { account with secretKey, clientKey }

variable {account account' : Account}

theorem sameOutcome_required (field : String) {value value' : Option String}
    (known : value.isSome = value'.isSome) :
    SameOutcome (fun _ _ => True) (Account.required field value) (Account.required field value') := by
  cases value with
  | none =>
      cases value' with
      | none => exact .error _
      | some value' => cases known
  | some value =>
      cases value' with
      | none => cases known
      | some value' => exact .ok trivial

theorem maskedHeader_keyHeader (key key' : String) :
    Http.maskedHeader (keyHeader key) = Http.maskedHeader (keyHeader key') := by
  simp [Http.maskedHeader, keyHeader, Http.authenticationHeaders]

theorem AccountsAlike.request (alike : AccountsAlike account account') (method : Http.Method)
    (url : String) (body : Http.Body) (headers : List (String × String)) :
    Discreet (request account method url body headers) (request account' method url body headers) := by
  obtain ⟨known, knownToClient⟩ := alike
  apply discreet_given_bind (sameOutcome_required _ known)
  intro key key'
  apply discreet_send
  simp only [Http.Request.masked, List.map_cons, maskedHeader_keyHeader key key']

theorem AccountsAlike.ask (alike : AccountsAlike account account') (method : Http.Method)
    (url : String) (query : List (String × String)) (body : Http.Body) :
    Discreet (ask account method url query body) (ask account' method url query body) := by
  obtain ⟨known, knownToClient⟩ := alike
  apply discreet_given_bind (sameOutcome_required _ knownToClient)
  intro key key'
  apply Discreet.bind _ fun _ => discreet_refl _
  apply discreet_send
  simp only [Http.Request.masked, List.map_cons, List.map_nil, maskedHeader_keyHeader key key']

theorem AccountsAlike.act (alike : AccountsAlike account account') (server : Reference)
    (action : String) : Discreet (act account server action) (act account' server action) :=
  (alike.ask .post _ [] _).discard

theorem AccountsAlike.listSizes (alike : AccountsAlike account account') (zone : String) :
    Discreet (listSizes account zone) (listSizes account' zone) :=
  (alike.request .get _ .empty []).bind fun _ => discreet_refl _

theorem AccountsAlike.imageId (alike : AccountsAlike account account') (zone image : String) :
    Discreet (imageId account zone image) (imageId account' zone image) := by
  have asks := alike.ask .get
  obtain ⟨known, knownToClient⟩ := alike
  unfold Scaleway.imageId
  by_cases isId : Image.isId image
  · rw [if_pos isId, if_pos isId]
    exact discreet_refl _
  · rw [if_neg isId, if_neg isId]
    exact (asks _ _ _).bind fun _ => discreet_refl _

theorem AccountsAlike.createStopped (alike : AccountsAlike account account') (zone image : String)
    (order : Order) :
    Discreet (createStopped account zone image order) (createStopped account' zone image order) := by
  have requests := alike.request .post
  obtain ⟨known, knownToClient⟩ := alike
  apply (discreet_refl _).bind
  intro project
  exact (requests _ _ []).bind fun _ => discreet_refl _

theorem AccountsAlike.createServer (alike : AccountsAlike account account') (order : Order) :
    Discreet (createServer account order) (createServer account' order) := by
  -- Apart from their keys the accounts are the same, defaults included.
  have images := alike.imageId
  have creates := alike.createStopped
  have patches := alike.request .patch
  have starts := alike.act
  obtain ⟨known, knownToClient⟩ := alike
  apply (images _ _).bind
  intro image
  apply (creates _ image order).bind
  intro created
  cases order.userData with
  | none => exact (starts _ _).bind fun _ => discreet_refl _
  | some userData =>
      apply (patches _ _ _).bind
      intro response
      apply (discreet_refl (discard (accept response))).bind
      intro _
      exact (starts _ _).bind fun _ => discreet_refl _

theorem AccountsAlike.lastInstance (alike : AccountsAlike account account') (server : Reference)
    (pages page : Nat) (last : Option Instance) :
    Discreet (lastInstance account server pages page last)
      (lastInstance account' server pages page last) := by
  -- Page by page, the same answer makes both go on or stop.
  induction pages generalizing page last with
  | zero => exact discreet_refl (pure last)
  | succ pages ih =>
      unfold Scaleway.lastInstance
      apply (alike.ask .get _ _ .empty).bind
      intro response
      apply (discreet_refl _).bind
      intro seen
      cases seen.getLast? with
      | none => exact discreet_refl (pure last)
      | some found => exact ih (page + 1) (some found)

theorem AccountsAlike.look (alike : AccountsAlike account account') (server : Reference) :
    Discreet (look account server) (look account' server) :=
  (alike.lastInstance server _ 1 none).bind fun _ => discreet_refl _

theorem AccountsAlike.pointDomain (alike : AccountsAlike account account') (domain : String)
    (address : Address) :
    Discreet (pointDomain account domain address) (pointDomain account' domain address) := by
  unfold Scaleway.pointDomain
  generalize Dns.splitDomain domain = parts
  obtain ⟨zone, sub⟩ := parts
  exact (alike.request .patch _ _ []).bind fun _ => discreet_refl _

theorem AccountsAlike.service (alike : AccountsAlike account account') :
    ServicesAlike (service account) (service account') := by
  have lists := alike.listSizes
  have looks := alike.look
  have acts := alike.act
  have creates := alike.createServer
  have points := alike.pointDomain
  obtain ⟨known, knownToClient⟩ := alike
  intro call
  cases call with
  | listRegions => exact discreet_refl (pure zones)
  | listSizes => exact lists account.zone
  | listSizesIn region => exact lists region
  | chooseSize requirement => exact (lists account.zone).bind fun _ => discreet_refl _
  | createServer order => exact creates order
  | awaitServer id => exact Polling.await_discreet (looks _) .usual _ _
  | destroyServer id => exact acts _ "terminate"
  | pointDomain domain address => exact points domain address

theorem AccountsAlike.refl (account : Account) : AccountsAlike account account := .intro rfl rfl

theorem set_preserves : Preserves Account.set AccountsAlike := by
  intro account account' setting setting' alike same
  obtain ⟨known, knownToClient⟩ := alike
  unfold Account.set
  cases same with
  | same =>
      split
      · exact .ok (.refl _)
      · exact .ok (.refl _)
      · exact .ok (.intro known knownToClient)
      · exact .ok (.intro known knownToClient)
      · exact .ok (.intro known knownToClient)
      · exact .error _
  | secret isSecret visible visible' =>
      -- A new key takes the place of the old one for both uses.
      dsimp only
      split
      · exact .ok (.intro rfl rfl)
      · exact .ok (.intro rfl rfl)
      · exact absurd isSecret (by decide)
      · exact absurd isSecret (by decide)
      · exact absurd isSecret (by decide)
      · exact .error _

theorem AccountsAlike.provider (alike : AccountsAlike account account') :
    ProvidersAlike account.provider account'.provider := by
  have services := alike.service
  cases alike with
  | @intro secretKey clientKey known knownToClient =>
      have same : { account with secretKey, clientKey }.provider =
          { account.provider with
            backend := Scaleway.service { account with secretKey, clientKey } } := by
        have needs : clientKey.isNone = account.clientKey.isNone := by
          rw [← Option.not_isSome, ← Option.not_isSome, knownToClient]
        unfold Account.provider Account.needsConfig
        rw [needs]
        rfl
      rw [same]
      exact .intro services

end Scaleway

section Choosing

/-- Settings that differ in secrets make providers that do. -/
def FactoryDiscreet (factory : Settings → Except Error (Provider Service)) : Prop :=
  ∀ settings settings' : Settings,
    List.Forall₂ SettingAlike settings.toList settings'.toList →
    SameOutcome ProvidersAlike (factory settings) (factory settings')

theorem configured_discreet {α : Type} {apply : α → String → String → Except Error α}
    {alike : α → α → Prop} (preserves : Preserves apply alike) {provider : α → Provider Service}
    (makes : ∀ {account account'}, alike account account' →
      ProvidersAlike (provider account) (provider account'))
    {account : α} (reflexive : alike account account) :
    FactoryDiscreet (configured (applySettings apply) provider account) := by
  intro settings settings' same
  have ends := applySettings_alike preserves same reflexive
  unfold configured
  generalize applySettings apply account settings = state at ends ⊢
  generalize applySettings apply account settings' = state' at ends ⊢
  obtain ⟨given, accepted⟩ := state
  obtain ⟨given', accepted'⟩ := state'
  obtain ⟨isAlike, sameSoFar⟩ : alike given given' ∧ accepted = accepted' := ends
  subst sameSoFar
  cases accepted with
  | error error => exact .error error
  | ok _ => exact .ok (makes isAlike)

theorem Accounts.getElem?_registry (accounts : Accounts) (name : String) :
    accounts.registry[name]? =
      if DigitalOcean.name = name then some
        (configured DigitalOcean.Account.configure DigitalOcean.Account.provider accounts.digitalOcean)
      else if Scaleway.name = name then some
        (configured Scaleway.Account.configure Scaleway.Account.provider accounts.scaleway)
      else none := by
  unfold registry
  rw [Std.ExtTreeMap.ofList_eq_foldl, List.foldl_cons, List.foldl_cons, List.foldl_nil,
    Std.ExtTreeMap.getElem?_insert, Std.ExtTreeMap.getElem?_insert]
  simp

theorem Accounts.factory_cases {accounts : Accounts} {name : String}
    {factory : Settings → Except Error (Provider Service)}
    (created : accounts.registry.create name = .ok factory) :
    factory = configured Scaleway.Account.configure Scaleway.Account.provider accounts.scaleway ∨
      factory =
        configured DigitalOcean.Account.configure DigitalOcean.Account.provider accounts.digitalOcean := by
  unfold Registry.create at created
  rw [getElem?_registry] at created
  split at created
  case h_1 found =>
    cases created
    split at found
    · exact .inr (Option.some.inj found).symm
    · split at found
      · exact .inl (Option.some.inj found).symm
      · cases found
  case h_2 => cases created

theorem Accounts.create_discreet {accounts : Accounts} {name : String}
    {factory : Settings → Except Error (Provider Service)}
    (created : accounts.registry.create name = .ok factory) : FactoryDiscreet factory := by
  rcases factory_cases created with rfl | rfl
  · exact configured_discreet Scaleway.set_preserves (·.provider) (.refl _)
  · exact configured_discreet DigitalOcean.set_preserves (·.provider) (.refl _)

end Choosing

end Rollout.Provider
