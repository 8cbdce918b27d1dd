import Mathlib.Logic.Function.Basic
import Rollout.Provider.Accounts

namespace Rollout.Provider

/-! Accounts after the settings of a deployment.

Settings are applied in the order of their names, and an account that takes all of them has
then the fields that they give and its own others.
-/

section Settings

variable {α : Type} {apply : α → String → String → Except Error α}
  {reached : (String → Option String) → α} {settings : Settings} {key value : String}
  {front back : List (String × String)} {given : String → Option String}

/-- A function from names to values has the settings of a list. -/
def Tells (given : String → Option String) (told : List (String × String)) : Prop :=
  ∀ key value, given key = some value ↔ (key, value) ∈ told

theorem Tells.snoc (tells : Tells given front) (absent : ∀ earlier ∈ front, earlier.1 ≠ key) :
    Tells (Function.update given key (some value)) (front ++ [(key, value)]) := by
  intro other content
  rw [List.mem_append, List.mem_singleton, Prod.mk.injEq]
  rcases Decidable.em (other = key) with rfl | differs
  · have new : (other, content) ∉ front := fun member => absent _ member rfl
    simp [new, eq_comm]
  · simp [tells other content, differs]

theorem absent_of_behind {name : String}
    (behind : ∀ earlier content, given earlier = some content → compare earlier key = .lt)
    (ahead : compare name key ≠ .lt) : given name = none := by
  rw [Option.eq_none_iff_forall_ne_some]
  exact fun content told => ahead (behind name content told)

theorem eq_getElem?_of_tells (tells : Tells given settings.toList) : given = fun key => settings[key]? := by
  funext key
  apply Option.ext
  intro value
  rw [tells]
  exact Std.ExtTreeMap.mem_toList_iff_getElem?_eq_some

theorem behind_of_split (split : settings.toList = front ++ (key, value) :: back) :
    ∀ earlier ∈ front, compare earlier.1 key = .lt := by
  have ordered : settings.toList.Pairwise (fun first second => compare first.1 second.1 = .lt) :=
    Std.ExtTreeMap.ordered_keys_toList
  rw [split, List.pairwise_append] at ordered
  intro earlier member
  exact ordered.2.2 earlier member (key, value) List.mem_cons_self

theorem mem_of_split (split : settings.toList = front ++ (key, value) :: back) : key ∈ settings := by
  rw [Std.ExtTreeMap.mem_iff_isSome_getElem?, Option.isSome_iff_exists]
  exact ⟨value, Std.ExtTreeMap.mem_toList_iff_getElem?_eq_some.mp (by simp [split])⟩

/-- An account that goes by the settings so far, and does so also with each that is applied
behind them, goes by all of them in the end. -/
theorem applySettings_eq
    (step : ∀ {given key value}, key ∈ settings →
      (∀ earlier content, given earlier = some content → compare earlier key = .lt) →
      apply (reached given) key value = .ok (reached (Function.update given key (some value)))) :
    applySettings apply (reached fun _ => none) settings =
      (reached fun key => settings[key]?, .ok ()) := by
  -- The account goes by the settings in front, and each of those behind comes after them all.
  have along (front back : List (String × String)) (given : String → Option String)
      (split : settings.toList = front ++ back) (tells : Tells given front) :
      back.foldl (applySetting apply) (reached given, .ok ()) =
        (reached fun key => settings[key]?, .ok ()) := by
    induction back generalizing front given with
    | nil =>
        rw [List.append_nil] at split
        have all : given = fun key => settings[key]? := eq_getElem?_of_tells (split ▸ tells)
        rw [all, List.foldl_nil]
    | cons setting back ih =>
        obtain ⟨key, value⟩ := setting
        have behind := behind_of_split split
        have absent : ∀ earlier ∈ front, earlier.1 ≠ key := by
          intro earlier among same
          simpa [same] using behind earlier among
        have applied : apply (reached given) key value = _ := step (mem_of_split split)
          fun earlier content told => behind _ ((tells earlier content).mp told)
        have applies : applySetting apply (reached given, .ok ()) (key, value) =
            (reached (Function.update given key (some value)), .ok ()) := by
          simp only [applySetting, applied]
        rw [List.foldl_cons, applies]
        exact ih _ _ (by simp [split]) (tells.snoc absent)
  exact along [] settings.toList _ rfl fun _ _ => by simp

end Settings

namespace Scaleway

def settingNames : List String := ["secret_key", "token", "project_id", "organization_id", "zone"]

/-- The key that settings give, which has two names. -/
def givenKey (given : String → Option String) : Option String := (given "token").or (given "secret_key")

namespace Account

/-- An account made from a configuration.  It makes its client from the secret key. -/
def constructed (account : Account) : Account :=
  { account with clientKey := account.secretKey.filter fun key => !Text.isBlankText key }

/-- A configuration with the fields that settings give in place of its own. -/
def overwritten (account : Account) (given : String → Option String) : Account :=
  { account with
    secretKey := (givenKey given).or account.secretKey
    projectId := (given "project_id").or account.projectId
    organizationId := (given "organization_id").or account.organizationId
    zone := (given "zone").getD account.zone }

/-- An account after settings.  A given key is also the one of its client. -/
def configuredWith (account : Account) (given : String → Option String) : Account :=
  { account.overwritten given with clientKey := (givenKey given).or account.clientKey }

def LacksKey (account : Account) : Prop := ∀ key ∈ account.secretKey, Text.isBlankText key = true

def LacksProject (account : Account) : Prop := ∀ id ∈ account.projectId, Text.isBlankText id = true

end Account

variable {account : Account} {settings : Settings} {given : String → Option String} {key value : String}

theorem set_configuredWith (known : key ∈ settingNames)
    (behind : ∀ earlier content, given earlier = some content → compare earlier key = .lt) :
    (account.configuredWith given).set key value =
      .ok (account.configuredWith (Function.update given key (some value))) := by
  simp only [settingNames, List.mem_cons, List.not_mem_nil, or_false] at known
  rcases known with rfl | rfl | rfl | rfl | rfl
  · -- Both names are for the key, and a token would come behind this one.
    have noToken : given "token" = none := absent_of_behind behind (by decide)
    simp [Account.set, Account.configuredWith, Account.overwritten, givenKey, noToken]
  all_goals simp [Account.set, Account.configuredWith, Account.overwritten, givenKey]

theorem configure_eq (account : Account) (known : ∀ key ∈ settings, key ∈ settingNames) :
    account.configure settings = (account.configuredWith fun key => settings[key]?, .ok ()) :=
  applySettings_eq fun member behind => set_configuredWith (known _ member) behind

theorem constructed_clientKey_eq_none_iff (account : Account) :
    account.constructed.clientKey = none ↔ account.LacksKey := by
  simp [Account.constructed, Account.LacksKey, Option.filter_eq_none_iff]

theorem needsConfig_iff (account : Account) :
    account.needsConfig = true ↔ account.clientKey = none ∨ account.LacksProject := by
  have project : account.projectId?.toOption.isNone = true ↔ account.LacksProject := by
    unfold Account.projectId? Account.required
    split
    next id known => simp_all [Account.LacksProject, Except.toOption, Option.filter_eq_some_iff]
    next missing => simp_all [Account.LacksProject, Except.toOption, Option.filter_eq_none_iff]
  rw [Account.needsConfig, Bool.or_eq_true, Option.isNone_iff_eq_none, project]

theorem constructed_needsConfig_iff (account : Account) :
    account.constructed.needsConfig = true ↔ account.LacksKey ∨ account.LacksProject := by
  rw [needsConfig_iff, constructed_clientKey_eq_none_iff]
  rfl

theorem configuredWith_of_filled (filled : ∀ key, givenKey given = some key → Text.isBlankText key = false) :
    account.constructed.configuredWith given = (account.overwritten given).constructed := by
  cases told : givenKey given with
  | none => simp [Account.configuredWith, Account.constructed, Account.overwritten, told]
  | some key =>
      have kept : (some key).filter (fun key => !Text.isBlankText key) = some key :=
        Option.filter_some_pos (by simp [filled key told])
      simp [Account.configuredWith, Account.constructed, Account.overwritten, told, kept]

theorem configuredWith_needsConfig_iff (account : Account) (given : String → Option String) :
    (account.constructed.configuredWith given).needsConfig = true ↔
      ((account.overwritten given).LacksKey ∧
        ∀ key, givenKey given = some key → Text.isBlankText key = false) ∨
      (account.overwritten given).LacksProject := by
  have client : (account.constructed.configuredWith given).clientKey = none ↔
      (account.overwritten given).LacksKey ∧
        ∀ key, givenKey given = some key → Text.isBlankText key = false := by
    cases told : givenKey given with
    | none =>
        rw [configuredWith_of_filled (by simp [told]), constructed_clientKey_eq_none_iff]
        simp [Account.LacksKey]
    | some key => simp [Account.configuredWith, Account.overwritten, Account.LacksKey, told]
  rw [needsConfig_iff, client]
  rfl

theorem act_of_no_client (missing : account.clientKey = none) (server : Reference) (action : String) :
    (act account server action).run = pure (.error (.notConfigured name "secret_key")) := by
  have refused : account.clientKey? = .error (.notConfigured name "secret_key") := by
    rw [Account.clientKey?, missing, Account.required]
  unfold act ask
  rw [refused]
  rfl

theorem act_of_client (known : account.clientKey = some key) (server : Reference) (action : String) :
    ∃ request next, (act account server action).run = .ask (.send request) next := by
  have accepted : account.clientKey? = .ok key := by
    rw [Account.clientKey?, known, Account.required]
  unfold act ask
  rw [accepted]
  exact ⟨_, _, rfl⟩

theorem provider_ne_of_client {other : Account} (known : account.clientKey = some key)
    (missing : other.clientKey = none) : account.provider ≠ other.provider := by
  intro same
  obtain ⟨request, next, sends⟩ := act_of_client known (Reference.ofText account.zone "") "terminate"
  have acts := congrArg (fun provider => (provider.backend (.destroyServer "")).run) same
  have silent := act_of_no_client missing (Reference.ofText other.zone "") "terminate"
  cases sends.symm.trans (acts.trans silent)

/-- An account that was configured is the one that would have been constructed, unless the
settings give a blank key. -/
theorem configuredWith_provider_iff (account : Account) (given : String → Option String) :
    (account.constructed.configuredWith given).provider = (account.overwritten given).constructed.provider ↔
      ∀ key, givenKey given = some key → Text.isBlankText key = false := by
  constructor
  · intro same key told
    rw [Bool.eq_false_iff]
    intro blank
    have known : (account.constructed.configuredWith given).clientKey = some key := by
      simp [Account.configuredWith, told]
    have missing : (account.overwritten given).constructed.clientKey = none := by
      rw [constructed_clientKey_eq_none_iff]
      simp [Account.LacksKey, Account.overwritten, told, blank]
    exact provider_ne_of_client known missing same
  · intro filled
    rw [configuredWith_of_filled filled]

end Scaleway

namespace DigitalOcean

def settingNames : List String := ["token", "api_token"]

namespace Account

/-- An account after settings, which have two names for the token. -/
def configuredWith (account : Account) (given : String → Option String) : Account :=
  { account with token := ((given "token").or (given "api_token")).or account.token }

def LacksToken (account : Account) : Prop := ∀ token ∈ account.token, Text.isBlankText token = true

end Account

variable {account : Account} {settings : Settings} {given : String → Option String} {key value : String}

theorem set_configuredWith (known : key ∈ settingNames)
    (behind : ∀ earlier content, given earlier = some content → compare earlier key = .lt) :
    (account.configuredWith given).set key value =
      .ok (account.configuredWith (Function.update given key (some value))) := by
  simp only [settingNames, List.mem_cons, List.not_mem_nil, or_false] at known
  rcases known with rfl | rfl
  · simp [Account.set, Account.configuredWith]
  · have noToken : given "token" = none := absent_of_behind behind (by decide)
    simp [Account.set, Account.configuredWith, noToken]

theorem configure_eq (account : Account) (known : ∀ key ∈ settings, key ∈ settingNames) :
    account.configure settings = (account.configuredWith fun key => settings[key]?, .ok ()) :=
  applySettings_eq fun member behind => set_configuredWith (known _ member) behind

theorem needsConfig_iff (account : Account) : account.needsConfig = true ↔ account.LacksToken := by
  unfold Account.needsConfig Account.token?
  split
  next token known => simp_all [Account.LacksToken, Except.toOption, Option.filter_eq_some_iff]
  next missing => simp_all [Account.LacksToken, Except.toOption, Option.filter_eq_none_iff]

end DigitalOcean

end Rollout.Provider
