import Rollout.Deployment.Run
import Rollout.Proofs.Check
import Rollout.Proofs.Provider.Configuring
import Rollout.Proofs.Provider.Secrets

namespace Rollout.Deployment

open Provider

/-! What deployments make of the credentials of their settings.

A deployment that cannot be planned says so and asks for nothing.  That is so where the
provider that it chose lacks credentials after its settings.
-/

section Refusals

variable {Backend : Type} {site : Site Backend} {options : Options} {cause : Misconfiguration}

/-- A deployment that says why it is refused and does nothing else. -/
def refusal (cause : Misconfiguration) : Course Backend (Except Error Summary) := do
  Procedure.query (Action.emit (.failed (Error.configuration cause).message))
  pure (.error (.configuration cause))

theorem run_of_plan_error (refused : plan site options = .error cause) :
    run site options = refusal cause := by
  unfold run deploy installed
  rw [refused]
  rfl

theorem plan_of_no_provider (refused : findProvider site options = .error cause) :
    ∃ other, plan site options = .error other := by
  unfold plan
  cases (site.apps.get options.app).mapError Misconfiguration.app with
  | error other => exact ⟨other, rfl⟩
  | ok spec =>
      simp only [bind, Except.bind]
      cases (spec.withDefaults options.answers).2 with
      | some missing => exact ⟨_, rfl⟩
      | none =>
          rw [refused]
          exact ⟨_, rfl⟩

theorem run_of_no_provider (refused : findProvider site options = .error cause) :
    ∃ other, run site options = refusal other := by
  obtain ⟨other, unplanned⟩ := plan_of_no_provider refused
  exact ⟨other, run_of_plan_error unplanned⟩

end Refusals

/-- A deployment chooses a provider by its name and has settings for it. -/
structure Chooses (site : Site Service) (options : Options) (accounts : Accounts) (name : String)
    (settings : Settings) : Prop where
  providers : site.providers = accounts.registry
  provider : options.provider = name
  settings : options.providerSettings = settings

section Choosing

variable {site : Site Service} {options : Options} {settings : Settings}

/-- A provider that lacks credentials after its settings is not found. -/
theorem found_or_refused {α : Type} {configure : α → Settings → α × Except Provider.Error Unit}
    (make : α → Provider Service) {base account : α}
    (registered : site.providers[options.provider]? = some (configured configure make base))
    (configures : configure base options.providerSettings = (account, .ok ())) :
    ((make account).needsConfig = true → ∃ cause, run site options = refusal cause) ∧
      ((make account).needsConfig = false → findProvider site options = .ok (make account)) := by
  have found : findProvider site options = if (make account).needsConfig then
      .error (.credentials (make account).name) else .ok (make account) := by
    unfold findProvider Provider.Registry.create
    rw [registered]
    simp only [Except.mapError, configured, configures, bind, Except.bind, pure, Except.pure]
  constructor
  · intro needs
    rw [if_pos needs] at found
    exact run_of_no_provider found
  · intro ready
    rwa [if_neg (by simp [ready])] at found

end Choosing

/-- A Scaleway provider that takes its settings is the one that would have been made from
them, just if they give no blank key: with one it lacks no key, although it would have.
While credentials are missing a deployment is refused, and so it is without a token for
DigitalOcean, where a blank one counts as none. -/
theorem configured_as_constructed_iff (base : Scaleway.Account) (plain : DigitalOcean.Account)
    (settings : Settings) :
    ((∀ key ∈ settings, key ∈ Scaleway.settingNames) →
      let built := (base.overwritten (settings[·]?)).constructed
      let filled := ∀ key, Scaleway.givenKey (settings[·]?) = some key → Text.isBlankText key = false
      ∃ account, base.constructed.configure settings = (account, .ok ()) ∧
        (account.provider = built.provider ↔ filled) ∧
        (built.needsConfig = true ↔ built.LacksKey ∨ built.LacksProject) ∧
        (account.needsConfig = true ↔ built.LacksKey ∧ filled ∨ built.LacksProject) ∧
        ∀ site options, Chooses site options ⟨base.constructed, plain⟩ Scaleway.name settings →
          (account.needsConfig = true → ∃ cause, run site options = refusal cause) ∧
          (account.needsConfig = false → findProvider site options = .ok account.provider)) ∧
    ((∀ key ∈ settings, key ∈ DigitalOcean.settingNames) →
      let account := plain.configuredWith (settings[·]?)
      plain.configure settings = (account, .ok ()) ∧
        (account.needsConfig = true ↔ account.LacksToken) ∧
        ∀ site options, Chooses site options ⟨base.constructed, plain⟩ DigitalOcean.name settings →
          (account.needsConfig = true → ∃ cause, run site options = refusal cause) ∧
          (account.needsConfig = false → findProvider site options = .ok account.provider)) := by
  constructor
  · intro known built filled
    have configures := Scaleway.configure_eq base.constructed known
    refine ⟨_, configures, Scaleway.configuredWith_provider_iff base _,
      Scaleway.constructed_needsConfig_iff _, Scaleway.configuredWith_needsConfig_iff base _, ?_⟩
    intro site options chooses
    obtain ⟨registered, chosen, rfl⟩ := chooses
    refine found_or_refused Scaleway.Account.provider ?_ configures
    have other : ¬ DigitalOcean.name = Scaleway.name := by decide
    rw [registered, chosen, Accounts.getElem?_registry, if_neg other, if_pos rfl]
  · intro known account
    have configures := DigitalOcean.configure_eq plain known
    refine ⟨configures, DigitalOcean.needsConfig_iff account, ?_⟩
    intro site options chooses
    obtain ⟨registered, chosen, rfl⟩ := chooses
    refine found_or_refused DigitalOcean.Account.provider ?_ configures
    rw [registered, chosen, Accounts.getElem?_registry, if_pos rfl]

def blankKey : Settings := (∅ : Settings).insert "secret_key" ""

theorem getElem?_blankKey (key : String) : blankKey[key]? = if "secret_key" = key then some "" else none := by
  rw [blankKey, Std.ExtTreeMap.getElem?_insert, Std.ExtTreeMap.getElem?_empty]
  simp only [Std.LawfulEqCmp.compare_eq_iff_eq]

/-- A blank key of the settings is taken for one, and one of the configuration is not. -/
theorem blank_key_taken :
    ∃ account, ({ projectId := some "p" } : Scaleway.Account).constructed.configure blankKey =
        (account, .ok ()) ∧
      account.needsConfig = false ∧
      account.provider ≠
        ({ secretKey := some "", projectId := some "p" } : Scaleway.Account).constructed.provider := by
  have known : ∀ key ∈ blankKey, key ∈ Scaleway.settingNames := by
    intro key member
    rw [Std.ExtTreeMap.mem_iff_isSome_getElem?, getElem?_blankKey] at member
    split at member
    next same => exact same ▸ List.mem_cons_self
    next => cases member
  obtain ⟨account, configures, same, -, needs, -⟩ :=
    (configured_as_constructed_iff { projectId := some "p" } {} blankKey).1 known
  have isBlank : Text.isBlankText "" = true := rfl
  have isFilled : Text.isBlankText "p" = false := rfl
  have told : (blankKey[·]?) = fun key => if "secret_key" = key then some "" else none :=
    funext getElem?_blankKey
  have given : Scaleway.givenKey (blankKey[·]?) = some "" := by
    rw [told]
    rfl
  have built : ({ projectId := some "p" } : Scaleway.Account).overwritten (blankKey[·]?) =
      { secretKey := some "", projectId := some "p" } := by
    rw [told]
    rfl
  rw [built, given] at same needs
  refine ⟨account, configures, ?_, ?_⟩
  · rw [Bool.eq_false_iff, ne_eq, needs]
    simp [isBlank, isFilled, Scaleway.Account.constructed, Scaleway.Account.LacksProject]
  · rw [ne_eq, same]
    simp [isBlank]

end Rollout.Deployment
