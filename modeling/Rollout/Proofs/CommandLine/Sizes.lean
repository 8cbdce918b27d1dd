import Mathlib.Data.List.Nodup
import Rollout.CommandLine.Run
import Rollout.Proofs.Check
import Rollout.Proofs.Installer.Wizard
import Rollout.Proofs.Provider.Recommendation
import Rollout.Proofs.Provider.Secrets

namespace Rollout.CommandLine

open Check
open Procedure hiding bind bind_assoc
open Provider (ListsToChoose Service Size)

/-! The table of sizes and the size that a deployment chooses.

Both have a size recommended and both list the sizes of one region, so on one catalogue the
row that the table marks is the size that a deployment chooses.
-/

/-- What is asked and answered while a command runs. -/
abbrev Story := Trace Deployment.Live.Action Deployment.Live.Action.Result

variable {setting : Setting} {app name region : String} {spec : Installer.Spec}
  {provider : Provider Service} {requirement : Requirement} {sizes : List Size} {chosen : Size}
  {story front front' back back' : Story}

section Rows

/-- The mark of the recommended size. -/
def isMarked (row : String) : Bool := row.toList.head? = some '*'

theorem isMarked_sizeRow (recommended : String) (size : Size) :
    isMarked (sizeRow recommended size) = decide (size.id = recommended) := by
  have star : (toString "*").toList.head? = some '*' := by decide
  have blank : (toString " ").toList.head? = some ' ' := by decide
  by_cases same : size.id = recommended <;> simp [isMarked, sizeRow, same, star, blank]

/-- Of sizes with different names one row is marked. -/
theorem filter_isMarked (distinct : (sizes.map (·.id)).Nodup) (listed : chosen ∈ sizes) :
    (sizes.map (sizeRow chosen.id)).filter isMarked = [sizeRow chosen.id chosen] := by
  have alone : sizes.filter (·.id = chosen.id) = [chosen] := by
    have named (size : Size) (member : size ∈ sizes) :
        decide (size.id = chosen.id) = decide (size = chosen) := by
      rw [decide_eq_decide]
      exact ⟨List.inj_on_of_nodup_map distinct member listed, congrArg Size.id⟩
    rw [List.filter_congr named, List.filter_eq, List.count_eq_one_of_mem distinct.of_map listed,
      List.replicate_one]
  have marks : isMarked ∘ sizeRow chosen.id = fun size => decide (size.id = chosen.id) := by
    funext size
    rw [Function.comp_apply, isMarked_sizeRow]
  rw [List.filter_map, marks, alone, List.map_singleton]

end Rows

section Listing

/-- The sizes that are listed for a region.  A blank one stands for all. -/
def listing (provider : Provider Service) (region : String) : Attempt Provider.Error (List Size) :=
  if Text.isBlankText region then perform provider .listSizes else perform provider (.listSizesIn region)

theorem recommendSize_perform (choosing : ListsToChoose provider.backend) :
    Provider.recommendSize (perform provider) requirement region = (do
      let sizes ← listing provider region
      ExceptT.mk (pure (Provider.chooseSize sizes requirement))) := by
  unfold Provider.recommendSize listing
  by_cases blank : Text.isBlankText region = true
  · simp only [blank, if_true]
    show ExceptT.mk ((provider.backend (.chooseSize requirement)).run.interpret _) = _
    rw [choosing, interpret_run_bind]
    rfl
  · simp only [blank]
    rfl

variable {settings : SshSettings} {home : Option String}

/-- A deployment asks a provider as a command does. -/
theorem ofCourse_perform {call : Provider.Call} :
    Deployment.Live.ofCourse settings home (Deployment.perform provider call).run =
      (perform provider call).run :=
  bind_done _

theorem ofCourse_recommendSize :
    Deployment.Live.ofCourse settings home
        (Provider.recommendSize (Deployment.perform provider) requirement region).run =
      (Provider.recommendSize (perform provider) requirement region).run := by
  unfold Provider.recommendSize
  split
  · exact ofCourse_perform
  · unfold Deployment.Live.ofCourse
    rw [interpret_run_bind]
    exact congrArg (fun listed => (ExceptT.mk listed >>= _).run) ofCourse_perform

def selectedLine (requirement : Requirement) (size : String) : Progress.Line :=
  .plain s!"Selected size {size} for {requirement.cpu} vCPU / {requirement.ramMb} MB"

theorem ofCourse_chooseSize {plan : Deployment.Plan Service} {options : Deployment.Options}
    (isOpen : options.wantsAnySize = true) :
    Deployment.Live.ofCourse settings home (Deployment.chooseSize plan options).run = (do
      let size ← (Provider.recommendSize (perform plan.provider) plan.spec.requirement
        options.region).adapt Deployment.Error.provisioning
      ExceptT.lift (query (Deployment.Live.Action.emit (selectedLine plan.spec.requirement size)))
      pure size : Attempt Deployment.Error String).run := by
  unfold Deployment.chooseSize
  rw [if_pos isOpen]
  unfold Deployment.Live.ofCourse
  rw [interpret_run_bind, interpret_run_adapt]
  exact congrArg (fun recommended => ((ExceptT.mk recommended).adapt _ >>= _).run) ofCourse_recommendSize

end Listing

section Subjects

namespace Setting

/-- The application and the provider of a table of sizes. -/
def subject (setting : Setting) (app name : String) :
    Except Error (Installer.Spec × Provider Service) := do
  let apps ← setting.loadApps (← setting.loadDeploy)
  let spec ← (apps.get app).mapError .installer
  let provider ← setting.provider name
  pure (spec, provider)

theorem provider_eq_ok_iff :
    setting.provider name = .ok provider ↔ ∃ providers factory, setting.loadProviders = .ok providers ∧
      providers.create name = .ok factory ∧ factory ∅ = .ok provider ∧
      provider.needsConfig = false := by
  unfold Setting.provider
  simp only [bind_eq_ok_iff, mapError_eq_ok_iff, pure, Except.pure, guarded_eq_ok_iff]
  constructor
  · rintro ⟨providers, loaded, factory, created, made, makes, rfl, ready⟩
    exact ⟨providers, factory, loaded, created, makes, ready⟩
  · rintro ⟨providers, factory, loaded, created, makes, ready⟩
    exact ⟨providers, loaded, factory, created, provider, makes, rfl, ready⟩

theorem subject_eq_ok_iff :
    setting.subject app name = .ok (spec, provider) ↔
      ∃ apps, setting.loadDeploy >>= setting.loadApps = .ok apps ∧ apps.get app = .ok spec ∧
        setting.provider name = .ok provider := by
  have loads : setting.subject app name = (do
      let apps ← setting.loadDeploy >>= setting.loadApps
      let spec ← (apps.get app).mapError .installer
      let provider ← setting.provider name
      pure (spec, provider)) := (bind_assoc _ _ _).symm
  rw [loads]
  simp only [bind_eq_ok_iff, mapError_eq_ok_iff]
  constructor
  · rintro ⟨apps, loaded, spec, found, provider, ready, same⟩
    cases same
    exact ⟨apps, loaded, found, ready⟩
  · rintro ⟨apps, loaded, found, ready⟩
    exact ⟨apps, loaded, spec, found, provider, ready, rfl⟩

end Setting

theorem configured_eq_ok {α : Type} {configure : α → Provider.Settings → α × Except Provider.Error Unit}
    {make : α → Provider Service} {account : α} {settings : Provider.Settings}
    (made : Provider.configured configure make account settings = .ok provider) :
    ∃ account, provider = make account := by
  unfold Provider.configured at made
  obtain ⟨_, -, made⟩ := bind_eq_ok_iff.mp made
  exact ⟨_, (Except.ok.inj made).symm⟩

/-- Both providers list their sizes to choose one. -/
theorem listsToChoose (ready : setting.provider name = .ok provider) :
    ListsToChoose provider.backend := by
  obtain ⟨providers, factory, loaded, created, makes, -⟩ := Setting.provider_eq_ok_iff.mp ready
  unfold Setting.loadProviders at loaded
  simp only [bind_eq_ok_iff] at loaded
  obtain ⟨scaleway, -, digitalOcean, -, made⟩ := loaded
  obtain rfl := Except.ok.inj made
  rcases Provider.Accounts.factory_cases created with rfl | rfl
  · obtain ⟨account, rfl⟩ := configured_eq_ok makes
    exact Provider.Scaleway.listsToChoose account
  · obtain ⟨account, rfl⟩ := configured_eq_ok makes
    exact Provider.DigitalOcean.listsToChoose account

end Subjects

section Tables

theorem liftM_bind {ε α β : Type} (first : Except ε α) (second : α → Except ε β) :
    (liftM (first >>= second) : Attempt ε β) = liftM first >>= fun value => liftM (second value) := by
  cases first <;> rfl

theorem run_sizes :
    Command.run setting (.sizes app name region) = (do
      let (spec, provider) ← (setting.subject app name : Except Error _)
      let recommended ← (Provider.recommendSize (perform provider) spec.requirement region).adapt
        Error.provider
      let sizes ← (listing provider region).adapt Error.provider
      pure (sizeRows spec.requirement recommended sizes) : Attempt Error (List String)).run := by
  unfold Setting.subject
  simp only [liftM_bind, bind_assoc]
  rfl

theorem run_sizes_of_ok (found : setting.subject app name = .ok (spec, provider)) :
    Command.run setting (.sizes app name region) = (do
      let recommended ← (Provider.recommendSize (perform provider) spec.requirement region).adapt
        Error.provider
      let sizes ← (listing provider region).adapt Error.provider
      pure (sizeRows spec.requirement recommended sizes) : Attempt Error (List String)).run := by
  rw [run_sizes, found]
  rfl

theorem run_sizes_of_error {cause : Error} (fails : setting.subject app name = .error cause) :
    Command.run setting (.sizes app name region) = pure (.error cause) := by
  rw [run_sizes, fails]
  rfl

theorem listsToChoose_of_found (found : setting.subject app name = .ok (spec, provider)) :
    ListsToChoose provider.backend := by
  obtain ⟨_, -, -, ready⟩ := Setting.subject_eq_ok_iff.mp found
  exact listsToChoose ready

theorem traces_recommendSize_iff {outcome : Except Provider.Error String}
    (choosing : ListsToChoose provider.backend) :
    Traces (Provider.recommendSize (perform provider) requirement region).run story outcome ↔
      ∃ listed, Traces (listing provider region).run story listed ∧
        outcome = listed >>= (Provider.chooseSize · requirement) := by
  rw [recommendSize_perform choosing, traces_run_bind_iff]
  constructor
  · rintro (⟨cause, rfl, lists⟩ | ⟨front, back, listed, rfl, lists, chooses⟩)
    · exact ⟨.error cause, lists, rfl⟩
    · obtain ⟨rfl, rfl⟩ := traces_pure_iff.mp chooses
      exact ⟨.ok listed, by simpa using lists, rfl⟩
  · rintro ⟨listed | listed, lists, rfl⟩
    · exact .inl ⟨listed, rfl, lists⟩
    · exact .inr ⟨story, [], listed, by simp, lists, .done _⟩

/-- What is recommended where sizes are listed is chosen among these. -/
theorem recommended_of_listed {outcome : Except Provider.Error String}
    (choosing : ListsToChoose provider.backend)
    (lists : Traces (listing provider region).run front (.ok sizes))
    (recommends : Traces (Provider.recommendSize (perform provider) requirement region).run front' outcome)
    (split : front ++ back = front' ++ back') :
    outcome = Provider.chooseSize sizes requirement ∧ front = front' ∧ back = back' := by
  obtain ⟨listed, also, rfl⟩ := (traces_recommendSize_iff choosing).mp recommends
  obtain ⟨rfl, rfl, rfl⟩ := lists.start_unique also split
  exact ⟨rfl, rfl, rfl⟩

/-- The sizes of a region are listed once, or twice in a row, and each time these are the
answer. -/
inductive Steady (provider : Provider Service) (region : String) (sizes : List Size) : Story → Prop where
  | once {story : Story} (lists : Traces (listing provider region).run story (.ok sizes)) :
      Steady provider region sizes story
  | twice {front back : Story} (first : Traces (listing provider region).run front (.ok sizes))
      (second : Traces (listing provider region).run back (.ok sizes)) :
      Steady provider region sizes (front ++ back)

/-- What the table shows of a catalogue. -/
def tableOf (requirement : Requirement) (sizes : List Size) : Outcome := do
  let recommended ← (Provider.chooseSize sizes requirement).mapError Error.provider
  pure (sizeRows requirement recommended sizes)

namespace Steady

variable {listed : Except Provider.Error (List Size)}

theorem starts (steady : Steady provider region sizes story) :
    ∃ front back, story = front ++ back ∧ Traces (listing provider region).run front (.ok sizes) := by
  cases steady with
  | once lists => exact ⟨story, [], (List.append_nil _).symm, lists⟩
  | twice first second => exact ⟨_, _, rfl, first⟩

theorem listed_again (steady : Steady provider region sizes (front ++ back))
    (begins : Traces (listing provider region).run front (.ok sizes))
    (ends : Traces (listing provider region).run back listed) : listed = .ok sizes := by
  generalize split : front ++ back = story at steady
  cases steady with
  | once lists =>
      subst split
      obtain ⟨rfl, -⟩ := begins.not_continued lists
      -- Nothing is asked to list sizes, so the second list is the first.
      exact (ends.not_continued begins).2.symm
  | twice first second =>
      obtain ⟨-, rfl, -⟩ := begins.start_unique first split
      exact ends.unique second

end Steady

theorem outcome_of_steady (found : setting.subject app name = .ok (spec, provider))
    {outcome : Outcome} (steady : Steady provider region sizes story)
    (runs : Traces (Command.run setting (.sizes app name region)) story outcome) :
    outcome = tableOf spec.requirement sizes := by
  have choosing := listsToChoose_of_found found
  obtain ⟨front, rest, split, lists⟩ := steady.starts
  rw [run_sizes_of_ok found, traces_run_bind_iff] at runs
  unfold tableOf
  rcases runs with ⟨cause, rfl, recommends⟩ | ⟨front', back, recommended, rfl, recommends, tells⟩
  · obtain ⟨original, same, recommends⟩ := traces_run_adapt_iff.mp recommends
    obtain ⟨rfl, -⟩ := recommended_of_listed choosing lists recommends
      (split.symm.trans (List.append_nil story).symm)
    rw [← same]
    rfl
  · obtain ⟨chosen, rfl, rfl⟩ := recommended_of_listed choosing lists
      (traces_run_adapt_ok_iff.mp recommends) split.symm
    rw [← chosen]
    rcases traces_run_bind_iff.mp tells with
      ⟨cause, rfl, fails⟩ | ⟨back, _, listed, rfl, relists, ends⟩
    · obtain ⟨listed, same, relists⟩ := traces_run_adapt_iff.mp fails
      rw [steady.listed_again lists relists] at same
      cases same
    · obtain ⟨rfl, rfl⟩ := traces_run_pure_iff.mp ends
      rw [List.append_nil] at steady
      cases steady.listed_again lists (traces_run_adapt_ok_iff.mp relists)
      rfl

/-- Where the sizes of a region can be listed, the table can be asked for. -/
theorem exists_steady (found : setting.subject app name = .ok (spec, provider))
    (lists : Traces (listing provider region).run front (.ok sizes)) :
    ∃ story, Steady provider region sizes story ∧
      Traces (Command.run setting (.sizes app name region)) story
        (tableOf spec.requirement sizes) := by
  have recommends : Traces (Provider.recommendSize (perform provider) spec.requirement region).run front
      (Provider.chooseSize sizes spec.requirement) :=
    (traces_recommendSize_iff (listsToChoose_of_found found)).mpr ⟨.ok sizes, lists, rfl⟩
  rw [run_sizes_of_ok found]
  unfold tableOf
  cases chosen : Provider.chooseSize sizes spec.requirement with
  | error cause =>
      refine ⟨front, .once lists, traces_run_bind_iff.mpr (.inl ⟨.provider cause, rfl, ?_⟩)⟩
      exact traces_run_adapt_iff.mpr ⟨.error cause, rfl, chosen ▸ recommends⟩
  | ok recommended =>
      refine ⟨front ++ front, .twice lists lists, traces_run_bind_iff.mpr (.inr ⟨front, front,
        recommended, rfl, traces_run_adapt_ok_iff.mpr (chosen ▸ recommends), ?_⟩)⟩
      exact traces_run_bind_ok_iff.mpr ⟨front, [], sizes, (List.append_nil _).symm,
        traces_run_adapt_ok_iff.mpr lists, .done _⟩

end Tables

section Deployments

/-- A deployment from the same setting of the application, on the provider as it is set up
there and for the region.  It leaves the size open. -/
structure DeploysFor (setting : Setting) (app name region : String)
    (site : Deployment.Site Service) (options : Deployment.Options) : Prop where
  apps : setting.loadDeploy >>= setting.loadApps = .ok site.apps
  providers : setting.loadProviders = .ok site.providers
  app : options.app = app
  provider : options.provider = name
  settings : options.providerSettings = ∅
  region : options.region = region
  size : options.wantsAnySize = true

variable {site : Deployment.Site Service} {options : Deployment.Options}
  {plan : Deployment.Plan Service}

theorem findProvider_eq_ok_iff :
    Deployment.findProvider site options = .ok provider ↔
      ∃ factory, site.providers.create options.provider = .ok factory ∧
        factory options.providerSettings = .ok provider ∧ provider.needsConfig = false := by
  unfold Deployment.findProvider
  simp only [bind_eq_ok_iff, mapError_eq_ok_iff, guarded_eq_ok_iff]
  constructor
  · rintro ⟨factory, created, made, makes, rfl, ready⟩
    exact ⟨factory, created, makes, ready⟩
  · rintro ⟨factory, created, makes, ready⟩
    exact ⟨factory, created, provider, makes, rfl, ready⟩

theorem found_of_plan (planned : Deployment.plan site options = .ok plan) :
    site.apps.get options.app = .ok plan.spec ∧
      Deployment.findProvider site options = .ok plan.provider := by
  unfold Deployment.plan at planned
  obtain ⟨spec, listed, planned⟩ := bind_eq_ok_iff.mp planned
  rcases filled : spec.withDefaults options.answers with ⟨answers, missing⟩
  rw [filled] at planned
  cases missing with
  | some missing => cases planned
  | none =>
      obtain ⟨provider, finds, planned⟩ := bind_eq_ok_iff.mp planned
      split at planned
      · cases planned
      · obtain ⟨userData, -, planned⟩ := bind_eq_ok_iff.mp planned
        cases planned
        exact ⟨mapError_eq_ok_iff.mp listed, finds⟩

theorem DeploysFor.subject (deploys : DeploysFor setting app name region site options)
    (planned : Deployment.plan site options = .ok plan) :
    setting.subject app name = .ok (plan.spec, plan.provider) := by
  obtain ⟨loaded, configured, rfl, rfl, settings, -, -⟩ := deploys
  obtain ⟨listed, finds⟩ := found_of_plan planned
  obtain ⟨factory, created, makes, ready⟩ := findProvider_eq_ok_iff.mp finds
  rw [settings] at makes
  exact Setting.subject_eq_ok_iff.mpr ⟨site.apps, loaded, listed,
    Setting.provider_eq_ok_iff.mpr ⟨site.providers, factory, configured, created, makes, ready⟩⟩

theorem exists_deployment (region : String) (found : setting.subject app name = .ok (spec, provider)) :
    ∃ site options plan, DeploysFor setting app name region site options ∧
      Deployment.plan site options = .ok plan ∧ plan.spec = spec ∧ plan.provider = provider := by
  obtain ⟨apps, loaded, listed, ready⟩ := Setting.subject_eq_ok_iff.mp found
  obtain ⟨providers, factory, configured, created, makes, needless⟩ :=
    Setting.provider_eq_ok_iff.mp ready
  obtain ⟨answers, answered⟩ := Installer.exists_answers spec
  let site : Deployment.Site Service :=
    { apps, providers, files := setting.files, home := none, sshPort := 22, patience := {} }
  let options : Deployment.Options := { app, provider := name, region, size := "auto", answers }
  have isOpen : options.wantsAnySize = true := by
    show (Text.isBlankText "auto" || Text.sameLetters "auto" "auto") = true
    decide
  have finds : Deployment.findProvider site options = .ok provider :=
    findProvider_eq_ok_iff.mpr ⟨factory, created, makes, needless⟩
  have keyless : Deployment.userData site options = .ok none := by
    have blank : Text.isBlankText "" = true := by decide
    exact if_pos blank
  let plan : Deployment.Plan Service :=
    { spec, provider, answers := (spec.withDefaults answers).1, userData := none }
  have planned : Deployment.plan site options = .ok plan := by
    have given : site.apps.get options.app = .ok spec := listed
    have filled : (spec.withDefaults options.answers).2 = none := answered
    have auto : options.dnsMode = .auto := rfl
    simp [Deployment.plan, given, filled, finds, auto, keyless, Except.mapError, bind, Except.bind]
    rfl
  exact ⟨site, options, plan, ⟨loaded, configured, rfl, rfl, rfl, rfl, isOpen⟩, planned, rfl, rfl⟩

/-- While the sizes of the region are listed as these, such a deployment comes to a choice. -/
def DeploymentChooses (setting : Setting) (app name region : String) (sizes : List Size)
    (result : Except Deployment.Error String) : Prop :=
  ∃ settings home site options plan story, DeploysFor setting app name region site options ∧
    Deployment.plan site options = .ok plan ∧
    Traces (Deployment.Live.ofCourse settings home (Deployment.chooseSize plan options).run) story result ∧
    ∃ front back, story = front ++ back ∧ Traces (listing plan.provider region).run front (.ok sizes)

/-- Where a size is left open, the one that is recommended of the listed sizes is chosen. -/
theorem chosen_of_listed {settings : SshSettings} {home : Option String} {result : Except Deployment.Error String}
    (choosing : ListsToChoose plan.provider.backend) (isOpen : options.wantsAnySize = true)
    (lists : Traces (listing plan.provider options.region).run front (.ok sizes))
    (chooses : Traces (Deployment.Live.ofCourse settings home (Deployment.chooseSize plan options).run)
      (front ++ back) result) :
    result = (Provider.chooseSize sizes plan.spec.requirement).mapError .provisioning := by
  rw [ofCourse_chooseSize isOpen, traces_run_bind_iff] at chooses
  rcases chooses with ⟨cause, rfl, recommends⟩ | ⟨front', later, recommended, split, recommends, tells⟩
  · obtain ⟨original, same, recommends⟩ := traces_run_adapt_iff.mp recommends
    obtain ⟨rfl, -⟩ := recommended_of_listed choosing lists recommends (List.append_nil _).symm
    exact same
  · obtain ⟨chosen, -⟩ := recommended_of_listed choosing lists
      (traces_run_adapt_ok_iff.mp recommends) split
    obtain ⟨_, _, rfl, ends⟩ := traces_run_ask_bind_iff.mp tells
    obtain ⟨rfl, rfl⟩ := traces_run_pure_iff.mp ends
    rw [← chosen]
    rfl

theorem exists_chosen (settings : SshSettings) (home : Option String) (choosing : ListsToChoose plan.provider.backend)
    (isOpen : options.wantsAnySize = true)
    (lists : Traces (listing plan.provider options.region).run front (.ok sizes)) :
    ∃ back, Traces (Deployment.Live.ofCourse settings home (Deployment.chooseSize plan options).run)
      (front ++ back) ((Provider.chooseSize sizes plan.spec.requirement).mapError .provisioning) := by
  have recommends : Traces (Provider.recommendSize (perform plan.provider) plan.spec.requirement
      options.region).run front (Provider.chooseSize sizes plan.spec.requirement) :=
    (traces_recommendSize_iff choosing).mpr ⟨.ok sizes, lists, rfl⟩
  rw [ofCourse_chooseSize isOpen]
  cases chosen : Provider.chooseSize sizes plan.spec.requirement with
  | error cause =>
      refine ⟨[], traces_run_bind_iff.mpr (.inl ⟨.provisioning cause, rfl, ?_⟩)⟩
      rw [List.append_nil]
      exact traces_run_adapt_iff.mpr ⟨.error cause, rfl, chosen ▸ recommends⟩
  | ok recommended =>
      refine ⟨[⟨.emit (selectedLine plan.spec.requirement recommended), ()⟩],
        traces_run_bind_iff.mpr (.inr ⟨front, _, recommended, rfl, ?_, ?_⟩)⟩
      · exact traces_run_adapt_ok_iff.mpr (chosen ▸ recommends)
      · exact traces_run_ask_bind_iff.mpr ⟨(), [], rfl, .done _⟩

theorem deploymentChooses_iff {result : Except Deployment.Error String}
    (found : setting.subject app name = .ok (spec, provider)) :
    DeploymentChooses setting app name region sizes result ↔
      (∃ front, Traces (listing provider region).run front (.ok sizes)) ∧
        result = (Provider.chooseSize sizes spec.requirement).mapError .provisioning := by
  have choosing := listsToChoose_of_found found
  constructor
  · rintro ⟨settings, home, site, options, plan, _, deploys, planned, chooses, front, back, rfl, lists⟩
    have same := (deploys.subject planned).symm.trans found
    obtain ⟨rfl, rfl⟩ := Prod.mk.inj (Except.ok.inj same)
    refine ⟨⟨front, lists⟩, chosen_of_listed choosing deploys.size ?_ chooses⟩
    rw [deploys.region]
    exact lists
  · rintro ⟨⟨front, lists⟩, rfl⟩
    obtain ⟨site, options, plan, deploys, planned, rfl, rfl⟩ := exists_deployment region found
    have listed : Traces (listing plan.provider options.region).run front (.ok sizes) := by
      rw [deploys.region]
      exact lists
    obtain ⟨back, chooses⟩ := exists_chosen {} none choosing deploys.size listed
    exact ⟨_, _, site, options, plan, _, deploys, planned, chooses, front, back, rfl, lists⟩

theorem not_deploymentChooses {cause : Error} {result : Except Deployment.Error String}
    (fails : setting.subject app name = .error cause) :
    ¬ DeploymentChooses setting app name region sizes result := by
  rintro ⟨_, _, _, _, plan, _, deploys, planned, -⟩
  have found := deploys.subject planned
  rw [fails] at found
  cases found

end Deployments

section Agreement

/-- What the table and a deployment make of one catalogue. -/
theorem table_and_choice (requirement : Requirement) (sizes : List Size) :
    (∃ chosen, Provider.Cheapest (sizes.filter (·.meets requirement)) chosen ∧
      tableOf requirement sizes =
        .ok ((sizes.filter (·.meets requirement)).map (sizeRow chosen.id)) ∧
      Provider.chooseSize sizes requirement = .ok chosen.id) ∨
    tableOf requirement sizes =
        .error (.provider (.noMatchingSize requirement.cpu requirement.ramMb)) ∧
      Provider.chooseSize sizes requirement =
        .error (.noMatchingSize requirement.cpu requirement.ramMb) := by
  unfold tableOf
  cases choice : Provider.chooseSize sizes requirement with
  | ok id =>
      obtain ⟨chosen, cheapest, rfl⟩ := Provider.chooseSize_eq_ok_iff.mp choice
      exact .inl ⟨chosen, cheapest, rfl, rfl⟩
  | error cause =>
      obtain ⟨rfl, -⟩ := Provider.chooseSize_eq_error_iff.mp choice
      exact .inr ⟨rfl, rfl⟩

/-- Without an application or a provider neither the table is shown nor a size chosen, and
otherwise whenever a deployment can choose a size, the table can be asked for.  On a catalogue
that stays the same, with a name for each size, all deployments for the application, the
provider and the region choose alike.  The rows of the table are the sizes that meet the
requirement, in order.  The one row that is marked is the size that deployments choose, and no
row costs less.  There is no table for want of a matching size exactly if this keeps
deployments from choosing one. -/
theorem sizes_agree_with_deployment (setting : Setting) (app name region : String) :
    (∀ cause, setting.subject app name = .error cause →
      Command.run setting (.sizes app name region) = pure (.error cause) ∧
      ∀ sizes result, ¬ DeploymentChooses setting app name region sizes result) ∧
    ∀ spec provider sizes, setting.subject app name = .ok (spec, provider) →
      (∀ result, DeploymentChooses setting app name region sizes result →
        ∃ story outcome, Steady provider region sizes story ∧
          Traces (Command.run setting (.sizes app name region)) story outcome) ∧
      ((sizes.map (·.id)).Nodup → ∀ story outcome, Steady provider region sizes story →
        Traces (Command.run setting (.sizes app name region)) story outcome →
        ∃ result, (∀ other, DeploymentChooses setting app name region sizes other ↔ other = result) ∧
          (∀ rows, outcome = .ok rows →
            ∃ chosen ∈ sizes.filter (·.meets spec.requirement), result = .ok chosen.id ∧
              rows = (sizes.filter (·.meets spec.requirement)).map (sizeRow chosen.id) ∧
              rows.filter isMarked = [sizeRow chosen.id chosen] ∧
              ∀ size ∈ sizes.filter (·.meets spec.requirement), ¬ size.price < chosen.price) ∧
          ∀ cpu ramMb, outcome = .error (.provider (.noMatchingSize cpu ramMb)) ↔
            result = .error (.provisioning (.noMatchingSize cpu ramMb))) := by
  refine ⟨fun cause fails => ⟨run_sizes_of_error fails, fun _ _ => not_deploymentChooses fails⟩, ?_⟩
  intro spec provider sizes found
  refine ⟨?_, ?_⟩
  · intro result chooses
    obtain ⟨⟨front, lists⟩, -⟩ := (deploymentChooses_iff found).mp chooses
    obtain ⟨story, steady, runs⟩ := exists_steady found lists
    exact ⟨story, _, steady, runs⟩
  · intro distinct story outcome steady runs
    obtain ⟨front, -, -, lists⟩ := steady.starts
    refine ⟨(Provider.chooseSize sizes spec.requirement).mapError .provisioning, ?_, ?_⟩
    · intro other
      rw [deploymentChooses_iff found]
      exact and_iff_right ⟨front, lists⟩
    · rw [outcome_of_steady found steady runs]
      rcases table_and_choice spec.requirement sizes with
        ⟨chosen, cheapest, tabled, choice⟩ | ⟨tabled, choice⟩
      · rw [tabled, choice]
        refine ⟨?_, by simp [Except.mapError]⟩
        intro rows shown
        obtain rfl := Except.ok.inj shown
        have named : ((sizes.filter (·.meets spec.requirement)).map (·.id)).Nodup :=
          distinct.sublist (List.filter_sublist.map _)
        exact ⟨chosen, cheapest.mem, rfl, rfl, filter_isMarked named cheapest.mem,
          fun size member => not_lt.mpr (cheapest.le member)⟩
      · rw [tabled, choice]
        exact ⟨nofun, fun cpu ramMb => by simp [Except.mapError]⟩

end Agreement

end Rollout.CommandLine
