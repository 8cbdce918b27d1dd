import Rollout.Deployment.Live
import Rollout.Deployment.Run
import Rollout.Proofs.Dns.Cloudflare.Conversation
import Rollout.Proofs.Provider.Secrets

namespace Rollout.Deployment

open Procedure Provider

/-! What the secrets of a deployment can change of it.

Two deployments are compared whose options are the same up to the token of the registrar
and the keys of the provider.  Keys pass through a deployment inside services and clients
only, so every stage asks of both deployments what is linked.
-/

inductive RegistrarsAlike (registrar : Dns.Registrar) : Dns.Registrar → Prop where
  | intro {token : String} :
      RegistrarsAlike registrar { registrar with client := { registrar.client with token } }

inductive CredentialsAlike : Dns.Credentials → Dns.Credentials → Prop where
  | intro {registrar token token' : String} (visible : Visible token) (visible' : Visible token') :
      CredentialsAlike { registrar, token } { registrar, token := token' }

/-- The same options up to secrets, which are visible text in both. -/
inductive SameButSecrets (options : Options) : Options → Prop where
  | intro {registrar : Option Dns.Credentials} {settings : Settings}
      (credentials : Option.Rel CredentialsAlike options.registrar registrar)
      (alike : List.Forall₂ SettingAlike options.providerSettings.toList settings.toList) :
      SameButSecrets options { options with registrar, providerSettings := settings }

/-- Linked actions differ in the accounts and tokens that they are done with. -/
inductive Link : (action action' : Action Service) → (action.Result → action'.Result → Prop) → Prop where
  | same (action : Action Service) : Link action action Eq
  | provider {service service' : Service} (alike : ServicesAlike service service') (call : Call) :
      Link (.provider service call) (.provider service' call) Eq
  | registrar {credentials credentials' : Dns.Credentials}
      (alike : CredentialsAlike credentials credentials') :
      Link (.registrar credentials) (.registrar credentials') (SameOutcome RegistrarsAlike)
  | setRecord {registrar registrar' : Dns.Registrar} (alike : RegistrarsAlike registrar registrar')
      (domain : String) (record : Dns.Record) :
      Link (.setRecord registrar domain record) (.setRecord registrar' domain record) Eq

inductive PlansAlike (plan : Plan Service) : Plan Service → Prop where
  | intro {provider : Provider Service} (alike : ProvidersAlike plan.provider provider) :
      PlansAlike plan { plan with provider }

inductive InstallationsAlike (installation : Installation Service) : Installation Service → Prop where
  | intro {plan : Plan Service} (alike : PlansAlike installation.plan plan) :
      InstallationsAlike installation { installation with plan }

variable {site : Site Service} {accounts : Accounts} {options options' : Options}
  {plan plan' : Plan Service}

section Planning

theorem findProvider_alike (registered : site.providers = accounts.registry)
    (same : SameButSecrets options options') :
    SameOutcome ProvidersAlike (findProvider site options) (findProvider site options') := by
  obtain ⟨credentials, alike⟩ := same
  unfold findProvider
  cases created : site.providers.create options.provider with
  | error cause => exact .error _
  | ok factory =>
      rw [registered] at created
      apply ((Accounts.create_discreet created _ _ alike).mapError _).bind
      intro provider provider' alike
      obtain ⟨services⟩ := alike
      by_cases needs : provider.needsConfig
      · rw [if_pos needs, if_pos needs]
        exact .error _
      · rw [if_neg needs, if_neg needs]
        exact .ok (.intro services)

theorem isNone_eq_of_rel {credentials credentials' : Option Dns.Credentials}
    (alike : Option.Rel CredentialsAlike credentials credentials') :
    credentials.isNone = credentials'.isNone := by
  cases alike with
  | none => rfl
  | some _ => rfl

theorem plan_alike (registered : site.providers = accounts.registry)
    (same : SameButSecrets options options') :
    SameOutcome PlansAlike (Deployment.plan site options) (Deployment.plan site options') := by
  have finds := findProvider_alike registered same
  cases same with
  | @intro registrar settings credentials alike =>
      have without := isNone_eq_of_rel credentials
      unfold Deployment.plan
      apply (sameOutcome_of_eq rfl).bind
      intro spec _ same
      subst same
      -- Of the registrar only its presence counts here.
      dsimp only
      rw [← without]
      obtain ⟨answers, missing⟩ := spec.withDefaults options.answers
      cases missing with
      | some missing => exact .error _
      | none =>
          apply finds.bind
          intro provider provider' alike
          obtain ⟨services⟩ := alike
          dsimp only
          by_cases lacking : options.dnsMode = .cloudflare ∧ options.registrar.isNone = true
          · rw [if_pos lacking, if_pos lacking]
            exact .error _
          · rw [if_neg lacking, if_neg lacking]
            apply (sameOutcome_of_eq rfl).bind
            intro userData _ same
            subst same
            exact .ok (.intro (.intro services))

end Planning

section Parts

variable {ε α : Type}

theorem stage_refl (stage : Stage Service ε α) : Twin Link (SameOutcome Eq) stage.run stage.run :=
  twin_run_refl Link.same stage

theorem course_refl (course : Course Service α) : Twin Link Eq course course := twin_refl Link.same course

theorem query_alike {action action' : Action Service} {agree : action.Result → action'.Result → Prop}
    (linked : Link action action' agree) : Twin Link agree (query action) (query action') :=
  twin_query linked

theorem perform_alike {provider provider' : Provider Service} (alike : ProvidersAlike provider provider')
    (call : Call) : Twin Link (SameOutcome Eq) (perform provider call).run (perform provider' call).run := by
  obtain ⟨services⟩ := alike
  have linked := Link.provider services call
  exact (query_alike linked).mono fun _ _ same => sameOutcome_of_eq same

end Parts

section Provisioning

theorem recommendSize_alike {provider provider' : Provider Service}
    (alike : ProvidersAlike provider provider') (requirement : Requirement) (region : String) :
    Twin Link (SameOutcome Eq) (recommendSize (perform provider) requirement region).run
      (recommendSize (perform provider') requirement region).run := by
  unfold recommendSize
  by_cases anywhere : Text.isBlankText region
  · rw [if_pos anywhere, if_pos anywhere]
    exact perform_alike alike (.chooseSize requirement)
  · rw [if_neg anywhere, if_neg anywhere]
    apply twin_run_then (perform_alike alike (.listSizesIn region))
    intro sizes
    exact stage_refl (ExceptT.mk (pure (Provider.chooseSize sizes requirement)))

theorem chooseSize_alike (alike : PlansAlike plan plan') (options : Options) :
    Twin Link (SameOutcome Eq) (chooseSize plan options).run (chooseSize plan' options).run := by
  obtain ⟨providers⟩ := alike
  unfold chooseSize
  by_cases free : options.wantsAnySize
  · rw [if_pos free, if_pos free]
    apply twin_run_then (twin_run_adapt (recommendSize_alike providers _ _))
    intro size
    exact stage_refl _
  · rw [if_neg free, if_neg free]
    exact stage_refl (pure (Text.trimmed options.size))

theorem provision_alike (alike : PlansAlike plan plan') (options : Options) (size : String) :
    Twin Link (SameOutcome Eq) (provision plan options size).run (provision plan' options size).run := by
  obtain ⟨providers⟩ := alike
  have performs := perform_alike providers
  obtain ⟨services⟩ := providers
  apply twin_run_then (stage_refl (chooseName plan options))
  intro name
  apply twin_run_then (stage_refl (say _))
  intro _
  apply twin_run_then (twin_run_adapt (performs (.createServer (orderOf plan options size name))))
  intro created
  apply twin_run_then (stage_refl (say _))
  intro _
  apply twin_run_then (twin_run_adapt (performs (.awaitServer created.id)))
  intro server
  exact stage_refl (announce server >>= fun _ => pure server)

end Provisioning

section Pointing

inductive RoutesAlike : Route → Route → Prop where
  | same (route : Route) : RoutesAlike route route
  | registrar {credentials credentials' : Dns.Credentials}
      (alike : CredentialsAlike credentials credentials') :
      RoutesAlike (.registrar credentials) (.registrar credentials')

theorem chooseRoute_alike (alike : PlansAlike plan plan') (same : SameButSecrets options options')
    (domain : String) :
    Twin Link RoutesAlike (chooseRoute plan options domain) (chooseRoute plan' options' domain) := by
  obtain ⟨⟨services⟩⟩ := alike
  obtain ⟨credentials, -⟩ := same
  unfold chooseRoute
  dsimp only
  generalize options.registrar = given at credentials ⊢
  cases credentials with
  | none => exact (course_refl _).mono fun route _ same => same ▸ .same route
  | some alike =>
      cases options.dnsMode with
      | skip => exact .done (.same _)
      | auto => exact .done (.registrar alike)
      | force => exact .done (.registrar alike)
      | cloudflare => exact .done (.registrar alike)

theorem setRecords_alike {registrar registrar' : Dns.Registrar}
    (alike : RegistrarsAlike registrar registrar') (domain : String) (records : List Dns.Record) :
    Twin Link (SameOutcome Eq) (setRecords registrar domain records : Stage Service Dns.Error Unit).run
      (setRecords registrar' domain records).run := by
  induction records with
  | nil => exact stage_refl (setRecords registrar domain [])
  | cons record rest ih =>
      have linked := Link.setRecord alike domain record
      unfold setRecords
      apply twin_run_then ((query_alike linked).mono fun _ _ same => sameOutcome_of_eq same)
      intro _
      obtain ⟨⟩ := alike
      apply twin_run_then (stage_refl (say _))
      intro _
      exact ih

theorem useRegistrar_alike (alike : PlansAlike plan plan') {credentials credentials' : Dns.Credentials}
    (same : CredentialsAlike credentials credentials') (domain : String) (address : Address)
    (context : Template.Context) :
    Twin Link (SameOutcome Eq) (useRegistrar plan credentials domain address context).run
      (useRegistrar plan' credentials' domain address context).run := by
  obtain ⟨⟨services⟩⟩ := alike
  unfold useRegistrar
  apply twin_run_bind (query_alike (.registrar same))
  intro registrar registrar' alike
  apply twin_run_then (setRecords_alike alike domain _)
  intro _
  obtain ⟨⟩ := alike
  exact twin_run_pure rfl

theorem pointDomain_alike (alike : PlansAlike plan plan') (same : SameButSecrets options options')
    (address : Address) (context : Template.Context) :
    Twin Link Eq (pointDomain plan options address context)
      (pointDomain plan' options' address context) := by
  have chooses := chooseRoute_alike alike same
  have uses {credentials credentials' : Dns.Credentials} (same : CredentialsAlike credentials credentials')
      (domain : String) := useRegistrar_alike alike same domain address context
  obtain ⟨providers⟩ := alike
  have performs := perform_alike providers
  obtain ⟨services⟩ := providers
  obtain ⟨credentials, -⟩ := same
  unfold pointDomain
  dsimp only
  by_cases unnamed : (Text.trimmed options.domain).isEmpty
  · rw [if_pos unnamed, if_pos unnamed]
    exact course_refl _
  · rw [if_neg unnamed, if_neg unnamed]
    apply (chooses _).bind
    intro route route' alike
    cases alike with
    | registrar same =>
        apply (uses same _).bind
        intro done _ same
        obtain rfl := same.eq
        exact course_refl _
    | same =>
        cases route with
        | none reason => exact course_refl _
        | provider =>
            apply (course_refl _).bind
            intro _ _ _
            apply (performs (.pointDomain (Text.trimmed options.domain) address)).bind
            intro done _ same
            obtain rfl := same.eq
            exact course_refl _
        | registrar credentials => exact course_refl _

end Pointing

section Running

theorem install_alike (site : Site Service) (alike : PlansAlike plan plan')
    (same : SameButSecrets options options') (size : String) (server : Server) (address : Address) :
    Twin Link (SameOutcome InstallationsAlike) (install site plan options size server address).run
      (install site plan' options' size server address).run := by
  have points := pointDomain_alike alike same address
  obtain ⟨providers⟩ := alike
  obtain ⟨-, -⟩ := same
  unfold install
  apply twin_run_then (twin_run_lift (points _))
  intro dns
  -- From here on only the host is asked.
  apply twin_run_then (stage_refl ((reach address site.sshPort site.patience).adapt Error.notReady))
  intro _
  apply twin_run_then (stage_refl (ask (.connect address)))
  intro _
  apply twin_run_then (stage_refl (say _))
  intro _
  apply twin_run_then (stage_refl _)
  intro _
  exact twin_run_pure (.intro (.intro providers))

theorem installed_alike (registered : site.providers = accounts.registry)
    (same : SameButSecrets options options') :
    Twin Link (SameOutcome InstallationsAlike) (installed site options).run
      (installed site options').run := by
  have plans := plan_alike registered same
  have installs {plan plan' : Plan Service} (alike : PlansAlike plan plan') :=
    install_alike site alike same
  obtain ⟨-, -⟩ := same
  unfold installed
  apply twin_run_bind (twin_run_given (plans.mapError _))
  intro plan plan' alike
  apply twin_run_then (chooseSize_alike alike options)
  intro size
  apply twin_run_then (provision_alike alike options size)
  intro server
  cases server.address with
  | none => exact twin_run_throw _
  | some address => exact installs alike size server address

theorem conclude_alike {installation installation' : Installation Service}
    (alike : InstallationsAlike installation installation') (same : SameButSecrets options options') :
    Twin Link Eq (installation.conclude options) (installation'.conclude options') := by
  obtain ⟨⟨⟨services⟩⟩⟩ := alike
  obtain ⟨-, -⟩ := same
  exact course_refl (installation.conclude options)

theorem run_alike (registered : site.providers = accounts.registry)
    (same : SameButSecrets options options') :
    Twin Link Eq (run site options) (run site options') := by
  have deploys : Twin Link (SameOutcome Eq) (deploy site options).run (deploy site options').run := by
    apply twin_run_bind (installed_alike registered same)
    intro installation installation' alike
    exact twin_run_lift (conclude_alike alike same)
  apply deploys.bind
  intro outcome _ same
  obtain rfl := same.eq
  exact course_refl _

end Running

end Rollout.Deployment
