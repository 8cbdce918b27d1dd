import Rollout.Proofs.Deployment.ControlLines

namespace Rollout.Deployment

open Procedure

/-! When a deployment announces HTTPS.

Once the application is installed, the TLS phase executes the steps with a guard that is
true in the final context.  `Secures` says what that takes and how it ends, `Secured` when
there is something to announce.
-/

variable {Backend : Type} {site : Site Backend} {options : Options} {story : Story Backend}
  {installation : Installation Backend} {failure : Option Installer.StepError}

/-- What was sent to machines, and the answers. -/
def scripted (story : Story Backend) : Story Backend := story.filter (·.1.concern = .script)

/-- The guarded steps of the application whose guards are true, with their places. -/
def Installation.guarded (installation : Installation Backend) : List (Installer.Step × Nat) :=
  installation.plan.spec.selected .ssl installation.context

/-- After the installation, the errands of the guarded steps are all that is sent to a
machine, up to the first that fails; and nothing is sent if TLS is not wanted. -/
inductive Secures (options : Options) (installation : Installation Backend) :
    Story Backend → Option Installer.StepError → Prop where
  | unasked {later : Story Backend} (unwanted : options.wantsTls = false)
      (silent : scripted later = []) : Secures options installation later none
  | asked {later : Story Backend} {events : List Installer.Event}
      {failure : Option Installer.StepError} (wanted : options.wantsTls = true)
      (served : Installer.Served (Installer.errandsOf installation.context installation.guarded)
        events failure)
      (sent : scripted later = events.map (onHostEvent installation.address)) :
      Secures options installation later failure

/-- The TLS phase executed a guarded step, and each that it executed succeeded. -/
def Secured (options : Options) (installation : Installation Backend)
    (failure : Option Installer.StepError) : Prop :=
  options.wantsTls = true ∧ installation.guarded ≠ [] ∧ failure = none

def tlsOutcome (options : Options) : Option Installer.StepError → TlsOutcome
  | none => if options.wantsTls then .configured else .notRequested
  | some cause => .failed (Error.tls cause).message

section Urls

theorem url_eq (tls : TlsOutcome) (host : String) :
    url tls host = (if tls = .configured then "https://" else "http://") ++ host := by
  unfold url
  split <;> rfl

theorem https_prefix_url_iff {tls : TlsOutcome} {host : String} :
    "https://".toList <+: (url tls host).toList ↔ tls = .configured := by
  rw [url_eq, String.toList_append]
  by_cases configured : tls = .configured
  · rw [if_pos configured]
    exact iff_of_true (List.prefix_append ..) configured
  · rw [if_neg configured]
    refine iff_of_false ?_ configured
    rintro ⟨rest, same⟩
    -- The two schemes part at their fifth characters.
    have fifth := congrArg (·[4]?) same
    simp at fifth

end Urls

section Scripts

theorem scripted_append (front back : Story Backend) :
    scripted (front ++ back) = scripted front ++ scripted back := List.filter_append ..

theorem Lacks.scripted (lacks : Lacks .script story) : scripted story = [] := by
  apply List.filter_eq_nil_iff.mpr
  intro event member
  simpa using lacks event member

theorem scripted_plain (text : String) :
    scripted ([⟨.emit (.plain text), ()⟩] : Story Backend) = [] := rfl

theorem scripted_onHost (host : Address) (inner : List Installer.Event) :
    scripted (inner.map (onHostEvent host) : Story Backend) =
      (Installer.exchanges inner).map (onHostEvent host) := by
  unfold scripted Installer.exchanges
  rw [List.filter_map]
  apply congrArg
  apply List.filter_congr
  rintro ⟨action, answer⟩ -
  cases action with
  | emit line => cases line <;> rfl
  | pause time => rfl
  | command text => rfl
  | terminal command answers => rfl

end Scripts

/-- TLS counts as configured when the phase has come to its end, whatever it executed. -/
theorem traces_setUpTls {tls : TlsOutcome}
    (traced : Traces (setUpTls installation.plan options installation.address
      installation.context) story tls) :
    ∃ failure, Secures options installation story failure ∧ tls = tlsOutcome options failure := by
  unfold setUpTls at traced
  split at traced
  case isTrue wanted =>
    obtain ⟨announcing, _, _, rfl, announces, later⟩ := traces_bind_iff.mp traced
    obtain rfl := traces_query_iff.mp announces
    obtain ⟨phase, ending, result, rfl, runs, ends⟩ := traces_bind_iff.mp later
    obtain ⟨inner, follows, rfl⟩ := traces_onHost runs
    obtain ⟨failure, served, rfl⟩ := Installer.traces_runPhase follows
    have sent : scripted (inner.map (onHostEvent installation.address) : Story Backend) =
        (Installer.exchanges inner).map (onHostEvent installation.address) := scripted_onHost _ _
    cases failure with
    | none =>
        obtain ⟨rfl, rfl⟩ := traces_pure_iff.mp ends
        refine ⟨none, .asked wanted served ?_, by simp [tlsOutcome, wanted]⟩
        rw [scripted_append, scripted_append, scripted_plain, sent]
        simp [scripted]
    | some cause =>
        obtain ⟨_, _, _, rfl, warns, stops⟩ := traces_bind_iff.mp ends
        obtain rfl := traces_query_iff.mp warns
        obtain ⟨rfl, rfl⟩ := traces_pure_iff.mp stops
        refine ⟨some cause, .asked wanted served ?_, rfl⟩
        rw [scripted_append, scripted_append, scripted_append, scripted_plain, scripted_plain, sent]
        simp [scripted]
  case isFalse unwanted =>
    obtain ⟨rfl, rfl⟩ := traces_pure_iff.mp traced
    have unwanted := eq_false_of_ne_true unwanted
    exact ⟨none, .unasked unwanted rfl, by simp [tlsOutcome, unwanted]⟩

theorem Secures.append {later : Story Backend} (secures : Secures options installation story failure)
    (silent : scripted later = []) : Secures options installation (story ++ later) failure := by
  cases secures with
  | unasked unwanted quiet =>
      exact .unasked unwanted (by rw [scripted_append, quiet, silent, List.append_nil])
  | asked wanted served sent =>
      exact .asked wanted served (by rw [scripted_append, sent, silent, List.append_nil])

theorem traces_conclude {summary : Summary}
    (traced : Traces (installation.conclude options) story summary) :
    ∃ failure, Secures options installation story failure ∧
      summary = installation.summary options (tlsOutcome options failure) := by
  obtain ⟨front, _, tls, rfl, begins, later⟩ := traces_bind_iff.mp traced
  obtain ⟨reporting, _, _, rfl, reports, ends⟩ := traces_bind_iff.mp later
  obtain ⟨rfl, rfl⟩ := traces_pure_iff.mp ends
  obtain ⟨failure, secures, rfl⟩ := traces_setUpTls begins
  have quiet : scripted reporting = [] :=
    (lacks_of_keeps ((report_keepsTo _).of_mem reports) (by simp)).scripted
  exact ⟨failure, secures.append (by rw [scripted_append, quiet]; rfl), rfl⟩

/-- An application of which no step has a guard leaves nothing for the TLS phase. -/
theorem guarded_of_unguarded
    (unguarded : ∀ step ∈ installation.plan.spec.steps, step.phase = .install) :
    installation.guarded = [] := by
  apply List.filter_eq_nil_iff.mpr
  rintro ⟨step, index⟩ member
  have install := unguarded step (List.fst_mem_of_mem_zipIdx member)
  simp [install]

theorem traces_install {plan : Plan Backend} {size : String} {server : Provider.Server}
    {address : Address}
    (traced : Traces (install site plan options size server address).run story (.ok installation)) :
    ∃ dns, installation =
      { plan, size, server, address, dns
        context := options.contextOn size (options.host address) server address plan.answers } := by
  obtain ⟨_, _, dns, -, -, reaches⟩ := traces_run_bind_ok_iff.mp traced
  obtain ⟨_, _, _, -, -, connects⟩ := traces_run_bind_ok_iff.mp reaches
  obtain ⟨-, _, -, tells⟩ := traces_run_ask_bind_iff.mp connects
  obtain ⟨-, _, -, runs⟩ := traces_run_ask_bind_iff.mp tells
  obtain ⟨_, _, _, -, -, ends⟩ := traces_run_bind_ok_iff.mp runs
  obtain ⟨-, same⟩ := traces_run_pure_iff.mp ends
  exact ⟨dns, Except.ok.inj same⟩

/-- An installation is on the server that was provided for it, with the answers of its plan merged
into its context. -/
theorem provided_of_installed
    (traced : Traces (installed site options).run story (.ok installation)) :
    Deployment.plan site options = .ok installation.plan ∧
      installation.context = options.contextOn installation.size (options.host installation.address)
        installation.server installation.address installation.plan.answers ∧
      installation.server.address = some installation.address ∧
      ∃ before providing later, story = before ++ providing ++ later ∧
        Traces (provision installation.plan options installation.size).run providing
          (.ok installation.server) := by
  unfold installed at traced
  cases planned : Deployment.plan site options with
  | error cause =>
      rw [planned] at traced
      cases (traces_run_throw_iff.mp traced).2
  | ok plan =>
      rw [planned] at traced
      obtain ⟨planning, _, plan, rfl, plans, sizes⟩ := traces_run_bind_ok_iff.mp traced
      obtain ⟨rfl, same⟩ := traces_run_pure_iff.mp plans
      obtain rfl := Except.ok.inj same
      obtain ⟨sizing, _, size, rfl, -, provisions⟩ := traces_run_bind_ok_iff.mp sizes
      obtain ⟨providing, installing, server, rfl, provides, installs⟩ :=
        traces_run_bind_ok_iff.mp provisions
      split at installs
      case h_1 none => cases (traces_run_throw_iff.mp installs).2
      case h_2 address addressed =>
        obtain ⟨dns, rfl⟩ := traces_install installs
        exact ⟨rfl, rfl, addressed, sizing, providing, installing, by simp, provides⟩

/-- The context of an installation has the answers of its plan merged in. -/
theorem traces_installed
    (traced : Traces (installed site options).run story (.ok installation)) :
    Deployment.plan site options = .ok installation.plan ∧ installation.context =
      options.contextOn installation.size (options.host installation.address) installation.server
        installation.address installation.plan.answers := by
  obtain ⟨planned, filled, -⟩ := provided_of_installed traced
  exact ⟨planned, filled⟩

theorem traces_run_ok {summary : Summary} (traced : Traces (run site options) story (.ok summary)) :
    ∃ past later installation failure, story = past ++ later ∧
      Traces (installed site options).run past (.ok installation) ∧
      Secures options installation later failure ∧
      summary = installation.summary options (tlsOutcome options failure) := by
  obtain ⟨front, _, result, rfl, deploys, tells⟩ := traces_bind_iff.mp traced
  obtain ⟨telling, _, _, rfl, emits, ends⟩ := traces_bind_iff.mp tells
  obtain ⟨rfl, rfl⟩ := traces_pure_iff.mp ends
  obtain rfl := traces_query_iff.mp emits
  obtain ⟨past, later, installation, rfl, installs, concludes⟩ := traces_run_bind_ok_iff.mp deploys
  obtain ⟨_, same, concludes⟩ := traces_run_lift_iff.mp concludes
  obtain rfl := Except.ok.inj same
  obtain ⟨failure, secures, summed⟩ := traces_conclude concludes
  refine ⟨past, later ++ [⟨.emit .done, ()⟩], installation, failure, by simp [outcomeLine], installs,
    secures.append rfl, summed⟩

theorem tlsOutcome_configured_iff :
    tlsOutcome options failure = .configured ↔ options.wantsTls = true ∧ failure = none := by
  cases failure with
  | none => cases wanted : options.wantsTls <;> simp [tlsOutcome, wanted]
  | some cause => simp [tlsOutcome]

/-- A deployment that succeeds announces HTTPS if TLS was wanted and no guarded step failed.
That is right unless there was no guarded step to execute: then it announces HTTPS though
nothing was set up. -/
theorem https_announced_iff (site : Site Backend) (options : Options) (story : Story Backend)
    (summary : Summary) (traced : Traces (run site options) story (.ok summary)) :
    ∃ past later installation failure, story = past ++ later ∧
      Traces (installed site options).run past (.ok installation) ∧
      Deployment.plan site options = .ok installation.plan ∧
      installation.context =
        options.contextOn installation.size (options.host installation.address)
          installation.server installation.address installation.plan.answers ∧
      Secures options installation later failure ∧
      summary.tls = tlsOutcome options failure ∧
      summary.url = (if summary.tls = .configured then "https://" else "http://") ++
        options.host installation.address ∧
      ("https://".toList <+: summary.url.toList ↔ summary.tls = .configured) ∧
      (Secured options installation failure → summary.tls = .configured) ∧
      (summary.tls = .configured ∧ ¬ Secured options installation failure ↔
        options.wantsTls = true ∧ installation.guarded = []) := by
  obtain ⟨past, later, installation, failure, rfl, installs, secures, rfl⟩ := traces_run_ok traced
  obtain ⟨planned, filled⟩ := traces_installed installs
  refine ⟨past, later, installation, failure, rfl, installs, planned, filled, secures, rfl,
    url_eq _ _, https_prefix_url_iff, ?_, ?_⟩
  · rintro ⟨wanted, -, fine⟩
    exact tlsOutcome_configured_iff.mpr ⟨wanted, fine⟩
  · show tlsOutcome options failure = .configured ∧ _ ↔ _
    rw [tlsOutcome_configured_iff]
    constructor
    · rintro ⟨⟨wanted, fine⟩, unsecured⟩
      exact ⟨wanted, Decidable.byContradiction fun some => unsecured ⟨wanted, some, fine⟩⟩
    · rintro ⟨wanted, none⟩
      refine ⟨⟨wanted, ?_⟩, fun secured => secured.2.1 none⟩
      -- Without guarded steps there is no errand that could fail.
      cases secures with
      | unasked unwanted => rfl
      | asked _ served =>
          rw [none] at served
          cases served
          rfl

section Unguarded

def mailedOptions : Options := { loneOptions with email := "admin@example.com" }

def mailedRun : Option (Except Error Summary × Story Unit) :=
  (run loneSite mailedOptions).run? (noting (loneAnswer "")) []

theorem steps_of_plan {plan : Plan Unit}
    (planned : Deployment.plan loneSite mailedOptions = .ok plan) :
    ∀ step ∈ plan.spec.steps, step.phase = .install := by
  have steps : ((Deployment.plan loneSite mailedOptions).toOption.map fun plan =>
      plan.spec.steps.all fun step => step.phase = .install) = some true := by decide +kernel
  rw [planned] at steps
  simpa [Except.toOption] using steps

def summarized (ran : Option (Except Error Summary × Story Unit)) : Option (TlsOutcome × String) :=
  match ran with
  | some (.ok summary, _) => some (summary.tls, summary.url)
  | _ => none

theorem summarized_mailedRun : summarized mailedRun = some (.configured, "https://127.0.0.1") := by
  decide +kernel

/-- An application without guarded steps is announced under HTTPS once an address for
certificates is given. -/
theorem https_announced_unguarded :
    ∃ story summary past later installation failure, story = past ++ later ∧
      Traces (run loneSite mailedOptions) story (.ok summary) ∧
      Traces (installed loneSite mailedOptions).run past (.ok installation) ∧
      Secures mailedOptions installation later failure ∧
      summary.url = "https://127.0.0.1" ∧ ¬ Secured mailedOptions installation failure := by
  have summed := summarized_mailedRun
  cases ran : mailedRun with
  | none => rw [ran] at summed; cases summed
  | some result =>
      rw [ran] at summed
      obtain ⟨outcome, noted⟩ := result
      cases outcome with
      | error cause => cases summed
      | ok summary =>
          obtain ⟨configured, address⟩ : summary.tls = .configured ∧ summary.url = "https://127.0.0.1" := by
            simpa [summarized] using summed
          obtain ⟨story, -, traced⟩ := traces_run?_noting ran
          obtain ⟨past, later, installation, failure, parted, installs, planned, -, secures, -, -, -,
            -, wrong⟩ := https_announced_iff loneSite mailedOptions story summary traced
          refine ⟨story, summary, past, later, installation, failure, parted, traced, installs,
            secures, address, (wrong.mpr ⟨rfl, ?_⟩).2⟩
          exact guarded_of_unguarded (steps_of_plan planned)

end Unguarded

end Rollout.Deployment
