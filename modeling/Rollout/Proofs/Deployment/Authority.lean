import Rollout.Proofs.Deployment.Containment
import Rollout.Proofs.Deployment.Pointing

namespace Rollout.Deployment

open Procedure

/-! DNS is only changed with authority.

A deployment as a whole asks about DNS in one stage, which begins when a server with an
address has arrived.  What holds of that stage so holds of the deployment.
-/

variable {Backend : Type} {site : Site Backend} {options : Options} {plan : Plan Backend}
  {past story : Story Backend}

/-- The target is the server that was ordered, at the address that was reported. -/
def Target.Arrived (target : Target Backend) (site : Site Backend) (options : Options)
    (story : Story Backend) : Prop :=
  Deployment.plan site options = .ok target.plan ∧
    ∃ size name created server,
      ⟨.provider target.plan.provider.backend
        (.createServer (orderOf target.plan options size name)), .ok created⟩ ∈ story ∧
      ⟨.provider target.plan.provider.backend (.awaitServer created.id), .ok server⟩ ∈ story ∧
      server.address = some target.address ∧
      target.context = options.contextOn size (options.host target.address) server target.address
        target.plan.answers

/-- A question may be asked: if it is about DNS, a target has arrived for which it is
authorised. -/
def Granted (site : Site Backend) (options : Options) (past : Story Backend)
    (action : Action Backend) : Prop :=
  action.concern = .domain → ∃ target : Target Backend, target.Arrived site options past ∧
    options.domainName ≠ "" ∧ Authorised options target (onDns past) action

/-- The outcome for DNS is what was seen to come of it. -/
def Settled (site : Site Backend) (options : Options) (story : Story Backend)
    (outcome : DnsOutcome) : Prop :=
  ∃ target : Target Backend, target.Arrived site options story ∧ Tells options target story outcome

theorem Target.Arrived.append {target : Target Backend} (arrived : target.Arrived site options past)
    (later : Story Backend) : target.Arrived site options (past ++ later) := by
  obtain ⟨planned, size, name, created, server, ordered, reported, addressed, filled⟩ := arrived
  exact ⟨planned, size, name, created, server, List.mem_append_left _ ordered,
    List.mem_append_left _ reported, addressed, filled⟩

theorem traces_provision {size : String} {server : Provider.Server}
    (traced : Traces (provision plan options size).run story (.ok server)) :
    ∃ name created,
      ⟨.provider plan.provider.backend (.createServer (orderOf plan options size name)),
        .ok created⟩ ∈ story ∧
      ⟨.provider plan.provider.backend (.awaitServer created.id), .ok server⟩ ∈ story := by
  unfold provision at traced
  obtain ⟨naming, _, name, rfl, -, traced⟩ := traces_run_bind_ok_iff.mp traced
  obtain ⟨-, _, rfl, traced⟩ := traces_run_ask_bind_iff.mp traced
  obtain ⟨ordering, _, created, rfl, orders, traced⟩ := traces_run_bind_ok_iff.mp traced
  obtain ⟨-, _, rfl, traced⟩ := traces_run_ask_bind_iff.mp traced
  obtain ⟨waiting, _, arrived, rfl, waits, traced⟩ := traces_run_bind_ok_iff.mp traced
  obtain ⟨_, _, _, rfl, -, ends⟩ := traces_run_bind_ok_iff.mp traced
  obtain ⟨-, same⟩ := traces_run_pure_iff.mp ends
  obtain rfl := Except.ok.inj same
  refine ⟨name, created, ?_, ?_⟩
  · simp [traces_perform_ok orders]
  · simp [traces_perform_ok waits]

theorem Settled.append {later : Story Backend} {outcome : DnsOutcome}
    (settled : Settled site options story outcome) (apart : Lacks .domain later) :
    Settled site options (story ++ later) outcome := by
  obtain ⟨target, arrived, tells⟩ := settled
  refine ⟨target, arrived.append later, ?_⟩
  unfold Tells
  rw [onDns_append, apart.onDns, List.append_nil]
  exact tells

theorem emit_apart (line : Progress.Line) : Lacks .domain ([⟨.emit line, ()⟩] : Story Backend) := by
  intro event member
  obtain rfl := List.mem_singleton.mp member
  cases line <;> simp [Action.concern]

theorem granted_emit {line : Progress.Line} : Granted site options past (.emit line) := by
  intro minds
  cases line <;> cases minds

theorem KeepsTo.granted {α : Type} {concerns : List Concern} {course : Course Backend α}
    {right : Story Backend → α → Prop} (keeps : KeepsTo concerns course)
    (apart : .domain ∉ concerns)
    (isRight : ∀ later value, Traces course later value → Lacks .domain later →
      right (past ++ later) value) :
    course.Upholds (Granted site options) right past :=
  keeps.upholds_about apart isRight

/-- A stage that keeps away from DNS may come first. -/
theorem KeepsTo.then_granted {α β : Type} {concerns : List Concern} {first : Stage Backend Error α}
    {second : α → Stage Backend Error β} {right : Story Backend → β → Prop}
    (keeps : KeepsTo concerns first.run) (apart : .domain ∉ concerns)
    (goesOn : ∀ later value, Traces first.run later (.ok value) → Lacks .domain later →
      (second value).run.Upholds (Granted site options) (Yields right) (past ++ later)) :
    (first >>= second).run.Upholds (Granted site options) (Yields right) past := by
  apply upholds_run_bind
  apply keeps.granted apart
  intro later result traced lacks
  cases result with
  | error cause => exact yields_error
  | ok value => exact goesOn later value traced lacks

section Stages

variable {target : Target Backend} {size : String} {server : Provider.Server}

theorem pointDomain_granted (arrived : target.Arrived site options past) (first : onDns past = []) :
    (pointDomain target.plan options target.address target.context).Upholds (Granted site options)
      (Settled site options) past := by
  have upholds : (pointDomain target.plan options target.address target.context).Upholds
      (Granted site options) (Tells options target) past := by
    apply (pointDomain_upholds target first).loosen
    intro later action isFit about
    exact ⟨target, arrived.append later, isFit about⟩
  apply (upholds.within (asks_any _)).mono
  rintro story outcome ⟨tells, later, rfl, -⟩
  exact ⟨target, arrived.append later, tells⟩

theorem install_granted (arrived : target.Arrived site options past) (first : onDns past = [])
    (filled : target.context = options.contextOn size (options.host target.address) server
      target.address target.plan.answers) :
    (install site target.plan options size server target.address).run.Upholds (Granted site options)
      (Yields fun story installation => Settled site options story installation.dns) past := by
  unfold install
  rw [← filled]
  apply upholds_run_bind
  apply upholds_run_lift
  apply (pointDomain_granted arrived first).mono
  intro story dns settled
  apply ((reach_keepsTo target.address site.sshPort site.patience).adapt _).then_granted (by simp)
  intro reaching _ _ apart
  have settled := settled.append apart
  have connects : KeepsTo [.shell] (ask (.connect target.address) : Stage Backend Error _).run :=
    keepsTo_ask (by simp [Action.concern])
  apply connects.then_granted (by simp)
  intro connecting _ _ apart
  have settled := settled.append apart
  have telling (text : String) : KeepsTo [.people] (say text : Stage Backend Error Unit).run :=
    keepsTo_say (by simp)
  apply (telling _).then_granted (by simp)
  intro saying _ _ apart
  have settled := settled.append apart
  apply ((onHost_keepsTo target.address _).adapt _).then_granted (by simp)
  intro installing _ _ apart
  apply upholds_run_pure
  exact yields_ok (settled.append apart)

end Stages

theorem installed_granted :
    (installed site options).run.Upholds (Granted site options)
      (Yields fun story installation => Settled site options story installation.dns) [] := by
  unfold installed
  apply upholds_run_bind
  apply upholds_pure.mpr
  cases planned : Deployment.plan site options with
  | error cause => exact yields_error
  | ok plan =>
      apply (chooseSize_keepsTo plan options).then_granted (by simp)
      intro sizing size _ unsized
      apply (provision_keepsTo plan options size).then_granted (by simp)
      intro providing server provides unprovided
      cases addressed : server.address with
      | none =>
          simp only
          exact upholds_run_throw yields_error
      | some address =>
          simp only
          obtain ⟨name, created, ordered, reported⟩ := traces_provision provides
          let target : Target Backend := ⟨plan, address,
            options.contextOn size (options.host address) server address plan.answers⟩
          have arrived : target.Arrived site options (sizing ++ providing) :=
            ⟨planned, size, name, created, server, List.mem_append_right _ ordered,
              List.mem_append_right _ reported, addressed, rfl⟩
          have installs := install_granted arrived (unsized.append unprovided).onDns rfl
          exact installs

theorem tell_granted {outcome : Except Error Summary}
    (yields : Yields (fun story summary => Settled site options story summary.dns) past outcome) :
    (do
      query (Action.emit (outcomeLine outcome))
      pure outcome : Course Backend _).Upholds (Granted site options)
      (Yields fun story summary => Settled site options story summary.dns) past := by
  apply Upholds.bind
  apply upholds_query _ granted_emit
  intro _
  apply upholds_pure.mpr
  intro summary succeeded
  exact (yields summary succeeded).append (emit_apart _)

theorem run_granted :
    (run site options).Upholds (Granted site options)
      (Yields fun story summary => Settled site options story summary.dns) [] := by
  unfold run deploy
  apply Upholds.bind
  apply upholds_run_bind
  apply installed_granted.mono
  intro story result settled
  cases result with
  | error cause => exact tell_granted yields_error
  | ok installation =>
      apply upholds_run_lift
      apply (conclude_keepsTo installation options).granted (by simp)
      intro later summary concludes apart
      obtain ⟨tls, rfl⟩ := conclude_summary concludes
      have settled := settled installation rfl
      exact tell_granted (yields_ok (settled.append apart))

section Writing

def Action.isPointing : Action Backend → Bool
  | .provider _ (.pointDomain ..) => true
  | _ => false

def Action.isRecording : Action Backend → Bool
  | .setRecord .. => true
  | _ => false

variable {action : Action Backend}

theorem Action.concern_of_isPointing (points : action.isPointing = true) : action.concern = .domain := by
  unfold Action.isPointing at points
  split at points
  · rfl
  · cases points

theorem Action.concern_of_isRecording (sets : action.isRecording = true) : action.concern = .domain := by
  unfold Action.isRecording at sets
  split at sets
  · rfl
  · cases sets

theorem never_of_onDns {check : Action Backend → Bool}
    (within : ∀ {action}, check action = true → action.concern = .domain)
    (never : ∀ event ∈ onDns story, check event.1 = false) :
    ∀ event ∈ story, check event.1 = false := by
  intro event member
  apply Bool.eq_false_iff.mpr
  intro checked
  have about : event ∈ onDns story := List.mem_filter.mpr ⟨member, by simpa using within checked⟩
  rw [never event about] at checked
  cases checked

variable {target : Target Backend} {seen : Story Backend}

theorem OnlyLooks.writes_nothing (looks : OnlyLooks seen) :
    ∀ event ∈ seen, event.1.isPointing = false ∧ event.1.isRecording = false := by
  intro event member
  obtain ⟨name, looked⟩ := looks event member
  rw [looked]
  exact ⟨rfl, rfl⟩

theorem Authorised.writes_nothing (authorised : Authorised options target seen action)
    (points : action.isPointing = true) :
    ∀ event ∈ seen, event.1.isPointing = false ∧ event.1.isRecording = false := by
  unfold Action.isPointing at points
  split at points
  · obtain ⟨-, -, -, ⟨-, rfl⟩ | ⟨-, -, detects⟩⟩ := authorised
    · exact onlyLooks_nil.writes_nothing
    · exact detects.onlyLooks.writes_nothing
  · cases points

theorem Authorised.points_nothing (authorised : Authorised options target seen action)
    (sets : action.isRecording = true) : ∀ event ∈ seen, event.1.isPointing = false := by
  unfold Action.isRecording at sets
  split at sets
  · obtain ⟨-, -, credentials, done, left, -, -, rfl⟩ := authorised
    simp [recorded, Action.isPointing]
  · cases sets

theorem Granted.writes_nothing (granted : Granted site options past action)
    (points : action.isPointing = true) :
    ∀ event ∈ past, event.1.isPointing = false ∧ event.1.isRecording = false := by
  obtain ⟨target, -, -, authorised⟩ := granted (Action.concern_of_isPointing points)
  have never := authorised.writes_nothing points
  intro event member
  exact ⟨never_of_onDns Action.concern_of_isPointing (fun event about => (never event about).1)
      event member,
    never_of_onDns Action.concern_of_isRecording (fun event about => (never event about).2)
      event member⟩

theorem Granted.points_nothing (granted : Granted site options past action)
    (sets : action.isRecording = true) : ∀ event ∈ past, event.1.isPointing = false := by
  obtain ⟨target, -, -, authorised⟩ := granted (Action.concern_of_isRecording sets)
  exact never_of_onDns Action.concern_of_isPointing (authorised.points_nothing sets)

end Writing

/-- Every question that a deployment asks about DNS is authorised by the options, the
application's policy and what was seen before.  The provider is told to point the domain
at most once, and never beside a registrar.  DNS counts as set up just when what was seen
accomplishes it, both at the end of the stage and in the summary. -/
theorem dns_written_with_authority (site : Site Backend) (options : Options) :
    (∀ past action, Raises (run site options) past action → action.concern = .domain →
      ∃ target : Target Backend, target.Arrived site options past ∧ options.domainName ≠ "" ∧
        Authorised options target (onDns past) action) ∧
    (∀ past action, Raises (run site options) past action →
      (action.isPointing = true →
        ∀ event ∈ past, event.1.isPointing = false ∧ event.1.isRecording = false) ∧
      (action.isRecording = true → ∀ event ∈ past, event.1.isPointing = false)) ∧
    (∀ (target : Target Backend) story outcome,
      Traces (pointDomain target.plan options target.address target.context) story outcome →
      (outcome.IsConfigured ↔ Accomplished options target (onDns story))) ∧
    ∀ story summary, Traces (run site options) story (.ok summary) →
      ∃ target : Target Backend, target.Arrived site options story ∧
        (summary.dns.IsConfigured ↔ Accomplished options target (onDns story)) := by
  have granted {past action} (raises : Raises (run site options) past action) :
      Granted site options past action :=
    run_granted.of_raises raises
  refine ⟨fun past action => granted, ?_, ?_, ?_⟩
  · intro past action raises
    exact ⟨(granted raises).writes_nothing, (granted raises).points_nothing⟩
  · intro target story outcome traced
    have first : onDns ([] : Story Backend) = [] := rfl
    exact (pointDomain_upholds target first).of_traces traced
  · intro story summary traced
    exact run_granted.of_traces traced summary rfl

end Rollout.Deployment
