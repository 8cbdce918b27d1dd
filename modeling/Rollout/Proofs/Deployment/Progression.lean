import Rollout.Proofs.Deployment.Stages
import Rollout.Proofs.Procedure.Upholds

namespace Rollout.Deployment

open Procedure

/-! How far a deployment has come when it ends with an error.

A deployment orders one server, waits for that one, reaches it and then sends scripts
to it.  `Permitted` says what must have come before each of these actions, and `Extent`
what each error tells of all that came before it.
-/

variable {Backend : Type} {site : Site Backend} {options : Options}

def Reported (story : Story Backend) (server : Provider.Server) : Prop :=
  ∃ backend id, ⟨.provider backend (.awaitServer id), .ok server⟩ ∈ story

def Reachable (site : Site Backend) (story : Story Backend) (host : Address) : Prop :=
  ∃ limit tried, tried.isConnected = true ∧ ⟨.dial host site.sshPort limit, tried⟩ ∈ story

/-- What must have come before an action.  Only actions on servers and hosts have
conditions. -/
def Permitted (site : Site Backend) (past : Story Backend) : Action Backend → Prop
  | .provider _ (.createServer _) => Lacks .order past
  | .provider backend (.awaitServer id) =>
      ∃ order server, server.id = id ∧ ⟨.provider backend (.createServer order), .ok server⟩ ∈ past
  | .connect host =>
      Lacks .shell past ∧ (∃ server, server.address = some host ∧ Reported past server) ∧
        Reachable site past host
  | .command host _ | .terminal host .. => ⟨.connect host, ()⟩ ∈ past
  | _ => True

/-- What a machine sees of an exchange with it. -/
def machineEvent? : Event Backend → Option Installer.Event
  | ⟨.command _ text, output⟩ => some ⟨.command text, output⟩
  | ⟨.terminal _ text answers, reply⟩ => some ⟨.terminal text answers, reply⟩
  | _ => none

def sent (story : Story Backend) : List String := Installer.sent (story.filterMap machineEvent?)

/-- What an error tells of the story before it. -/
def Extent (site : Site Backend) (options : Options) (story : Story Backend) : Error → Prop
  | .configuration _ => story = []
  | .provisioning _ | .notReady _ => sent story = []
  | .install _ | .terminal .. =>
      ∃ plan size server address, Deployment.plan site options = .ok plan ∧
        server.address = some address ∧ sent story ≠ [] ∧
        let context := options.contextOn size (options.host address) server address plan.answers
        let scripted := (plan.spec.stepsIn .install).filter fun step => !Text.isBlankText step.run
        sent story <+: scripted.map (·.command context)
  | .tls _ => False

section Stories

variable {front back : Story Backend}

theorem sent_append : sent (front ++ back) = sent front ++ sent back := by
  simp only [sent, Installer.sent, List.filterMap_append]

theorem Lacks.sent {story : Story Backend} (silent : Lacks .script story) : sent story = [] := by
  have unseen : story.filterMap machineEvent? = [] := by
    apply List.filterMap_eq_nil_iff.mpr
    intro event member
    have other := silent event member
    revert other
    obtain ⟨action, answer⟩ := event
    cases action <;> simp [machineEvent?, Action.concern]
  rw [Deployment.sent, unseen]
  rfl

theorem Reported.append {server : Provider.Server} (reported : Reported front server) :
    Reported (front ++ back) server := by
  obtain ⟨backend, id, member⟩ := reported
  exact ⟨backend, id, List.mem_append_left back member⟩

end Stories

structure Untouched (story : Story Backend) : Prop where
  shell : Lacks .shell story
  script : Lacks .script story

theorem Untouched.append {story later : Story Backend} {concerns : List Concern}
    (untouched : Untouched story) (kept : ∀ event ∈ later, event.1.concern ∈ concerns)
    (apart : .shell ∉ concerns ∧ .script ∉ concerns) : Untouched (story ++ later) :=
  ⟨untouched.shell.append (lacks_of_keeps kept apart.1),
    untouched.script.append (lacks_of_keeps kept apart.2)⟩

theorem Untouched.snoc {story : Story Backend} {event : Event Backend} (untouched : Untouched story)
    (other : event.1.concern ≠ .shell ∧ event.1.concern ≠ .script) : Untouched (story ++ [event]) :=
  ⟨untouched.shell.snoc other.1, untouched.script.snoc other.2⟩

/-- The concerns of the actions that need nothing to have come before. -/
def Concern.isFree : Concern → Bool
  | order | arrival | shell | script => false
  | people | client | clock | rest | naming | catalogue | domain | probe | ruin => true

def Error.isEarly : Error → Bool
  | provisioning _ | notReady _ => true
  | configuration _ | install _ | terminal .. | tls _ => false

theorem permitted_of_isFree {action : Action Backend} (free : action.concern.isFree = true)
    (past : Story Backend) : Permitted site past action := by
  cases action with
  | provider backend call => cases call <;> first | exact trivial | cases free
  | connect host => cases free
  | command host text => cases free
  | terminal host command answers => cases free
  | emit line => exact trivial
  | now => exact trivial
  | pause time => exact trivial
  | nameSuffix => exact trivial
  | nameservers domain => exact trivial
  | registrar credentials => exact trivial
  | setRecord registrar domain record => exact trivial
  | dial host port limit => exact trivial
  | halt => exact trivial

theorem extent_of_isEarly {error : Error} {story : Story Backend} (early : error.isEarly = true)
    (untouched : Untouched story) : Extent site options story error := by
  cases error with
  | provisioning cause => exact untouched.script.sent
  | notReady cause => exact untouched.script.sent
  | configuration cause => cases early
  | install cause => cases early
  | terminal step cause => cases early
  | tls cause => cases early

section Parts

variable {ε : Type} {past : Story Backend}

theorem KeepsTo.upholds {α : Type} {concerns : List Concern} {course : Course Backend α}
    {right : Story Backend → α → Prop} (keeps : KeepsTo concerns course)
    (free : ∀ concern ∈ concerns, concern.isFree = true)
    (isRight : ∀ later value, Traces course later value →
      (∀ event ∈ later, event.1.concern ∈ concerns) → right (past ++ later) value) :
    course.Upholds (Permitted site) right past := by
  apply keeps.asks.upholds
  · intro later action minds
    exact permitted_of_isFree (free _ minds) _
  · intro later value traced
    exact isRight later value traced (keeps.of_mem traced)

theorem upholds_ask (action : Action Backend) {right : Story Backend → Except ε action.Result → Prop}
    (permitted : Permitted site past action)
    (isRight : ∀ answer, right (past ++ [⟨action, answer⟩]) (.ok answer)) :
    (ask action : Stage Backend ε _).run.Upholds (Permitted site) right past :=
  upholds_run_lift (upholds_query _ permitted isRight)

theorem upholds_emit {line : Progress.Line} {right : Story Backend → Unit → Prop}
    (isRight : right (past ++ [⟨.emit line, ()⟩]) ()) :
    (query (Action.emit line) : Course Backend Unit).Upholds (Permitted site) right past :=
  upholds_query (Action.emit line) trivial fun _ => isRight

theorem upholds_say {text : String} {right : Story Backend → Except ε Unit → Prop}
    (isRight : right (past ++ [⟨.emit (.plain text), ()⟩]) (.ok ())) :
    (say text : Stage Backend ε Unit).run.Upholds (Permitted site) right past :=
  upholds_run_lift (upholds_emit isRight)

theorem chooseSize_error {plan : Plan Backend} {story : Story Backend} {error : Error}
    (traced : Traces (chooseSize plan options).run story (.error error)) :
    ∃ cause, error = .provisioning cause := by
  unfold chooseSize at traced
  split at traced
  · rcases traces_run_bind_iff.mp traced with ⟨_, same, fails⟩ | ⟨_, _, size, -, -, later⟩
    · cases same
      obtain ⟨original, failed, -⟩ := traces_run_adapt_iff.mp fails
      cases original with
      | error cause => exact ⟨cause, Except.error.inj failed⟩
      | ok size => cases failed
    · obtain ⟨-, _, -, ends⟩ := traces_run_ask_bind_iff.mp later
      cases (traces_run_pure_iff.mp ends).2
  · cases (traces_run_pure_iff.mp traced).2

theorem chooseName_ok {plan : Plan Backend} {story : Story Backend} {outcome : Except Error String}
    (traced : Traces (chooseName plan options).run story outcome) : ∃ name, outcome = .ok name := by
  unfold chooseName at traced
  split at traced
  · obtain ⟨suffix, _, -, ends⟩ := traces_run_ask_bind_iff.mp traced
    exact ⟨_, (traces_run_pure_iff.mp ends).2⟩
  · exact ⟨_, (traces_run_pure_iff.mp traced).2⟩

theorem announce_ok {server : Provider.Server} {story : Story Backend} {outcome : Except Error Unit}
    (traced : Traces (announce server : Stage Backend Error Unit).run story outcome) :
    outcome = .ok () := by
  unfold announce at traced
  split at traced
  · exact (traces_run_ask_iff.mp traced).choose_spec.1
  · exact (traces_run_pure_iff.mp traced).2

theorem ofWait_isEarly (cause : Provider.Error) : (Error.ofWait cause).isEarly = true := by
  cases cause <;> rfl

theorem provision_upholds {plan : Plan Backend} {size : String} (unordered : Lacks .order past) :
    (provision plan options size).run.Upholds (Permitted site)
      (fun story result =>
        match result with
        | .error error => error.isEarly = true
        | .ok server => Reported story server) past := by
  apply upholds_run_bind
  apply (chooseName_keepsTo plan options).upholds (by simp [Concern.isFree])
  intro naming name named within
  obtain ⟨name, rfl⟩ := chooseName_ok named
  apply upholds_run_bind
  apply upholds_say
  apply upholds_run_bind
  apply upholds_run_adapt
  apply upholds_perform
  · exact (unordered.append (lacks_of_keeps within (by simp))).snoc (by simp [Action.concern])
  intro ordered
  cases ordered with
  | error cause => rfl
  | ok created =>
      apply upholds_run_bind
      apply upholds_say
      apply upholds_run_bind
      apply upholds_run_adapt
      apply upholds_perform
      · exact ⟨_, created, rfl, by simp⟩
      intro arrived
      cases arrived with
      | error cause => exact ofWait_isEarly cause
      | ok server =>
          apply upholds_run_bind
          apply (announce_keepsTo server).upholds (by simp [Concern.isFree])
          intro spoken result announced _
          obtain rfl := announce_ok announced
          exact upholds_run_pure ⟨plan.provider.backend, created.id, by simp⟩

end Parts

section Scripts

variable {plan : Plan Backend} {size : String} {server : Provider.Server} {address : Address}
  {past : Story Backend}

theorem machineEvent?_onHostEvent (host : Address) (event : Installer.Event) :
    machineEvent? (onHostEvent host event : Event Backend) =
      if event.1.isExchange then some event else none := by
  obtain ⟨action, answer⟩ := event
  cases action <;> rfl

theorem sent_onHost (host : Address) (inner : List Installer.Event) :
    sent (inner.map (onHostEvent host) : Story Backend) = Installer.sent inner := by
  have seen : (inner.map (onHostEvent host) : Story Backend).filterMap machineEvent? =
      Installer.exchanges inner := by
    rw [List.filterMap_map, Installer.exchanges, ← List.filterMap_eq_filter]
    apply List.filterMap_congr
    intro event _
    rw [Function.comp_apply, machineEvent?_onHostEvent]
    rfl
  rw [sent, seen, Installer.sent_exchanges]

theorem onHost_upholds {α : Type} {steps : Installer.Steps α}
    {right : Story Backend → Except Installer.StepError α → Prop}
    (connected : ⟨.connect address, ()⟩ ∈ past)
    (isRight : ∀ inner outcome, Traces steps.run inner outcome →
      right (past ++ inner.map (onHostEvent address)) outcome) :
    (onHost address steps : Stage Backend _ α).run.Upholds (Permitted site) right past := by
  have asks : (onHost address steps : Stage Backend _ α).run.Asks fun action =>
      ∀ past : Story Backend, ⟨.connect address, ()⟩ ∈ past → Permitted site past action := by
    apply Asks.interpret (asks_any steps.run)
    intro action _
    cases action with
    | emit line => exact asks_query fun _ _ => trivial
    | pause time => exact asks_query fun _ _ => trivial
    | command text => exact asks_query fun _ ready => ready
    | terminal command answers => exact asks_query fun _ ready => ready
  apply asks.upholds
  · intro later action allowed
    exact allowed _ (List.mem_append_left later connected)
  · intro later outcome traced
    obtain ⟨inner, follows, rfl⟩ := traces_onHost traced
    exact isRight inner outcome follows

theorem extent_ofStep {story : Story Backend} {cause : Installer.StepError} :
    Extent site options story (.ofStep cause) ↔ Extent site options story (.install cause) := by
  cases cause <;> rfl

/-- An install phase that fails has sent the scripts up to one of its steps. -/
theorem extent_of_install {inner : List Installer.Event} {cause : Installer.StepError}
    (planned : Deployment.plan site options = .ok plan) (addressed : server.address = some address)
    (silent : sent past = [])
    (traced : Traces (plan.spec.runPhase .install
      (options.contextOn size (options.host address) server address plan.answers)).run inner
        (.error cause)) :
    Extent site options (past ++ inner.map (onHostEvent address)) (.ofStep cause) := by
  obtain ⟨failure, served, verdict⟩ := Installer.traces_runPhase traced
  obtain ⟨sends, fails⟩ := served.sends
  rw [Installer.sent_exchanges, Installer.Spec.commands_install] at sends
  rw [Installer.sent_exchanges] at fails
  have failed : failure ≠ none := by
    rintro rfl
    cases verdict
  have all : sent (past ++ inner.map (onHostEvent address)) = Installer.sent inner := by
    rw [sent_append, silent, sent_onHost, List.nil_append]
  exact extent_ofStep.mpr
    ⟨plan, size, server, address, planned, addressed, all ▸ fails failed, all ▸ sends⟩

theorem install_upholds (planned : Deployment.plan site options = .ok plan)
    (addressed : server.address = some address) (untouched : Untouched past)
    (reported : Reported past server) :
    (install site plan options size server address).run.Upholds (Permitted site)
      (fun story result =>
        match result with
        | .error error => Extent site options story error
        | .ok installation => ⟨.connect installation.address, ()⟩ ∈ story) past := by
  unfold install
  apply upholds_run_bind
  apply upholds_run_lift
  apply (pointDomain_keepsTo plan options address _).upholds (by simp [Concern.isFree])
  intro pointing dns _ within
  -- Neither DNS nor the wait for SSH uses a shell.
  have untouched := untouched.append within (by simp)
  apply upholds_run_bind
  apply upholds_run_adapt
  apply (reach_keepsTo address site.sshPort site.patience).upholds (by simp [Concern.isFree])
  intro reaching result reaches within
  have untouched := untouched.append within (by simp)
  cases result with
  | error cause => exact untouched.script.sent
  | ok _ =>
      obtain ⟨limit, tried, succeeds, dialed⟩ := traces_reach reaches
      apply upholds_run_bind
      apply upholds_ask (.connect address)
      · exact ⟨untouched.shell, ⟨server, addressed, reported.append.append⟩,
          limit, tried, succeeds, List.mem_append_right _ dialed⟩
      intro _
      apply upholds_run_bind
      apply upholds_say
      apply upholds_run_bind
      apply upholds_run_adapt
      apply onHost_upholds (by simp)
      intro inner outcome traced
      cases outcome with
      | error cause =>
          refine extent_of_install planned addressed ?_ traced
          have silent := untouched.script
          exact ((silent.snoc (by simp [Action.concern])).snoc (by simp [Action.concern])).sent
      | ok count =>
          apply upholds_run_pure
          simp

theorem installed_upholds :
    (installed site options).run.Upholds (Permitted site)
      (fun story result =>
        match result with
        | .error error => Extent site options story error
        | .ok installation => ⟨.connect installation.address, ()⟩ ∈ story) [] := by
  unfold installed
  apply upholds_run_bind
  apply upholds_pure.mpr
  cases planned : Deployment.plan site options with
  | error cause => exact rfl
  | ok plan =>
      apply upholds_run_bind
      apply (chooseSize_keepsTo plan options).upholds (by simp [Concern.isFree])
      intro sizing chosen chooses within
      have untouched : Untouched sizing := ⟨lacks_of_keeps within (by simp), lacks_of_keeps within (by simp)⟩
      cases chosen with
      | error error =>
          obtain ⟨cause, rfl⟩ := chooseSize_error chooses
          exact untouched.script.sent
      | ok size =>
          have unordered : Lacks .order sizing := lacks_of_keeps within (by simp)
          apply upholds_run_bind
          -- Its footprint is needed beside its result: it must not have used a shell either.
          apply ((provision_upholds unordered).within (provision_keepsTo plan options size).asks).mono
          rintro story result ⟨reports, providing, rfl, among⟩
          have untouched := untouched.append among (by simp)
          cases result with
          | error error => exact extent_of_isEarly reports untouched
          | ok server =>
              cases addressed : server.address with
              | none =>
                  simp only [addressed]
                  exact upholds_run_throw untouched.script.sent
              | some address =>
                  simp only [addressed]
                  exact install_upholds planned addressed untouched reports

theorem setUpTls_upholds {context : Template.Context} {right : Story Backend → TlsOutcome → Prop}
    (connected : ⟨.connect address, ()⟩ ∈ past) (isRight : ∀ story tls, right story tls) :
    (setUpTls plan options address context).Upholds (Permitted site) right past := by
  unfold setUpTls
  split
  · apply Upholds.bind
    apply upholds_emit
    apply Upholds.bind
    apply onHost_upholds (List.mem_append_left _ connected)
    intro inner outcome _
    cases outcome with
    | ok count => exact upholds_pure.mpr (isRight _ _)
    | error cause =>
        apply Upholds.bind
        apply upholds_emit
        exact upholds_pure.mpr (isRight _ _)
  · exact upholds_pure.mpr (isRight _ _)

theorem conclude_upholds {installation : Installation Backend}
    {right : Story Backend → Summary → Prop}
    (connected : ⟨.connect installation.address, ()⟩ ∈ past)
    (isRight : ∀ story summary, right story summary) :
    (installation.conclude options).Upholds (Permitted site) right past := by
  apply Upholds.bind
  apply setUpTls_upholds connected
  intro story tls
  apply Upholds.bind
  apply (report_keepsTo _).upholds (by simp [Concern.isFree])
  intro reporting _ _ _
  exact upholds_pure.mpr (isRight _ _)

theorem run_upholds :
    (run site options).Upholds (Permitted site)
      (fun story outcome => ∀ error, outcome = .error error →
        ∃ past, story = past ++ [⟨.emit (.failed error.message), ()⟩] ∧
          Extent site options past error) [] := by
  apply Upholds.bind
  apply upholds_run_bind
  apply installed_upholds.mono
  intro story result reaches
  cases result with
  | error error =>
      apply Upholds.bind
      apply upholds_emit
      apply upholds_pure.mpr
      rintro _ same
      cases same
      exact ⟨story, rfl, reaches⟩
  | ok installation =>
      apply upholds_run_lift
      apply conclude_upholds reaches
      intro story summary
      apply Upholds.bind
      apply upholds_emit
      apply upholds_pure.mpr
      rintro _ impossible
      cases impossible

end Scripts

/-- A deployment orders at most one server, waits for no other, and makes a shell ready
at most once, on the reported address and after it took a connection; only there it sends
scripts.  An error, told in the last line, tells how far the deployment went. -/
theorem errors_tell_extent (site : Site Backend) (options : Options) :
    (∀ past action, Raises (run site options) past action → Permitted site past action) ∧
    ∀ story error, Traces (run site options) story (.error error) →
      ∃ past, story = past ++ [⟨.emit (.failed error.message), ()⟩] ∧
        Extent site options past error := by
  constructor
  · intro past action raises
    simpa using run_upholds.of_raises raises
  · intro story error traced
    simpa using run_upholds.of_traces traced error rfl

end Rollout.Deployment
