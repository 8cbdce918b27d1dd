import Rollout.Deployment.Run
import Rollout.Proofs.Installer.Phase
import Rollout.Proofs.Procedure.Upholds

namespace Rollout.Deployment

open Procedure

/-! What each stage of a deployment asks for and how it ends.

`Action.concern` sorts actions by what they are for.  Each stage keeps to a few
concerns, and the stages whose calls build on one another have their traces spelled
out.
-/

variable {Backend : Type}

abbrev Event (Backend : Type) := (action : Action Backend) × action.Result

/-- All that a deployment asks, in order. -/
abbrev Story (Backend : Type) := List (Event Backend)

inductive Concern where
  | people
  | client
  | clock
  | rest
  | naming
  | catalogue
  | order
  | arrival
  | domain
  | probe
  | shell
  | script
  | ruin
deriving Repr, DecidableEq

def Action.concern : Action Backend → Concern
  | .emit (.plain _) => .people
  | .emit _ => .client
  | .now => .clock
  | .pause _ => .rest
  | .nameSuffix => .naming
  | .provider _ (.createServer _) => .order
  | .provider _ (.awaitServer _) => .arrival
  | .provider _ (.pointDomain ..) => .domain
  | .provider .. => .catalogue
  | .nameservers _ | .registrar _ | .setRecord .. => .domain
  | .dial .. => .probe
  | .connect _ => .shell
  | .command .. | .terminal .. => .script
  | .halt => .ruin

def KeepsTo {α : Type} (concerns : List Concern) (course : Course Backend α) : Prop :=
  course.Asks fun action => action.concern ∈ concerns

section Stories

def Lacks (concern : Concern) (story : Story Backend) : Prop :=
  ∀ event ∈ story, event.1.concern ≠ concern

variable {concern : Concern} {front back : Story Backend}

theorem Lacks.append (before : Lacks concern front) (after : Lacks concern back) :
    Lacks concern (front ++ back) := by
  intro event member
  rcases List.mem_append.mp member with first | second
  · exact before event first
  · exact after event second

theorem Lacks.snoc {event : Event Backend} (before : Lacks concern front)
    (other : event.1.concern ≠ concern) : Lacks concern (front ++ [event]) :=
  before.append (by simpa [Lacks] using other)

theorem lacks_of_keeps {concerns : List Concern}
    (kept : ∀ event ∈ back, event.1.concern ∈ concerns) (apart : concern ∉ concerns) :
    Lacks concern back := by
  intro event member same
  exact apart (same ▸ kept event member)

end Stories

section Footprints

variable {concerns : List Concern} {α β ε ε' : Type}

theorem keepsTo_pure (value : α) : KeepsTo concerns (pure value : Stage Backend ε α).run :=
  asks_run_pure value

theorem keepsTo_query {action : Action Backend} (minds : action.concern ∈ concerns) :
    KeepsTo concerns (query action) :=
  asks_query minds

theorem keepsTo_ask {action : Action Backend} (minds : action.concern ∈ concerns) :
    KeepsTo concerns (ask action : Stage Backend ε _).run :=
  asks_run_lift (asks_query minds)

theorem keepsTo_say {text : String} (minds : .people ∈ concerns) :
    KeepsTo concerns (say text : Stage Backend ε Unit).run :=
  keepsTo_ask minds

theorem keepsTo_perform {provider : Provider Backend} {call : Provider.Call}
    (minds : (Action.provider provider.backend call).concern ∈ concerns) :
    KeepsTo concerns (perform provider call).run :=
  asks_query minds

theorem KeepsTo.asks {course : Course Backend α} (keeps : KeepsTo concerns course) :
    course.Asks fun action => action.concern ∈ concerns :=
  keeps

theorem KeepsTo.of_mem {course : Course Backend α} {story : Story Backend} {value : α}
    (keeps : KeepsTo concerns course) (traced : Traces course story value) :
    ∀ event ∈ story, event.1.concern ∈ concerns :=
  keeps.asks.of_mem traced

theorem KeepsTo.mono {wider : List Concern} {course : Course Backend α}
    (keeps : KeepsTo concerns course) (within : concerns ⊆ wider) : KeepsTo wider course :=
  Asks.mono keeps fun _ minds => within minds

theorem KeepsTo.adapt {stage : Stage Backend ε α} (keeps : KeepsTo concerns stage.run)
    (adapted : ε → ε') : KeepsTo concerns (stage.adapt adapted).run :=
  asks_run_adapt keeps

theorem KeepsTo.lift {course : Course Backend α} (keeps : KeepsTo concerns course) :
    KeepsTo concerns (ExceptT.lift course : Stage Backend ε α).run :=
  asks_run_lift keeps

theorem KeepsTo.then {first : Stage Backend ε α} {second : α → Stage Backend ε β}
    (keeps : KeepsTo concerns first.run) (goesOn : ∀ value, KeepsTo concerns (second value).run) :
    KeepsTo concerns (first >>= second).run :=
  asks_run_bind keeps goesOn

theorem traces_perform_iff {provider : Provider Backend} {call : Provider.Call}
    {story : Story Backend} {answer : Except Provider.Error call.Result} :
    Traces (perform provider call).run story answer ↔
      story = [⟨.provider provider.backend call, answer⟩] :=
  traces_query_iff

theorem traces_perform_ok {provider : Provider Backend} {call : Provider.Call}
    {story : Story Backend} {adapted : Provider.Error → ε} {result : call.Result}
    (traced : Traces ((perform provider call).adapt adapted).run story (.ok result)) :
    story = [⟨.provider provider.backend call, .ok result⟩] :=
  traces_perform_iff.mp (traces_run_adapt_ok_iff.mp traced)

theorem upholds_perform {provider : Provider Backend} {call : Provider.Call} {past : Story Backend}
    {fit : Story Backend → Action Backend → Prop}
    {right : Story Backend → Except Provider.Error call.Result → Prop}
    (isFit : fit past (.provider provider.backend call))
    (isRight : ∀ answer, right (past ++ [⟨.provider provider.backend call, answer⟩]) answer) :
    (perform provider call).run.Upholds fit right past :=
  upholds_query _ isFit isRight

/-- A course that keeps away from a concern asks nothing unfit about it. -/
theorem KeepsTo.upholds_about {concern : Concern} {fit : Story Backend → Action Backend → Prop}
    {right : Story Backend → α → Prop} {past : Story Backend} {course : Course Backend α}
    (keeps : KeepsTo concerns course) (apart : concern ∉ concerns)
    (isRight : ∀ later value, Traces course later value → Lacks concern later →
      right (past ++ later) value) :
    course.Upholds (fun past action => action.concern = concern → fit past action) right past := by
  apply keeps.asks.upholds
  · intro later action minds about
    exact absurd (about ▸ minds) apart
  · intro later value traced
    exact isRight later value traced (lacks_of_keeps (keeps.of_mem traced) apart)

theorem KeepsTo.not_raises {course : Course Backend α} {action : Action Backend} {story : Story Backend}
    (keeps : KeepsTo concerns course) (apart : action.concern ∉ concerns) : ¬ Raises course story action :=
  fun raises => apart (keeps.asks.of_raises raises)

/-- What is raised behind a stage that does not raise it. -/
theorem KeepsTo.raises_then_iff {first : Stage Backend ε α} {second : α → Stage Backend ε β}
    {action : Action Backend} {story : Story Backend} (keeps : KeepsTo concerns first.run)
    (apart : action.concern ∉ concerns) :
    Raises (first >>= second).run story action ↔ ∃ front back value, story = front ++ back ∧
      Traces first.run front (.ok value) ∧ Raises (second value).run back action := by
  rw [raises_run_bind_iff, or_iff_right (keeps.not_raises apart)]

/-- What is raised before stages that do not raise it. -/
theorem raises_before_iff {first : Stage Backend ε α} {second : α → Stage Backend ε β}
    {action : Action Backend} {story : Story Backend} (keeps : ∀ value, KeepsTo concerns (second value).run)
    (apart : action.concern ∉ concerns) :
    Raises (first >>= second).run story action ↔ Raises first.run story action := by
  rw [raises_run_bind_iff, or_iff_left]
  intro parts
  obtain ⟨front, back, value, -, -, raises⟩ := parts
  exact (keeps value).not_raises apart raises

theorem chooseSize_keepsTo (plan : Plan Backend) (options : Options) :
    KeepsTo [.people, .catalogue] (chooseSize plan options).run := by
  unfold chooseSize
  split
  · refine asks_run_bind (asks_run_adapt ?_) fun size => asks_run_bind (keepsTo_say (by simp)) fun _ =>
      asks_run_pure _
    unfold Provider.recommendSize
    split
    · exact keepsTo_perform (by simp [Action.concern])
    · exact asks_run_bind (keepsTo_perform (by simp [Action.concern])) fun _ => asks_pure _
  · exact asks_run_pure _

theorem chooseName_keepsTo (plan : Plan Backend) (options : Options) :
    KeepsTo [.naming] (chooseName plan options).run := by
  unfold chooseName
  split
  · exact asks_run_bind (keepsTo_ask (by simp [Action.concern])) fun _ => asks_run_pure _
  · exact asks_run_pure _

theorem announce_keepsTo (server : Provider.Server) :
    KeepsTo [.people] (announce server : Stage Backend Error Unit).run := by
  unfold announce
  split
  · exact keepsTo_say (by simp)
  · exact asks_run_pure _

theorem provision_keepsTo (plan : Plan Backend) (options : Options) (size : String) :
    KeepsTo [.people, .naming, .order, .arrival] (provision plan options size).run :=
  asks_run_bind ((chooseName_keepsTo plan options).mono (by simp)) fun _ =>
    asks_run_bind (keepsTo_say (by simp)) fun _ =>
    asks_run_bind (asks_run_adapt (keepsTo_perform (by simp [Action.concern]))) fun _ =>
    asks_run_bind (keepsTo_say (by simp)) fun _ =>
    asks_run_bind (asks_run_adapt (keepsTo_perform (by simp [Action.concern]))) fun server =>
    asks_run_bind ((announce_keepsTo server).mono (by simp)) fun _ => asks_run_pure _

theorem detectRoute_keepsTo (provider : Provider Backend) (domain : String) :
    KeepsTo [.domain] (detectRoute provider domain) := by
  refine Asks.bind ?_ fun found => ?_
  · refine asks_run_bind (asks_query (by simp [Action.concern])) fun found => asks_run_bind ?_ fun found => ?_
    · split
      · exact asks_query (by simp [Action.concern])
      · exact asks_run_pure _
    · split
      · exact asks_run_pure _
      · exact asks_run_throw _
  · split <;> exact asks_pure _

theorem chooseRoute_keepsTo (plan : Plan Backend) (options : Options) (domain : String) :
    KeepsTo [.domain] (chooseRoute plan options domain) := by
  unfold chooseRoute
  split
  · exact asks_pure _
  · exact asks_pure _
  · exact asks_pure _
  · exact detectRoute_keepsTo plan.provider domain

theorem setRecords_keepsTo (registrar : Dns.Registrar) (domain : String) (records : List Dns.Record) :
    KeepsTo [.people, .domain] (setRecords registrar domain records : Stage Backend _ Unit).run := by
  induction records with
  | nil => exact asks_run_pure ()
  | cons record rest ih =>
      exact asks_run_bind (asks_query (by simp [Action.concern])) fun _ =>
        asks_run_bind (keepsTo_say (by simp)) fun _ => ih

theorem useRegistrar_keepsTo (plan : Plan Backend) (credentials : Dns.Credentials) (domain : String)
    (address : Address) (context : Template.Context) :
    KeepsTo [.people, .domain] (useRegistrar plan credentials domain address context).run :=
  asks_run_bind (asks_query (by simp [Action.concern])) fun _ =>
    asks_run_bind (setRecords_keepsTo _ domain _) fun _ => asks_run_pure _

theorem concluded_keepsTo (result : Except String String) :
    KeepsTo [.people] (concluded result : Course Backend DnsOutcome) := by
  unfold concluded
  split
  · exact asks_pure _
  · exact Asks.bind (asks_query (by simp [Action.concern])) fun _ => asks_pure _

theorem pointDomain_keepsTo (plan : Plan Backend) (options : Options) (address : Address)
    (context : Template.Context) :
    KeepsTo [.people, .domain] (pointDomain plan options address context) := by
  unfold pointDomain
  dsimp only
  split
  · exact asks_pure _
  · refine Asks.bind ((chooseRoute_keepsTo plan options _).mono (by simp)) fun route => ?_
    have concludes (result : Except String String) :
        KeepsTo [.people, .domain] (concluded result : Course Backend DnsOutcome) :=
      (concluded_keepsTo result).mono (by simp)
    cases route with
    | none reason => exact Asks.bind (asks_query (by simp [Action.concern])) fun _ => asks_pure _
    | provider =>
        exact Asks.bind (asks_query (by simp [Action.concern])) fun _ =>
          Asks.bind (asks_query (by simp [Action.concern])) fun _ => concludes _
    | registrar credentials =>
        exact Asks.bind (useRegistrar_keepsTo plan credentials _ address context) fun _ => concludes _

theorem laterOrHalt_keepsTo (moment time : Nat) :
    KeepsTo [.ruin] (laterOrHalt moment time : Stage Backend Unready Nat).run := by
  unfold laterOrHalt
  split
  · exact asks_run_pure _
  · exact asks_run_bind (keepsTo_ask (by simp [Action.concern])) fun never => nomatch never

theorem attempt_keepsTo (host : Address) (port : UInt16) (patience : Patience) (deadline : Nat)
    (failure : Unready) (attempts moment : Nat) :
    KeepsTo [.rest, .probe, .ruin]
      (attempt host port patience deadline failure attempts moment : Stage Backend Unready Unit).run := by
  induction attempts generalizing moment with
  | zero => exact asks_run_throw _
  | succ attempts ih =>
      refine asks_run_bind (keepsTo_ask (by simp [Action.concern])) fun tried => ?_
      split
      · exact asks_run_pure _
      · refine asks_run_bind ((laterOrHalt_keepsTo _ _).mono (by simp)) fun next => ?_
        split
        · exact asks_run_throw _
        · exact asks_run_bind (keepsTo_ask (by simp [Action.concern])) fun _ => ih next

theorem rest_keepsTo (patience : Patience) :
    KeepsTo [.rest] (patience.rest : Stage Backend Unready Unit).run := by
  unfold Patience.rest
  split
  · exact asks_run_pure _
  · exact keepsTo_ask (by simp [Action.concern])

theorem reach_keepsTo (host : Address) (port : UInt16) (patience : Patience) :
    KeepsTo [.people, .clock, .rest, .probe, .ruin]
      (reach host port patience : Stage Backend Unready Unit).run :=
  asks_run_bind (keepsTo_say (by simp)) fun _ =>
    asks_run_bind (keepsTo_ask (by simp [Action.concern])) fun start =>
    asks_run_bind ((laterOrHalt_keepsTo start _).mono (by simp)) fun deadline =>
    asks_run_bind ((attempt_keepsTo host port patience deadline _ _ _).mono (by simp)) fun _ =>
    asks_run_bind ((rest_keepsTo patience).mono (by simp)) fun _ => keepsTo_say (by simp)

theorem onHost_keepsTo (host : Address) (steps : Installer.Steps α) :
    KeepsTo [.people, .client, .rest, .script] (onHost host steps : Stage Backend _ α).run := by
  apply Asks.interpret (asks_any steps.run)
  intro action _
  cases action with
  | emit line => cases line <;> exact asks_query (by simp [Action.concern])
  | pause time => exact asks_query (by simp [Action.concern])
  | command text => exact asks_query (by simp [Action.concern])
  | terminal command answers => exact asks_query (by simp [Action.concern])

theorem setUpTls_keepsTo (plan : Plan Backend) (options : Options) (address : Address)
    (context : Template.Context) :
    KeepsTo [.people, .client, .rest, .script] (setUpTls plan options address context) := by
  unfold setUpTls
  split
  · refine Asks.bind (asks_query (by simp [Action.concern])) fun _ =>
      Asks.bind (onHost_keepsTo address _) fun result => ?_
    cases result with
    | ok _ => exact asks_pure _
    | error cause => exact Asks.bind (asks_query (by simp [Action.concern])) fun _ => asks_pure _
  · exact asks_pure _

theorem report_keepsTo (lines : List String) :
    KeepsTo [.people] (lines.forM fun text => query (Action.emit (.plain text)) : Course Backend Unit) := by
  induction lines with
  | nil => exact asks_pure _
  | cons text rest ih => exact Asks.bind (asks_query (by simp [Action.concern])) fun _ => ih

theorem conclude_keepsTo (installation : Installation Backend) (options : Options) :
    KeepsTo [.people, .client, .rest, .script] (installation.conclude options) :=
  Asks.bind (setUpTls_keepsTo installation.plan options _ _) fun _ =>
    Asks.bind ((report_keepsTo _).mono (by simp)) fun _ => asks_pure _

end Footprints

section Hosts

variable {α : Type} {story : Story Backend}

def onHostEvent (host : Address) : Installer.Event → Event Backend
  | ⟨.emit line, answer⟩ => ⟨.emit line, answer⟩
  | ⟨.pause time, answer⟩ => ⟨.pause time, answer⟩
  | ⟨.command text, answer⟩ => ⟨.command host text, answer⟩
  | ⟨.terminal command answers, answer⟩ => ⟨.terminal host command answers, answer⟩

theorem traces_onHost {host : Address} {steps : Installer.Steps α}
    {outcome : Except Installer.StepError α}
    (traced : Traces (onHost host steps : Stage Backend _ α).run story outcome) :
    ∃ inner, Traces steps.run inner outcome ∧ story = inner.map (onHostEvent host) := by
  refine Traces.of_interpret ?_ traced
  intro action trace answer replies
  cases action with
  | emit line => exact traces_query_iff.mp replies
  | pause time => exact traces_query_iff.mp replies
  | command text => exact traces_query_iff.mp replies
  | terminal command answers => exact traces_query_iff.mp replies

theorem later?_eq_some {moment time next : Nat} (later : Clock.later? moment time = some next) :
    next = moment + time := by
  unfold Clock.later? at later
  split at later
  · exact (Option.some.inj later).symm
  · cases later

theorem traces_laterOrHalt {moment time : Nat} {story : Story Backend} {outcome : Except Unready Nat}
    (traced : Traces (laterOrHalt moment time : Stage Backend Unready Nat).run story outcome) :
    story = [] ∧ outcome = .ok (moment + time) := by
  unfold laterOrHalt at traced
  cases later : Clock.later? moment time with
  | none =>
      rw [later] at traced
      obtain ⟨never, -⟩ := traces_run_ask_bind_iff.mp traced
      cases never
  | some next =>
      rw [later] at traced
      obtain ⟨rfl, rfl⟩ := traces_run_pure_iff.mp traced
      obtain rfl := later?_eq_some later
      exact ⟨rfl, rfl⟩

/-- A wait for SSH that succeeds ends with an attempt that does. -/
theorem traces_attempt {host : Address} {port : UInt16} {patience : Patience} {deadline : Nat}
    {failure : Unready} {attempts moment : Nat}
    (traced : Traces (attempt host port patience deadline failure attempts moment :
      Stage Backend Unready Unit).run story (.ok ())) :
    ∃ limit tried, tried.isConnected = true ∧ ⟨.dial host port limit, tried⟩ ∈ story := by
  induction attempts generalizing moment story with
  | zero => cases (traces_run_throw_iff.mp traced).2
  | succ attempts ih =>
      obtain ⟨tried, rest, rfl, later⟩ := traces_run_ask_bind_iff.mp traced
      by_cases connected : tried.isConnected = true
      · exact ⟨_, tried, connected, List.mem_cons_self⟩
      · rw [if_neg connected] at later
        obtain ⟨front, back, next, rfl, -, goesOn⟩ := traces_run_bind_ok_iff.mp later
        split at goesOn
        · cases (traces_run_throw_iff.mp goesOn).2
        · obtain ⟨-, back, rfl, again⟩ := traces_run_ask_bind_iff.mp goesOn
          obtain ⟨limit, last, succeeds, member⟩ := ih again
          exact ⟨limit, last, succeeds, by simp [member]⟩

theorem traces_reach {host : Address} {port : UInt16} {patience : Patience}
    (traced : Traces (reach host port patience : Stage Backend Unready Unit).run story (.ok ())) :
    ∃ limit tried, tried.isConnected = true ∧ ⟨.dial host port limit, tried⟩ ∈ story := by
  obtain ⟨-, back, rfl, starts⟩ := traces_run_ask_bind_iff.mp traced
  obtain ⟨start, back, rfl, sets⟩ := traces_run_ask_bind_iff.mp starts
  obtain ⟨front, back, deadline, rfl, -, tries⟩ := traces_run_bind_ok_iff.mp sets
  obtain ⟨middle, back, _, rfl, attempts, -⟩ := traces_run_bind_ok_iff.mp tries
  obtain ⟨limit, tried, succeeds, member⟩ := traces_attempt attempts
  exact ⟨limit, tried, succeeds, by simp [member]⟩

end Hosts

-- Unfolding it on a stage would run the stage.
attribute [irreducible] KeepsTo

theorem install_keepsTo (site : Site Backend) (plan : Plan Backend) (options : Options) (size : String)
    (server : Provider.Server) (address : Address) :
    KeepsTo [.people, .client, .clock, .rest, .domain, .probe, .shell, .script, .ruin]
      (install site plan options size server address).run := by
  unfold install
  apply ((pointDomain_keepsTo plan options address _).mono (by simp)).lift.then
  intro dns
  apply (((reach_keepsTo address site.sshPort site.patience).mono (by simp)).adapt _).then
  intro _
  apply (keepsTo_ask (by simp [Action.concern])).then
  intro _
  apply (keepsTo_say (by simp)).then
  intro _
  apply (((onHost_keepsTo address _).mono (by simp)).adapt _).then
  intro _
  exact keepsTo_pure _

section Installing

variable {site : Site Backend} {options : Options} {plan : Plan Backend}

theorem installed_of_plan (planned : Deployment.plan site options = .ok plan) :
    installed site options = (do
      let size ← chooseSize plan options
      let server ← provision plan options size
      match server.address with
      | none => throw (.notReady (.noAddress server.id))
      | some address => install site plan options size server address) := by
  unfold installed
  rw [planned]
  rfl

theorem installed_of_error {cause : Misconfiguration}
    (refused : Deployment.plan site options = .error cause) :
    installed site options = throw (.configuration cause) := by
  unfold installed
  rw [refused]
  rfl

end Installing

end Rollout.Deployment
