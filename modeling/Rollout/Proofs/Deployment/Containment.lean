import Rollout.Proofs.Deployment.Stages
import Rollout.Proofs.Procedure.Parallel

namespace Rollout.Deployment

open Procedure

/-! What DNS and TLS can change of a deployment.

Two deployments with the same options are compared, of which each has its own luck with
DNS and its own clock.  Whatever else their surroundings answer alike, they also ask
alike, and they end alike up to the outcome for DNS.
-/

variable {Backend : Type}

def Concern.isShared : Concern → Bool
  | people | client | clock | domain => false
  | rest | naming | catalogue | order | arrival | probe | shell | script | ruin => true

def Action.isShared (action : Action Backend) : Bool := action.concern.isShared

/-- All that is asked outside DNS, and the answers. -/
def shared (story : Story Backend) : Story Backend := visible Action.isShared story

section Parts

variable {α ε : Type}

theorem shared_or_subsingleton {action : Action Backend} (timeless : action.concern ≠ .clock)
    (apart : action.concern ≠ .domain) : action.isShared = true ∨ Subsingleton action.Result := by
  cases action with
  | emit line => exact .inr (inferInstanceAs (Subsingleton Unit))
  | now => exact absurd rfl timeless
  | nameservers domain => exact absurd rfl apart
  | registrar credentials => exact absurd rfl apart
  | setRecord registrar domain record => exact absurd rfl apart
  | provider backend call => cases call <;> first | exact .inl rfl | exact absurd rfl apart
  | pause time => exact .inl rfl
  | nameSuffix => exact .inl rfl
  | dial host port limit => exact .inl rfl
  | connect host => exact .inl rfl
  | command host text => exact .inl rfl
  | terminal host command answers => exact .inl rfl
  | halt => exact .inl rfl

theorem KeepsTo.parallel_self {concerns : List Concern} {course : Course Backend α}
    (keeps : KeepsTo concerns course) (timeless : .clock ∉ concerns) (apart : .domain ∉ concerns) :
    Parallel Action.isShared Eq course course := by
  apply keeps.asks.parallel_self
  intro action minds
  apply shared_or_subsingleton
  · exact fun same => timeless (same ▸ minds)
  · exact fun same => apart (same ▸ minds)

theorem KeepsTo.parallel_run {concerns : List Concern} {stage : Stage Backend ε α}
    (keeps : KeepsTo concerns stage.run) (timeless : .clock ∉ concerns) (apart : .domain ∉ concerns) :
    Parallel Action.isShared (SameOutcome Eq) stage.run stage.run :=
  (keeps.parallel_self timeless apart).mono fun _ _ same => sameOutcome_of_eq same

theorem ask_parallel (action : Action Backend) (timeless : action.concern ≠ .clock)
    (apart : action.concern ≠ .domain) :
    Parallel Action.isShared (SameOutcome Eq) (ask action : Stage Backend ε _).run (ask action).run := by
  have keeps : KeepsTo [action.concern] (ask action : Stage Backend ε _).run := keepsTo_ask (by simp)
  exact keeps.parallel_run (by simpa using timeless.symm) (by simpa using apart.symm)

theorem say_parallel (text : String) :
    Parallel Action.isShared (SameOutcome Eq) (say text : Stage Backend ε Unit).run (say text).run :=
  ask_parallel (.emit (.plain text)) (by simp [Action.concern]) (by simp [Action.concern])

theorem KeepsTo.parallel_hidden {β : Type} {concerns : List Concern} {first : Course Backend α}
    {second : Course Backend β} (keeps : KeepsTo concerns first) (keeps' : KeepsTo concerns second)
    (hidden : ∀ concern ∈ concerns, concern.isShared = false) :
    Parallel Action.isShared (fun _ _ => True) first second :=
  (keeps.asks.mono fun action minds => hidden action.concern minds).parallel_hidden
    (keeps'.asks.mono fun action minds => hidden action.concern minds) fun _ _ _ _ _ _ => trivial

theorem laterOrHalt_parallel (moment moment' time : Nat) :
    Parallel Action.isShared (SameOutcome fun next next' => next = moment + time ∧ next' = moment' + time)
      (laterOrHalt moment time : Stage Backend Unready Nat).run (laterOrHalt moment' time).run := by
  intro story story' outcome outcome' traced traced' _
  obtain ⟨rfl, rfl⟩ := traces_laterOrHalt traced
  obtain ⟨rfl, rfl⟩ := traces_laterOrHalt traced'
  exact ⟨rfl, .ok ⟨rfl, rfl⟩⟩

/-- Attempts depend on the time that is left, not on the moment. -/
theorem attempt_parallel (host : Address) (port : UInt16) (patience : Patience) (failure : Unready)
    (attempts left moment moment' : Nat) :
    Parallel Action.isShared (SameOutcome Eq)
      (attempt host port patience (moment + left) failure attempts moment :
        Stage Backend Unready Unit).run
      (attempt host port patience (moment' + left) failure attempts moment').run := by
  induction attempts generalizing left moment moment' with
  | zero => exact parallel_run_throw
  | succ attempts ih =>
      unfold attempt
      rw [Nat.add_sub_cancel_left, Nat.add_sub_cancel_left]
      apply parallel_run_bind (ask_parallel _ (by simp [Action.concern]) (by simp [Action.concern]))
      rintro tried _ rfl
      by_cases connected : tried.isConnected = true
      · rw [if_pos connected, if_pos connected]
        exact parallel_run_pure rfl
      · rw [if_neg connected, if_neg connected]
        apply parallel_run_bind (laterOrHalt_parallel _ _ _)
        rintro next next' ⟨rfl, rfl⟩
        -- Both runs have as much time left, so they give up together.
        by_cases late : tried.time + patience.retry ≥ left
        · rw [if_pos (by omega), if_pos (by omega)]
          exact parallel_run_throw
        · rw [if_neg (by omega), if_neg (by omega)]
          apply parallel_run_bind (ask_parallel _ (by simp [Action.concern]) (by simp [Action.concern]))
          rintro _ _ _
          obtain ⟨rest, enough⟩ := Nat.exists_eq_add_of_le (Nat.le_of_not_le late)
          have ends (moment : Nat) :
              moment + left = moment + tried.time + patience.retry + rest := by omega
          rw [ends moment, ends moment']
          exact ih rest _ _

theorem reach_parallel (host : Address) (port : UInt16) (patience : Patience) :
    Parallel Action.isShared (SameOutcome Eq)
      (reach host port patience : Stage Backend Unready Unit).run (reach host port patience).run := by
  have telling : KeepsTo [.clock] (query Action.now : Course Backend Nat) :=
    keepsTo_query (by simp [Action.concern])
  unfold reach
  apply parallel_run_bind (say_parallel _)
  rintro _ _ _
  apply parallel_run_bind
    (parallel_run_lift (telling.parallel_hidden telling (by simp [Concern.isShared])))
  rintro start start' _
  apply parallel_run_bind (laterOrHalt_parallel start start' _)
  rintro deadline deadline' ⟨rfl, rfl⟩
  apply parallel_run_bind (attempt_parallel host port patience _ _ _ start start')
  rintro _ _ _
  apply parallel_run_bind ((rest_keepsTo patience).parallel_run (by simp) (by simp))
  rintro _ _ _
  exact say_parallel _

end Parts

variable {site : Site Backend} {options : Options}

theorem install_parallel (plan : Plan Backend) (size : String) (server : Provider.Server)
    (address : Address) :
    Parallel Action.isShared
      (SameOutcome fun installation installation' : Installation Backend =>
        installation' = { installation with dns := installation'.dns })
      (install site plan options size server address).run
      (install site plan options size server address).run := by
  unfold install
  have pointing := pointDomain_keepsTo plan options address
    (options.contextOn size (options.host address) server address plan.answers)
  apply parallel_run_bind
    (parallel_run_lift (pointing.parallel_hidden pointing (by simp [Concern.isShared])))
  rintro dns dns' _
  apply parallel_run_bind (parallel_run_adapt (reach_parallel address site.sshPort site.patience))
  rintro _ _ _
  apply parallel_run_bind
    (ask_parallel (.connect address) (by simp [Action.concern]) (by simp [Action.concern]))
  rintro _ _ _
  apply parallel_run_bind (say_parallel _)
  rintro _ _ _
  apply parallel_run_bind
    (parallel_run_adapt ((onHost_keepsTo address _).parallel_run (by simp) (by simp)))
  rintro _ _ _
  exact parallel_run_pure rfl

theorem installed_parallel :
    Parallel Action.isShared
      (SameOutcome fun installation installation' : Installation Backend =>
        installation' = { installation with dns := installation'.dns })
      (installed site options).run (installed site options).run := by
  unfold installed
  cases planned : Deployment.plan site options with
  | error cause => exact parallel_pure (.error _)
  | ok plan =>
      -- A plan is made without asking anything, so it is the same in both runs.
      have ready : Parallel Action.isShared (SameOutcome Eq)
          (pure plan : Stage Backend Error (Plan Backend)).run
          (pure plan : Stage Backend Error (Plan Backend)).run := parallel_run_pure rfl
      apply parallel_run_bind ready
      rintro plan _ rfl
      apply parallel_run_bind ((chooseSize_keepsTo plan options).parallel_run (by simp) (by simp))
      rintro size _ rfl
      apply parallel_run_bind ((provision_keepsTo plan options size).parallel_run (by simp) (by simp))
      rintro server _ rfl
      cases addressed : server.address with
      | none =>
          simp only
          exact parallel_run_throw
      | some address =>
          simp only
          exact install_parallel plan size server address

theorem conclude_parallel {installation installation' : Installation Backend}
    (same : installation' = { installation with dns := installation'.dns }) :
    Parallel Action.isShared
      (fun summary summary' : Summary => summary' = { summary with dns := summary'.dns })
      (installation.conclude options) (installation'.conclude options) := by
  rw [same]
  unfold Installation.conclude
  apply Parallel.bind ((setUpTls_keepsTo installation.plan options _ _).parallel_self (by simp) (by simp))
  rintro tls _ rfl
  apply Parallel.bind
    ((report_keepsTo _).parallel_hidden (report_keepsTo _) (by simp [Concern.isShared]))
  rintro _ _ _
  exact parallel_pure rfl

theorem run_parallel :
    Parallel Action.isShared
      (SameOutcome fun summary summary' : Summary => summary' = { summary with dns := summary'.dns })
      (run site options) (run site options) := by
  apply Parallel.bind
    (parallel_run_bind installed_parallel fun _ _ same => parallel_run_lift (conclude_parallel same))
  intro outcome outcome' same
  have telling (line : Progress.Line) :
      KeepsTo [.people, .client] (query (Action.emit line) : Course Backend Unit) := by
    cases line <;> exact keepsTo_query (by simp [Action.concern])
  apply Parallel.bind
    ((telling _).parallel_hidden (telling _) (by simp [Concern.isShared]))
  rintro _ _ _
  exact parallel_pure same

theorem conclude_summary {installation : Installation Backend} {story : Story Backend}
    {summary : Summary} (traced : Traces (installation.conclude options) story summary) :
    ∃ tls, summary = installation.summary options tls := by
  obtain ⟨_, back, tls, -, -, reports⟩ := traces_bind_iff.mp traced
  obtain ⟨_, _, _, -, -, ends⟩ := traces_bind_iff.mp reports
  exact ⟨tls, (traces_pure_iff.mp ends).2⟩

/-- Once the application is installed, a deployment only sets up TLS and tells what came
of it. -/
theorem traces_after_installed {past later : Story Backend} {installation : Installation Backend}
    {outcome : Except Error Summary}
    (installs : Traces (installed site options).run past (.ok installation))
    (traced : Traces (run site options) (past ++ later) outcome) :
    (∃ tls, outcome = .ok (installation.summary options tls)) ∧
      ∀ event ∈ later, event.1.concern ∈ [.people, .client, .rest, .script] := by
  unfold run deploy at traced
  rw [ExceptT.run_bind, LawfulMonad.bind_assoc] at traced
  have rest := installs.rest_of_bind traced
  obtain ⟨front, back, result, rfl, lifted, tells⟩ := traces_bind_iff.mp rest
  obtain ⟨summary, rfl, concludes⟩ := traces_run_lift_iff.mp lifted
  obtain ⟨emits, ends, _, rfl, emit, stops⟩ := traces_bind_iff.mp tells
  obtain ⟨rfl, rfl⟩ := traces_pure_iff.mp stops
  obtain rfl := traces_query_iff.mp emit
  have within := (conclude_keepsTo installation options).of_mem concludes
  obtain ⟨tls, summed⟩ := conclude_summary concludes
  refine ⟨⟨tls, congrArg Except.ok summed⟩, ?_⟩
  intro event member
  rcases List.mem_append.mp member with before | last
  · exact within event before
  · simp only [List.append_nil, List.mem_singleton] at last
    subst last
    simp [outcomeLine, Action.concern]

/-- Two deployments with the same options that get the same answers outside DNS ask the
same there, and they end alike but for the outcome for DNS.  What TLS comes to only shows
in the summary of a deployment that has succeeded. -/
theorem dns_and_tls_contained (site : Site Backend) (options : Options) :
    (∀ story story' outcome outcome', Traces (run site options) story outcome →
      Traces (run site options) story' outcome' → Concordant (shared story) (shared story') →
      shared story = shared story' ∧
        ∃ dns, outcome' = outcome.map fun summary => { summary with dns }) ∧
    ∀ past installation later outcome,
      Traces (installed site options).run past (.ok installation) →
      Traces (run site options) (past ++ later) outcome →
      (∃ tls, outcome = .ok (installation.summary options tls)) ∧
        ∀ event ∈ later, event.1.concern ∈ [.people, .client, .rest, .script] := by
  constructor
  · intro story story' outcome outcome' traced traced' concordant
    obtain ⟨same, ends⟩ := run_parallel _ _ _ _ traced traced' concordant
    refine ⟨same, ?_⟩
    cases ends with
    | error error => exact ⟨.skipped "", rfl⟩
    | @ok summary summary' differs => exact ⟨summary'.dns, congrArg Except.ok differs⟩
  · intro past installation later outcome installs traced
    exact traces_after_installed installs traced

end Rollout.Deployment
