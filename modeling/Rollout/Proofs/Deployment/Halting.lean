import Rollout.CommandLine.Run
import Rollout.Proofs.Deployment.Authority
import Rollout.Proofs.Deployment.Outcome
import Rollout.Proofs.Deployment.Reaching

namespace Rollout.Deployment

open Procedure

/-! Where a deployment breaks off without an outcome.

Only the wait for SSH computes moments that the clock may not show, and it follows upon the
arrival of the server.  The settings of a wait are bounded below only, so some that are accepted
lead there.
-/

variable {Backend : Type} {ε α : Type} {story : Story Backend}

theorem raises_after_ask {action raised : Action Backend} {answer : action.Result}
    {next : action.Result → Stage Backend ε α} (raises : Raises (next answer).run story raised) :
    Raises (ask action >>= next).run (⟨action, answer⟩ :: story) raised :=
  .later raises

section Waits

variable {host : Address} {port : UInt16} {patience : Patience} {start : Nat}

/-- Where a wait that begins at a moment breaks off: at its deadline, or behind an attempt that
failed, if the clock cannot show what comes then. -/
inductive BreaksOffAt (host : Address) (port : UInt16) (patience : Patience) (start : Nat) :
    Story Backend → Prop where
  | deadline (beyond : Clock.later? start patience.timeout = none) :
      BreaksOffAt host port patience start (waited host port patience.retry start [])
  | retry {before : List Dial} {last : Dial} (shown : Clock.later? start patience.timeout ≠ none)
      (knocks : Knocks patience.retry patience.timeout before last)
      (failed : last.tried.isConnected = false)
      (beyond : Clock.later? (start + (Dial.spent patience.retry before + last.tried.time))
        patience.retry = none) :
      BreaksOffAt host port patience start
        (waited host port patience.retry start before ++ [last.event host port])

theorem later?_eq_none_iff {moment time : Nat} :
    Clock.later? moment time = none ↔ Clock.limitSeconds ≤ (moment + time) / 1000 := by
  simp [Clock.later?]

theorem later?_of_earlier {moment time later : Nat} (shown : Clock.later? moment time ≠ none)
    (earlier : later ≤ moment + time) : later / 1000 < Clock.limitSeconds := by
  rw [ne_eq, later?_eq_none_iff, Nat.not_le] at shown
  exact Nat.lt_of_le_of_lt (Nat.div_le_div_right earlier) shown

theorem laterOrHalt_of_shown {moment time : Nat} (shown : (moment + time) / 1000 < Clock.limitSeconds) :
    (laterOrHalt moment time : Stage Backend Unready Nat) = pure (moment + time) := by
  simp [laterOrHalt, Clock.later?, shown]

theorem raises_laterOrHalt {moment time : Nat} (beyond : Clock.later? moment time = none) :
    Raises (laterOrHalt moment time : Stage Backend Unready Nat).run [] .halt := by
  unfold laterOrHalt
  rw [beyond]
  exact .now

/-- What is left of failures is a wait that may go on. -/
theorem Knocks.spent_lt {retry time : Nat} {before later : List Dial} {dial last : Dial}
    (knocks : Knocks retry time (before ++ dial :: later) last) :
    Dial.spent retry before + dial.tried.time + retry < time := by
  have early := knocks.pauses before dial later rfl
  rwa [Dial.spent_snoc] at early

theorem Knocks.spent_before_le {retry time : Nat} {before later : List Dial} {last : Dial}
    (knocks : Knocks retry time (before ++ later) last) : Dial.spent retry before ≤ time := by
  cases later with
  | nil => simpa using knocks.spent_le
  | cons dial later =>
      have early := knocks.spent_lt
      omega

/-- The induction is on the attempts that are still to come before the last one. -/
theorem raises_attempt {attempts : Nat} {before later : List Dial} {last : Dial} {failure : Unready}
    (shown : Clock.later? start patience.timeout ≠ none)
    (knocks : Knocks patience.retry patience.timeout (before ++ later) last)
    (failed : last.tried.isConnected = false)
    (beyond : Clock.later? (start + (Dial.spent patience.retry (before ++ later) + last.tried.time))
      patience.retry = none)
    (enough : patience.timeout < Dial.spent patience.retry before + attempts * patience.retry) :
    Raises (attempt host port patience (start + patience.timeout) failure attempts
        (start + Dial.spent patience.retry before) : Stage Backend Unready Unit).run
      (Dial.failures host port patience.retry later ++ [last.event host port]) .halt := by
  induction later generalizing before attempts with
  | nil =>
      rw [List.append_nil] at knocks beyond
      cases attempts with
      | zero =>
          have within := knocks.spent_le
          omega
      | succ attempts =>
          unfold attempt
          rw [Nat.add_sub_add_left]
          obtain ⟨limit, tried⟩ := last
          obtain rfl : limit = _ := knocks.limit
          apply raises_after_ask
          rw [if_neg (by simpa using failed)]
          refine raises_run_bind_iff.mpr (.inl (raises_laterOrHalt ?_))
          rwa [Nat.add_assoc]
  | cons dial later ih =>
      cases attempts with
      | zero =>
          have within := knocks.spent_before_le
          omega
      | succ attempts =>
          have apart := knocks.failed dial (by simp)
          obtain ⟨limit, tried⟩ := dial
          obtain rfl : limit = _ := knocks.limits before _ later rfl
          have early := knocks.spent_lt
          have spent := Dial.spent_snoc patience.retry before ⟨_, tried⟩
          dsimp only at early spent
          unfold attempt
          rw [Nat.add_sub_add_left]
          apply raises_after_ask
          dsimp only
          rw [if_neg (by simpa using apart), laterOrHalt_of_shown, pure_bind, if_neg]
          · apply raises_after_ask
            rw [List.append_cons] at knocks beyond
            have next : start + Dial.spent patience.retry before + tried.time + patience.retry =
                start + Dial.spent patience.retry (before ++ [⟨_, tried⟩]) := by
              omega
            rw [next]
            apply ih knocks beyond
            rw [Nat.succ_mul] at enough
            omega
          · omega
          · exact later?_of_earlier shown (by omega)

theorem raises_reach (positive : 0 < patience.retry)
    (breaks : BreaksOffAt host port patience start story) :
    Raises (reach host port patience : Stage Backend Unready Unit).run story .halt := by
  cases breaks with
  | deadline beyond =>
      apply raises_after_ask
      apply raises_after_ask
      exact raises_run_bind_iff.mpr (.inl (raises_laterOrHalt beyond))
  | @retry before last shown knocks failed beyond =>
      apply raises_after_ask
      apply raises_after_ask
      have deadline := later?_of_earlier shown (Nat.le_refl _)
      rw [laterOrHalt_of_shown deadline, pure_bind]
      refine raises_run_bind_iff.mpr (.inl ?_)
      have enough : patience.timeout <
          Dial.spent patience.retry [] + patience.attempts * patience.retry := by
        rw [Dial.spent, Nat.zero_add]
        exact Patience.attempts_enough positive
      have all : Knocks patience.retry patience.timeout ([] ++ before) last := knocks
      exact raises_attempt shown all failed beyond enough

/-- The first thing after a wait's beginning is an attempt. -/
theorem waited_begins (host : Address) (port : UInt16) (retry start : Nat) (before : List Dial)
    (last : Dial) : ∃ (dial : Dial) (back : Story Backend),
      waited host port retry start before ++ [last.event host port] =
        waited host port retry start [] ++ dial.event host port :: back := by
  cases before with
  | nil => exact ⟨last, [], rfl⟩
  | cons dial later => exact ⟨dial, _, rfl⟩

/-- A wait breaks off just there, whatever moment it begins at. -/
theorem raises_reach_iff (positive : 0 < patience.retry) :
    Raises (reach host port patience : Stage Backend Unready Unit).run story .halt ↔
      ∃ start, BreaksOffAt host port patience start story := by
  constructor
  · intro raises
    have breaks : BreaksOff host port patience story := (reach_upholds positive).of_raises raises rfl
    cases breaks with
    | @deadline start beyond => exact ⟨start, .deadline beyond⟩
    | @retry start before last knocks failed beyond =>
        refine ⟨start, .retry ?_ knocks failed beyond⟩
        intro hidden
        have sooner : Raises (reach host port patience : Stage Backend Unready Unit).run
            (waited host port patience.retry start []) .halt := raises_reach positive (.deadline hidden)
        obtain ⟨dial, back, begins⟩ := waited_begins host port patience.retry start before last
        rw [begins] at raises
        cases sooner.question_of_longer raises
  · intro breaks
    obtain ⟨start, breaks⟩ := breaks
    exact raises_reach positive breaks

section Bounds

theorem BreaksOffAt.told (breaks : BreaksOffAt host port patience start story) :
    ⟨.now, start⟩ ∈ story := by
  cases breaks with
  | deadline beyond => simp [waited]
  | retry shown knocks failed beyond => simp [waited]

/-- No moment of a wait is later than its deadline by more than a pause. -/
theorem BreaksOffAt.far (breaks : BreaksOffAt host port patience start story) :
    Clock.limitSeconds ≤ (start + patience.timeout + patience.retry) / 1000 := by
  cases breaks with
  | deadline beyond =>
      rw [later?_eq_none_iff] at beyond
      omega
  | retry shown knocks failed beyond =>
      have within := knocks.within
      rw [later?_eq_none_iff] at beyond
      omega

/-- An attempt that is refused at once. -/
def refused (patience : Patience) : Dial where
  limit := min patience.timeout attemptLimit
  tried := { isConnected := false, time := 0, time_le := Nat.zero_le _ }

theorem refused_knocks (patience : Patience) :
    Knocks patience.retry patience.timeout [] (refused patience) :=
  { Failures.none with limit := by simp [refused, Dial.spent] }

/-- Where the clock cannot show the end of the first pause, a first attempt that is refused ends
the deployment. -/
theorem refused_breaksOffAt (shown : (start + patience.timeout) / 1000 < Clock.limitSeconds)
    (beyond : Clock.limitSeconds ≤ (start + patience.retry) / 1000) :
    BreaksOffAt host port patience start
      (waited host port patience.retry start [] ++ [(refused patience).event host port] :
        Story Backend) := by
  apply BreaksOffAt.retry
  · rw [ne_eq, later?_eq_none_iff]
    omega
  · exact refused_knocks patience
  · rfl
  · exact later?_eq_none_iff.mpr beyond

theorem Ended.begins {before : List Dial} {last : Dial} {outcome : Except Unready Unit}
    (ended : Ended host port patience start before last story outcome) : ∃ after,
      story = waited host port patience.retry start before ++ [last.event host port] ++ after := by
  cases ended with
  | reached connected => exact ⟨_, List.append_assoc ..⟩
  | givenUp failed least most => exact ⟨[], (List.append_nil _).symm⟩

/-- A wait that comes to an end began when its deadline could be shown. -/
theorem shown_of_traces (positive : 0 < patience.retry) {outcome : Except Unready Unit}
    (traced : Traces (reach host port patience : Stage Backend Unready Unit).run story outcome) :
    ∃ start, ⟨.now, start⟩ ∈ story ∧ (start + patience.timeout) / 1000 < Clock.limitSeconds := by
  obtain ⟨start, before, last, -, ended⟩ := (reach_upholds positive).of_traces traced
  obtain ⟨after, rfl⟩ := ended.begins
  obtain ⟨dial, back, begins⟩ := waited_begins host port patience.retry start before last
  rw [begins, List.append_assoc, List.cons_append] at traced ⊢
  refine ⟨start, by simp [waited], ?_⟩
  apply Nat.lt_of_not_le
  intro hidden
  have sooner : Raises (reach host port patience : Stage Backend Unready Unit).run
      (waited host port patience.retry start []) .halt :=
    raises_reach positive (.deadline (later?_eq_none_iff.mpr hidden))
  cases sooner.question_of_traces traced

end Bounds

end Waits

section Runs

variable {site : Site Backend} {options : Options} {plan : Plan Backend} {target : Target Backend}
  {size : String} {server : Provider.Server} {address : Address}

/-- All that a deployment has asked when it comes to wait for its server. -/
inductive Awaits (site : Site Backend) (options : Options) (target : Target Backend) :
    Story Backend → Prop where
  | intro {size : String} {server : Provider.Server} {sizing providing pointing : Story Backend}
      {dns : DnsOutcome} (planned : Deployment.plan site options = .ok target.plan)
      (sizes : Traces (chooseSize target.plan options).run sizing (.ok size))
      (provides : Traces (provision target.plan options size).run providing (.ok server))
      (addressed : server.address = some target.address)
      (filled : target.context = options.contextOn size (options.host target.address) server
        target.address target.plan.answers)
      (points : Traces (pointDomain target.plan options target.address target.context) pointing dns) :
      Awaits site options target (sizing ++ (providing ++ pointing))

theorem halts_install_iff : Raises (install site plan options size server address).run story .halt ↔
    ∃ pointing waiting dns, story = pointing ++ waiting ∧
      Traces (pointDomain plan options address (options.contextOn size (options.host address) server
        address plan.answers)) pointing dns ∧
      Raises (reach address site.sshPort site.patience : Stage Backend Unready Unit).run waiting .halt := by
  unfold install
  dsimp only
  generalize options.contextOn size (options.host address) server address plan.answers = context
  have settles (dns : DnsOutcome) : KeepsTo [.shell, .people, .client, .rest, .script] (do
      ask (.connect address)
      say s!"Installing {plan.spec.app}"
      let _ ← (onHost address (plan.spec.runPhase .install context)).adapt Error.ofStep
      pure { plan, size, server, address, context, dns } : Stage Backend Error (Installation Backend)).run := by
    apply KeepsTo.then (keepsTo_ask (by simp [Action.concern]))
    intro _
    apply KeepsTo.then (keepsTo_say (by simp))
    intro _
    apply KeepsTo.then (((onHost_keepsTo address _).mono (by simp)).adapt _)
    intro _
    exact keepsTo_pure _
  rw [(pointDomain_keepsTo plan options address context).lift.raises_then_iff (by simp [Action.concern])]
  constructor
  · intro parts
    obtain ⟨pointing, waiting, dns, rfl, points, raises⟩ := parts
    have waits := raises_run_adapt_iff.mp
      ((raises_before_iff (fun _ => settles dns) (by simp [Action.concern])).mp raises)
    obtain ⟨_, same, points⟩ := traces_run_lift_iff.mp points
    exact ⟨pointing, waiting, _, rfl, points, waits⟩
  · intro parts
    obtain ⟨pointing, waiting, dns, rfl, points, waits⟩ := parts
    refine ⟨pointing, waiting, dns, rfl, traces_run_lift_iff.mpr ⟨dns, rfl, points⟩, ?_⟩
    exact (raises_before_iff (fun _ => settles dns) (by simp [Action.concern])).mpr
      (raises_run_adapt_iff.mpr waits)

theorem halts_installed_iff : Raises (installed site options).run story .halt ↔
    ∃ target before waiting, Awaits site options target before ∧ story = before ++ waiting ∧
      Raises (reach target.address site.sshPort site.patience : Stage Backend Unready Unit).run
        waiting .halt := by
  constructor
  · intro raises
    cases planned : Deployment.plan site options with
    | error cause =>
        rw [installed_of_error planned] at raises
        exact absurd raises not_raises_run_throw
    | ok plan =>
        rw [installed_of_plan planned] at raises
        obtain ⟨sizing, _, size, rfl, sizes, raises⟩ :=
          ((chooseSize_keepsTo plan options).raises_then_iff (by simp [Action.concern])).mp raises
        obtain ⟨providing, _, server, rfl, provides, raises⟩ :=
          ((provision_keepsTo plan options size).raises_then_iff (by simp [Action.concern])).mp raises
        cases addressed : server.address with
        | none =>
            rw [addressed] at raises
            exact absurd raises not_raises_run_throw
        | some address =>
            rw [addressed] at raises
            obtain ⟨pointing, waiting, dns, rfl, points, waits⟩ := halts_install_iff.mp raises
            let target : Target Backend := ⟨plan, address,
              options.contextOn size (options.host address) server address plan.answers⟩
            have awaits : Awaits site options target (sizing ++ (providing ++ pointing)) :=
              .intro planned sizes provides addressed rfl points
            exact ⟨target, _, waiting, awaits, by simp, waits⟩
  · intro parts
    obtain ⟨target, _, waiting, ⟨planned, sizes, provides, addressed, filled, points⟩, rfl, waits⟩ :=
      parts
    rw [installed_of_plan planned, List.append_assoc, List.append_assoc]
    refine raises_run_bind_iff.mpr (.inr ⟨_, _, _, rfl, sizes, ?_⟩)
    refine raises_run_bind_iff.mpr (.inr ⟨_, _, _, rfl, provides, ?_⟩)
    rw [addressed]
    rw [filled] at points
    exact halts_install_iff.mpr ⟨_, waiting, _, rfl, points, waits⟩

theorem halts_run_iff : Raises (run site options) story .halt ↔ ∃ target before waiting,
    Awaits site options target before ∧ story = before ++ waiting ∧
      Raises (reach target.address site.sshPort site.patience : Stage Backend Unready Unit).run
        waiting .halt := by
  rw [← halts_installed_iff]
  unfold run deploy
  rw [raises_bind_iff, raises_before_iff (fun installation =>
    (conclude_keepsTo installation options).lift) (by simp [Action.concern]), or_iff_left]
  intro parts
  obtain ⟨front, back, outcome, -, -, tells⟩ := parts
  obtain early | ⟨_, _, _, -, -, late⟩ := raises_bind_iff.mp tells
  · cases (raises_query_iff.mp early).2
  · exact not_raises_pure late

/-- The server is there before its deployment breaks off. -/
theorem Awaits.arrived {before : Story Backend} (awaits : Awaits site options target before) :
    target.Arrived site options before := by
  obtain ⟨planned, sizes, provides, addressed, filled, points⟩ := awaits
  obtain ⟨name, created, ordered, reported⟩ := traces_provision provides
  refine ⟨planned, _, name, created, _, ?_, ?_, addressed, filled⟩
  · exact List.mem_append_right _ (List.mem_append_left _ ordered)
  · exact List.mem_append_right _ (List.mem_append_left _ reported)

/-- Nothing is told to clients before the wait. -/
theorem Awaits.lacks_client {before : Story Backend} (awaits : Awaits site options target before) :
    Lacks .client before := by
  obtain ⟨planned, sizes, provides, addressed, filled, points⟩ := awaits
  apply Lacks.append
  · exact lacks_of_keeps ((chooseSize_keepsTo _ _).of_mem sizes) (by simp)
  · apply Lacks.append
    · exact lacks_of_keeps ((provision_keepsTo _ _ _).of_mem provides) (by simp)
    · exact lacks_of_keeps ((pointDomain_keepsTo _ _ _ _).of_mem points) (by simp)

theorem not_isOutcome_of_lacks (silent : Lacks .client story) :
    ∀ line ∈ emitted story, line.isOutcome = false := by
  intro line member
  obtain ⟨event, among, emits⟩ := List.mem_filterMap.mp member
  apply Bool.eq_false_iff.mpr
  intro ends
  apply silent event among
  rw [action_of_line? emits, concern_emit (Progress.isControl_of_isOutcome ends)]

/-- A deployment that breaks off has told no outcome. -/
theorem told_nothing_of_halts (raises : Raises (run site options) story .halt) :
    ∀ line ∈ emitted story, line.isOutcome = false := by
  obtain ⟨target, before, waiting, awaits, rfl, waits⟩ := halts_run_iff.mp raises
  apply not_isOutcome_of_lacks
  apply awaits.lacks_client.append
  exact lacks_of_keeps ((reach_keepsTo _ _ _).asks.of_mem_raises waits) (by simp)

/-- Surroundings that answer everything lead a deployment to an outcome, unless it breaks off. -/
theorem run_goesOn {State : Type}
    {reply : State → (action : Action Backend) → Option (action.Result × State)}
    (answers : ∀ state action, reply state action = none → action = .halt) (state : State) :
    ∃ story last, Met reply state story last ∧ (Raises (run site options) story .halt ∨
      ∃ outcome, Traces (run site options) story outcome ∧
        (emitted story).getLast? = some (outcomeLine outcome)) := by
  obtain ⟨story, last, met, ended | stuck⟩ := exists_met reply (run site options) state
  · obtain ⟨outcome, traced⟩ := ended
    obtain ⟨before, rfl⟩ := story_ends traced
    have told : emitted (before ++ [⟨.emit (outcomeLine outcome), ()⟩]) =
        emitted before ++ [outcomeLine outcome] := emitted_append _ _
    refine ⟨_, last, met, .inr ⟨outcome, traced, ?_⟩⟩
    rw [told, List.getLast?_concat]
  · obtain ⟨action, raises, unanswered⟩ := stuck
    obtain rfl := answers last action unanswered
    exact ⟨story, last, met, .inl raises⟩

end Runs

/-- Which deployments with accepted settings break off.

They break off just where their wait for SSH comes to a moment that the clock cannot show, when
the server is there and no outcome is told.  No other deployment is without an outcome.  The
moments are within reach of accepted settings: a timeout can be so long that no deadline can be
shown, and a retry interval so long that one refused attempt is too many. -/
theorem accepted_halts_iff (site : Site Backend) (options : Options) (settings : DeploySettings)
    (accepted : settings.validate = .ok ())
    (patient : site.patience = CommandLine.patienceOf settings) :
    (∀ story, Raises (run site options) story .halt ↔ ∃ target before start waiting,
      Awaits site options target before ∧ story = before ++ waiting ∧
        BreaksOffAt target.address site.sshPort site.patience start waiting) ∧
    (∀ story, Raises (run site options) story .halt →
      (∃ target : Target Backend, target.Arrived site options story) ∧
        ∀ line ∈ emitted story, line.isOutcome = false) ∧
    (∀ (State : Type) (reply : State → (action : Action Backend) → Option (action.Result × State)),
      (∀ state action, reply state action = none → action = .halt) → ∀ state, ∃ story last,
        Met reply state story last ∧
          ((∃ outcome, Traces (run site options) story outcome ∧
              (emitted story).getLast? = some (outcomeLine outcome)) ∨
            Raises (run site options) story .halt ∧ ∃ start, ⟨.now, start⟩ ∈ story ∧
              Clock.limitSeconds ≤ start / 1000 + settings.sshTimeout.toNat + settings.sshRetry.toNat)) ∧
    (∀ host start,
      (Clock.limitSeconds ≤ start / 1000 + settings.sshTimeout.toNat →
        BreaksOffAt host site.sshPort site.patience start
          (waited host site.sshPort site.patience.retry start [] : Story Backend)) ∧
      (start / 1000 + settings.sshTimeout.toNat < Clock.limitSeconds →
        Clock.limitSeconds ≤ start / 1000 + settings.sshRetry.toNat →
        BreaksOffAt host site.sshPort site.patience start
          (waited host site.sshPort site.patience.retry start [] ++
            [(refused site.patience).event host site.sshPort] : Story Backend))) ∧
    ∀ host story outcome,
      Traces (reach host site.sshPort site.patience : Stage Backend Unready Unit).run story outcome →
      ∃ start, ⟨.now, start⟩ ∈ story ∧
        start / 1000 + settings.sshTimeout.toNat < Clock.limitSeconds := by
  have positive : 0 < site.patience.retry := by
    have some := (DeploySettings.validate_eq_ok_iff.mp accepted).2
    rw [patient, CommandLine.patienceOf]
    dsimp only
    omega
  have timeout (start : Nat) : (start + site.patience.timeout) / 1000 =
      start / 1000 + settings.sshTimeout.toNat := by
    rw [patient, CommandLine.patienceOf]
    exact Nat.add_mul_div_left start _ (by decide)
  have retry (start : Nat) : (start + site.patience.retry) / 1000 =
      start / 1000 + settings.sshRetry.toNat := by
    rw [patient, CommandLine.patienceOf]
    exact Nat.add_mul_div_left start _ (by decide)
  refine ⟨?_, ?_, ?_, ?_, ?_⟩
  · intro story
    rw [halts_run_iff]
    constructor
    · intro parts
      obtain ⟨target, before, waiting, awaits, split, waits⟩ := parts
      obtain ⟨start, breaks⟩ := (raises_reach_iff positive).mp waits
      exact ⟨target, before, start, waiting, awaits, split, breaks⟩
    · intro parts
      obtain ⟨target, before, start, waiting, awaits, split, breaks⟩ := parts
      exact ⟨target, before, waiting, awaits, split, raises_reach positive breaks⟩
  · intro story raises
    obtain ⟨target, before, waiting, awaits, rfl, -⟩ := halts_run_iff.mp raises
    exact ⟨⟨target, awaits.arrived.append waiting⟩, told_nothing_of_halts raises⟩
  · intro State reply answers state
    obtain ⟨story, last, met, raises | ended⟩ := run_goesOn answers state
    · obtain ⟨target, before, waiting, -, rfl, waits⟩ := halts_run_iff.mp raises
      obtain ⟨start, breaks⟩ := (raises_reach_iff positive).mp waits
      have far := breaks.far
      rw [Nat.add_right_comm, timeout, retry, Nat.add_right_comm] at far
      exact ⟨_, last, met, .inr ⟨raises, start, List.mem_append_right before breaks.told, far⟩⟩
    · exact ⟨story, last, met, .inl ended⟩
  · intro host start
    rw [← timeout, ← retry]
    exact ⟨fun beyond => .deadline (later?_eq_none_iff.mpr beyond), refused_breaksOffAt⟩
  · intro host story outcome traced
    obtain ⟨start, told, shown⟩ := shown_of_traces positive traced
    exact ⟨start, told, timeout start ▸ shown⟩

section Stranding

/-- The longest timeout that can be set. -/
def endlessSettings : DeploySettings := { sshTimeout := 18446744073709551615 }

def endlessSite : Site Unit := { loneSite with patience := CommandLine.patienceOf endlessSettings }

/-- Surroundings in which all goes well but for the installation. -/
def plainAnswer : (action : Action Unit) → Option action.Result
  | .emit _ | .pause _ | .connect _ => some ()
  | .now => some 0
  | .nameSuffix => some ""
  | .provider _ (.createServer _) | .provider _ (.awaitServer _) =>
      some (.ok { id := "1", name := "box", address := some .localhost, status := "active" })
  | .provider _ _ => some (.error (.api "" ""))
  | .nameservers _ | .registrar _ | .setRecord .. => some (.error (.noNameservers ""))
  | .dial _ _ _ => some { isConnected := true, time := 0, time_le := Nat.zero_le _ }
  | .command .. => some (.error (.broken ""))
  | .terminal .. => some (.unopened (.broken ""))
  | .halt => none

theorem plainAnswer_eq_none {action : Action Unit} (unanswered : plainAnswer action = none) :
    action = .halt := by
  cases action with
  | halt => rfl
  | provider backend call => cases call <;> cases unanswered
  | _ => cases unanswered

theorem endless_run_eq_none :
    ((run endlessSite loneOptions).run? (fun state action => (plainAnswer action).map (·, state))
      ()).isNone = true := by
  decide +kernel

/-- The longest timeout strands every deployment that comes to wait: no deadline can be shown. -/
theorem endless_wait_strands :
    endlessSettings.validate = .ok () ∧ ∃ story, Raises (run endlessSite loneOptions) story .halt ∧
      (∃ target : Target Unit, target.Arrived endlessSite loneOptions story) ∧
      (∀ line ∈ emitted story, line.isOutcome = false) := by
  have accepted : endlessSettings.validate = .ok () := by decide
  obtain ⟨-, stranded, goesOn, -⟩ := accepted_halts_iff endlessSite loneOptions endlessSettings accepted rfl
  obtain ⟨story, last, met, ⟨outcome, traced, -⟩ | ⟨raises, -⟩⟩ :=
    goesOn Unit (fun state action => (plainAnswer action).map (·, state))
      (fun _ _ unanswered => plainAnswer_eq_none (Option.map_eq_none_iff.mp unanswered)) ()
  · have none := endless_run_eq_none
    rw [run?_of_met met traced] at none
    cases none
  · exact ⟨accepted, story, raises, stranded story raises⟩

end Stranding

end Rollout.Deployment
