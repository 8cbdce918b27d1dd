import Rollout.Proofs.Deployment.Stages
import Rollout.Proofs.Progress.Control

namespace Rollout.Deployment

open Procedure Progress

/-! The control information in the progress of a deployment.

A deployment emits control lines for its terminal sessions and for its outcome, and no
others.  A reader of the stream takes just these for control information unless a line
for people passes for one.
-/

variable {Backend : Type} {site : Site Backend} {options : Options}

def Action.line? : Action Backend → Option Line
  | .emit line => some line
  | _ => none

def emitted (story : Story Backend) : List Line := story.filterMap (·.1.line?)

def transcript? : Event Backend → Option Terminal.Transcript
  | ⟨.terminal .., .ran transcript _⟩ => some transcript
  | _ => none

def transcripts (story : Story Backend) : List Terminal.Transcript := story.filterMap transcript?

/-- The control lines are those of the terminal sessions. -/
def Faithful (story : Story Backend) : Prop :=
  (emitted story).filter Line.isControl = (transcripts story).flatMap (·.lines)

theorem emitted_append (front back : Story Backend) :
    emitted (front ++ back) = emitted front ++ emitted back := List.filterMap_append

theorem transcripts_append (front back : Story Backend) :
    transcripts (front ++ back) = transcripts front ++ transcripts back := List.filterMap_append

theorem additive_faithful : Additive (Faithful : Story Backend → Prop) where
  nil := rfl
  append {front back} before after := by
    unfold Faithful at before after ⊢
    rw [emitted_append, List.filter_append, transcripts_append, List.flatMap_append, before, after]

theorem action_of_line? {action : Action Backend} {line : Line} (emits : action.line? = some line) :
    action = .emit line := by
  cases action <;> first | exact congrArg Action.emit (Option.some.inj emits) | cases emits

theorem concern_emit {line : Line} (control : line.isControl = true) :
    (Action.emit line : Action Backend).concern = .client := by
  cases line <;> first | rfl | cases control

theorem faithful_of_lacks {story : Story Backend} (silent : Lacks .client story)
    (still : Lacks .script story) : Faithful story := by
  have none : transcripts story = [] := by
    apply List.filterMap_eq_nil_iff.mpr
    intro event member
    have other := still event member
    obtain ⟨action, answer⟩ := event
    cases action <;> first | rfl | exact absurd rfl other
  have plain : (emitted story).filter Line.isControl = [] := by
    apply List.filter_eq_nil_iff.mpr
    intro line member control
    obtain ⟨event, among, emits⟩ := List.mem_filterMap.mp member
    have emit := action_of_line? emits
    exact silent event among (by rw [emit, concern_emit control])
  rw [Faithful, none, plain]
  rfl

theorem KeepsTo.faithful {α : Type} {concerns : List Concern} {course : Course Backend α}
    (keeps : KeepsTo concerns course) (silent : .client ∉ concerns) (still : .script ∉ concerns) :
    Leaves Faithful course := by
  intro story value traced
  have within := keeps.of_mem traced
  exact faithful_of_lacks (lacks_of_keeps within silent) (lacks_of_keeps within still)

section Steps

variable {host : Address}

theorem emitted_told (lines : List Line) :
    emitted ((lines.map Installer.told).map (onHostEvent host) : Story Backend) = lines := by
  induction lines with
  | nil => rfl
  | cons line rest ih => exact congrArg (line :: ·) ih

theorem transcripts_told (lines : List Line) :
    transcripts ((lines.map Installer.told).map (onHostEvent host) : Story Backend) = [] := by
  induction lines with
  | nil => rfl
  | cons line rest ih => exact ih

theorem concern_of_isQuiet {event : Installer.Event} (still : event.1.isQuiet = true) :
    (onHostEvent host event : Event Backend).1.concern ∈ [Concern.people, .rest] := by
  obtain ⟨action, answer⟩ := event
  cases action with
  | emit line => cases line <;> first | exact List.mem_cons_self | cases still
  | pause time => simp [onHostEvent, Action.concern]
  | command text => cases still
  | terminal command answers => cases still

theorem faithful_quiet {quiet : List Installer.Event}
    (still : ∀ event ∈ quiet, event.1.isQuiet = true) :
    Faithful (quiet.map (onHostEvent host) : Story Backend) := by
  have within : ∀ event ∈ (quiet.map (onHostEvent host) : Story Backend),
      event.1.concern ∈ [Concern.people, .rest] := by
    intro event member
    obtain ⟨inner, among, rfl⟩ := List.mem_map.mp member
    exact concern_of_isQuiet (still inner among)
  exact faithful_of_lacks (lacks_of_keeps within (by simp)) (lacks_of_keeps within (by simp))

theorem cases_of_mem_lines {transcript : Terminal.Transcript} {line : Line}
    (member : line ∈ transcript.lines) :
    line = .sessionStarted transcript.id ∨ (∃ bytes, line = .terminalOutput bytes) ∨
      line = .sessionEnded transcript.id := by
  simp only [Terminal.Transcript.lines, List.cons_append, List.mem_cons, List.mem_append,
    List.mem_map, List.not_mem_nil, or_false] at member
  rcases member with starts | ⟨bytes, -, rfl⟩ | ends
  · exact .inl starts
  · exact .inr (.inl ⟨bytes, rfl⟩)
  · exact .inr (.inr ends)

theorem isControl_of_mem_lines {transcript : Terminal.Transcript} :
    ∀ line ∈ transcript.lines, line.isControl = true := by
  intro line member
  rcases cases_of_mem_lines member with rfl | ⟨bytes, rfl⟩ | rfl
  · rfl
  · rfl
  · rfl

theorem session_of_mem_lines {transcript : Terminal.Transcript} {line : Line} {id : String}
    (member : line ∈ transcript.lines) (names : id ∈ line.session?) : id = transcript.id := by
  rcases cases_of_mem_lines member with rfl | ⟨bytes, rfl⟩ | rfl
  · exact (Option.some.inj names).symm
  · cases names
  · exact (Option.some.inj names).symm

theorem faithful_exchange {event : Installer.Event} (exchange : event.1.isExchange = true) :
    Faithful ((event :: (Installer.Event.shown event).map Installer.told).map (onHostEvent host) :
      Story Backend) := by
  obtain ⟨action, answer⟩ := event
  cases action with
  | emit line => cases exchange
  | pause time => cases exchange
  | command text =>
      let lines := Installer.Event.shown ⟨.command text, answer⟩
      have plain : lines.filter Line.isControl = [] := by
        cases answer with
        | error cause => rfl
        | ok output =>
            apply List.filter_eq_nil_iff.mpr
            intro line member
            obtain ⟨chars, -, rfl⟩ := List.mem_map.mp member
            simp [Line.isControl]
      show (emitted ((lines.map Installer.told).map (onHostEvent host) : Story Backend)).filter _ =
        (transcripts ((lines.map Installer.told).map (onHostEvent host) : Story Backend)).flatMap _
      rw [emitted_told, transcripts_told, plain]
      rfl
  | terminal command answers =>
      cases answer with
      | unopened cause => rfl
      | ran transcript result =>
          let after : Story Backend := (transcript.lines.map Installer.told).map (onHostEvent host)
          show (emitted after).filter _ = (transcript :: transcripts after).flatMap _
          rw [emitted_told, transcripts_told, List.filter_eq_self.mpr isControl_of_mem_lines]
          exact (List.append_nil _).symm

theorem additive_onHost :
    Additive fun inner : List Installer.Event => Faithful (inner.map (onHostEvent host) : Story Backend) where
  nil := rfl
  append before after := by
    rw [List.map_append]
    exact additive_faithful.append before after

theorem perform_faithful (step : Installer.Step) (index : Nat) (context : Template.Context) :
    Leaves (fun inner => Faithful (inner.map (onHostEvent host) : Story Backend))
      (step.perform index context).run := by
  intro inner outcome traced
  obtain ⟨quiet, still, ⟨-, rfl, -⟩ | ⟨errand, event, -, asked, rfl, -⟩⟩ :=
    Installer.Step.traces_perform traced
  · exact faithful_quiet still
  · rw [List.map_append]
    exact additive_faithful.append (faithful_quiet still)
      (faithful_exchange (asked ▸ errand.isExchange))

theorem runSteps_faithful (phase : Installer.Phase) (context : Template.Context) (index : Nat)
    (steps : List Installer.Step) :
    Leaves (fun inner => Faithful (inner.map (onHostEvent host) : Story Backend))
      (Installer.runSteps phase context index steps).run := by
  induction steps generalizing index with
  | nil => exact leaves_pure additive_onHost _
  | cons step rest ih =>
      unfold Installer.runSteps
      split
      · exact leaves_run_bind additive_onHost (perform_faithful step index context) fun _ =>
          leaves_run_bind additive_onHost (ih _) fun _ => leaves_pure additive_onHost _
      · exact ih _

theorem onHost_faithful (spec : Installer.Spec) (phase : Installer.Phase)
    (context : Template.Context) :
    Leaves Faithful (onHost host (spec.runPhase phase context) : Stage Backend _ Nat).run := by
  intro story outcome traced
  obtain ⟨inner, follows, rfl⟩ := traces_onHost traced
  exact runSteps_faithful phase context 0 spec.steps inner outcome follows

end Steps

theorem emit_faithful (text : String) :
    Leaves Faithful (query (Action.emit (.plain text)) : Course Backend Unit) := by
  have keeps : KeepsTo [.people] (query (Action.emit (.plain text)) : Course Backend Unit) :=
    keepsTo_query (by simp [Action.concern])
  exact keeps.faithful (by simp) (by simp)

theorem setUpTls_faithful (plan : Plan Backend) (address : Address) (context : Template.Context) :
    Leaves Faithful (setUpTls plan options address context) := by
  unfold setUpTls
  split
  · apply Leaves.bind additive_faithful (emit_faithful _)
    intro _
    apply Leaves.bind additive_faithful (onHost_faithful plan.spec .ssl context)
    intro result
    cases result with
    | ok count => exact leaves_pure additive_faithful _
    | error cause =>
        exact Leaves.bind additive_faithful (emit_faithful _) fun _ => leaves_pure additive_faithful _
  · exact leaves_pure additive_faithful _

theorem conclude_faithful (installation : Installation Backend) :
    Leaves Faithful (installation.conclude options) := by
  apply Leaves.bind additive_faithful (setUpTls_faithful installation.plan _ _)
  intro tls
  apply Leaves.bind additive_faithful ((report_keepsTo _).faithful (by simp) (by simp))
  intro _
  exact leaves_pure additive_faithful _

theorem install_faithful (plan : Plan Backend) (size : String) (server : Provider.Server)
    (address : Address) :
    Leaves Faithful (install site plan options size server address).run := by
  unfold install
  apply leaves_run_bind additive_faithful
    (leaves_run_lift ((pointDomain_keepsTo plan options address _).faithful (by simp) (by simp)))
  intro dns
  apply leaves_run_bind additive_faithful
    (leaves_run_adapt ((reach_keepsTo address site.sshPort site.patience).faithful (by simp) (by simp)))
  intro _
  have connecting : KeepsTo [.shell] (ask (.connect address) : Stage Backend Error Unit).run :=
    keepsTo_ask (by simp [Action.concern])
  apply leaves_run_bind additive_faithful (connecting.faithful (by simp) (by simp))
  intro _
  apply leaves_run_bind additive_faithful (leaves_run_lift (emit_faithful _))
  intro _
  apply leaves_run_bind additive_faithful (leaves_run_adapt (onHost_faithful plan.spec .install _))
  intro _
  exact leaves_pure additive_faithful _

theorem deploy_faithful : Leaves Faithful (deploy site options).run := by
  apply leaves_run_bind additive_faithful
  · unfold installed
    apply leaves_run_bind additive_faithful (leaves_pure additive_faithful _)
    intro plan
    apply leaves_run_bind additive_faithful
      ((chooseSize_keepsTo plan options).faithful (by simp) (by simp))
    intro size
    apply leaves_run_bind additive_faithful
      ((provision_keepsTo plan options size).faithful (by simp) (by simp))
    intro server
    cases server.address with
    | none => exact leaves_pure additive_faithful _
    | some address => exact install_faithful plan size server address
  · intro installation
    exact leaves_run_lift (conclude_faithful installation)

/-- A deployment emits the control lines of its terminal sessions and, in the end, that of
its outcome. -/
theorem emitted_run {story : Story Backend} {outcome : Except Error Summary}
    (traced : Traces (run site options) story outcome) :
    (∃ before, emitted story = before ++ [outcomeLine outcome]) ∧
      (emitted story).filter Line.isControl =
        (transcripts story).flatMap (·.lines) ++ [outcomeLine outcome] := by
  obtain ⟨front, back, result, rfl, deploys, tells⟩ := traces_bind_iff.mp traced
  obtain ⟨last, ends, _, rfl, emits, stops⟩ := traces_bind_iff.mp tells
  obtain ⟨rfl, rfl⟩ := traces_pure_iff.mp stops
  obtain rfl := traces_query_iff.mp emits
  have faithful := deploy_faithful _ _ deploys
  have control : (outcomeLine outcome).isControl = true := by
    cases outcome <;> rfl
  have lines : emitted (front ++ ([⟨.emit (outcomeLine outcome), ()⟩] ++ [])) =
      emitted front ++ [outcomeLine outcome] := emitted_append _ _
  have sessions : transcripts (front ++ ([⟨.emit (outcomeLine outcome), ()⟩] ++ [])) =
      transcripts front := (transcripts_append _ _).trans (List.append_nil _)
  rw [lines, sessions, List.filter_append, faithful, List.filter_cons_of_pos control]
  exact ⟨⟨_, rfl⟩, rfl⟩

theorem sessions_named {story : Story Backend} {outcome : Except Error Summary}
    (control : (emitted story).filter Line.isControl =
      (transcripts story).flatMap (·.lines) ++ [outcomeLine outcome])
    (named : ∀ transcript ∈ transcripts story, '\n' ∉ transcript.id.toList) :
    ∀ line ∈ emitted story, ∀ id ∈ line.session?, '\n' ∉ id.toList := by
  intro line member id names
  have isControl : line.isControl = true := by
    cases line <;> first | rfl | cases names
  have among : line ∈ (transcripts story).flatMap (·.lines) ++ [outcomeLine outcome] := by
    rw [← control]
    exact List.mem_filter.mpr ⟨member, isControl⟩
  rcases List.mem_append.mp among with shown | last
  · obtain ⟨transcript, opened, inside⟩ := List.mem_flatMap.mp shown
    obtain rfl := session_of_mem_lines inside names
    exact named transcript opened
  · obtain rfl := List.mem_singleton.mp last
    cases outcome <;> cases names

/-- What a reader sees of a deployment on a stream that has taken everything.  Apart from
lines against silence, the last line is that of the outcome.  What passes for control
information is what really happened exactly if no line for people has a line that starts
with a marker. -/
theorem control_lines_genuine_iff {story : Story Backend} {outcome : Except Error Summary}
    {connection : Connection} {handovers : List Handover}
    (traced : Traces (run site options) story outcome)
    (named : ∀ transcript ∈ transcripts story, '\n' ∉ transcript.id.toList)
    (handed : handovers.filterMap Handover.line? = emitted story)
    (unread : connection.received = [])
    (taken : ((Stream.opened connection).sendAll (handovers.map Handover.text)).disabled = false) :
    let stream := (Stream.opened connection).sendAll (handovers.map Handover.text)
    let seen := linesIn stream.connection.received
    (∃ before, seen.filter (· ≠ Stream.keepAliveLine.toList) =
      before ++ [(outcomeLine outcome).text.toList]) ∧
    (seen.filter isMarked =
        ((transcripts story).flatMap (·.lines) ++ [outcomeLine outcome]).map (·.text.toList) ↔
      ∀ text, .plain text ∈ emitted story →
        ∀ line ∈ wholeLines text.toList, isMarked line = false) := by
  intro stream seen
  obtain ⟨⟨before, last⟩, control⟩ := emitted_run traced
  have single := sessions_named control named
  have lines : seen = handovers.flatMap fun handover => wholeLines handover.text.toList := by
    have received := (Stream.sendAll_received taken).2
    have arrived : stream.connection.received = (handovers.map Handover.text).flatMap framed := by
      rw [received]
      show connection.received ++ _ = _
      rw [unread, List.nil_append]
    show linesIn stream.connection.received = _
    rw [arrived, linesIn_framed, List.flatMap_map]
  constructor
  · rw [lines]
    apply last_of_handovers (handed.trans last)
    · cases outcome <;> rfl
    · cases outcome <;> simp [outcomeLine, Line.session?]
  · rw [lines, ← control, marked_eq_control_iff handed single]
    exact forged_eq_nil_iff

section Printing

def loneApp : Installer.Spec where
  app := "app"
  description := ""
  requirement := { cpu := 1, ramMb := 1024, diskGb := 10 }
  domainHint := ""
  records := []
  dnsPolicy := .never
  questions := []
  steps := [{ name := "", condition := "", run := "./install", sleep := none, log := "", terminal := .off }]

def loneSite : Site Unit where
  apps := Installer.Registry.register ∅ loneApp
  providers := (∅ : Provider.Registry Unit).insert "cloud" fun _ =>
    .ok { name := "cloud", dnsHost := .classify "", needsConfig := false, backend := () }
  files := .empty
  home := none
  sshPort := 22
  patience := {}

def loneOptions : Options where
  app := "app"
  provider := "cloud"
  size := "small"
  serverName := "box"

def loneAnswer (stdout : String) : (action : Action Unit) → Option action.Result
  | .emit _ | .pause _ | .connect _ => some ()
  | .now => some 0
  | .provider _ (.createServer _) | .provider _ (.awaitServer _) =>
      some (.ok { id := "1", name := "box", address := some .localhost, status := "active" })
  | .dial _ _ _ => some { isConnected := true, time := 0, time_le := Nat.zero_le _ }
  | .command .. => some (.ok { code := some 0, stdout := stdout, stderr := "" })
  | _ => none

def loneRun (stdout : String) : Option (Except Error Summary × Story Unit) :=
  (run loneSite loneOptions).run? (noting (loneAnswer stdout)) []

def openConnection : Connection where
  received := []
  writes := 0
  flushes := 0
  reception _ := .takes 4095
  flushed _ := true

theorem loneRun_isSome : (loneRun "[SELFHOSTED::DONE]\n").isSome = true := by decide +kernel

/-- A script that prints a marker makes a reader see an outcome that is none. -/
theorem printed_marker_forges :
    let (outcome, story) := (loneRun "[SELFHOSTED::DONE]\n").get loneRun_isSome
    let stream := (Stream.opened openConnection).sendAll
      (((emitted story).map Handover.progress).map Handover.text)
    Traces (run loneSite loneOptions) story outcome ∧
      (linesIn stream.connection.received).filter isMarked ≠
        ((transcripts story).flatMap (·.lines) ++ [outcomeLine outcome]).map (·.text.toList) := by
  have printed : Line.plain "[SELFHOSTED::DONE]" ∈
      emitted ((loneRun "[SELFHOSTED::DONE]\n").get loneRun_isSome).2 := by decide +kernel
  have sessions : transcripts ((loneRun "[SELFHOSTED::DONE]\n").get loneRun_isSome).2 = [] := by
    decide +kernel
  have ran : loneRun "[SELFHOSTED::DONE]\n" = some ((loneRun "[SELFHOSTED::DONE]\n").get loneRun_isSome) :=
    (Option.some_get _).symm
  -- The run is evaluated only for the facts above; from here on it stands for any run.
  generalize (loneRun "[SELFHOSTED::DONE]\n").get loneRun_isSome = result at printed sessions ran
  obtain ⟨outcome, story⟩ := result
  obtain ⟨trace, rfl, traced⟩ := traces_run?_noting ran
  refine ⟨traced, fun genuine => ?_⟩
  have handed : ((emitted story).map Handover.progress).filterMap Handover.line? = emitted story := by
    rw [List.filterMap_map]
    exact List.filterMap_some
  have sturdy : openConnection.Sturdy := ⟨fun _ => Reception.noConfusion, fun _ => rfl⟩
  have honest := (control_lines_genuine_iff traced (by simp [sessions]) handed rfl
    (Stream.sendAll_sturdy sturdy rfl _)).2.mp genuine
  have missed := honest "[SELFHOSTED::DONE]" printed "[SELFHOSTED::DONE]".toList (by decide)
  revert missed
  decide

end Printing

end Rollout.Deployment
