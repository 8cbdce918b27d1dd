import Rollout.Proofs.Provider.Creation
import Rollout.Proofs.Provider.Looking
import Rollout.Proofs.Text.Pieces

namespace Rollout.Provider

open Procedure Network

/-! Servers are referred to by one text for their zone and their id.

A zone has no slash, so the text is read back whatever the default zone is.  What is created
in one zone is therefore awaited and destroyed there, also by an account with another default
zone.
-/

section Polls

variable {allowed : Network.Action → Prop} {good : Server → Prop} {past : Trace Action Action.Result}
  {look : Network Error (Option Server)} {interval looks deadline : Nat} {ready id : String}
  {wasReady : Bool}

/-- A wait asks for the time, pauses and looks, and what it yields it has seen. -/
theorem poll_yields
    (sees : ∀ past, look.run.Upholds (fun _ => allowed)
      (Yields fun _ seen => ∀ server ∈ seen, good server) past)
    (clock : allowed .now) (pauses : ∀ time, allowed (.pause time)) :
    (poll look ready id interval deadline wasReady looks).run.Upholds (fun _ => allowed)
      (Yields fun _ => good) past := by
  induction looks generalizing wasReady past with
  | zero => exact upholds_run_throw nofun
  | succ looks ih =>
      have goesOn (wasReady : Bool) (past : Trace Action Action.Result) :
          (Network.pause interval >>= fun _ => poll look ready id interval deadline wasReady looks).run.Upholds
            (fun _ => allowed) (Yields fun _ => good) past :=
        upholds_bind_yields (pause_yields (pauses interval)) fun _ _ _ => ih
      unfold poll
      apply upholds_bind_yields (now_yields clock)
      intro past moment _
      by_cases late : deadline < moment
      · rw [if_pos late]
        exact upholds_run_throw nofun
      · rw [if_neg late]
        apply upholds_bind_yields (sees past)
        intro past seen known
        cases found : seen.filter (·.status = ready) with
        | none => exact goesOn wasReady past
        | some server =>
            obtain ⟨rfl, -⟩ := Option.filter_eq_some_iff.mp found
            dsimp only
            split
            · exact upholds_run_pure (yields_ok (known server rfl))
            · exact goesOn true past

theorem await_yields {polling : Polling}
    (sees : ∀ past, look.run.Upholds (fun _ => allowed)
      (Yields fun _ seen => ∀ server ∈ seen, good server) past)
    (clock : allowed .now) (pauses : ∀ time, allowed (.pause time)) :
    (polling.await look ready id).run.Upholds (fun _ => allowed) (Yields fun _ => good) past :=
  upholds_bind_yields (now_yields clock) fun _ _ _ => poll_yields sees clock pauses

end Polls

namespace Scaleway

namespace Reference

variable {zone other text : String} {server : Reference}

theorem toList_toText (server : Reference) :
    server.toText.toList = server.zone.toList ++ '/' :: server.id.toList := by
  simp [toText, toString]

theorem ofText_of_not_mem (plain : '/' ∉ text.toList) : ofText zone text = { zone, id := text } := by
  simp [ofText, Text.cutAt?_of_not_mem plain]

/-- A text is read up to its first slash for the zone, and behind it for the id. -/
theorem ofText_of_split {before after : List Char} (split : text.toList = before ++ '/' :: after)
    (absent : '/' ∉ before) :
    ofText zone text = { zone := String.ofList before, id := String.ofList after } := by
  simp [ofText, split, Text.cutAt?_append absent]

example : ofText "fr-par-1" "nl-ams-1/a/b" = { zone := "nl-ams-1", id := "a/b" } := by decide

/-- A reference is read back exactly if its zone has no slash. -/
theorem ofText_toText_iff : ofText zone server.toText = server ↔ '/' ∉ server.zone.toList := by
  obtain ⟨before, after, split, absent⟩ :=
    List.eq_append_cons_of_mem (show '/' ∈ server.toText.toList by simp [toList_toText])
  constructor
  · intro same
    rw [ofText_of_split split absent] at same
    simpa [← same] using absent
  · intro plain
    rw [ofText_of_split (toList_toText server) plain, String.ofList_toList, String.ofList_toList]

theorem toText_ofText (slashed : '/' ∈ text.toList) : (ofText zone text).toText = text := by
  obtain ⟨before, after, split, absent⟩ := List.eq_append_cons_of_mem slashed
  rw [ofText_of_split split absent, ← String.toList_inj, toList_toText, split,
    String.toList_ofList, String.toList_ofList]

/-- Once a zone is written in front of an id, it stays the only one. -/
theorem toText_ofText_again :
    (ofText other (ofText zone text).toText).toText = (ofText zone text).toText :=
  toText_ofText (by simp [toList_toText])

end Reference

/-- What is asked while a server is awaited: its pages in the list of its zone, and the time. -/
inductive Watches (server : Reference) : Network.Action → Prop where
  | page (key : String) (page : Nat) : Watches server (.send (pageOf key server page))
  | clock : Watches server .now
  | pause (time : Nat) : Watches server (.pause time)

def actionRequest (key : String) (server : Reference) (action : String) : Http.Request :=
  { method := .post
    url := serverUrl server ++ "/action"
    headers := [keyHeader key]
    body := .json (.object [("action", .text action)]) }

/-- Calls about a server by a text are calls about one reference, whatever the default zone
of the account is, and the server that is found goes by the same text. -/
structure Addresses (account : Account) (text : String) (server : Reference) : Prop where
  awaits : service account (.awaitServer text) = Polling.usual.await (look account server) "running" text
  watches : ∀ past action, Raises (service account (.awaitServer text)).run past action →
    Watches server action
  finds : ∀ trace found, Traces (service account (.awaitServer text)).run trace (.ok found) →
    found.id = text
  destroys : service account (.destroyServer text) = act account server "terminate"
  terminates : ∀ past action, Raises (service account (.destroyServer text)).run past action →
    ∃ key, action = .send (actionRequest key server "terminate")

section Calls

variable {account : Account} {order : Order} {server : Reference} {past : Exchanges}

theorem lastInstance_watches {pages page : Nat} {last : Option Instance} :
    (lastInstance account server pages page last).run.Upholds (fun _ => Watches server)
      (Yields fun _ _ => True) past := by
  induction pages generalizing page last past with
  | zero => exact upholds_run_pure (yields_ok trivial)
  | succ pages ih =>
      unfold lastInstance
      apply upholds_bind_yields (ask_yields fun key => .page key page)
      intro past response _
      apply upholds_bind_yields (decode_yields _)
      intro past seen _
      split
      · exact ih
      · exact upholds_run_pure (yields_ok trivial)

theorem look_watches : (look account server).run.Upholds (fun _ => Watches server)
    (Yields fun _ seen => ∀ found ∈ seen, found.id = server.toText) past := by
  apply upholds_bind_yields lastInstance_watches
  intro past last _
  apply upholds_run_pure (yields_ok _)
  intro found shown
  obtain ⟨seen, -, rfl⟩ := Option.map_eq_some_iff.mp shown
  rfl

theorem act_yields {action : String} : (act account server action).run.Upholds
    (fun _ asked => ∃ key, asked = .send (actionRequest key server action)) (Yields fun _ _ => True) past :=
  (discard_yields (ask_yields fun key => ⟨key, rfl⟩)).mono fun _ _ _ _ _ => trivial

/-- The text of a reference whose zone has no slash addresses that server. -/
theorem addresses_toText (plain : '/' ∉ server.zone.toList) : Addresses account server.toText server := by
  have read : Reference.ofText account.zone server.toText = server := Reference.ofText_toText_iff.mpr plain
  have awaits : service account (.awaitServer server.toText) =
      Polling.usual.await (look account server) "running" server.toText := by
    show awaitServer account server.toText = _
    rw [awaitServer, read]
  have destroys : service account (.destroyServer server.toText) = act account server "terminate" := by
    show act account (Reference.ofText account.zone server.toText) "terminate" = _
    rw [read]
  have watched : (service account (.awaitServer server.toText)).run.Upholds (fun _ => Watches server)
      (Yields fun _ found => found.id = server.toText) [] := by
    rw [awaits]
    exact await_yields (fun _ => look_watches) .clock .pause
  have terminated : (service account (.destroyServer server.toText)).run.Upholds
      (fun _ asked => ∃ key, asked = .send (actionRequest key server "terminate"))
      (Yields fun _ _ => True) [] := by
    rw [destroys]
    exact act_yields
  exact {
    awaits
    watches := fun _ _ => watched.of_raises
    finds := fun _ found traced => watched.of_traces traced found rfl
    destroys
    terminates := fun _ _ => terminated.of_raises }

theorem Started.zone_eq (started : Started account order past server) :
    server.zone = orderZone account order := by
  obtain ⟨prepared, -⟩ := started
  obtain ⟨ordered, -⟩ | ⟨ordered, -, -⟩ := prepared
  all_goals
    cases ordered
    rfl

end Calls

/-- A reference is read back exactly if its zone has no slash, and a text with a slash is
written back as it is read.  A text without one is an id in the default zone, and once its
zone is written, reading and writing it once more changes nothing.  A server that was created
in a zone without a slash goes by a text that addresses it in its zone, whatever the default
zones of the accounts are that create, await and destroy it. -/
theorem references_keep_server :
    (∀ server zone, Reference.ofText zone server.toText = server ↔ '/' ∉ server.zone.toList) ∧
    (∀ text zone, '/' ∈ text.toList → (Reference.ofText zone text).toText = text) ∧
    (∀ text zone, '/' ∉ text.toList → Reference.ofText zone text = { zone, id := text }) ∧
    (∀ text zone other, (Reference.ofText other (Reference.ofText zone text).toText).toText =
      (Reference.ofText zone text).toText) ∧
    ∀ account order trace created, '/' ∉ (orderZone account order).toList →
      Traces (service account (.createServer order)).run trace (.ok created) →
      ∃ server, server.zone = orderZone account order ∧ Started account order trace server ∧
        created.id = server.toText ∧ ∀ later, Addresses later created.id server := by
  refine ⟨fun _ _ => Reference.ofText_toText_iff, fun _ _ => Reference.toText_ofText,
    fun _ _ => Reference.ofText_of_not_mem, fun _ _ _ => Reference.toText_ofText_again, ?_⟩
  intro account order trace created plain traced
  have upholds := createServer_yields account order
  obtain ⟨server, started, named⟩ := upholds.of_traces traced created rfl
  rw [List.nil_append] at started
  rw [← started.zone_eq] at plain
  refine ⟨server, started.zone_eq, started, named, fun later => ?_⟩
  rw [named]
  exact addresses_toText plain

end Scaleway

end Rollout.Provider
