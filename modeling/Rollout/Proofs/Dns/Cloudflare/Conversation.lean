import Rollout.Dns.Cloudflare.Account
import Rollout.Dns.Cloudflare.Client
import Rollout.Proofs.Json.Fields
import Rollout.Proofs.Json.Reader
import Rollout.Proofs.Procedure.Discreet
import Rollout.Proofs.Procedure.Network

namespace Rollout.Dns.Cloudflare

open Procedure

/-! Accounts over the network.

Each call is one request, and what came of it is read off the answer.  An account serves a
conversation if it is what the calls were put to, one after the other.  A call that fails may
have been carried out all the same.
-/

/-- Calls and what came of them. -/
abbrev Conversation := Trace Call fun call => Except Error call.Result

/-- No call failed. -/
def Conversation.Answered (told : Conversation) : Prop :=
  ∀ event ∈ told, ∃ result, event.2 = .ok result

theorem Conversation.Answered.elim {told : Conversation} (answered : told.Answered)
    {event : (call : Call) × Except Error call.Result} (member : event ∈ told) {error : Error}
    (fails : event.2 = .error error) : False := by
  obtain ⟨result, ok⟩ := answered event member
  cases ok.symm.trans fails

namespace Client

def request (client : Client) : Call → Http.Request
  | .zones name =>
      { method := .get
        url := client.base ++ "/zones"
        query := [("name", name)]
        headers := [Http.bearer client.token] }
  | .records zone recordType name =>
      { method := .get
        url := client.base ++ recordsPath zone
        query := [("type", recordType), ("name", name)]
        headers := [Http.bearer client.token] }
  | .replace zone id record =>
      { method := .put
        url := client.base ++ s!"{recordsPath zone}/{id}"
        headers := [Http.bearer client.token]
        body := .json (content record) }
  | .create zone record =>
      { method := .post
        url := client.base ++ recordsPath zone
        headers := [Http.bearer client.token]
        body := .json (content record) }

/-- The result in an envelope, or why there is none. -/
def unsealed {α : Type} : Option (Envelope α) → Except Error α
  | none => .error (failed Http.undecodable)
  | some { success := false, errors, .. } => .error (failed ("; ".intercalate errors))
  | some { success := true, result := none, .. } =>
      .error (failed "response carried no result")
  | some { success := true, result := some result, .. } => .ok result

def opened {α : Type} (read : Json → Option α) : Except String Http.Response → Except Error α
  | .error reason => .error (failed reason)
  | .ok response => unsealed (response.decode? (Envelope.ofJson? read))

def heard : (call : Call) → Except String Http.Response → Except Error call.Result
  | .zones _, answer => opened (Json.list? Zone.ofJson?) answer
  | .records .., answer => opened (Json.list? id?) answer
  | .replace .., answer => (opened Json.legible? answer).map fun _ => ()
  | .create .., answer => (opened Json.legible? answer).map fun _ => ()

variable {α : Type} (client : Client)

theorem run_call (read : Json → Option α) (method : Http.Method) (path : String)
    (query : List (String × String)) (body : Http.Body) :
    (client.call read method path query body).run =
      let headers := [Http.bearer client.token]
      (Procedure.query (.send { method, url := client.base ++ path, query, headers, body }) >>=
        fun answer => pure (opened read answer) :
          Procedure Network.Action Network.Action.Result _) := by
  apply congrArg (Procedure.ask _)
  funext answer
  cases answer with
  | error reason => rfl
  | ok response =>
      show (Network.decode failed (Envelope.ofJson? read) response >>= _ : Network Error α).run =
        pure (unsealed (response.decode? (Envelope.ofJson? read)))
      unfold Network.decode
      cases response.decode? (Envelope.ofJson? read) with
      | none => rfl
      | some envelope =>
          obtain ⟨success, errors, result⟩ := envelope
          cases success with
          | false => rfl
          | true => cases result <;> rfl

theorem run_unit (given : Network Error α) : (discard given : Network Error Unit).run =
    given.run >>= fun outcome => pure (outcome.map fun _ => ()) := by
  rw [Network.run_discard, ExceptT.run_bind]
  apply congrArg (given.run >>= ·)
  funext outcome
  cases outcome <;> rfl

theorem run_perform (call : Call) :
    (client.perform call).run =
      (Procedure.query (.send (client.request call)) >>= fun answer => pure (heard call answer) :
        Procedure Network.Action Network.Action.Result _) := by
  cases call with
  | zones name => exact client.run_call ..
  | records zone recordType name => exact client.run_call ..
  | replace zone id record =>
      show (discard (client.call Json.legible? .put _ [] _)).run = _
      rw [run_unit, client.run_call]
      rfl
  | create zone record =>
      show (discard (client.call Json.legible? .post _ [] _)).run = _
      rw [run_unit, client.run_call]
      rfl

/-- The exchanges of a client's calls, and what they tell of them. -/
def Converses (calls : Calls α) (trace : Trace Network.Action Network.Action.Result)
    (told : Conversation) (outcome : Except Error α) : Prop :=
  List.Forall₂ (Conveys (fun call => .send (client.request call)) heard) trace told ∧
    Traces calls.run told outcome

/-- Whatever happens on the network, it is a conversation. -/
theorem traces_run_iff {calls : Calls α} {trace : Trace Network.Action Network.Action.Result}
    {outcome : Except Error α} :
    Traces (client.run calls).run trace outcome ↔
      ∃ told, client.Converses calls trace told outcome := by
  have passed : (client.run calls).run =
      calls.run.pass (fun call => Network.Action.send (client.request call)) heard :=
    congrArg calls.run.interpret (funext client.run_perform)
  rw [passed]
  exact traces_pass_iff

variable {client} {calls : Calls α} {trace : Trace Network.Action Network.Action.Result}
  {told : Conversation} {outcome : Except Error α}

theorem Converses.sends (converses : client.Converses calls trace told outcome) :
    trace.map (·.1) = told.map fun event => .send (client.request event.1) := by
  obtain ⟨conveyed, -⟩ := converses
  induction conveyed with
  | nil => rfl
  | cons first later ih =>
      cases first
      exact congrArg (List.cons _) ih

theorem Converses.length_eq (converses : client.Converses calls trace told outcome) :
    trace.length = told.length :=
  converses.1.length_eq

section Shown

/-! Every result can be sent. -/

/-- The envelope of a result. -/
def sealed (result : Json) : Json :=
  .object [("success", .bool true), ("errors", .array []), ("result", result)]

def enveloped (result : Json) : Http.Response where
  status := 200
  body := Text.Utf8.bytesOf (sealed result).render

def zoneJson (zone : Zone) : Json := .object [("id", .text zone.id), ("name", .text zone.name)]

/-- As much of the result of a call as is read. -/
def shown : (call : Call) → call.Result → Json
  | .zones _, listed => .array (listed.map zoneJson)
  | .records .., ids => .array (ids.map fun id => .object [("id", .text id)])
  | .replace .., _ => .object []
  | .create .., _ => .object []

theorem shown_numberless (call : Call) (result : call.Result) : (shown call result).Numberless := by
  cases call with
  | zones name =>
      apply Json.Numberless.array
      intro item member
      obtain ⟨zone, -, rfl⟩ := List.mem_map.mp member
      exact .object (by simp [Json.Numberless.text])
  | records zone recordType name =>
      apply Json.Numberless.array
      intro item member
      obtain ⟨id, -, rfl⟩ := List.mem_map.mp member
      exact .object (by simp [Json.Numberless.text])
  | replace zone id record => exact .object nofun
  | create zone record => exact .object nofun

theorem sealed_numberless {result : Json} (plain : result.Numberless) : (sealed result).Numberless := by
  apply Json.Numberless.object
  simp only [List.forall_mem_cons, List.not_mem_nil, false_implies, implies_true, and_true]
  exact ⟨.bool true, .array nofun, plain⟩

variable {read : Json → Option α} {result : Json} {value : α}

theorem envelope_sealed (present : result ≠ .null) (reads : read result = some value) :
    Envelope.ofJson? read (sealed result) = some ⟨true, [], some value⟩ := by
  have carried : Json.Fields.optional
      ⟨[("success", .bool true), ("errors", .array []), ("result", result)], false⟩ "result" read =
      some (some value) := by
    have found : Json.Fields.find?
        ⟨[("success", .bool true), ("errors", .array []), ("result", result)], false⟩ "result" =
        some result := rfl
    unfold Json.Fields.optional
    rw [found]
    cases result with
    | null => contradiction
    | _ => exact congrArg (Option.map some) reads
  exact congrArg (Option.bind · fun result => some (Envelope.mk true [] result)) carried

theorem opened_enveloped (plain : result.Numberless) (present : result ≠ .null)
    (reads : read result = some value) : opened read (.ok (enveloped result)) = .ok value := by
  rw [opened, Http.Response.decode?, enveloped, Json.ofBytes?_bytesOf_render (sealed_numberless plain)]
  exact congrArg unsealed (envelope_sealed present reads)

theorem heard_shown (call : Call) (result : call.Result) :
    heard call (.ok (enveloped (shown call result))) = .ok result := by
  have plain := shown_numberless call result
  have blank : Json.legible? (.object []) = some (.object []) := rfl
  cases call with
  | zones name =>
      rw [heard]
      exact opened_enveloped plain nofun (Json.list?_map _ fun _ => rfl)
  | records zone recordType name =>
      rw [heard]
      exact opened_enveloped plain nofun (Json.list?_map _ fun _ => rfl)
  | replace zone id record =>
      rw [heard, opened_enveloped plain nofun blank]
      rfl
  | create zone record =>
      rw [heard, opened_enveloped plain nofun blank]
      rfl

/-- Calls that were all answered may have been heard over the network. -/
theorem exists_converses (answered : told.Answered) (traced : Traces calls.run told outcome) :
    ∃ trace, client.Converses calls trace told outcome := by
  have conveyed : ∃ trace : Trace Network.Action Network.Action.Result,
      List.Forall₂ (Conveys (fun call => .send (client.request call)) heard) trace told := by
    clear traced
    induction told with
    | nil => exact ⟨[], .nil⟩
    | cons event told ih =>
        obtain ⟨⟨result, ok⟩, rest⟩ := List.forall_mem_cons.mp answered
        obtain ⟨trace, conveyed⟩ := ih rest
        obtain ⟨call, given⟩ := event
        exact ⟨_ :: trace, .cons (.of_heard ((heard_shown call result).trans ok.symm)) conveyed⟩
  exact conveyed.imp fun _ conveyed => ⟨conveyed, traced⟩

end Shown

end Client

namespace Account

/-- An account goes through a conversation. -/
inductive Served : Account → Conversation → Account → Prop where
  | done (account : Account) : Served account [] account
  | answered {account after : Account} {call : Call} {result : call.Result} {told : Conversation}
      (replies : (account.reply call).1 = .ok result) (later : Served (account.reply call).2 told after) :
      Served account (⟨call, .ok result⟩ :: told) after
  | failed {account next after : Account} {call : Call} {error : Error} {told : Conversation}
      (left : next = account ∨ next = (account.reply call).2) (later : Served next told after) :
      Served account (⟨call, .error error⟩ :: told) after

variable {account after : Account} {told : Conversation}

theorem Served.of_ok {call : Call} {result : call.Result}
    (served : account.Served (⟨call, .ok result⟩ :: told) after) :
    (account.reply call).1 = .ok result ∧ Served (account.reply call).2 told after := by
  cases served with
  | answered replies later => exact ⟨replies, later⟩

theorem Served.of_error {call : Call} {error : Error}
    (served : account.Served (⟨call, .error error⟩ :: told) after) :
    ∃ next, (next = account ∨ next = (account.reply call).2) ∧ Served next told after := by
  cases served with
  | failed left later => exact ⟨_, left, later⟩

theorem exists_reply (account : Account) (call : Call) :
    ∃ result, (account.reply call).1 = .ok result := by
  cases call <;> exact ⟨_, rfl⟩

/-- If no call fails, it is as if the account had been asked itself. -/
theorem run_eq_iff {α : Type} {procedure : Procedure Call (fun call => Except Error call.Result) α}
    {value : α} : procedure.run reply account = (value, after) ↔
      ∃ told : Conversation, Traces procedure told value ∧ account.Served told after ∧ told.Answered := by
  constructor
  · intro runs
    induction procedure generalizing account with
    | done given =>
        cases runs
        exact ⟨[], .done _, .done _, nofun⟩
    | ask call next ih =>
        obtain ⟨result, replies⟩ := account.exists_reply call
        have onward : (next (account.reply call).1).run reply (account.reply call).2 = (value, after) := runs
        rw [replies] at onward
        obtain ⟨told, traced, served, answered⟩ := ih _ onward
        exact ⟨⟨call, .ok result⟩ :: told, .ask traced, .answered replies served,
          List.forall_mem_cons.mpr ⟨⟨result, rfl⟩, answered⟩⟩
  · intro conversation
    obtain ⟨told, traced, served, answered⟩ := conversation
    induction traced generalizing account with
    | done outcome =>
        cases served
        rfl
    | @ask call answer _ _ _ later ih =>
        obtain ⟨⟨given, ok⟩, rest⟩ := List.forall_mem_cons.mp answered
        cases answer with
        | error error => cases ok
        | ok result =>
            obtain ⟨replies, continues⟩ := served.of_ok
            have onward := ih continues rest
            rw [← replies] at onward
            exact onward

end Account

theorem traces_ask_bind {told : Conversation} {β : Type} {call : Call}
    {later : call.Result → Calls β} {outcome : Except Error β}
    (traced : Traces (ask call >>= later).run told outcome) :
    (∃ error, told = [⟨call, .error error⟩] ∧ outcome = .error error) ∨
      ∃ result rest, told = ⟨call, .ok result⟩ :: rest ∧ Traces (later result).run rest outcome := by
  obtain ⟨error, rfl, asks⟩ | ⟨front, rest, result, rfl, asks, ends⟩ := traces_run_bind_iff.mp traced
  · exact .inl ⟨error, traces_query_iff.mp asks, rfl⟩
  · obtain rfl := traces_query_iff.mp asks
    exact .inr ⟨result, rest, rfl, ends⟩

namespace Client

section Tokens

/-! Clients that differ in their tokens only. -/

open Network

theorem call_discreet {α : Type} (client : Client) (token : String) (read : Json → Option α)
    (method : Http.Method) (path : String) (query : List (String × String)) (body : Http.Body) :
    Discreet (client.call read method path query body)
      ({ client with token }.call read method path query body) := by
  apply Discreet.bind _ fun _ => discreet_refl _
  apply discreet_send
  simp only [Http.Request.masked, List.map_cons, List.map_nil,
    Http.maskedHeader_bearer client.token token]

theorem perform_discreet (client : Client) (token : String) (call : Call) :
    Discreet (client.perform call) ({ client with token }.perform call) := by
  cases call with
  | zones name => exact call_discreet client token ..
  | records zone recordType name => exact call_discreet client token ..
  | replace zone id record => exact (call_discreet client token ..).discard
  | create zone record => exact (call_discreet client token ..).discard

theorem run_discreet {α : Type} (client : Client) (token : String) (calls : Calls α) :
    Discreet (client.run calls) ({ client with token }.run calls) := by
  have replies (call : Call) :
      Twin Link Eq (client.perform call).run ({ client with token }.perform call).run :=
    (perform_discreet client token call).mono fun _ _ same => same.eq
  exact (twin_interpret_self replies calls.run).mono fun _ _ same => sameOutcome_of_eq same

end Tokens

end Client

end Rollout.Dns.Cloudflare
