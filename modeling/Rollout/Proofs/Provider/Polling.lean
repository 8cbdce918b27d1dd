import Rollout.Json.Printer
import Rollout.Proofs.Provider.Looking
import Rollout.Rehearsal.Machine

namespace Rollout.Provider

open Procedure

/-! How long a wait for a server takes, and what it ends with.

Both providers wait in the same way: a poll every interval, until one of them decides.  A
poll decides if looking failed or if the server is ready and has an address.  If none does,
the polls end with the time of the wait, and not with the number of looks that it is given.
-/

/-- Surroundings whose clock is moved by pauses alone. -/
structure Timekept (State : Type) where
  reply : State → (action : Network.Action) → action.Result × State
  clock : State → Nat
  shows : ∀ state, (reply state .now).1 = clock state
  stays : ∀ state, clock (reply state .now).2 = clock state
  passes : ∀ state time, clock (reply state (.pause time)).2 = clock state + time
  stands : ∀ state request, clock (reply state (.send request)).2 = clock state

/-- The clock of a trace shows a moment at first, and later ones as the pauses go by. -/
def OnTime : Nat → Trace Network.Action Network.Action.Result → Prop
  | _, [] => True
  | moment, ⟨.now, shown⟩ :: later => shown = moment ∧ OnTime moment later
  | moment, ⟨.pause time, _⟩ :: later => OnTime (moment + time) later
  | moment, ⟨.send _, _⟩ :: later => OnTime moment later

section Time

variable {State : Type} {world : Timekept State} {before after : State} {moment : Nat}
  {front back : Trace Network.Action Network.Action.Result}

theorem Timekept.onTime {trace : Trace Network.Action Network.Action.Result}
    (replied : Replied world.reply before trace after) : OnTime (world.clock before) trace := by
  induction replied with
  | done state => exact trivial
  | @ask state last question trace later ih =>
      cases question with
      | now =>
          rw [world.stays] at ih
          exact ⟨world.shows state, ih⟩
      | pause time =>
          rw [world.passes] at ih
          exact ih
      | send request =>
          rw [world.stands] at ih
          exact ih

theorem onTime_of_sends (sends : OnlySends front) :
    OnTime moment (front ++ back) ↔ OnTime moment back := by
  induction front with
  | nil => rfl
  | cons event rest ih =>
      obtain ⟨request, answer, rfl⟩ := sends event List.mem_cons_self
      exact ih fun event member => sends event (List.mem_cons_of_mem _ member)

end Time

/-- What one look exchanged and what it came to. -/
structure Poll where
  exchange : Trace Network.Action Network.Action.Result
  seen : Except Error (Option Server)

/-- How a server stands, whatever its provider calls it. -/
inductive Standing where
  | failed (reason : String)
  | unready
  | unaddressed
  | ready (name : String) (address : Address)
deriving DecidableEq

def Standing.isDecisive : Standing → Bool
  | .failed _ | .ready .. => true
  | .unready | .unaddressed => false

def Error.reason : Error → String
  | .api _ reason => reason
  | error => error.message

def Server.standing (ready : String) (server : Server) : Standing :=
  if server.status = ready then
    match server.address with
    | some address => .ready server.name address
    | none => .unaddressed
  else .unready

namespace Poll

def standing (ready : String) (poll : Poll) : Standing :=
  match poll.seen with
  | .error error => .failed error.reason
  | .ok none => .unready
  | .ok (some server) => server.standing ready

def decides (ready : String) (poll : Poll) : Bool := (poll.standing ready).isDecisive

def tellsReady (ready : String) (poll : Poll) : Bool :=
  match poll.seen with
  | .ok (some server) => server.status = ready
  | _ => false

/-- The polls from a moment on, with a pause behind each that did not decide. -/
def spelled (interval : Nat) (ready : String) :
    Nat → List Poll → Trace Network.Action Network.Action.Result
  | _, [] => []
  | moment, poll :: later =>
      ⟨.now, moment⟩ :: poll.exchange ++
        if poll.decides ready then []
        else ⟨.pause interval, ()⟩ :: spelled interval ready (moment + interval) later

end Poll

/-- The end of a wait that had time for some looks: the result of the last of its polls, if
that decided, and otherwise what all polls say about the server. -/
inductive Ends (ready id : String) (looks : Nat) (wasReady : Bool) :
    List Poll → Except Error Server → Prop where
  | failed (polls : List Poll) {exchange : Trace Network.Action Network.Action.Result}
      {error : Error} :
      Ends ready id looks wasReady (polls ++ [{ exchange, seen := .error error }]) (.error error)
  | found (polls : List Poll) {exchange : Trace Network.Action Network.Action.Result}
      {server : Server} (status : server.status = ready) (address : server.address.isSome = true) :
      Ends ready id looks wasReady (polls ++ [{ exchange, seen := .ok (some server) }]) (.ok server)
  | givenUp {polls : List Poll} (count : polls.length = looks)
      (undecided : ∀ poll ∈ polls, poll.decides ready = false) :
      Ends ready id looks wasReady polls
        (.error (givenUp id (wasReady || polls.any (Poll.tellsReady ready))))

/-- The polls of a wait, of which the last may decide and no other does. -/
structure Polled (Looked : Sighting) (ready id : String) (looks : Nat) (wasReady : Bool)
    (polls : List Poll) (outcome : Except Error Server) : Prop where
  looked : ∀ poll ∈ polls, Looked poll.exchange poll.seen
  most : polls.length ≤ looks
  undecided : ∀ poll ∈ polls.dropLast, poll.decides ready = false
  ends : Ends ready id looks wasReady polls outcome

section Machine

variable {Looked : Sighting} {look : Network Error (Option Server)}
  {interval looks deadline moment : Nat} {ready id : String} {wasReady : Bool} {poll : Poll}
  {polls : List Poll} {outcome : Except Error Server} {trace : Trace Network.Action Network.Action.Result}

theorem Poll.decides_of_ready (exchange : Trace Network.Action Network.Action.Result)
    {server : Server} (status : server.status = ready) :
    Poll.decides ready { exchange, seen := .ok (some server) } = server.address.isSome := by
  cases address : server.address <;>
    simp [Poll.decides, Poll.standing, Server.standing, status, address, Standing.isDecisive]

/-- A look that shows no ready server decides nothing. -/
theorem Poll.of_unready (exchange : Trace Network.Action Network.Action.Result)
    {seen : Option Server} (unready : seen.filter (·.status = ready) = none) :
    Poll.decides ready { exchange, seen := .ok seen } = false ∧
      Poll.tellsReady ready { exchange, seen := .ok seen } = false := by
  cases seen with
  | none => exact ⟨rfl, rfl⟩
  | some server =>
      have status : server.status ≠ ready := by simpa using unready
      simp [Poll.decides, Poll.standing, Server.standing, Poll.tellsReady, status, Standing.isDecisive]

theorem Ends.later (undecided : poll.decides ready = false)
    (ends : Ends ready id looks (wasReady || poll.tellsReady ready) polls outcome) :
    Ends ready id (looks + 1) wasReady (poll :: polls) outcome := by
  cases ends with
  | failed before => exact .failed (poll :: before)
  | found before status address => exact .found (poll :: before) status address
  | givenUp count others =>
      have all : ∀ poll' ∈ poll :: polls, poll'.decides ready = false := by
        simpa using ⟨undecided, others⟩
      have ends : Ends ready id (looks + 1) wasReady (poll :: polls) _ :=
        .givenUp (congrArg (· + 1) count) all
      rwa [List.any_cons, ← Bool.or_assoc] at ends

theorem Polled.later (undecided : poll.decides ready = false)
    (looked : Looked poll.exchange poll.seen)
    (polled : Polled Looked ready id looks (wasReady || poll.tellsReady ready) polls outcome) :
    Polled Looked ready id (looks + 1) wasReady (poll :: polls) outcome where
  looked := by simpa using ⟨looked, polled.looked⟩
  most := by simpa using polled.most
  undecided := by
    cases polls with
    | nil => exact nofun
    | cons next rest => simpa using ⟨undecided, polled.undecided⟩
  ends := polled.ends.later undecided

theorem Polled.single (looked : Looked poll.exchange poll.seen)
    (ends : Ends ready id (looks + 1) wasReady [poll] outcome) :
    Polled Looked ready id (looks + 1) wasReady [poll] outcome where
  looked := by simpa using looked
  most := by simp
  undecided := nofun
  ends := ends

theorem Poll.spelled_last (decides : poll.decides ready = true) :
    ⟨.now, moment⟩ :: poll.exchange = Poll.spelled interval ready moment [poll] := by
  simp [Poll.spelled, decides]

theorem Poll.spelled_later (undecided : poll.decides ready = false) :
    ⟨.now, moment⟩ :: (poll.exchange ++ ⟨.pause interval, ()⟩ ::
        Poll.spelled interval ready (moment + interval) polls) =
      Poll.spelled interval ready moment (poll :: polls) := by
  simp [Poll.spelled, undecided]

theorem polled_of_traces (sends : ∀ exchange seen, Traces look.run exchange seen → OnlySends exchange)
    (fits : looks = 0 ∨ moment + (looks - 1) * interval ≤ deadline) (timed : OnTime moment trace)
    (traced : Traces (Provider.poll look ready id interval deadline wasReady looks).run trace outcome) :
    ∃ polls, trace = Poll.spelled interval ready moment polls ∧
      Polled (Traces look.run) ready id looks wasReady polls outcome := by
  induction looks generalizing wasReady moment trace with
  | zero =>
      obtain ⟨rfl, rfl⟩ := traces_run_throw_iff.mp traced
      refine ⟨[], rfl, nofun, Nat.le_refl 0, nofun, ?_⟩
      have ends : Ends ready id 0 wasReady [] _ := .givenUp rfl nofun
      simpa using ends
  | succ looks ih =>
      unfold Provider.poll at traced
      obtain ⟨shown, rest, rfl, looksNow⟩ := traces_run_ask_bind_iff.mp traced
      obtain ⟨same, timed⟩ := timed
      obtain rfl := same.symm
      have within := fits.resolve_left (Nat.succ_ne_zero looks)
      rw [Nat.add_sub_cancel] at within
      have early : ¬ deadline < moment := by omega
      rw [if_neg early] at looksNow
      rcases traces_run_bind_iff.mp looksNow with ⟨error, rfl, looked⟩ |
        ⟨exchange, back, seen, rfl, looked, goesOn⟩
      · let poll : Poll := { exchange := rest, seen := .error error }
        have decides : poll.decides ready = true := rfl
        exact ⟨[poll], Poll.spelled_last decides, .single looked (.failed [])⟩
      -- The next poll follows after the pause, and still within the time if there is one.
      have pauses {stillReady : Bool} (undecided : Poll.decides ready { exchange, seen := .ok seen } = false)
          (told : stillReady = (wasReady || Poll.tellsReady ready { exchange, seen := .ok seen }))
          (paused : Traces (Network.pause interval >>= fun _ =>
            Provider.poll look ready id interval deadline stillReady looks).run back outcome) :
          ∃ polls, ⟨.now, moment⟩ :: (exchange ++ back) = Poll.spelled interval ready moment polls ∧
            Polled (Traces look.run) ready id (looks + 1) wasReady polls outcome := by
        obtain ⟨⟨⟩, later, rfl, continues⟩ := traces_run_ask_bind_iff.mp paused
        have timely := (onTime_of_sends (sends _ _ looked)).mp timed
        have fitsLater : looks = 0 ∨ moment + interval + (looks - 1) * interval ≤ deadline := by
          cases looks with
          | zero => exact .inl rfl
          | succ looks =>
              rw [Nat.succ_mul] at within
              right
              rw [Nat.add_sub_cancel]
              omega
        subst told
        obtain ⟨polls, rfl, polled⟩ := ih fitsLater timely continues
        let poll : Poll := { exchange, seen := .ok seen }
        exact ⟨poll :: polls, Poll.spelled_later undecided, polled.later undecided looked⟩
      cases filtered : seen.filter (·.status = ready) with
      | none =>
          rw [filtered] at goesOn
          obtain ⟨undecided, unready⟩ := Poll.of_unready exchange filtered
          exact pauses undecided (by rw [unready, Bool.or_false]) goesOn
      | some server =>
          rw [filtered] at goesOn
          obtain ⟨rfl, status⟩ := Option.filter_eq_some_iff.mp filtered
          have status : server.status = ready := of_decide_eq_true status
          have decides := Poll.decides_of_ready exchange status
          cases address : server.address.isSome with
          | true =>
              simp only [address, if_true] at goesOn
              obtain ⟨rfl, rfl⟩ := traces_run_pure_iff.mp goesOn
              rw [List.append_nil]
              let poll : Poll := { exchange, seen := .ok (some server) }
              exact ⟨[poll], Poll.spelled_last (decides.trans address),
                .single looked (.found [] status address)⟩
          | false =>
              simp only [address, Bool.false_eq_true, if_false] at goesOn
              exact pauses (decides.trans address) (by simp [Poll.tellsReady, status]) goesOn

end Machine

section Looks

variable {State : Type} {world : Timekept State} {before after : State}
  {look : Network Error (Option Server)} {interval looks deadline : Nat} {ready id : String}
  {wasReady : Bool} {trace : Trace Network.Action Network.Action.Result}

theorem Timekept.clock_of_sends (sends : OnlySends trace)
    (replied : Replied world.reply before trace after) : world.clock after = world.clock before := by
  induction replied with
  | done state => rfl
  | @ask state last question trace later ih =>
      obtain ⟨request, answer, same⟩ := sends _ List.mem_cons_self
      obtain ⟨rfl, -⟩ := Sigma.mk.inj same
      rw [ih fun event member => sends event (List.mem_cons_of_mem _ member), world.stands]

/-- A wait whose looks last beyond its time ends in the same way with more of them. -/
theorem poll_run_more (sends : ∀ exchange seen, Traces look.run exchange seen → OnlySends exchange)
    (late : deadline < world.clock before + looks * interval) (extra : Nat) :
    ((Provider.poll look ready id interval deadline wasReady (looks + extra)).run.run
        world.reply before).1 =
      ((Provider.poll look ready id interval deadline wasReady looks).run.run world.reply before).1 := by
  induction looks generalizing wasReady before with
  | zero =>
      cases extra with
      | zero => rfl
      | succ extra =>
          have passed : deadline < (world.reply before .now).1 := by
            rw [world.shows]
            omega
          unfold Provider.poll Network.now Network.ask
          rw [run_ask_bind, if_pos passed]
          rfl
  | succ looks ih =>
      rw [Nat.add_right_comm]
      unfold Provider.poll Network.now Network.ask
      rw [run_ask_bind, run_ask_bind]
      by_cases passed : deadline < (world.reply before .now).1
      · rw [if_pos passed, if_pos passed]
      rw [if_neg passed, if_neg passed, run_run_bind, run_run_bind]
      obtain ⟨exchange, looked, replied⟩ := traces_run world.reply look.run (world.reply before .now).2
      have still := (world.clock_of_sends (sends _ _ looked) replied).trans (world.stays before)
      generalize look.run.run world.reply (world.reply before .now).2 = looking at still ⊢
      obtain ⟨seen, later⟩ := looking
      have again (stillReady : Bool) :
          ((Network.pause interval >>= fun _ => Provider.poll look ready id interval deadline stillReady
              (looks + extra)).run.run world.reply later).1 =
            ((Network.pause interval >>= fun _ => Provider.poll look ready id interval deadline stillReady
              looks).run.run world.reply later).1 := by
        unfold Network.pause Network.ask
        rw [run_ask_bind, run_ask_bind]
        apply ih
        rw [world.passes, show world.clock later = world.clock before from still]
        rw [Nat.succ_mul] at late
        omega
      cases seen with
      | error error => rfl
      | ok seen =>
          cases filtered : seen.filter (·.status = ready) with
          | none => simpa only [filtered] using again wasReady
          | some server =>
              cases address : server.address.isSome with
              | true => simp only [filtered, address, if_true]
              | false => simpa only [filtered, address, Bool.false_eq_true, if_false] using again true

end Looks

section Standings

variable {Looked Looked' : Sighting} {ready ready' id id' : String} {looks : Nat}
  {polls polls' : List Poll} {outcome outcome' : Except Error Server}

/-- Wherever both waits have a poll, they see the server stand alike. -/
def SeeAlike (ready ready' : String) (polls polls' : List Poll) : Prop :=
  ∀ (place : Nat) (poll poll' : Poll), polls[place]? = some poll → polls'[place]? = some poll' →
    poll.standing ready = poll'.standing ready'

theorem SeeAlike.symm (alike : SeeAlike ready ready' polls polls') :
    SeeAlike ready' ready polls' polls :=
  fun place poll' poll found' found => (alike place poll poll' found found').symm

/-- How the server of a wait stands in the end. -/
def concluded : Except Error Server → Standing
  | .ok server => server.standing server.status
  | .error (.missingAddress _) => .unaddressed
  | .error (.timeout ..) => .unready
  | .error error => .failed error.reason

/-- What a wait should conclude from the standings that it sees. -/
def conclusion (standings : List Standing) : Standing :=
  (standings.find? Standing.isDecisive).getD
    (if .unaddressed ∈ standings then .unaddressed else .unready)

theorem Polled.length_le (alike : SeeAlike ready ready' polls polls')
    (polled : Polled Looked ready id looks false polls outcome)
    (polled' : Polled Looked' ready' id' looks false polls' outcome') :
    polls.length ≤ polls'.length := by
  have most := polled.most
  have last {before : List Poll} {poll : Poll} (parts : polls' = before ++ [poll])
      (decides : poll.decides ready' = true) : polls.length ≤ polls'.length := by
    apply Classical.byContradiction
    intro more
    have shorter : before.length < polls.dropLast.length := by simp [parts] at more ⊢; omega
    have found : polls[before.length]? = some polls.dropLast[before.length] := by
      rw [← List.getElem?_eq_getElem, List.getElem?_dropLast, if_pos (by simpa using shorter)]
    have same := alike before.length _ poll found (by simp [parts])
    have undecided := polled.undecided _ (List.getElem_mem shorter)
    rw [Poll.decides, same] at undecided
    exact absurd (decides.symm.trans undecided) nofun
  cases polled'.ends with
  | failed before => exact last rfl rfl
  | found before status address => exact last rfl ((Poll.decides_of_ready _ status).trans address)
  | givenUp count undecided => exact count ▸ most

theorem Polled.standings_eq (alike : SeeAlike ready ready' polls polls')
    (polled : Polled Looked ready id looks false polls outcome)
    (polled' : Polled Looked' ready' id' looks false polls' outcome') :
    polls.map (Poll.standing ready) = polls'.map (Poll.standing ready') := by
  have most := polled.length_le alike polled'
  have least := polled'.length_le alike.symm polled
  refine List.ext_getElem (by simp; omega) fun place within within' => ?_
  simp only [List.length_map] at within within'
  simpa using alike place _ _ (List.getElem?_eq_getElem within) (List.getElem?_eq_getElem within')

theorem Poll.tellsReady_iff {poll : Poll} (undecided : poll.decides ready = false) :
    poll.tellsReady ready = true ↔ poll.standing ready = .unaddressed := by
  rcases poll with ⟨exchange, error | _ | server⟩
  · cases undecided
  · simp [Poll.tellsReady, Poll.standing]
  · by_cases status : server.status = ready
    · have address := (Poll.decides_of_ready _ status).symm.trans undecided
      have missing : server.address = none := by simpa using address
      simp [Poll.tellsReady, Poll.standing, Server.standing, status, missing]
    · simp [Poll.tellsReady, Poll.standing, Server.standing, status]

theorem conclusion_of_last {before : List Standing} {last : Standing}
    (undecided : ∀ standing ∈ before, standing.isDecisive = false) (decides : last.isDecisive = true) :
    conclusion (before ++ [last]) = last := by
  have none : before.find? Standing.isDecisive = none := by simpa using undecided
  simp [conclusion, none, decides]

theorem Polled.concluded_eq (polled : Polled Looked ready id looks false polls outcome)
    (failures : ∀ exchange error, Looked exchange (.error error) →
      ∃ name reason, error = .api name reason) :
    concluded outcome = conclusion (polls.map (Poll.standing ready)) := by
  have earlier := polled.undecided
  cases polled.ends with
  | @failed before exchange error =>
      have looked := polled.looked { exchange, seen := .error error } (by simp)
      obtain ⟨name, reason, rfl⟩ := failures exchange error looked
      rw [List.map_append, List.map_singleton,
        conclusion_of_last (by simpa [Poll.decides] using earlier) rfl]
      rfl
  | @found before exchange server status address =>
      have decides := (Poll.decides_of_ready exchange status).trans address
      rw [List.map_append, List.map_singleton,
        conclusion_of_last (by simpa [Poll.decides] using earlier) decides, concluded, status]
      rfl
  | givenUp count undecided =>
      have none : (polls.map (Poll.standing ready)).find? Standing.isDecisive = none := by
        simpa [Poll.decides] using undecided
      have once : polls.any (Poll.tellsReady ready) = true ↔
          Standing.unaddressed ∈ polls.map (Poll.standing ready) := by
        simp only [List.any_eq_true, List.mem_map]
        exact exists_congr fun poll =>
          and_congr_right fun member => Poll.tellsReady_iff (undecided poll member)
      rw [conclusion, none, Option.getD_none, Bool.false_or]
      by_cases unaddressed : Standing.unaddressed ∈ polls.map (Poll.standing ready)
      · rw [if_pos unaddressed, once.mpr unaddressed]
        rfl
      · rw [if_neg unaddressed, Bool.eq_false_iff.mpr (mt once.mp unaddressed)]
        rfl

end Standings

/-- A wait in surroundings that keep time: what it exchanges and when, what its polls see and
how it ends, and that it would end in the same way with more looks than it is given. -/
structure Awaited {State : Type} (world : Timekept State) (polling : Polling)
    (look : Network Error (Option Server)) (ready id : String)
    (Looked : Sighting) (before : State) (polls : List Poll) (ran : Except Error Server × State) : Prop where
  replied : Replied world.reply before
    (⟨.now, world.clock before⟩ :: Poll.spelled polling.interval ready (world.clock before) polls) ran.2
  polled : Polled Looked ready id (polling.timeout / polling.interval + 1) false polls ran.1
  unlimited : ∀ looks, polling.looks ≤ looks →
    ((do poll look ready id polling.interval ((← Network.now) + polling.timeout) false looks :
      Network Error Server).run.run world.reply before).1 = ran.1

section Waits

variable {State : Type} {Looked : Sighting} {look : Network Error (Option Server)}

theorem Polled.mono {Looked' : Sighting} {ready id : String} {looks : Nat} {wasReady : Bool}
    {polls : List Poll} {outcome : Except Error Server}
    (polled : Polled Looked ready id looks wasReady polls outcome)
    (wider : ∀ exchange seen, Looked exchange seen → Looked' exchange seen) :
    Polled Looked' ready id looks wasReady polls outcome :=
  { polled with looked := fun poll member => wider _ _ (polled.looked poll member) }

theorem awaited (world : Timekept State) (polling : Polling) (positive : 0 < polling.interval)
    (ready id : String) (looked : ∀ exchange seen, Traces look.run exchange seen → Looked exchange seen)
    (sends : ∀ exchange seen, Looked exchange seen → OnlySends exchange) (before : State) :
    ∃ polls, Awaited world polling look ready id Looked before polls
      ((polling.await look ready id).run.run world.reply before) := by
  have onlySends : ∀ exchange seen, Traces look.run exchange seen → OnlySends exchange :=
    fun exchange seen traced => sends exchange seen (looked exchange seen traced)
  have looks : polling.looks = polling.timeout / polling.interval + 1 := by
    rw [Polling.looks, Nat.max_eq_left positive]
  obtain ⟨trace, traced, replied⟩ := traces_run world.reply (polling.await look ready id).run before
  have timed := world.onTime replied
  obtain ⟨start, rest, rfl, continues⟩ := traces_run_ask_bind_iff.mp traced
  obtain ⟨rfl, timed⟩ := timed
  have fits : polling.looks = 0 ∨ world.clock before + (polling.looks - 1) * polling.interval ≤
      world.clock before + polling.timeout := by
    rw [looks, Nat.add_sub_cancel]
    exact .inr (Nat.add_le_add_left (Nat.div_mul_le_self ..) _)
  obtain ⟨polls, rfl, polled⟩ := polled_of_traces onlySends fits timed continues
  refine ⟨polls, replied, looks ▸ polled.mono looked, fun more least => ?_⟩
  obtain ⟨extra, rfl⟩ := Nat.exists_eq_add_of_le least
  unfold Polling.await Network.now Network.ask
  rw [run_ask_bind, run_ask_bind]
  apply poll_run_more onlySends
  rw [world.shows, world.stays, looks]
  have beyond : polling.timeout / polling.interval < polling.timeout / polling.interval + 1 :=
    Nat.lt_succ_self _
  rw [Nat.div_lt_iff_lt_mul positive] at beyond
  omega

end Waits

/-- With credentials, both providers wait by the same polls: what they conclude is a function
of how they see the server stand, and they stop at the same poll if they see it stand alike. -/
theorem servers_awaited {State : Type} (world : Timekept State) (polling : Polling)
    (positive : 0 < polling.interval) (id : String)
    (droplets : DigitalOcean.Account) (token : String) (known : droplets.token? = .ok token)
    (instances : Scaleway.Account) (key : String) (client : instances.clientKey? = .ok key)
    (before before' : State) :
    let server := Scaleway.Reference.ofText instances.zone id
    let ran := (DigitalOcean.awaitServer droplets id polling).run.run world.reply before
    let ran' := (Scaleway.awaitServer instances id polling).run.run world.reply before'
    ∃ polls polls',
      Awaited world polling (DigitalOcean.look droplets id) "active" id
        (DigitalOcean.Looked token id) before polls ran ∧
      Awaited world polling (Scaleway.look instances server) "running" server.toText
        (Scaleway.Looked key server) before' polls' ran' ∧
      concluded ran.1 = conclusion (polls.map (Poll.standing "active")) ∧
      concluded ran'.1 = conclusion (polls'.map (Poll.standing "running")) ∧
      (SeeAlike "active" "running" polls polls' →
        polls.map (Poll.standing "active") = polls'.map (Poll.standing "running") ∧
          concluded ran.1 = concluded ran'.1) := by
  intro server ran ran'
  obtain ⟨polls, waits⟩ := awaited world polling positive "active" id
    (fun _ _ => DigitalOcean.looked_of_traces known) (fun _ _ => DigitalOcean.Looked.sends) before
  obtain ⟨polls', waits'⟩ := awaited world polling positive "running" server.toText
    (fun _ _ => Scaleway.looked_of_traces client)
    (fun _ _ => Scaleway.Looked.sends) before'
  have concludes : concluded ran.1 = conclusion (polls.map (Poll.standing "active")) := by
    refine waits.polled.concluded_eq fun exchange error looked => ?_
    obtain ⟨reason, rfl⟩ := looked.error
    exact ⟨_, reason, rfl⟩
  have concludes' : concluded ran'.1 = conclusion (polls'.map (Poll.standing "running")) := by
    refine waits'.polled.concluded_eq fun exchange error looked => ?_
    obtain ⟨reason, rfl⟩ := looked.error
    exact ⟨_, reason, rfl⟩
  refine ⟨polls, polls', waits, waits', concludes, concludes', fun alike => ?_⟩
  have same := waits.polled.standings_eq alike waits'.polled
  exact ⟨same, by rw [concludes, concludes', same]⟩

section Booting

open Rehearsal

/-- A network that answers from a script. -/
def scripted : Timekept Wire where
  reply := Wire.reply
  clock := Wire.now
  shows _ := rfl
  stays _ := rfl
  passes _ _ := rfl
  stands wire _ := by
    cases responses : wire.responses <;> simp [Wire.reply, responses]

def shown (json : Json) : Except String Http.Response :=
  .ok { status := 200, body := Text.Utf8.bytesOf json.render }

def dropletShown (status : String) (addresses : List String) : Json :=
  let network (address : String) : Json :=
    .object [("ip_address", .text address), ("type", .text "public")]
  .object [("droplet", .object [("id", .whole 7), ("name", .text "web"), ("status", .text status),
    ("networks", .object [("v4", .array (addresses.map network))])])]

/-- A droplet that is looked at before it runs, then before it has an address, and with one;
and an instance that is not listed yet when the network breaks down. -/
theorem servers_awaited_booting :
    let droplets : DigitalOcean.Account := { token := some "secret" }
    let instances : Scaleway.Account := { secretKey := some "secret" }
    let server := Scaleway.Reference.ofText instances.zone "7"
    let front := Wire.ofScript [shown (dropletShown "new" []), shown (dropletShown "active" []),
      shown (dropletShown "active" ["203.0.113.7"])]
    let front' := Wire.ofScript [shown (.object [("servers", .array [])]), .error "unreachable"]
    let ran := (DigitalOcean.awaitServer droplets "7").run.run scripted.reply front
    let ran' := (Scaleway.awaitServer instances "7").run.run scripted.reply front'
    (droplets.token? = .ok "secret" ∧ instances.clientKey? = .ok "secret") ∧
      (concluded ran.1, ran.2.now) = (.ready "web" (.v4 #v[203, 0, 113, 7]), 10000) ∧
      (concluded ran'.1, ran'.2.now) = (.failed "Request: unreachable", 5000) ∧
      ∃ polls polls',
        Awaited scripted .usual (DigitalOcean.look droplets "7") "active" "7"
          (DigitalOcean.Looked "secret" "7") front polls ran ∧
        Awaited scripted .usual (Scaleway.look instances server) "running" server.toText
          (Scaleway.Looked "secret" server) front' polls' ran' := by
  intro droplets instances server front front' ran ran'
  have known : droplets.token? = .ok "secret" := rfl
  have client : instances.clientKey? = .ok "secret" := rfl
  have found : (concluded ran.1, ran.2.now) = (.ready "web" (.v4 #v[203, 0, 113, 7]), 10000) := by
    decide +kernel
  have failed : (concluded ran'.1, ran'.2.now) = (.failed "Request: unreachable", 5000) := by
    decide +kernel
  obtain ⟨polls, polls', waits, waits', -⟩ :=
    servers_awaited scripted .usual (by decide) "7" droplets "secret" known instances "secret" client
      front front'
  exact ⟨⟨known, client⟩, found, failed, polls, polls', waits, waits'⟩

end Booting
end Rollout.Provider
