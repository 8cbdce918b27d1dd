import Rollout.Proofs.Dns.Cloudflare.Account
import Rollout.Proofs.Dns.Cloudflare.Conversation
import Rollout.Proofs.Dns.Domain

namespace Rollout.Dns.Cloudflare

open Procedure

/-! The search for the zone that covers a domain.

The candidates are asked for one after the other until the account has one of them.  A call
that fails ends the search.
-/

variable {account next after : Account} {zone : Zone} {domain : String} {told : Conversation}

namespace Account

/-- The first zone that goes by a name. -/
def zoneBy (account : Account) (name : String) : Option Zone :=
  account.listed.find? (account.goesBy name)

/-- Candidates are asked for up to the first that the account has, or to a call that fails. -/
inductive Search (account : Account) (domain : String) :
    List String → Conversation → Except Error Zone → Prop where
  | exhausted : Search account domain [] [] (.error (.noZone name domain))
  | failed {candidate : String} {rest : List String} {error : Error} :
      Search account domain (candidate :: rest) [⟨.zones candidate, .error error⟩] (.error error)
  | hit {candidate : String} {rest : List String} {zones : List Zone} {zone : Zone}
      (found : account.zoneBy candidate = some zone) :
      Search account domain (candidate :: rest) [⟨.zones candidate, .ok zones⟩] (.ok zone)
  | missed {candidate : String} {rest : List String} {zones : List Zone} {told : Conversation}
      {outcome : Except Error Zone} (absent : account.zoneBy candidate = none)
      (later : Search account domain rest told outcome) :
      Search account domain (candidate :: rest) (⟨.zones candidate, .ok zones⟩ :: told) outcome

theorem search_of_traces {candidates : List String} {outcome : Except Error Zone}
    (served : account.Served told after)
    (traced : Traces (findAmong domain candidates).run told outcome) :
    after = account ∧ Search account domain candidates told outcome := by
  induction candidates generalizing told with
  | nil =>
      obtain ⟨rfl, rfl⟩ := traces_run_throw_iff.mp traced
      cases served
      exact ⟨rfl, .exhausted⟩
  | cons candidate rest ih =>
      unfold findAmong at traced
      obtain ⟨error, rfl, rfl⟩ | ⟨zones, later, rfl, ends⟩ := traces_ask_bind traced
      · obtain ⟨next, left, finished⟩ := served.of_error
        cases finished
        exact ⟨left.elim id id, .failed⟩
      · obtain ⟨replied, continues⟩ := served.of_ok
        have answered : zones = account.listed.filter (account.finds ·.name candidate) :=
          (Except.ok.inj replied).symm
        have first : zones.find? (Text.sameLetters ·.name candidate) = account.zoneBy candidate := by
          rw [answered]
          exact account.find?_answered candidate
        rw [first] at ends
        cases found : account.zoneBy candidate with
        | some zone =>
            rw [found] at ends
            obtain ⟨rfl, rfl⟩ := traces_run_pure_iff.mp ends
            cases continues
            exact ⟨rfl, .hit found⟩
        | none =>
            rw [found] at ends
            obtain ⟨same, search⟩ := ih continues ends
            exact ⟨same, .missed found search⟩

section Facts

variable {candidates : List String} {outcome : Except Error Zone}
  (search : Search account domain candidates told outcome)
include search

theorem Search.length_le : told.length ≤ candidates.length := by
  induction search with
  | exhausted => simp
  | failed => simp
  | hit found => simp
  | missed absent later ih => simpa using ih

theorem Search.asks : told.map (·.1) = (candidates.take told.length).map Call.zones := by
  induction search with
  | exhausted => rfl
  | failed => rfl
  | hit found => rfl
  | missed absent later ih => simp [ih]

/-- Another name is asked for only if the account has no zone by the names before it. -/
theorem Search.absent_before :
    ∀ candidate ∈ candidates.take (told.length - 1), account.zoneBy candidate = none := by
  induction search with
  | exhausted => simp
  | failed => simp
  | hit found => simp
  | @missed candidate rest zones told outcome absent later ih =>
      cases told with
      | nil => simp
      | cons event told =>
          show ∀ name ∈ candidate :: rest.take told.length, _
          exact List.forall_mem_cons.mpr ⟨absent, ih⟩

theorem Search.stops {event : (call : Call) × Except Error call.Result} (member : event ∈ told)
    {error : Error} (fails : event.2 = .error error) :
    told.getLast? = some event ∧ outcome = .error error := by
  induction search with
  | exhausted => cases member
  | failed =>
      obtain rfl := List.mem_singleton.mp member
      obtain rfl := Except.error.inj fails
      exact ⟨rfl, rfl⟩
  | hit found =>
      obtain rfl := List.mem_singleton.mp member
      cases fails
  | missed absent later ih =>
      obtain rfl | within := List.mem_cons.mp member
      · cases fails
      · obtain ⟨last, ends⟩ := ih within
        refine ⟨?_, ends⟩
        rw [List.getLast?_cons, last]
        rfl

theorem Search.found {zone : Zone} (succeeds : outcome = .ok zone) :
    ∃ candidate, candidates[told.length - 1]? = some candidate ∧
      account.zoneBy candidate = some zone := by
  induction search with
  | exhausted => cases succeeds
  | failed => cases succeeds
  | @hit candidate rest zones zone found =>
      obtain rfl := Except.ok.inj succeeds
      exact ⟨candidate, rfl, found⟩
  | @missed candidate rest zones told outcome absent later ih =>
      obtain ⟨name, asked, found⟩ := ih succeeds
      cases told with
      | nil =>
          cases later
          cases succeeds
      | cons event told => exact ⟨name, asked, found⟩

theorem Search.first {zone : Zone} (succeeds : outcome = .ok zone) :
    candidates.findSome? account.zoneBy = some zone := by
  induction search with
  | exhausted => cases succeeds
  | failed => cases succeeds
  | hit found =>
      obtain rfl := Except.ok.inj succeeds
      rw [List.findSome?_cons, found]
  | missed absent later ih => rw [List.findSome?_cons, absent, ih succeeds]

/-- Without a failure the search finds a zone, or has asked for every name and has none. -/
theorem Search.concludes (answered : told.Answered) : (∃ zone, outcome = .ok zone) ∨
    outcome = .error (.noZone name domain) ∧ told.length = candidates.length ∧
      ∀ candidate ∈ candidates, account.zoneBy candidate = none := by
  induction search with
  | exhausted => exact .inr ⟨rfl, rfl, nofun⟩
  | failed =>
      obtain ⟨result, ok⟩ := answered _ (List.mem_singleton_self _)
      cases ok
  | hit found => exact .inl ⟨_, rfl⟩
  | missed absent later ih =>
      obtain found | ⟨ends, all, none⟩ := ih (List.forall_mem_cons.mp answered).2
      · exact .inl found
      · exact .inr ⟨ends, congrArg Nat.succ all, List.forall_mem_cons.mpr ⟨absent, none⟩⟩

end Facts

/-- The account finds the zones that have a name, whatever the case of its letters. -/
def FindsByName (account : Account) : Prop :=
  ∀ zoneName query, account.finds zoneName query = Text.sameLetters zoneName query

/-- The account has a zone whose name, whatever the case of its letters, covers the domain. -/
def HasCovering (account : Account) (domain : String) : Prop :=
  ∃ zone ∈ account.listed, ∃ name, Covers name domain ∧ Text.sameLetters zone.name name = true

section Named

variable (byName : account.FindsByName) {candidate : String}
include byName

theorem goesBy_eq : account.goesBy candidate zone = Text.sameLetters zone.name candidate := by
  rw [goesBy, byName, Bool.and_self]

theorem zoneBy_eq_none_iff : account.zoneBy candidate = none ↔
    ∀ zone ∈ account.listed, Text.sameLetters zone.name candidate = false := by
  simp [zoneBy, goesBy_eq byName]

theorem of_zoneBy (found : account.zoneBy candidate = some zone) :
    zone ∈ account.listed ∧ Text.sameLetters zone.name candidate = true := by
  have goes := List.find?_some found
  exact ⟨List.mem_of_find?_eq_some found, goesBy_eq byName ▸ goes⟩

end Named

end Account

open Account in
/-- A zone that covers a domain is found if the account has one.

The last two labels of the domain are looked for first, and then every longer name that ends
with them behind a point, from the whole domain down.  There is one request for each name, up
to the first by which the account has a zone; if it has none, every name was asked for.  A
request that fails ends the search with its error, and none fails if the account answers. -/
theorem covering_zone_found {domain : String}
    (solid : ∀ char ∈ domain.toList, Text.isBlank char = false)
    (many : 2 ≤ (labelsOf domain).length) :
    ((zoneCandidates domain).Nodup ∧ ∃ longer, zoneCandidates domain = rootOf domain :: longer ∧
      longer.Pairwise (fun earlier later => later.length < earlier.length) ∧
      ∀ name, name ∈ longer ↔ Covers name domain ∧ (rootOf domain).length < name.length) ∧
    ∀ client : Client,
      (∀ trace outcome, Traces (client.run (findZone domain)).run trace outcome ↔
        ∃ told, client.Converses (findZone domain) trace told outcome) ∧
      ∀ account : Account, account.FindsByName →
        (∃ trace told outcome, client.Converses (findZone domain) trace told outcome ∧
          account.Served told account ∧ told.Answered) ∧
        ∀ trace told outcome after, client.Converses (findZone domain) trace told outcome →
        account.Served told after →
        trace.length ≤ (labelsOf domain).length - 1 ∧
        trace.map (·.1) = ((zoneCandidates domain).take trace.length).map (fun candidate =>
          Network.Action.send (client.request (.zones candidate))) ∧
        (∀ candidate ∈ (zoneCandidates domain).take (trace.length - 1),
          ∀ zone ∈ account.listed, Text.sameLetters zone.name candidate = false) ∧
        (∀ zone, outcome = .ok zone → zone ∈ account.listed ∧
          ∃ candidate, (zoneCandidates domain)[trace.length - 1]? = some candidate ∧
            Covers candidate domain ∧ Text.sameLetters zone.name candidate = true) ∧
        (told.Answered → ((∃ zone, outcome = .ok zone) ↔ account.HasCovering domain) ∧
          (outcome = .error (.noZone name domain) ↔ ¬ account.HasCovering domain) ∧
          (¬ account.HasCovering domain → trace.length = (labelsOf domain).length - 1)) ∧
        ∀ event ∈ told, ∀ error, event.2 = .error error →
          told.getLast? = some event ∧ outcome = .error error := by
  refine ⟨zoneCandidates_ordered solid many, fun client => ⟨fun _ _ => client.traces_run_iff, ?_⟩⟩
  intro account byName
  obtain ⟨told, traced, serves, answered⟩ := run_eq_iff.mp (account.run_findZone domain)
  obtain ⟨trace, converses⟩ := client.exists_converses answered traced
  refine ⟨⟨trace, told, _, converses, serves, answered⟩, ?_⟩
  intro trace told outcome after converses served
  obtain ⟨-, search⟩ := search_of_traces served converses.2
  have sends := converses.sends
  rw [converses.length_eq]
  have covers {candidate : String} (among : candidate ∈ zoneCandidates domain) : Covers candidate domain :=
    (mem_zoneCandidates_iff solid many).mp among
  have first : ∀ zone, outcome = .ok zone → zone ∈ account.listed ∧
      ∃ candidate, (zoneCandidates domain)[told.length - 1]? = some candidate ∧
        Covers candidate domain ∧ Text.sameLetters zone.name candidate = true := by
    intro zone succeeds
    obtain ⟨candidate, asked, found⟩ := search.found succeeds
    obtain ⟨held, named⟩ := of_zoneBy byName found
    exact ⟨held, candidate, asked, covers (List.mem_of_getElem? asked), named⟩
  refine ⟨?_, ?_, ?_, first, ?_, fun event member error => search.stops member⟩
  · rw [← length_zoneCandidates solid many]
    exact search.length_le
  · have asks := congrArg (List.map fun call => Network.Action.send (client.request call)) search.asks
    rw [List.map_map, List.map_map] at asks
    rw [sends]
    exact asks
  · intro candidate earlier
    exact (zoneBy_eq_none_iff byName).mp (search.absent_before candidate earlier)
  · intro answered
    obtain ⟨zone, rfl⟩ | ⟨rfl, all, none⟩ := search.concludes answered
    · obtain ⟨held, candidate, -, covering, named⟩ := first zone rfl
      have has : account.HasCovering domain := ⟨zone, held, candidate, covering, named⟩
      exact ⟨iff_of_true ⟨zone, rfl⟩ has, iff_of_false nofun (not_not_intro has), (absurd has ·)⟩
    · have lacks : ¬ account.HasCovering domain := by
        intro has
        obtain ⟨zone, held, candidate, covering, named⟩ := has
        have absent := (zoneBy_eq_none_iff byName).mp (none candidate covering.mem_zoneCandidates)
        exact Bool.false_ne_true ((absent zone held).symm.trans named)
      refine ⟨iff_of_false nofun lacks, iff_of_true rfl lacks, fun _ => ?_⟩
      rw [all, length_zoneCandidates solid many]

section Second

def sharedZone : Zone where
  id := "z"
  name := "App.Example.com"

def sharingAccount : Account where
  zones := [(sharedZone, .empty)]
  finds := Text.sameLetters
  naming := Account.longerIds

def sharedSearch : Conversation :=
  [⟨.zones "example.com", .ok []⟩, ⟨.zones "app.example.com", .ok [sharedZone]⟩]

theorem sharedSearch_traced : Traces (findZone "App.Example.COM.").run sharedSearch (.ok sharedZone) := by
  have candidates : zoneCandidates "App.Example.COM." = ["example.com", "app.example.com"] := by
    decide +kernel
  rw [findZone, candidates]
  exact .ask (.ask (.done _))

theorem sharedSearch_answered : sharedSearch.Answered := by simp [Conversation.Answered, sharedSearch]

/-- The second name is asked for because the account has no zone by the first. -/
theorem second_candidate_found :
    let domain := "App.Example.COM."
    let client : Client := { token := "token" }
    ∃ trace, client.Converses (findZone domain) trace sharedSearch (.ok sharedZone) ∧
      sharingAccount.Served sharedSearch sharingAccount ∧ sharedSearch.Answered ∧ trace.length ≤ 2 ∧
      sharingAccount.HasCovering domain := by
  intro domain client
  have answered := sharedSearch_answered
  obtain ⟨trace, converses⟩ := client.exists_converses answered sharedSearch_traced
  have served : sharingAccount.Served sharedSearch sharingAccount :=
    .answered rfl (.answered rfl (.done _))
  have found := (@covering_zone_found domain (Text.solid_of_all (by decide)) (by decide)).2 client
  obtain ⟨few, -, -, -, concludes, -⟩ :=
    (found.2 sharingAccount fun _ _ => rfl).2 trace _ _ _ converses served
  exact ⟨trace, converses, served, answered, few.trans (by decide), (concludes answered).1.mp ⟨_, rfl⟩⟩

end Second

end Rollout.Dns.Cloudflare
