import Rollout.Proofs.Dns.Cloudflare.Searching

namespace Rollout.Dns.Cloudflare

/-! A record in the zone that covers a domain.

The record is set in the first zone that is found.  Of several records with its type and
name it replaces one, and the others stay.  Over the network the setting takes one of three
courses: no zone is found, its records cannot be read, or one request is sent that writes.
-/

variable {account after : Account} {zone : Zone} {domain : String} {record : Record}

/-- Just one record has the type and the name, and it is the given one. -/
def Records.HoldsJust (records : Records) (record : Record) : Prop :=
  ∃ id, records.matching record.recordType record.name = [{ id, record }]

theorem Records.holdsJust_set_iff (records : Records) (naming : Naming) (record : Record) :
    (records.set naming record).HoldsJust record ↔
      (records.matching record.recordType record.name).length ≤ 1 := by
  obtain ⟨id, leads⟩ := records.matching_set naming record
  have single : (records.set naming record).HoldsJust record ↔
      (records.matching record.recordType record.name).tail = [] := by
    unfold HoldsJust
    rw [leads]
    constructor
    · rintro ⟨_, same⟩
      exact (List.cons.inj same).2
    · intro alone
      exact ⟨id, by rw [alone]⟩
  rw [single, ← List.length_eq_zero_iff, List.length_tail]
  omega

namespace Account

/-- The account finds a zone under a name that covers the domain. -/
def CoversDomain (account : Account) (domain : String) : Prop :=
  ∃ zone ∈ account.listed, ∃ name, Covers name domain ∧ account.goesBy name zone = true

theorem CoversDomain.finds (covers : account.CoversDomain domain) :
    ∃ zone, account.run (findZone domain) = (.ok zone, account) := by
  obtain ⟨zone, member, name, covering, goes⟩ := covers
  have some : ((zoneCandidates domain).findSome? fun name =>
      account.listed.find? (account.goesBy name)).isSome = true := by
    rw [List.findSome?_isSome_iff]
    refine ⟨name, covering.mem_zoneCandidates, ?_⟩
    rw [List.find?_isSome]
    exact ⟨zone, member, goes⟩
  obtain ⟨chosen, found⟩ := Option.isSome_iff_exists.mp some
  exact ⟨chosen, by rw [run_findZone, found]⟩

/-- The zone that is found is a zone of the account that goes by one of the candidates. -/
theorem found_of_run (chosen : account.run (findZone domain) = (.ok zone, after)) :
    after = account ∧ zone ∈ account.listed ∧
      ∃ name ∈ zoneCandidates domain, account.goesBy name zone = true := by
  rw [run_findZone] at chosen
  split at chosen
  · next chosenZone found =>
      cases chosen
      obtain ⟨name, candidate, goes⟩ := List.exists_of_findSome?_eq_some found
      exact ⟨rfl, List.mem_of_find?_eq_some goes, name, candidate, List.find?_some goes⟩
  · cases chosen

theorem run_setRecord_ok (runs : account.run (setRecord domain record) = (.ok (), after)) :
    ∃ zone, account.run (findZone domain) = (.ok zone, account) := by
  rcases found : account.run (findZone domain) with ⟨outcome, next⟩
  cases outcome with
  | error error =>
      unfold setRecord at runs
      rw [run_bind_error _ found] at runs
      cases runs
  | ok zone =>
      obtain ⟨rfl, -⟩ := found_of_run found
      exact ⟨zone, rfl⟩

/-- Setting a record succeeds if a zone covers the domain.  When it succeeds, a zone was
found in which the records of other types and names are as before, as are all other
zones.  Of the records with its type and name the new one takes the place of the first,
so it is alone exactly if there was at most one: others are left behind it. -/
theorem set_record_exact_iff (account : Account) (domain : String) (record : Record) :
    (account.CoversDomain domain → (account.run (setRecord domain record)).1 = .ok ()) ∧
    ∀ after, account.run (setRecord domain record) = (.ok (), after) →
      ∃ zone ∈ account.listed, account.run (findZone domain) = (.ok zone, account) ∧
        (∃ name ∈ zoneCandidates domain, account.goesBy name zone = true) ∧
        after.listed = account.listed ∧
        (∀ other : Zone, other.id ≠ zone.id → after.recordsIn other = account.recordsIn other) ∧
        (after.recordsIn zone).others record.recordType record.name =
          (account.recordsIn zone).others record.recordType record.name ∧
        (∃ id, (after.recordsIn zone).matching record.recordType record.name =
          { id, record := published record } ::
            ((account.recordsIn zone).matching record.recordType record.name).tail) ∧
        ((after.recordsIn zone).HoldsJust (published record) ↔
          ((account.recordsIn zone).matching record.recordType record.name).length ≤ 1) := by
  constructor
  · intro covers
    obtain ⟨zone, chosen⟩ := covers.finds
    obtain ⟨change, -, runs⟩ := run_setRecord record chosen
    rw [runs]
  · intro after runs
    obtain ⟨zone, chosen⟩ := run_setRecord_ok runs
    obtain ⟨-, member, goes⟩ := found_of_run chosen
    obtain ⟨change, sets, changed⟩ := run_setRecord record chosen
    obtain rfl : account.modify zone change = after := (Prod.mk.inj (changed.symm.trans runs)).2
    have there : (account.modify zone change).recordsIn zone =
        (account.recordsIn zone).set account.naming (published record) :=
      (recordsIn_modify member).trans sets
    refine ⟨zone, member, chosen, goes, listed_modify, fun _ => recordsIn_modify_other, ?_⟩
    rw [there]
    exact ⟨Records.others_set _ _ (published record), Records.matching_set _ _ (published record),
      Records.holdsJust_set_iff _ _ (published record)⟩

section Stale

def oldRecord (content : String) : Record where
  recordType := "A"
  name := "app.example.com"
  content := content
  ttl := 1
  proxied := some false

def crowdedAccount : Account where
  zones := [({ id := "z", name := "example.com" },
    { all := [{ id := "r0", record := oldRecord "192.0.2.1" },
        { id := "r1", record := oldRecord "192.0.2.2" }]
      nodup := by decide })]
  finds zoneName query := zoneName = query
  naming := longerIds

theorem crowdedAccount_covers : crowdedAccount.CoversDomain "app.example.com" := by
  refine ⟨_, List.mem_singleton_self _, "example.com", ⟨by decide, ?_⟩, by decide⟩
  exact .inr ⟨"app".toList, by decide⟩

/-- Of two records that earlier deployments left, one stays beside the new one. -/
theorem stale_record_stays :
    ∃ after, crowdedAccount.run (setRecord "app.example.com" (oldRecord "192.0.2.3")) =
        (.ok (), after) ∧
      ∃ zone ∈ crowdedAccount.listed,
        ¬ (after.recordsIn zone).HoldsJust (published (oldRecord "192.0.2.3")) := by
  have sets := set_record_exact_iff crowdedAccount "app.example.com" (oldRecord "192.0.2.3")
  have succeeds := sets.1 crowdedAccount_covers
  rcases runs : crowdedAccount.run (setRecord "app.example.com" (oldRecord "192.0.2.3")) with
    ⟨outcome, after⟩
  rw [runs] at succeeds
  obtain rfl : outcome = .ok () := succeeds
  obtain ⟨zone, member, -, -, -, -, -, -, alone⟩ := sets.2 after runs
  refine ⟨after, rfl, zone, member, fun just => ?_⟩
  have few := alone.mp just
  obtain rfl := List.mem_singleton.mp member
  revert few
  decide

end Stale

end Account

open Procedure

/-- Calls that may change an account. -/
def Call.isWrite : Call → Bool
  | .zones _ => false
  | .records .. => false
  | .replace .. => true
  | .create .. => true

def Conversation.writes (told : Conversation) : List Call := (told.map (·.1)).filter Call.isWrite

theorem Conversation.writes_append (front back : Conversation) :
    Conversation.writes (front ++ back) = front.writes ++ back.writes := by
  simp only [writes, List.map_append, List.filter_append]

namespace Account

/-- The zone in which the records of a domain are set. -/
def zoneFor (account : Account) (domain : String) : Option Zone :=
  (zoneCandidates domain).findSome? account.zoneBy

theorem recordsIn_congr {other : Zone} (same : other.id = zone.id) :
    account.recordsIn other = account.recordsIn zone := by
  unfold recordsIn
  rw [same]

section Sets

variable (sets : account.Sets zone record after)
include sets

theorem Sets.listed_eq : after.listed = account.listed := by
  obtain ⟨change, -, rfl⟩ := sets
  exact listed_modify

theorem Sets.recordsIn_other {other : Zone} (apart : other.id ≠ zone.id) :
    after.recordsIn other = account.recordsIn other := by
  obtain ⟨change, -, rfl⟩ := sets
  exact recordsIn_modify_other apart

theorem Sets.recordsIn_eq (member : zone ∈ account.listed) :
    after.recordsIn zone = (account.recordsIn zone).set account.naming record := by
  obtain ⟨change, changed, rfl⟩ := sets
  rw [recordsIn_modify member, changed]

theorem Sets.naming_eq : after.naming = account.naming := by
  obtain ⟨change, -, rfl⟩ := sets
  rfl

end Sets

theorem recordsIn_of_mem (distinct : (account.listed.map (·.id)).Nodup) {held : Zone × Records}
    (among : held ∈ account.zones) (same : held.1.id = zone.id) : account.recordsIn zone = held.2 := by
  rw [listed, List.map_map] at distinct
  unfold recordsIn
  cases found : account.zones.find? (·.1.id = zone.id) with
  | none => exact absurd (by simp [same]) (List.find?_eq_none.mp found held among)
  | some first =>
      have named : first.1.id = zone.id := by simpa using List.find?_some found
      rw [List.inj_on_of_nodup_map distinct (List.mem_of_find?_eq_some found) among
        (named.trans same.symm)]

theorem modify_eq_self {change : Records → Records} (distinct : (account.listed.map (·.id)).Nodup)
    (kept : change (account.recordsIn zone) = account.recordsIn zone) :
    account.modify zone change = account := by
  have entry : ∀ held ∈ account.zones,
      (held.1, if held.1.id = zone.id then change held.2 else held.2) = held := by
    intro held among
    by_cases same : held.1.id = zone.id
    · have records := recordsIn_of_mem distinct among same
      rw [if_pos same, ← records, kept, records]
    · rw [if_neg same]
  show { account with zones := account.zones.map _ } = account
  rw [List.map_congr_left entry, List.map_id']

/-- Setting a record where it was just set changes nothing that is found in the account, and
nothing at all if no two zones share an id. -/
theorem Sets.again {later : Account} (sets : account.Sets zone record after)
    (member : zone ∈ account.listed) (repeats : after.Sets zone record later) :
    (∀ other, later.recordsIn other = after.recordsIn other) ∧
      ((account.listed.map (·.id)).Nodup → later = after) := by
  have kept : (after.recordsIn zone).set after.naming record = after.recordsIn zone := by
    rw [sets.recordsIn_eq member, sets.naming_eq, Records.set_set]
  constructor
  · intro other
    by_cases same : other.id = zone.id
    · rw [recordsIn_congr same, recordsIn_congr same,
        repeats.recordsIn_eq (sets.listed_eq ▸ member), kept]
    · exact repeats.recordsIn_other same
  · intro distinct
    obtain ⟨change, changed, rfl⟩ := repeats
    exact modify_eq_self (sets.listed_eq ▸ distinct) (changed.trans kept)

/-- The courses that the setting of a record can take. -/
inductive Setting (account : Account) (domain : String) (record : Record) :
    Conversation → Except Error Unit → Account → Prop where
  | unfound {told : Conversation} {error : Error}
      (search : Search account domain (zoneCandidates domain) told (.error error)) :
      Setting account domain record told (.error error) account
  | unread {told : Conversation} {zone : Zone} {error : Error}
      (search : Search account domain (zoneCandidates domain) told (.ok zone)) :
      Setting account domain record
        (told ++ [⟨.records zone record.recordType record.name, .error error⟩]) (.error error) account
  | written {told : Conversation} {zone : Zone} {ids : List String} {call : Call}
      {answer : Except Error call.Result} {outcome : Except Error Unit} {after : Account}
      (search : Search account domain (zoneCandidates domain) told (.ok zone))
      (writes : account.write zone record = call)
      (served : account.Served [⟨call, answer⟩] after)
      (ends : outcome = answer.map fun _ => ()) :
      Setting account domain record
        (told ++ [⟨.records zone record.recordType record.name, .ok ids⟩, ⟨call, answer⟩]) outcome after

variable {told : Conversation} {outcome : Except Error Unit}

theorem Search.answered {candidates : List String}
    (search : Search account domain candidates told (.ok zone)) : told.Answered := by
  intro event member
  cases given : event.2 with
  | error error => cases (search.stops member given).2
  | ok result => exact ⟨result, rfl⟩

theorem Search.writes_eq {candidates : List String} {outcome : Except Error Zone}
    (search : Search account domain candidates told outcome) : told.writes = [] := by
  rw [Conversation.writes, search.asks, List.filter_map]
  simp [Call.isWrite, Function.comp_def]

theorem isWrite_write : (account.write zone record).isWrite = true := by
  unfold write
  cases ((account.recordsIn zone).matching record.recordType record.name).head? <;> rfl

section Facts

variable (setting : account.Setting domain record told outcome after)
include setting

theorem Setting.changes :
    after = account ∨
      ∃ zone, account.zoneFor domain = some zone ∧ account.Sets zone (published record) after := by
  cases setting with
  | unfound search => exact .inl rfl
  | unread search => exact .inl rfl
  | @written told zone ids call answer outcome after search writes served ends =>
      subst writes
      have set := account.sets_write zone record
      cases answer with
      | ok result =>
          cases served.of_ok.2
          exact .inr ⟨zone, search.first rfl, set⟩
      | error error =>
          obtain ⟨last, left, finished⟩ := served.of_error
          cases finished
          obtain same | changed := left
          · exact .inl same
          · exact .inr ⟨zone, search.first rfl, changed ▸ set⟩

theorem Setting.of_ok (succeeds : outcome = .ok ()) :
    ∃ zone, account.zoneFor domain = some zone ∧ told.writes = [account.write zone record] ∧
      account.Sets zone (published record) after := by
  cases setting with
  | unfound search => cases succeeds
  | unread search => cases succeeds
  | @written told zone ids call answer outcome after search writes served ends =>
      subst writes
      cases answer with
      | error error => cases ends.symm.trans succeeds
      | ok result =>
          cases served.of_ok.2
          refine ⟨zone, search.first rfl, ?_, account.sets_write zone record⟩
          rw [Conversation.writes_append, search.writes_eq]
          exact List.filter_cons_of_pos isWrite_write

theorem Setting.stops {event : (call : Call) × Except Error call.Result} (member : event ∈ told)
    {error : Error} (fails : event.2 = .error error) :
    told.getLast? = some event ∧ outcome = .error error ∧
      (event.1.isWrite = false → told.writes = [] ∧ after = account) := by
  cases setting with
  | unfound search =>
      obtain ⟨last, ends⟩ := search.stops member fails
      exact ⟨last, congrArg Except.error (Except.error.inj ends), fun _ => ⟨search.writes_eq, rfl⟩⟩
  | unread search =>
      obtain among | last := List.mem_append.mp member
      · exact (search.answered.elim among fails).elim
      · obtain rfl := List.mem_singleton.mp last
        refine ⟨List.getLast?_concat, congrArg Except.error (Except.error.inj fails), fun _ => ⟨?_, rfl⟩⟩
        rw [Conversation.writes_append, search.writes_eq]
        rfl
  | written search writes served ends =>
      obtain among | looked | last := (List.mem_append.trans (or_congr_right List.mem_pair)).mp member
      · exact (search.answered.elim among fails).elim
      · subst looked
        cases fails
      · subst writes last
        refine ⟨List.getLast?_append_cons .., ?_, fun asks => ?_⟩
        · exact ends.trans (congrArg (Except.map fun _ => ()) fails)
        · exact absurd (isWrite_write.symm.trans asks) nofun

end Facts

end Account

section Twice

end Twice

end Rollout.Dns.Cloudflare
