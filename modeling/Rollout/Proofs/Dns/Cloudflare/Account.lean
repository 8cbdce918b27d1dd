import Rollout.Dns.Cloudflare.Account
import Rollout.Proofs.Procedure.Traces

namespace Rollout.Dns.Cloudflare

/-! What becomes of the records of an account.

A record that is set takes the place of the first of its type and name, and joins the
records of its zone if there is none.
-/

namespace Records

variable {records : Records} {first : StoredRecord} {stale : List StoredRecord}
  {record : Record} {recordType name id : String}

def others (records : Records) (recordType name : String) : List StoredRecord :=
  records.all.filter (!·.isAt recordType name)

/-- Replaces the first record of a type and name, or adds a record. -/
def set (records : Records) (naming : Naming) (record : Record) : Records :=
  match (records.matching record.recordType record.name).head? with
  | some first => records.replace first.id record
  | none => records.add naming record

theorem eq_of_id {one other : StoredRecord} (member : one ∈ records.all)
    (also : other ∈ records.all) (same : one.id = other.id) : one = other :=
  List.inj_on_of_nodup_map records.nodup member also same

theorem isAt_record (id : String) (record : Record) :
    (StoredRecord.mk id record).isAt record.recordType record.name = true := by
  simp [StoredRecord.isAt]

/-- A replacement keeps the order of what a test selects if it takes no record in or
out. -/
theorem filter_replace {selects : StoredRecord → Bool}
    (still : ∀ stored ∈ records.all, stored.id = id → selects { stored with record } = selects stored) :
    (records.replace id record).all.filter selects =
      (records.all.filter selects).map fun stored =>
        if stored.id = id then { stored with record } else stored := by
  show (records.all.map _).filter selects = _
  rw [List.filter_map]
  congr 1
  apply List.filter_congr
  intro stored member
  by_cases same : stored.id = id
  · simp only [Function.comp, if_pos same, still stored member same]
  · simp only [Function.comp, if_neg same]

theorem map_apart {kept : List StoredRecord} (apart : ∀ stored ∈ kept, stored.id ≠ id) :
    (kept.map fun stored => if stored.id = id then { stored with record } else stored) = kept := by
  rw [List.map_congr_left fun stored member => if_neg (apart stored member)]
  exact List.map_id kept

section First

variable (found : records.matching record.recordType record.name = first :: stale)
include found

theorem first_mem : first ∈ records.all ∧ first.isAt record.recordType record.name = true := by
  have member : first ∈ records.matching record.recordType record.name := found ▸ List.mem_cons_self
  exact List.mem_filter.mp member

theorem isAt_of_first {stored : StoredRecord} (member : stored ∈ records.all)
    (same : stored.id = first.id) : stored.isAt record.recordType record.name = true := by
  rw [eq_of_id member (first_mem found).1 same]
  exact (first_mem found).2

theorem matching_replace :
    (records.replace first.id record).matching record.recordType record.name =
      { first with record } :: stale := by
  have apart : ∀ stored ∈ stale, stored.id ≠ first.id := by
    have ids : ((first :: stale).map (·.id)).Nodup := by
      rw [← found]
      exact records.nodup.sublist (List.filter_sublist.map _)
    intro stored member same
    exact (List.nodup_cons.mp ids).1 (List.mem_map.mpr ⟨stored, member, same⟩)
  unfold matching at found ⊢
  rw [filter_replace, found, List.map_cons, if_pos rfl, map_apart apart]
  intro stored member same
  rw [isAt_of_first found member same, isAt_record]

theorem others_replace :
    (records.replace first.id record).others record.recordType record.name =
      records.others record.recordType record.name := by
  unfold others
  rw [filter_replace, map_apart]
  · intro stored member same
    obtain ⟨inside, other⟩ := List.mem_filter.mp member
    simp [isAt_of_first found inside same] at other
  · intro stored member same
    rw [isAt_of_first found member same, isAt_record]

end First

theorem matching_add (naming : Naming) :
    (records.add naming record).matching record.recordType record.name =
      records.matching record.recordType record.name ++
        [{ id := naming.fresh (records.all.map (·.id)), record }] := by
  unfold matching
  show (records.all ++ [_]).filter _ = _
  simp [List.filter_append, isAt_record]

theorem others_add (naming : Naming) :
    (records.add naming record).others record.recordType record.name =
      records.others record.recordType record.name := by
  unfold others
  show (records.all ++ [_]).filter _ = _
  simp [List.filter_append, isAt_record]

/-- The record that is set leads those of its type and name, and takes the place of at
most one of them. -/
theorem matching_set (records : Records) (naming : Naming) (record : Record) :
    ∃ id, (records.set naming record).matching record.recordType record.name =
      { id, record } :: (records.matching record.recordType record.name).tail := by
  unfold set
  cases found : records.matching record.recordType record.name with
  | nil =>
      refine ⟨naming.fresh (records.all.map (·.id)), ?_⟩
      simp only [List.head?_nil, matching_add, found, List.nil_append, List.tail_nil]
  | cons first stale =>
      refine ⟨first.id, ?_⟩
      simp only [List.head?_cons, matching_replace found, List.tail_cons]

theorem eq_of_all {other : Records} (same : records.all = other.all) : records = other := by
  cases records
  cases other
  cases same
  rfl

theorem replace_self (member : { id, record } ∈ records.all) : records.replace id record = records := by
  refine eq_of_all ((List.map_congr_left fun stored among => ?_).trans (List.map_id _))
  by_cases same : stored.id = id
  · rw [if_pos same, eq_of_id among member same]
    rfl
  · rw [if_neg same]
    rfl

/-- A record that is set once more is there already. -/
theorem set_set (records : Records) (naming : Naming) (record : Record) :
    (records.set naming record).set naming record = records.set naming record := by
  obtain ⟨id, leads⟩ := records.matching_set naming record
  generalize records.set naming record = held at leads
  have there : { id, record } ∈ held.matching record.recordType record.name :=
    leads ▸ List.mem_cons_self
  unfold set
  rw [leads]
  exact replace_self (List.mem_filter.mp there).1

theorem others_set (records : Records) (naming : Naming) (record : Record) :
    (records.set naming record).others record.recordType record.name =
      records.others record.recordType record.name := by
  unfold set
  cases found : records.matching record.recordType record.name with
  | nil => exact others_add naming
  | cons first stale => exact others_replace found

end Records

namespace Account

variable {account next : Account} {zone other : Zone} {α β : Type}

/-- Ids that are longer than all others. -/
def longerIds : Naming where
  fresh used := String.ofList ('r' :: used.flatMap String.toList)
  fresh_not_mem := by
    intro used member
    have within : 'r' :: used.flatMap String.toList ∈ used.map String.toList :=
      List.mem_map.mpr ⟨_, member, String.toList_ofList⟩
    have shorter := (List.sublist_flatten_of_mem within).length_le
    rw [← List.flatMap_def, List.length_cons] at shorter
    omega

/-- The zones of the account, without their records. -/
def listed (account : Account) : List Zone := account.zones.map (·.1)

/-- The account finds a zone by a name that is the zone's own but for the case of its
letters. -/
def goesBy (account : Account) (name : String) (zone : Zone) : Bool :=
  account.finds zone.name name && Text.sameLetters zone.name name

section Changes

variable {change : Records → Records}

theorem listed_modify : (account.modify zone change).listed = account.listed := by
  show (account.zones.map _).map _ = _
  rw [List.map_map]
  rfl

theorem find?_modify :
    (account.modify zone change).zones.find? (·.1.id = other.id) =
      (account.zones.find? (·.1.id = other.id)).map fun (found, records) =>
        (found, if found.id = zone.id then change records else records) :=
  List.find?_map

theorem recordsIn_modify_other (apart : other.id ≠ zone.id) :
    (account.modify zone change).recordsIn other = account.recordsIn other := by
  unfold recordsIn
  rw [find?_modify]
  cases found : account.zones.find? (·.1.id = other.id) with
  | none => rfl
  | some held =>
      have same : held.1.id = other.id := by simpa using List.find?_some found
      simp [same, apart]

theorem recordsIn_modify (member : zone ∈ account.listed) :
    (account.modify zone change).recordsIn zone = change (account.recordsIn zone) := by
  unfold recordsIn
  rw [find?_modify]
  cases found : account.zones.find? (·.1.id = zone.id) with
  | none =>
      obtain ⟨held, among, same⟩ := List.mem_map.mp member
      exact absurd (by simp [same]) (List.find?_eq_none.mp found held among)
  | some held =>
      have same : held.1.id = zone.id := by simpa using List.find?_some found
      simp [same]

end Changes

section Running

theorem run_bind {first : Calls α} {value : α} (second : α → Calls β)
    (runs : account.run first = (.ok value, next)) :
    account.run (first >>= second) = next.run (second value) := by
  unfold run at runs ⊢
  rw [ExceptT.run_bind, Procedure.run_bind, runs]

theorem run_bind_error {first : Calls α} {error : Error} (second : α → Calls β)
    (fails : account.run first = (.error error, next)) :
    account.run (first >>= second) = (.error error, next) := by
  unfold run at fails ⊢
  rw [ExceptT.run_bind, Procedure.run_bind, fails]
  rfl

end Running

theorem find?_answered (account : Account) (name : String) :
    (account.listed.filter (account.finds ·.name name)).find? (Text.sameLetters ·.name name) =
      account.listed.find? (account.goesBy name) := by
  rw [List.find?_filter]
  congr 1
  funext zone
  simp [goesBy]

/-- The first candidate by which a zone goes decides. -/
theorem run_findAmong (account : Account) (domain : String) (candidates : List String) :
    account.run (findAmong domain candidates) =
      (match candidates.findSome? fun name => account.listed.find? (account.goesBy name) with
        | some zone => .ok zone
        | none => .error (.noZone name domain), account) := by
  induction candidates with
  | nil => rfl
  | cons candidate rest ih =>
      unfold findAmong
      have answered : account.run (ask (.zones candidate)) =
          (.ok (account.listed.filter (account.finds ·.name candidate)), account) := rfl
      rw [run_bind _ answered, find?_answered, List.findSome?_cons]
      cases account.listed.find? (account.goesBy candidate) with
      | none => exact ih
      | some zone => rfl

theorem run_findZone (account : Account) (domain : String) :
    account.run (findZone domain) =
      (match (zoneCandidates domain).findSome? fun name => account.listed.find? (account.goesBy name) with
        | some zone => .ok zone
        | none => .error (.noZone name domain), account) :=
  run_findAmong account domain (zoneCandidates domain)

/-- The call by which a record is set in a zone: it replaces the first of its type and name. -/
def write (account : Account) (zone : Zone) (record : Record) : Call :=
  match ((account.recordsIn zone).matching record.recordType record.name).head? with
  | some first => .replace zone first.id (published record)
  | none => .create zone (published record)

/-- What an account becomes when a record is set in one of its zones. -/
def Sets (account : Account) (zone : Zone) (record : Record) (after : Account) : Prop :=
  ∃ change : Records → Records,
    change (account.recordsIn zone) = (account.recordsIn zone).set account.naming record ∧
      after = account.modify zone change

theorem sets_write (account : Account) (zone : Zone) (record : Record) :
    account.Sets zone (published record) (account.reply (account.write zone record)).2 := by
  -- What is sent depends on the records of this zone, so the change agrees with `set` on them,
  -- and not on the records of any zone.
  show ∃ change : Records → Records, change (account.recordsIn zone) =
    (match ((account.recordsIn zone).matching record.recordType record.name).head? with
      | some first => (account.recordsIn zone).replace first.id (published record)
      | none => (account.recordsIn zone).add account.naming (published record)) ∧ _
  unfold write
  cases ((account.recordsIn zone).matching record.recordType record.name).head? with
  | none => exact ⟨(·.add account.naming (published record)), rfl, rfl⟩
  | some first => exact ⟨(·.replace first.id (published record)), rfl, rfl⟩

/-- In the zone that was found, the record is set. -/
theorem run_setRecord {domain : String} (record : Record)
    (chosen : account.run (findZone domain) = (.ok zone, account)) :
    ∃ change : Records → Records,
      change (account.recordsIn zone) =
        (account.recordsIn zone).set account.naming (published record) ∧
      account.run (setRecord domain record) = (.ok (), account.modify zone change) := by
  have looked : account.run (findRecord zone record) =
      (.ok (((account.recordsIn zone).matching record.recordType record.name).map (·.id)).head?,
        account) := rfl
  obtain ⟨change, changed, after⟩ := account.sets_write zone record
  refine ⟨change, changed, ?_⟩
  rw [← after, setRecord, run_bind _ chosen, run_bind _ looked, List.head?_map, write]
  cases ((account.recordsIn zone).matching record.recordType record.name).head? <;> rfl

end Account

end Rollout.Dns.Cloudflare
