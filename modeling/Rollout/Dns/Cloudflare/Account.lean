import Mathlib.Data.List.Nodup
import Rollout.Dns.Cloudflare.Zone

namespace Rollout.Dns.Cloudflare

/-! Accounts in memory, which answer as the interface promises: zones and records are
found by what is asked for, a record is replaced by its id, and a new record is added
behind the others. -/

structure StoredRecord where
  id : String
  record : Record
deriving Repr, DecidableEq

def StoredRecord.isAt (stored : StoredRecord) (recordType name : String) : Bool :=
  stored.record.recordType = recordType && stored.record.name = name

/-- Source of ids for new records. -/
structure Naming where
  fresh : (used : List String) → String
  fresh_not_mem : ∀ used, fresh used ∉ used

/-- The records of a zone, each with an id of its own. -/
structure Records where
  all : List StoredRecord
  nodup : (all.map (·.id)).Nodup

namespace Records

def empty : Records where
  all := []
  nodup := List.nodup_nil

def matching (records : Records) (recordType name : String) : List StoredRecord :=
  records.all.filter (·.isAt recordType name)

def replace (records : Records) (id : String) (record : Record) : Records where
  all := records.all.map fun stored => if stored.id = id then { stored with record } else stored
  nodup := by
    have ids : (records.all.map fun stored =>
        if stored.id = id then { stored with record } else stored).map (·.id) =
        records.all.map (·.id) := by
      rw [List.map_map]
      apply List.map_congr_left
      intro stored _
      show (if stored.id = id then { stored with record } else stored).id = stored.id
      split <;> rfl
    rw [ids]
    exact records.nodup

def add (records : Records) (naming : Naming) (record : Record) : Records where
  all := records.all ++ [{ id := naming.fresh (records.all.map (·.id)), record }]
  nodup := by
    rw [List.map_append]
    apply records.nodup.append (List.nodup_singleton _)
    exact List.disjoint_singleton.mpr (naming.fresh_not_mem _)

end Records

/-- The zones of an account with their records.  How a zone is found by its name is up to
the account. -/
structure Account where
  zones : List (Zone × Records)
  finds : (zoneName query : String) → Bool
  naming : Naming

namespace Account

def recordsIn (account : Account) (zone : Zone) : Records :=
  match account.zones.find? (·.1.id = zone.id) with
  | some (_, records) => records
  | none => .empty

def modify (account : Account) (zone : Zone) (change : Records → Records) : Account :=
  { account with
    zones := account.zones.map fun (other, records) =>
      (other, if other.id = zone.id then change records else records) }

/-- The answer to a call and the account after it. -/
def reply (account : Account) : (call : Call) → Except Error call.Result × Account
  | .zones name =>
      (.ok ((account.zones.map (·.1)).filter (account.finds ·.name name)), account)
  | .records zone recordType name =>
      (.ok (((account.recordsIn zone).matching recordType name).map (·.id)), account)
  | .replace zone id record => (.ok (), account.modify zone (·.replace id record))
  | .create zone record => (.ok (), account.modify zone (·.add account.naming record))

def run {α : Type} (account : Account) (calls : Calls α) : Except Error α × Account :=
  Procedure.run reply calls.run account

end Account

end Rollout.Dns.Cloudflare
