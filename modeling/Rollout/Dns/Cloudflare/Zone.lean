import Rollout.Dns.Domain
import Rollout.Dns.Record
import Rollout.Procedure

namespace Rollout.Dns.Cloudflare

/-! Setting a record in an account at Cloudflare.

What the account is asked is kept apart from how it is asked, so that the same
procedures run over the network and against an account in memory.
-/

def name : String := "cloudflare"

structure Zone where
  id : String
  name : String
deriving Repr, DecidableEq

/-- The time to live that leaves the choice to Cloudflare. -/
def automaticTtl : Nat := 1

/-- A record as it is published. -/
def published (record : Record) : Record :=
  { record with ttl := if record.ttl = 0 then automaticTtl else record.ttl }

inductive Call where
  | zones (name : String)
  | records (zone : Zone) (recordType name : String)
  | replace (zone : Zone) (id : String) (record : Record)
  | create (zone : Zone) (record : Record)
deriving Repr, DecidableEq

abbrev Call.Result : Call → Type
  | .zones _ => List Zone
  | .records .. => List String
  | .replace .. => Unit
  | .create .. => Unit

abbrev Calls (α : Type) :=
  ExceptT Error (Procedure Call fun call => Except Error call.Result) α

def ask (call : Call) : Calls call.Result := ExceptT.mk (Procedure.query call)

def findAmong (domain : String) : List String → Calls Zone
  | [] => throw (.noZone name domain)
  | candidate :: rest => do
      let zones ← ask (.zones candidate)
      match zones.find? fun zone => Text.sameLetters zone.name candidate with
      | some zone => pure zone
      | none => findAmong domain rest

/-- Finds the zone that covers a domain: the first candidate that the account has. -/
def findZone (domain : String) : Calls Zone := findAmong domain (zoneCandidates domain)

def findRecord (zone : Zone) (record : Record) : Calls (Option String) := do
  pure (← ask (.records zone record.recordType record.name)).head?

/-- Sets a record in the zone that covers a domain, in place of the one of the
same type and name. -/
def setRecord (domain : String) (record : Record) : Calls Unit := do
  let zone ← findZone domain
  match ← findRecord zone record with
  | some id => ask (.replace zone id (published record))
  | none => ask (.create zone (published record))

end Rollout.Dns.Cloudflare
