import Rollout.Proofs.Dns.Domain
import Rollout.Proofs.Procedure.Network
import Rollout.Provider.DigitalOcean
import Rollout.Provider.Scaleway.Service

namespace Rollout.Provider

open Procedure

/-! What becomes of the zones that a provider hosts.

Providers keep the records of a zone under names within it and have their own name for the
zone itself.  An interface says what a request makes of the zones; a request that fails may
leave anything behind.
-/

structure HostedRecord where
  recordType : String
  name : String
  content : String
  ttl : Nat
deriving Repr, DecidableEq

/-- The zones that are hosted, with their records. -/
abbrev Hosting := Std.ExtTreeMap String (List HostedRecord)

/-- What a request may be answered, and what it makes of the zones. -/
abbrev Interface := Hosting → Http.Request → Except String Http.Response → Hosting → Prop

/-- The requests of a trace are answered by the interface, one after the other. -/
inductive Hosted (interface : Interface) :
    Hosting → Trace Network.Action Network.Action.Result → Hosting → Prop where
  | done (hosting : Hosting) : Hosted interface hosting [] hosting
  | send {before next after : Hosting} {request : Http.Request}
      {answer : Except String Http.Response} {trace : Trace Network.Action Network.Action.Result}
      (replies : interface before request answer next) (later : Hosted interface next trace after) :
      Hosted interface before (⟨.send request, answer⟩ :: trace) after

/-- The JSON of a record, in whatever order its fields are written. -/
structure HostedRecord.Shown (record : HostedRecord) (json : Json) : Prop where
  recordType : json.find? "type" = some (.text record.recordType)
  name : json.find? "name" = some (.text record.name)
  content : json.find? "data" = some (.text record.content)
  ttl : json.find? "ttl" = some (.whole record.ttl)

namespace HostedRecord

variable {record other : HostedRecord} {json : Json}

theorem Shown.unique (shown : record.Shown json) (also : other.Shown json) : record = other := by
  have types := shown.recordType.symm.trans also.recordType
  have names := shown.name.symm.trans also.name
  have contents := shown.content.symm.trans also.content
  have times := shown.ttl.symm.trans also.ttl
  simp only [Option.some.injEq, Json.text.injEq, Json.whole.injEq, Int.natCast_inj] at *
  cases record
  cases other
  simp only [HostedRecord.mk.injEq]
  exact ⟨types, names, contents, times⟩

/-- The full name of a record, where `apex` is the provider's name for the zone itself. -/
def fullName (apex zone : String) (record : HostedRecord) : String :=
  if record.name = apex then zone else record.name ++ "." ++ zone

/-- The record is one of a type at the domain. -/
def isOf (apex domain recordType : String) (record : HostedRecord) : Bool :=
  record.recordType = recordType &&
    record.fullName apex (Dns.splitDomain domain).1 = String.ofList (Dns.bareDomain domain)

end HostedRecord

namespace Hosting

def recordsIn (hosting : Hosting) (zone : String) : List HostedRecord := hosting[zone]?.getD []

/-- The records of a type at a domain. -/
def published (hosting : Hosting) (apex domain recordType : String) : List HostedRecord :=
  (hosting.recordsIn (Dns.splitDomain domain).1).filter (·.isOf apex domain recordType)

/-- The other records of the zone. -/
def unconcerned (hosting : Hosting) (apex domain recordType : String) : List HostedRecord :=
  (hosting.recordsIn (Dns.splitDomain domain).1).filter (!·.isOf apex domain recordType)

/-- The zone holds the records, and the other zones are the same as before. -/
structure Turns (before : Hosting) (zone : String) (records : List HostedRecord) (after : Hosting) :
    Prop where
  here : after[zone]? = some records
  elsewhere : ∀ other, other ≠ zone → after[other]? = before[other]?

/-- The domain points at the address and at no other of its type, and all else is the same as
before. -/
structure Points (before : Hosting) (apex domain : String) (address : Address) (after : Hosting) :
    Prop where
  alone : ∃ record, after.published apex domain (Dns.addressType address) = [record] ∧
    record.content = address.toText
  others : after.unconcerned apex domain (Dns.addressType address) =
    before.unconcerned apex domain (Dns.addressType address)
  elsewhere : ∀ other, other ≠ (Dns.splitDomain domain).1 → after[other]? = before[other]?

variable {before next after : Hosting} {zone : String} {records : List HostedRecord}

theorem turns_insert (before : Hosting) (zone : String) (records : List HostedRecord) :
    before.Turns zone records (before.insert zone records) where
  here := Std.ExtTreeMap.getElem?_insert_self
  elsewhere other apart := by
    rw [Std.ExtTreeMap.getElem?_insert, if_neg]
    simpa using apart.symm

theorem Turns.trans {middle : List HostedRecord} (first : before.Turns zone middle next)
    (second : next.Turns zone records after) : before.Turns zone records after where
  here := second.here
  elsewhere other apart := (second.elsewhere other apart).trans (first.elsewhere other apart)

theorem recordsIn_of_held (held : before[zone]? = some records) : before.recordsIn zone = records := by
  simp [Hosting.recordsIn, held]

theorem recordsIn_of_unheld (unheld : before[zone]? = none) : before.recordsIn zone = [] := by
  simp [Hosting.recordsIn, unheld]

end Hosting

section Naming

variable {apex domain recordType : String} {record : HostedRecord}

/-- The name within its zone of the records at a domain. -/
def nameIn (apex domain : String) : String :=
  let sub := (Dns.splitDomain domain).2
  if sub.isEmpty then apex else sub

/-- The domain is not taken for its zone: the part before the zone is not the name for the
zone itself. -/
def Expressible (apex domain : String) : Prop :=
  (Dns.splitDomain domain).2 = "" ∨ (Dns.splitDomain domain).2 ≠ apex

theorem ne_below (front zone : String) : zone ≠ front ++ "." ++ zone := by
  intro same
  have lengths := congrArg String.length same
  simp only [String.length_append] at lengths
  have point : (".": String).length = 1 := rfl
  omega

theorem fullName_eq_zone_iff {zone : String} :
    record.fullName apex zone = zone ↔ record.name = apex := by
  unfold HostedRecord.fullName
  split
  case isTrue named => exact iff_of_true rfl named
  case isFalse other => exact iff_of_false (ne_below _ _).symm other

theorem fullName_eq_below_iff {sub zone : String} :
    record.fullName apex zone = sub ++ "." ++ zone ↔ record.name = sub ∧ sub ≠ apex := by
  unfold HostedRecord.fullName
  split
  case isTrue named =>
    refine iff_of_false (ne_below _ _) ?_
    intro both
    exact both.2 (both.1.symm.trans named)
  case isFalse other =>
    have spelled : record.name ++ "." ++ zone = sub ++ "." ++ zone ↔ record.name = sub := by
      simp [← String.toList_inj]
    rw [spelled, iff_self_and]
    intro same also
    exact other (same.trans also)

theorem nameIn_eq_apex (none : (Dns.splitDomain domain).2 = "") : nameIn apex domain = apex := by
  simp [nameIn, none]

theorem nameIn_eq_sub (some : (Dns.splitDomain domain).2 ≠ "") :
    nameIn apex domain = (Dns.splitDomain domain).2 := by
  simp [nameIn, some]

theorem isOf_iff
    (labelled : ∀ label ∈ Text.splitAt '.' (Dns.bareDomain domain), label ≠ []) :
    record.isOf apex domain recordType = true ↔
      record.recordType = recordType ∧ record.name = nameIn apex domain ∧ Expressible apex domain := by
  simp only [HostedRecord.isOf, Bool.and_eq_true, decide_eq_true_eq]
  apply and_congr_right
  intro _
  rcases Dns.splitDomain_spells labelled with ⟨none, whole⟩ | ⟨some, whole⟩
  · rw [whole, nameIn_eq_apex none, fullName_eq_zone_iff]
    simp [Expressible, none]
  · rw [whole, nameIn_eq_sub some, fullName_eq_below_iff]
    simp [Expressible, some]

end Naming

end Rollout.Provider
