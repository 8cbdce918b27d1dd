import Rollout.Proofs.Procedure.Upholds
import Rollout.Proofs.Provider.Hosting
import Rollout.Proofs.Provider.Requests

namespace Rollout.Provider

open Procedure

/-! Domains that are pointed at a server through the provider's own DNS.

Scaleway sets the record of a domain, DigitalOcean adds one.  Whatever they answer, they are asked
for a record of exactly that domain.
-/

variable {account : DigitalOcean.Account} {trace : Trace Network.Action Network.Action.Result}
  {before after : Hosting} {request : Http.Request} {response : Http.Response}
  {domain zone : String} {address : Address} {record : HostedRecord} {json : Json}

theorem isSuccess_of_absent (absent : response.status = 404) : response.isSuccess = false := by
  simp [Http.Response.isSuccess, absent]

namespace DigitalOcean

def apex : String := "@"

def zonesUrl : String := base ++ "/domains"

def recordsUrl (zone : String) : String := base ++ ("/domains/" ++ zone ++ "/records")

/-- A record that is posted to a zone joins its records, and a zone that is posted starts without
records. -/
inductive Answers (before : Hosting) (request : Http.Request) :
    Except String Http.Response → Hosting → Prop where
  | added {zone : String} {records : List HostedRecord} {record : HostedRecord} {json : Json}
      {response : Http.Response} (posted : request.method = .post)
      (url : request.url = recordsUrl zone) (body : request.body = .json json)
      (shown : record.Shown json) (held : before[zone]? = some records)
      (succeeds : response.isSuccess = true) :
      Answers before request (.ok response) (before.insert zone (records ++ [record]))
  | absent {zone : String} {response : Http.Response} (posted : request.method = .post)
      (url : request.url = recordsUrl zone) (unheld : before[zone]? = none)
      (status : response.status = 404) : Answers before request (.ok response) before
  | created {zone : String} {json : Json} {response : Http.Response}
      (posted : request.method = .post) (url : request.url = zonesUrl)
      (body : request.body = .json json) (named : json.find? "name" = some (.text zone))
      (unheld : before[zone]? = none) (succeeds : response.isSuccess = true) :
      Answers before request (.ok response) (before.insert zone [])
  | fails {answer : Except String Http.Response} {after : Hosting}
      (refused : ∀ response, answer = .ok response → response.isSuccess = false ∧
        (request.url = zonesUrl ∨ response.status ≠ 404)) : Answers before request answer after

theorem recordsUrl_inj {other : String} : recordsUrl zone = recordsUrl other ↔ zone = other := by
  unfold recordsUrl
  simp [← String.toList_inj]

theorem recordsUrl_ne_zonesUrl : recordsUrl zone ≠ zonesUrl := by
  intro same
  have lengths := congrArg String.length same
  simp only [recordsUrl, zonesUrl, String.length_append] at lengths
  have longer : ("/domains/" : String).length = ("/domains" : String).length + 1 := rfl
  omega

theorem answers_record (answers : Answers before request (.ok response) after)
    (url : request.url = recordsUrl zone) (body : request.body = .json json)
    (shown : record.Shown json) :
    (response.isSuccess = true → before.Turns zone (before.recordsIn zone ++ [record]) after) ∧
      (response.status = 404 → before[zone]? = none ∧ after = before) := by
  cases answers with
  | @added zone' records record' json' _ _ url' body' shown' held succeeds =>
      obtain rfl := recordsUrl_inj.mp (url.symm.trans url')
      obtain rfl : json = json' := Http.Body.json.inj (body.symm.trans body')
      obtain rfl := shown.unique shown'
      constructor
      · intro _
        rw [Hosting.recordsIn_of_held held]
        exact before.turns_insert zone _
      · intro absent
        simp [isSuccess_of_absent absent] at succeeds
  | absent _ url' unheld status =>
      obtain rfl := recordsUrl_inj.mp (url.symm.trans url')
      constructor
      · intro succeeds
        simp [isSuccess_of_absent status] at succeeds
      · intro _
        exact ⟨unheld, rfl⟩
  | created _ url' => exact absurd (url.symm.trans url') recordsUrl_ne_zonesUrl
  | fails refused =>
      obtain ⟨failed, other⟩ := refused response rfl
      have present := other.resolve_left fun same => recordsUrl_ne_zonesUrl (url.symm.trans same)
      constructor
      · intro succeeds
        simp [failed] at succeeds
      · intro absent
        exact absurd absent present

theorem answers_zone (answers : Answers before request (.ok response) after)
    (url : request.url = zonesUrl) (body : request.body = .json json)
    (named : json.find? "name" = some (.text zone)) (succeeds : response.isSuccess = true) :
    before.Turns zone [] after := by
  cases answers with
  | added _ url' => exact absurd (url'.symm.trans url) recordsUrl_ne_zonesUrl
  | absent _ url' => exact absurd (url'.symm.trans url) recordsUrl_ne_zonesUrl
  | @created zone' json' _ _ _ body' named' =>
      obtain rfl : json = json' := Http.Body.json.inj (body.symm.trans body')
      obtain rfl : zone = zone' := by simpa using named.symm.trans named'
      exact before.turns_insert zone []
  | fails refused => simp [(refused response rfl).1] at succeeds

/-- The record that a name gets. -/
def addressRecord (name : String) (address : Address) : HostedRecord where
  recordType := Dns.addressType address
  name := name
  content := address.toText
  ttl := recordTtl

def recordRequest (token zone name : String) (address : Address) : Http.Request where
  method := .post
  url := recordsUrl zone
  headers := [Http.bearer token]
  body := .json (.object [("type", .text (Dns.addressType address)), ("name", .text name),
    ("data", .text address.toText), ("ttl", .whole recordTtl)])

def zoneRequest (token zone : String) : Http.Request where
  method := .post
  url := zonesUrl
  headers := [Http.bearer token]
  body := .json (.object [("name", .text zone)])

theorem shown_record (token zone name : String) (address : Address) :
    ∃ json, (recordRequest token zone name address).body = .json json ∧
      (addressRecord name address).Shown json :=
  ⟨_, rfl, ⟨rfl, rfl, rfl, rfl⟩⟩

theorem traces_createRecord_ok_iff {name : String} :
    Traces (createRecord account zone name address).run trace (.ok response) ↔
      ∃ token, account.token? = .ok token ∧
        trace = [⟨.send (recordRequest token zone name address), .ok response⟩] :=
  traces_request_ok_iff

theorem traces_createZone_ok_iff :
    Traces (discard (call account .post "/domains" (.json (.object [("name", .text zone)])))).run
        trace (.ok ()) ↔
      ∃ token response, account.token? = .ok token ∧ response.isSuccess = true ∧
        trace = [⟨.send (zoneRequest token zone), .ok response⟩] := by
  rw [Network.traces_discard_ok_iff]
  constructor
  · intro traced
    obtain ⟨response, calls⟩ := traced
    obtain ⟨succeeds, requests⟩ := traces_call_ok_iff.mp calls
    obtain ⟨token, known, sent⟩ := traces_request_ok_iff.mp requests
    exact ⟨token, response, known, succeeds, sent⟩
  · intro sent
    obtain ⟨token, response, known, succeeds, sent⟩ := sent
    exact ⟨response, traces_call_ok_iff.mpr ⟨succeeds, traces_request_ok_iff.mpr ⟨token, known, sent⟩⟩⟩

/-- A name gets one record, or a zone and a record if the first record was refused for want of
a zone. -/
inductive Exchanged (token zone name : String) (address : Address) :
    Trace Network.Action Network.Action.Result → Prop where
  | present {response : Http.Response} (succeeds : response.isSuccess = true) :
      Exchanged token zone name address
        [⟨.send (recordRequest token zone name address), .ok response⟩]
  | absent {first second last : Http.Response} (missing : first.status = 404)
      (created : second.isSuccess = true) (succeeds : last.isSuccess = true) :
      Exchanged token zone name address
        [⟨.send (recordRequest token zone name address), .ok first⟩,
          ⟨.send (zoneRequest token zone), .ok second⟩,
          ⟨.send (recordRequest token zone name address), .ok last⟩]

/-- After a first answer, the record is tried again if there was no zone. -/
def retry (account : Account) (zone name : String) (address : Address) (first : Http.Response) :
    Network Error Http.Response :=
  if first.status = 404 then do
    discard (call account .post "/domains" (.json (.object [("name", .text zone)])))
    createRecord account zone name address
  else pure first

def verdict (response : Http.Response) : Network Error Unit :=
  if response.isSuccess then pure () else throw (failed response.text)

theorem pointDomain_eq (account : Account) (domain : String) (address : Address) :
    pointDomain account domain address = (do
      let zone := (Dns.splitDomain domain).1
      let first ← createRecord account zone (nameIn apex domain) address
      let response ← retry account zone (nameIn apex domain) address first
      verdict response) := by
  apply congrArg (createRecord account _ (nameIn apex domain) address >>= ·)
  funext first
  unfold retry
  split
  · exact (LawfulMonad.bind_assoc _ _ _).symm
  · exact (pure_bind first verdict).symm

theorem traces_verdict_ok_iff :
    Traces (verdict response).run trace (.ok ()) ↔ trace = [] ∧ response.isSuccess = true := by
  unfold verdict
  split
  case isTrue succeeds => exact traces_run_pure_iff.trans (by simp [succeeds])
  case isFalse fails => exact traces_run_throw_iff.trans (by simp [fails])

theorem traces_retry_ok_iff {first : Http.Response} {name : String} :
    Traces (retry account zone name address first).run trace (.ok response) ↔
      (first.status ≠ 404 ∧ response = first ∧ trace = []) ∨
        ∃ token second, first.status = 404 ∧ account.token? = .ok token ∧
          second.isSuccess = true ∧
          trace = [⟨.send (zoneRequest token zone), .ok second⟩,
            ⟨.send (recordRequest token zone name address), .ok response⟩] := by
  unfold retry
  by_cases absent : first.status = 404
  · rw [if_pos absent, traces_run_bind_ok_iff]
    constructor
    · intro traced
      obtain ⟨front, back, _, rfl, creates, records⟩ := traced
      obtain ⟨token, second, known, created, rfl⟩ := traces_createZone_ok_iff.mp creates
      obtain ⟨token', known', rfl⟩ := traces_createRecord_ok_iff.mp records
      obtain rfl := Except.ok.inj (known.symm.trans known')
      exact .inr ⟨token, second, absent, known, created, rfl⟩
    · intro sent
      obtain ⟨present, -⟩ | ⟨token, second, -, known, created, rfl⟩ := sent
      · exact absurd absent present
      · exact ⟨[_], [_], (), rfl, traces_createZone_ok_iff.mpr ⟨token, second, known, created, rfl⟩,
          traces_createRecord_ok_iff.mpr ⟨token, known, rfl⟩⟩
  · rw [if_neg absent]
    refine traces_run_pure_iff.trans ?_
    simp [absent, and_comm]

theorem traces_pointDomain_ok_iff :
    Traces (pointDomain account domain address).run trace (.ok ()) ↔
      ∃ token, account.token? = .ok token ∧
        Exchanged token (Dns.splitDomain domain).1 (nameIn apex domain) address trace := by
  rw [pointDomain_eq]
  -- From here on nothing depends on where the domain is split.
  generalize (Dns.splitDomain domain).1 = zone
  generalize nameIn apex domain = name
  rw [traces_run_bind_ok_iff]
  constructor
  · intro traced
    obtain ⟨front, _, first, rfl, begins, later⟩ := traced
    obtain ⟨middle, back, response, rfl, retries, ends⟩ := traces_run_bind_ok_iff.mp later
    obtain ⟨rfl, succeeds⟩ := traces_verdict_ok_iff.mp ends
    obtain ⟨token, known, rfl⟩ := traces_createRecord_ok_iff.mp begins
    refine ⟨token, known, ?_⟩
    obtain ⟨-, rfl, rfl⟩ | ⟨token', second, absent, known', created, rfl⟩ :=
      traces_retry_ok_iff.mp retries
    · exact .present succeeds
    · obtain rfl := Except.ok.inj (known.symm.trans known')
      exact .absent absent created succeeds
  · intro exchanged
    obtain ⟨token, known, exchanged⟩ := exchanged
    cases exchanged with
    | @present response succeeds =>
        have other : response.status ≠ 404 := by
          intro absent
          simp [isSuccess_of_absent absent] at succeeds
        refine ⟨[_], [], response, rfl, traces_createRecord_ok_iff.mpr ⟨token, known, rfl⟩, ?_⟩
        exact traces_run_bind_ok_iff.mpr ⟨[], [], response, rfl,
          traces_retry_ok_iff.mpr (.inl ⟨other, rfl, rfl⟩), traces_verdict_ok_iff.mpr ⟨rfl, succeeds⟩⟩
    | @absent first second last missing created succeeds =>
        refine ⟨[_], _, first, rfl, traces_createRecord_ok_iff.mpr ⟨token, known, rfl⟩, ?_⟩
        exact traces_run_bind_ok_iff.mpr ⟨_, [], last, (List.append_nil _).symm,
          traces_retry_ok_iff.mpr (.inr ⟨token, second, missing, known, created, rfl⟩),
          traces_verdict_ok_iff.mpr ⟨rfl, succeeds⟩⟩

/-- Whether its zone was there or not, the domain's record joins those of the zone. -/
theorem pointDomain_turns (traced : Traces (pointDomain account domain address).run trace (.ok ()))
    (hosted : Hosted Answers before trace after) :
    before.Turns (Dns.splitDomain domain).1
      (before.recordsIn (Dns.splitDomain domain).1 ++ [addressRecord (nameIn apex domain) address])
      after := by
  obtain ⟨token, -, exchanged⟩ := traces_pointDomain_ok_iff.mp traced
  generalize (Dns.splitDomain domain).1 = zone at exchanged ⊢
  generalize nameIn apex domain = name at exchanged ⊢
  obtain ⟨json, body, shown⟩ := shown_record token zone name address
  cases exchanged with
  | present succeeds =>
      obtain _ | ⟨answers, ends⟩ := hosted
      cases ends
      exact (answers_record answers rfl body shown).1 succeeds
  | absent missing created succeeds =>
      obtain _ | ⟨refused, later⟩ := hosted
      obtain _ | ⟨founded, later⟩ := later
      obtain _ | ⟨answers, ends⟩ := later
      cases ends
      obtain ⟨unheld, rfl⟩ := (answers_record refused rfl body shown).2 missing
      have fresh : Hosting.Turns _ zone [] _ := answers_zone founded rfl rfl rfl created
      have joined := (answers_record answers rfl body shown).1 succeeds
      rw [Hosting.recordsIn_of_held fresh.here] at joined
      rw [Hosting.recordsIn_of_unheld unheld]
      exact fresh.trans joined

end DigitalOcean

namespace Scaleway

variable {account : Account}

def apex : String := ""

def recordsUrl (zone : String) : String := domainBase ++ "/dns-zones/" ++ zone ++ "/records"

/-- The JSON of a change that sets the records of a name and a type. -/
structure Sets (json : Json) (recordType name : String) (records : List HostedRecord) : Prop where
  asked : ∃ change set fields entries,
    json.find? "changes" = some (.array [change]) ∧ change.find? "set" = some set ∧
      set.find? "id_fields" = some fields ∧ fields.find? "type" = some (.text recordType) ∧
      fields.find? "name" = some (.text name) ∧ set.find? "records" = some (.array entries) ∧
      List.Forall₂ HostedRecord.Shown records entries

def isUnder (recordType name : String) (record : HostedRecord) : Bool :=
  record.recordType = recordType && record.name = name

/-- The records that are set take the place of all that had their name and type, wherever they
are put. -/
inductive Answers (before : Hosting) (request : Http.Request) :
    Except String Http.Response → Hosting → Prop where
  | set {zone recordType name : String} {held news records : List HostedRecord} {json : Json}
      {response : Http.Response} (patched : request.method = .patch)
      (url : request.url = recordsUrl zone) (body : request.body = .json json)
      (sets : Sets json recordType name news) (present : before[zone]? = some held)
      (replaced : records.filter (isUnder recordType name) = news)
      (kept : records.filter (!isUnder recordType name ·) = held.filter (!isUnder recordType name ·))
      (succeeds : response.isSuccess = true) :
      Answers before request (.ok response) (before.insert zone records)
  | fails {answer : Except String Http.Response} {after : Hosting}
      (refused : ∀ response, answer = .ok response → response.isSuccess = false) :
      Answers before request answer after

theorem recordsUrl_inj {other : String} : recordsUrl zone = recordsUrl other ↔ zone = other := by
  unfold recordsUrl
  simp [← String.toList_inj]

theorem Sets.unique {recordType recordType' name name' : String} {records records' : List HostedRecord}
    (sets : Sets json recordType name records) (also : Sets json recordType' name' records') :
    recordType = recordType' ∧ name = name' ∧ records = records' := by
  obtain ⟨change, set, fields, entries, changes, sole, keys, kind, named, listed, shown⟩ := sets
  obtain ⟨change', set', fields', entries', changes', sole', keys', kind', named', listed', shown'⟩ :=
    also
  obtain rfl : change = change' := by simpa using changes.symm.trans changes'
  obtain rfl : set = set' := by simpa using sole.symm.trans sole'
  obtain rfl : fields = fields' := by simpa using keys.symm.trans keys'
  obtain rfl : entries = entries' := by simpa using listed.symm.trans listed'
  refine ⟨by simpa using kind.symm.trans kind', by simpa using named.symm.trans named', ?_⟩
  have unique : Relator.LeftUnique HostedRecord.Shown := fun _ _ _ shown also => shown.unique also
  exact List.left_unique_forall₂' unique shown shown'

/-- The record that a name gets. -/
def addressRecord (name : String) (address : Address) : HostedRecord where
  recordType := Dns.addressType address
  name := name
  content := address.toText
  ttl := recordTtl

def setRequest (key zone name : String) (address : Address) : Http.Request :=
  let names := [("name", .text name), ("type", .text (Dns.addressType address))]
  let record := .object (names ++ [("data", .text address.toText), ("ttl", .whole recordTtl)])
  let change := .object [("set", .object [("id_fields", .object names), ("records", .array [record])])]
  { method := .patch
    url := recordsUrl zone
    headers := [keyHeader key]
    body := .json (.object [("changes", .array [change])]) }

theorem shown_change (key zone name : String) (address : Address) :
    ∃ json, (setRequest key zone name address).body = .json json ∧
      Sets json (Dns.addressType address) name [addressRecord name address] :=
  ⟨_, rfl, _, _, _, _, rfl, rfl, rfl, rfl, rfl, rfl, .cons ⟨rfl, rfl, rfl, rfl⟩ .nil⟩

theorem nameIn_apex : nameIn apex domain = (Dns.splitDomain domain).2 := by
  by_cases none : (Dns.splitDomain domain).2 = ""
  · rw [nameIn_eq_apex none, none]
    rfl
  · exact nameIn_eq_sub none

theorem pointDomain_eq (account : Account) (domain : String) (address : Address) :
    pointDomain account domain address = (do
      let sent := setRequest "" (Dns.splitDomain domain).1 (nameIn apex domain) address
      let response ← Scaleway.request account sent.method sent.url sent.body
      discard (accept response)) := by
  rw [nameIn_apex]
  rfl

theorem traces_pointDomain_ok_iff :
    Traces (pointDomain account domain address).run trace (.ok ()) ↔
      ∃ key response, account.secretKey? = .ok key ∧ response.isSuccess = true ∧
        trace = [⟨.send (setRequest key (Dns.splitDomain domain).1 (nameIn apex domain) address),
          .ok response⟩] := by
  rw [pointDomain_eq]
  generalize (Dns.splitDomain domain).1 = zone
  generalize nameIn apex domain = name
  rw [traces_run_bind_ok_iff]
  constructor
  · intro traced
    obtain ⟨front, back, response, rfl, requests, ends⟩ := traced
    obtain ⟨key, known, rfl⟩ := traces_request_ok_iff.mp requests
    obtain ⟨received, accepts⟩ := Network.traces_discard_ok_iff.mp ends
    obtain ⟨rfl, -, succeeds⟩ := traces_accept_ok_iff.mp accepts
    exact ⟨key, response, known, succeeds, rfl⟩
  · intro sent
    obtain ⟨key, response, known, succeeds, rfl⟩ := sent
    refine ⟨[_], [], response, rfl, traces_request_ok_iff.mpr ⟨key, known, rfl⟩, ?_⟩
    exact Network.traces_discard_ok_iff.mpr ⟨response, traces_accept_ok_iff.mpr ⟨rfl, rfl, succeeds⟩⟩

/-- The domain's record takes the place of those of its name and type. -/
theorem pointDomain_turns (traced : Traces (pointDomain account domain address).run trace (.ok ()))
    (hosted : Hosted Answers before trace after) :
    ∃ records, before.Turns (Dns.splitDomain domain).1 records after ∧
      records.filter (isUnder (Dns.addressType address) (nameIn apex domain)) =
        [addressRecord (nameIn apex domain) address] ∧
      records.filter (!isUnder (Dns.addressType address) (nameIn apex domain) ·) =
        (before.recordsIn (Dns.splitDomain domain).1).filter
          (!isUnder (Dns.addressType address) (nameIn apex domain) ·) := by
  obtain ⟨key, response, -, succeeds, rfl⟩ := traces_pointDomain_ok_iff.mp traced
  generalize (Dns.splitDomain domain).1 = zone at hosted ⊢
  generalize nameIn apex domain = name at hosted ⊢
  obtain ⟨json, body, sets⟩ := shown_change key zone name address
  obtain _ | ⟨answers, ends⟩ := hosted
  cases ends
  cases answers with
  | @set zone' _ _ held _ records json' _ _ url' body' sets' present replaced kept =>
      obtain rfl : zone = zone' := recordsUrl_inj.mp url'
      obtain rfl : json = json' := Http.Body.json.inj (body.symm.trans body')
      obtain ⟨rfl, rfl, rfl⟩ := sets.unique sets'
      rw [Hosting.recordsIn_of_held present]
      exact ⟨records, before.turns_insert zone records, replaced, kept⟩
  | fails refused => simp [refused response rfl] at succeeds

end Scaleway

section Pointing

variable (labelled : ∀ label ∈ Text.splitAt '.' (Dns.bareDomain domain), label ≠ [])
include labelled

theorem Scaleway.isOf_eq_isUnder {recordType : String} :
    record.isOf Scaleway.apex domain recordType =
      Scaleway.isUnder recordType (nameIn Scaleway.apex domain) record := by
  have expressible : Expressible Scaleway.apex domain := by
    unfold Expressible Scaleway.apex
    exact Decidable.em _
  rw [Bool.eq_iff_iff, isOf_iff labelled]
  simp [Scaleway.isUnder, expressible]

theorem Scaleway.points {account : Scaleway.Account}
    (traced : Traces (Scaleway.pointDomain account domain address).run trace (.ok ()))
    (hosted : Hosted Scaleway.Answers before trace after) :
    before.Points Scaleway.apex domain address after := by
  obtain ⟨records, turns, replaced, kept⟩ := Scaleway.pointDomain_turns traced hosted
  have those := Hosting.recordsIn_of_held turns.here
  constructor
  · refine ⟨Scaleway.addressRecord (nameIn Scaleway.apex domain) address, ?_, rfl⟩
    simpa only [Hosting.published, those, Scaleway.isOf_eq_isUnder labelled] using replaced
  · simpa only [Hosting.unconcerned, those, Scaleway.isOf_eq_isUnder labelled] using kept
  · exact turns.elsewhere

theorem DigitalOcean.isOf_addressRecord :
    (DigitalOcean.addressRecord (nameIn DigitalOcean.apex domain) address).isOf DigitalOcean.apex
        domain (Dns.addressType address) = true ↔ Expressible DigitalOcean.apex domain := by
  rw [isOf_iff labelled]
  simp [DigitalOcean.addressRecord]

/-- The record that was added is the only one of its type at the domain if there was none
before, unless it is not at the domain at all. -/
theorem DigitalOcean.points_iff
    (turns : before.Turns (Dns.splitDomain domain).1
      (before.recordsIn (Dns.splitDomain domain).1 ++
        [DigitalOcean.addressRecord (nameIn DigitalOcean.apex domain) address]) after) :
    before.Points DigitalOcean.apex domain address after ↔
      before.published DigitalOcean.apex domain (Dns.addressType address) = [] ∧
        Expressible DigitalOcean.apex domain := by
  have expressible : (DigitalOcean.addressRecord (nameIn DigitalOcean.apex domain) address).isOf
      DigitalOcean.apex domain (Dns.addressType address) = true ↔
        Expressible DigitalOcean.apex domain := DigitalOcean.isOf_addressRecord labelled
  have content : (DigitalOcean.addressRecord (nameIn DigitalOcean.apex domain) address).content =
      address.toText := rfl
  generalize DigitalOcean.addressRecord (nameIn DigitalOcean.apex domain) address = new at *
  have published : after.published DigitalOcean.apex domain (Dns.addressType address) =
      before.published DigitalOcean.apex domain (Dns.addressType address) ++
        [new].filter (·.isOf DigitalOcean.apex domain (Dns.addressType address)) := by
    unfold Hosting.published
    rw [Hosting.recordsIn_of_held turns.here, List.filter_append]
  have others : after.unconcerned DigitalOcean.apex domain (Dns.addressType address) =
      before.unconcerned DigitalOcean.apex domain (Dns.addressType address) ++
        [new].filter (!·.isOf DigitalOcean.apex domain (Dns.addressType address)) := by
    unfold Hosting.unconcerned
    rw [Hosting.recordsIn_of_held turns.here, List.filter_append]
  constructor
  · intro points
    by_cases there : new.isOf DigitalOcean.apex domain (Dns.addressType address) = true
    · obtain ⟨record, alone, -⟩ := points.alone
      rw [published, List.filter_cons_of_pos there] at alone
      have few := congrArg List.length alone
      simp only [List.length_append, List.length_cons, List.length_nil] at few
      exact ⟨List.length_eq_zero_iff.mp (by omega), expressible.mp there⟩
    · -- Then it is among the other records, which it was not before.
      have same := points.others
      rw [others, List.filter_cons_of_pos (by simpa using there)] at same
      simp at same
  · intro free
    have there := expressible.mpr free.2
    constructor
    · refine ⟨new, ?_, content⟩
      rw [published, free.1, List.filter_cons_of_pos there]
      rfl
    · rw [others, List.filter_cons_of_neg (by simpa using there)]
      simp
    · exact turns.elsewhere

end Pointing

section Succeeding

def accepted : Http.Response := { status := 200, body := [] }

def missing : Http.Response := { status := 404, body := [] }

/-- An account with a token gets its record if the interface does what it is asked for. -/
theorem DigitalOcean.pointDomain_succeeds {token : String} (known : account.token? = .ok token)
    (before : Hosting) (domain : String) (address : Address) :
    ∃ trace after, Traces (DigitalOcean.pointDomain account domain address).run trace (.ok ()) ∧
      Hosted DigitalOcean.Answers before trace after := by
  simp only [DigitalOcean.traces_pointDomain_ok_iff]
  generalize (Dns.splitDomain domain).1 = zone
  generalize nameIn DigitalOcean.apex domain = name
  obtain ⟨json, body, shown⟩ := DigitalOcean.shown_record token zone name address
  cases held : before[zone]? with
  | some records =>
      have sent : DigitalOcean.Exchanged token zone name address
          [⟨.send (DigitalOcean.recordRequest token zone name address), .ok accepted⟩] :=
        .present rfl
      exact ⟨_, _, ⟨token, known, sent⟩, .send (.added rfl rfl body shown held rfl) (.done _)⟩
  | none =>
      have fresh := (before.turns_insert zone []).here
      have sent : DigitalOcean.Exchanged token zone name address
          [⟨.send (DigitalOcean.recordRequest token zone name address), .ok missing⟩,
            ⟨.send (DigitalOcean.zoneRequest token zone), .ok accepted⟩,
            ⟨.send (DigitalOcean.recordRequest token zone name address), .ok accepted⟩] :=
        .absent rfl rfl rfl
      exact ⟨_, _, ⟨token, known, sent⟩,
        .send (.absent rfl rfl held rfl) (.send (.created rfl rfl rfl rfl held rfl)
          (.send (.added rfl rfl body shown fresh rfl) (.done _)))⟩

/-- An account with a secret key gets its record in a zone that is hosted. -/
theorem Scaleway.pointDomain_succeeds {account : Scaleway.Account} {key : String}
    (known : account.secretKey? = .ok key) (hosts : (Dns.splitDomain domain).1 ∈ before)
    (address : Address) :
    ∃ trace after, Traces (Scaleway.pointDomain account domain address).run trace (.ok ()) ∧
      Hosted Scaleway.Answers before trace after := by
  obtain ⟨held, present⟩ : ∃ held, before[(Dns.splitDomain domain).1]? = some held :=
    ⟨_, Std.ExtTreeMap.getElem?_eq_some_getElem hosts⟩
  simp only [Scaleway.traces_pointDomain_ok_iff]
  generalize (Dns.splitDomain domain).1 = zone at present ⊢
  generalize nameIn Scaleway.apex domain = name
  obtain ⟨json, body, sets⟩ := Scaleway.shown_change key zone name address
  let kept := held.filter (!Scaleway.isUnder (Dns.addressType address) name ·)
  have apart : kept.filter (Scaleway.isUnder (Dns.addressType address) name) = [] := by
    apply List.filter_eq_nil_iff.mpr
    intro record member
    simpa using (List.mem_filter.mp member).2
  have under : Scaleway.isUnder (Dns.addressType address) name (Scaleway.addressRecord name address) =
      true := by simp [Scaleway.isUnder, Scaleway.addressRecord]
  have answers : Scaleway.Answers before (Scaleway.setRequest key zone name address) (.ok accepted)
      (before.insert zone (kept ++ [Scaleway.addressRecord name address])) := by
    apply Scaleway.Answers.set rfl rfl body sets present _ _ rfl
    · rw [List.filter_append, apart, List.filter_cons_of_pos under]
      rfl
    · rw [List.filter_append, List.filter_cons_of_neg (by simpa using under), List.filter_filter]
      simp
  exact ⟨_, _, ⟨key, accepted, known, rfl, rfl⟩, .send answers (.done _)⟩

end Succeeding

/-- What the provider's own DNS publishes of a domain once it was pointed at an address.

Scaleway then publishes the address and no other of its type, and leaves the rest as it was.
DigitalOcean adds a record to those of the zone, so that holds only if the domain had none of
the type, and was not taken for its zone.  Both succeed on an interface that does what it is
asked for, Scaleway in a zone that it hosts. -/
theorem native_dns_points_iff (domain : String) (address : Address) (before : Hosting)
    (labelled : ∀ label ∈ Text.splitAt '.' (Dns.bareDomain domain), label ≠ []) :
    (∀ account trace after,
      Traces (Scaleway.service account (.pointDomain domain address)).run trace (.ok ()) →
      Hosted Scaleway.Answers before trace after →
      before.Points Scaleway.apex domain address after) ∧
    (∀ account trace after,
      Traces (DigitalOcean.service account (.pointDomain domain address)).run trace (.ok ()) →
      Hosted DigitalOcean.Answers before trace after →
      before.Turns (Dns.splitDomain domain).1
        (before.recordsIn (Dns.splitDomain domain).1 ++
          [DigitalOcean.addressRecord (nameIn DigitalOcean.apex domain) address]) after ∧
      (before.Points DigitalOcean.apex domain address after ↔
        before.published DigitalOcean.apex domain (Dns.addressType address) = [] ∧
          Expressible DigitalOcean.apex domain)) ∧
    (∀ (account : Scaleway.Account) key, account.secretKey? = .ok key →
      (Dns.splitDomain domain).1 ∈ before → ∃ trace after,
        Traces (Scaleway.service account (.pointDomain domain address)).run trace (.ok ()) ∧
        Hosted Scaleway.Answers before trace after) ∧
    ∀ (account : DigitalOcean.Account) token, account.token? = .ok token → ∃ trace after,
      Traces (DigitalOcean.service account (.pointDomain domain address)).run trace (.ok ()) ∧
      Hosted DigitalOcean.Answers before trace after := by
  refine ⟨?_, ?_, ?_, ?_⟩
  · intro account trace after traced hosted
    exact Scaleway.points labelled traced hosted
  · intro account trace after traced hosted
    have turns := DigitalOcean.pointDomain_turns traced hosted
    exact ⟨turns, DigitalOcean.points_iff labelled turns⟩
  · intro account key known hosts
    exact Scaleway.pointDomain_succeeds known hosts address
  · intro account token known
    exact DigitalOcean.pointDomain_succeeds known before domain address

section Redeploying

def oldAddress : HostedRecord where
  recordType := "A"
  name := "app"
  content := "192.0.2.1"
  ttl := 1800

def deployedBefore : Hosting := (∅ : Hosting).insert "example.com" [oldAddress]

/-- A deployment to a new address leaves the old one published. -/
theorem old_address_stays :
    let account : DigitalOcean.Account := { token := some "token" }
    ∃ trace after,
      Traces (DigitalOcean.service account (.pointDomain "app.example.com" (.v4 #v[192, 0, 2, 2]))).run
        trace (.ok ()) ∧
      Hosted DigitalOcean.Answers deployedBefore trace after ∧
      oldAddress ∈ after.recordsIn "example.com" ∧
      ¬ deployedBefore.Points DigitalOcean.apex "app.example.com" (.v4 #v[192, 0, 2, 2]) after := by
  have parts := native_dns_points_iff "app.example.com" (.v4 #v[192, 0, 2, 2]) deployedBefore
    (by decide)
  obtain ⟨trace, after, traced, hosted⟩ := parts.2.2.2 { token := some "token" } "token" rfl
  obtain ⟨turns, points⟩ := parts.2.1 _ trace after traced hosted
  have zone : (Dns.splitDomain "app.example.com").1 = "example.com" := by decide
  have held : deployedBefore.recordsIn "example.com" = [oldAddress] :=
    Hosting.recordsIn_of_held ((∅ : Hosting).turns_insert "example.com" [oldAddress]).here
  refine ⟨trace, after, traced, hosted, ?_, ?_⟩
  · have kept := Hosting.recordsIn_of_held turns.here
    rw [zone, held] at kept
    simp [kept]
  · intro alone
    have none := (points.mp alone).1
    rw [Hosting.published, zone, held] at none
    revert none
    decide

end Redeploying

section Asking

/-- The request puts a record into a zone. -/
structure DigitalOcean.Puts (request : Http.Request) (zone : String) (record : HostedRecord) : Prop where
  url : request.url = DigitalOcean.recordsUrl zone
  body : ∃ json, request.body = .json json ∧ record.Shown json

/-- The request makes a record the only one of its type and name in a zone. -/
structure Scaleway.Puts (request : Http.Request) (zone : String) (record : HostedRecord) : Prop where
  url : request.url = Scaleway.recordsUrl zone
  body : ∃ json, request.body = .json json ∧ Scaleway.Sets json record.recordType record.name [record]

structure DigitalOcean.AddsZone (request : Http.Request) (zone : String) : Prop where
  url : request.url = DigitalOcean.zonesUrl
  body : ∃ json, request.body = .json json ∧ json.find? "name" = some (.text zone)

/-- What is put, and wherever it is, it is the address of exactly the domain. -/
def Denotes (apex domain : String) (address : Address) (puts : String → HostedRecord → Prop) : Prop :=
  (∃ zone record, puts zone record) ∧ ∀ zone record, puts zone record →
    record.fullName apex zone = String.ofList (Dns.bareDomain domain) ∧
      record.recordType = Dns.addressType address ∧ record.content = address.toText

theorem DigitalOcean.Puts.unique {other : String} {record' : HostedRecord}
    (puts : DigitalOcean.Puts request zone record) (also : DigitalOcean.Puts request other record') :
    zone = other ∧ record = record' := by
  obtain ⟨json, body, shown⟩ := puts.body
  obtain ⟨json', body', shown'⟩ := also.body
  obtain rfl : json = json' := Http.Body.json.inj (body.symm.trans body')
  exact ⟨DigitalOcean.recordsUrl_inj.mp (puts.url.symm.trans also.url), shown.unique shown'⟩

theorem Scaleway.Puts.unique {other : String} {record' : HostedRecord}
    (puts : Scaleway.Puts request zone record) (also : Scaleway.Puts request other record') :
    zone = other ∧ record = record' := by
  obtain ⟨json, body, sets⟩ := puts.body
  obtain ⟨json', body', sets'⟩ := also.body
  obtain rfl : json = json' := Http.Body.json.inj (body.symm.trans body')
  obtain ⟨-, -, same⟩ := sets.unique sets'
  exact ⟨Scaleway.recordsUrl_inj.mp (puts.url.symm.trans also.url), List.singleton_inj.mp same⟩

theorem DigitalOcean.puts_record (token zone name : String) (address : Address) :
    DigitalOcean.Puts (DigitalOcean.recordRequest token zone name address) zone
      (DigitalOcean.addressRecord name address) :=
  ⟨rfl, DigitalOcean.shown_record token zone name address⟩

theorem Scaleway.puts_record (key zone name : String) (address : Address) :
    Scaleway.Puts (Scaleway.setRequest key zone name address) zone
      (Scaleway.addressRecord name address) :=
  ⟨rfl, Scaleway.shown_change key zone name address⟩

theorem DigitalOcean.addsZone (token zone : String) :
    DigitalOcean.AddsZone (DigitalOcean.zoneRequest token zone) zone :=
  ⟨rfl, _, rfl, rfl⟩

theorem DigitalOcean.retry_asks {name : String} {first : Http.Response} :
    (DigitalOcean.retry account zone name address first).run.Asks fun action => ∃ token,
      action = .send (DigitalOcean.zoneRequest token zone) ∨
        action = .send (DigitalOcean.recordRequest token zone name address) := by
  unfold DigitalOcean.retry
  split
  · apply asks_run_bind
    · apply Network.discard_asks
      apply DigitalOcean.call_asks
      apply DigitalOcean.request_asks.mono
      intro action asked
      obtain ⟨token, sent⟩ := asked
      exact ⟨token, .inl sent⟩
    · intro _
      apply DigitalOcean.request_asks.mono
      intro action asked
      obtain ⟨token, sent⟩ := asked
      exact ⟨token, .inr sent⟩
  · exact asks_run_pure _

theorem DigitalOcean.verdict_asks {allowed : Network.Action → Prop} :
    (DigitalOcean.verdict response).run.Asks allowed := by
  unfold DigitalOcean.verdict
  split
  · exact asks_run_pure _
  · exact asks_run_throw _

/-- Whatever it is answered, DigitalOcean is asked for the domain's record and for its zone. -/
theorem DigitalOcean.pointDomain_asks :
    (DigitalOcean.pointDomain account domain address).run.Asks fun action => ∃ token,
      action = .send (DigitalOcean.zoneRequest token (Dns.splitDomain domain).1) ∨
        action = .send (DigitalOcean.recordRequest token (Dns.splitDomain domain).1
          (nameIn DigitalOcean.apex domain) address) := by
  rw [DigitalOcean.pointDomain_eq]
  generalize (Dns.splitDomain domain).1 = zone
  generalize nameIn DigitalOcean.apex domain = name
  apply asks_run_bind
  · apply DigitalOcean.request_asks.mono
    intro action asked
    obtain ⟨token, sent⟩ := asked
    exact ⟨token, .inr sent⟩
  · intro first
    exact asks_run_bind DigitalOcean.retry_asks fun _ => DigitalOcean.verdict_asks

theorem Scaleway.pointDomain_asks {account : Scaleway.Account} :
    (Scaleway.pointDomain account domain address).run.Asks fun action => ∃ key,
      action = .send (Scaleway.setRequest key (Dns.splitDomain domain).1
        (nameIn Scaleway.apex domain) address) := by
  rw [Scaleway.pointDomain_eq]
  exact asks_run_bind Scaleway.request_asks fun _ => Network.discard_asks Scaleway.accept_asks

end Asking

section Naming

/-- The part of a domain before its zone is not taken for the zone if no label is. -/
theorem expressible_of_labels
    (labelled : ∀ label ∈ Text.splitAt '.' (Dns.bareDomain domain), label ≠ [] ∧ label ≠ ['@']) :
    Expressible DigitalOcean.apex domain := by
  refine .inr ?_
  intro same
  let labels := Text.splitAt '.' (Dns.bareDomain domain)
  have whole : ∀ label ∈ labels.take (labels.length - 2), '.' ∉ label :=
    fun label member => Text.not_mem_of_mem_splitAt label (List.mem_of_mem_take member)
  have spelled : List.intercalate ['.'] (labels.take (labels.length - 2)) = ['@'] := by
    simpa [Dns.splitDomain, Dns.joined, DigitalOcean.apex] using congrArg String.toList same
  have some : labels.take (labels.length - 2) ≠ [] := by
    intro none
    rw [none] at spelled
    cases spelled
  have alone : labels.take (labels.length - 2) = [['@']] := by
    rw [← Text.splitAt_join some whole, spelled]
    rfl
  have member : ['@'] ∈ labels := List.mem_of_mem_take (alone ▸ List.mem_singleton_self _)
  exact (labelled _ member).2 rfl

variable (labelled : ∀ label ∈ Text.splitAt '.' (Dns.bareDomain domain), label ≠ [] ∧ label ≠ ['@'])
include labelled

theorem DigitalOcean.recordRequest_denotes (token : String) (address : Address) :
    Denotes DigitalOcean.apex domain address (DigitalOcean.Puts (DigitalOcean.recordRequest token
      (Dns.splitDomain domain).1 (nameIn DigitalOcean.apex domain) address)) := by
  have puts := DigitalOcean.puts_record token (Dns.splitDomain domain).1
    (nameIn DigitalOcean.apex domain) address
  refine ⟨⟨_, _, puts⟩, ?_⟩
  intro zone record also
  obtain ⟨rfl, rfl⟩ := puts.unique also
  have there : (DigitalOcean.addressRecord (nameIn DigitalOcean.apex domain) address).isOf
      DigitalOcean.apex domain (Dns.addressType address) = true :=
    (DigitalOcean.isOf_addressRecord fun label member => (labelled label member).1).mpr
      (expressible_of_labels labelled)
  simp only [HostedRecord.isOf, Bool.and_eq_true, decide_eq_true_eq] at there
  exact ⟨there.2, there.1, rfl⟩

theorem Scaleway.setRequest_denotes (key : String) (address : Address) :
    Denotes Scaleway.apex domain address (Scaleway.Puts (Scaleway.setRequest key
      (Dns.splitDomain domain).1 (nameIn Scaleway.apex domain) address)) := by
  have puts := Scaleway.puts_record key (Dns.splitDomain domain).1
    (nameIn Scaleway.apex domain) address
  refine ⟨⟨_, _, puts⟩, ?_⟩
  intro zone record also
  obtain ⟨rfl, rfl⟩ := puts.unique also
  have there : (Scaleway.addressRecord (nameIn Scaleway.apex domain) address).isOf Scaleway.apex
      domain (Dns.addressType address) = true := by
    rw [Scaleway.isOf_eq_isUnder fun label member => (labelled label member).1]
    simp [Scaleway.isUnder, Scaleway.addressRecord]
  simp only [HostedRecord.isOf, Bool.and_eq_true, decide_eq_true_eq] at there
  exact ⟨there.2, there.1, rfl⟩

end Naming

/-- DigitalOcean is asked for the record, for the zone if there was none, and for the record
again. -/
theorem DigitalOcean.asks_again {token : String} (known : account.token? = .ok token)
    (domain : String) (address : Address) {first second : Http.Response} (missing : first.status = 404)
    (created : second.isSuccess = true) :
    let asked := DigitalOcean.recordRequest token (Dns.splitDomain domain).1
      (nameIn DigitalOcean.apex domain) address
    Raises (DigitalOcean.pointDomain account domain address).run
      [⟨.send asked, .ok first⟩,
        ⟨.send (DigitalOcean.zoneRequest token (Dns.splitDomain domain).1), .ok second⟩]
      (.send asked) := by
  intro asked
  have succeeds : accepted.isSuccess = true := rfl
  exact Raises.of_traces
    (DigitalOcean.traces_pointDomain_ok_iff.mpr ⟨token, known, .absent missing created succeeds⟩)

theorem Scaleway.asks {account : Scaleway.Account} {key : String}
    (known : account.secretKey? = .ok key) (domain : String) (address : Address) :
    Raises (Scaleway.pointDomain account domain address).run [] (.send (Scaleway.setRequest key
      (Dns.splitDomain domain).1 (nameIn Scaleway.apex domain) address)) := by
  have succeeds : accepted.isSuccess = true := rfl
  exact Raises.of_traces
    (Scaleway.traces_pointDomain_ok_iff.mpr ⟨key, accepted, known, succeeds, rfl⟩)

/-- Which records the provider's own DNS is asked for, whatever it answers.

A domain is divided into its zone and the part before it, from which it can be put together
again.  Every record that is put is the one of the domain, also the one that DigitalOcean is
asked for a second time, after the zone was added. -/
theorem native_dns_names_domain (domain : String)
    (labelled : ∀ label ∈ Text.splitAt '.' (Dns.bareDomain domain), label ≠ [] ∧ label ≠ ['@']) :
    let zone := (Dns.splitDomain domain).1
    let sub := (Dns.splitDomain domain).2
    (Text.splitAt '.' zone.toList).length ≤ 2 ∧
    String.ofList (Dns.bareDomain domain) = (if sub = "" then zone else sub ++ "." ++ zone) ∧
    (∀ other, (∀ label ∈ Text.splitAt '.' (Dns.bareDomain other), label ≠ [] ∧ label ≠ ['@']) →
      Dns.bareDomain other ≠ Dns.bareDomain domain → Dns.splitDomain other ≠ Dns.splitDomain domain) ∧
    (∀ account address past request,
      Raises (Scaleway.service account (.pointDomain domain address)).run past (.send request) →
      Denotes Scaleway.apex domain address (Scaleway.Puts request)) ∧
    (∀ (account : Scaleway.Account) key, account.secretKey? = .ok key → ∀ address, ∃ request,
      Raises (Scaleway.service account (.pointDomain domain address)).run [] (.send request)) ∧
    (∀ account address past request,
      Raises (DigitalOcean.service account (.pointDomain domain address)).run past (.send request) →
      DigitalOcean.AddsZone request zone ∨
        Denotes DigitalOcean.apex domain address (DigitalOcean.Puts request)) ∧
    ∀ (account : DigitalOcean.Account) token, account.token? = .ok token →
      ∀ address (first second : Http.Response), first.status = 404 → second.isSuccess = true →
      ∃ asked adds, DigitalOcean.AddsZone adds zone ∧
        Denotes DigitalOcean.apex domain address (DigitalOcean.Puts asked) ∧
        Raises (DigitalOcean.service account (.pointDomain domain address)).run
          [⟨.send asked, .ok first⟩, ⟨.send adds, .ok second⟩] (.send asked) := by
  intro zone sub
  have filled : ∀ label ∈ Text.splitAt '.' (Dns.bareDomain domain), label ≠ [] :=
    fun label member => (labelled label member).1
  refine ⟨Dns.length_zone_le domain, ?_, ?_, ?_, ?_, ?_, ?_⟩
  · obtain ⟨none, whole⟩ | ⟨some, whole⟩ := Dns.splitDomain_spells filled
    · rw [whole, if_pos none]
    · rw [whole, if_neg some]
  · intro other labelled' apart same
    exact apart (Dns.bareDomain_of_splitDomain (fun label member => (labelled' label member).1)
      filled same)
  · intro account address past request raises
    obtain ⟨key, sent⟩ := Scaleway.pointDomain_asks.of_raises raises
    obtain rfl := Network.Action.send.inj sent
    exact Scaleway.setRequest_denotes labelled key address
  · intro account key known address
    exact ⟨_, Scaleway.asks known domain address⟩
  · intro account address past request raises
    obtain ⟨token, sent | sent⟩ := DigitalOcean.pointDomain_asks.of_raises raises
    · obtain rfl := Network.Action.send.inj sent
      exact .inl (DigitalOcean.addsZone token zone)
    · obtain rfl := Network.Action.send.inj sent
      exact .inr (DigitalOcean.recordRequest_denotes labelled token address)
  · intro account token known address first second missing created
    exact ⟨_, _, DigitalOcean.addsZone token zone,
      DigitalOcean.recordRequest_denotes labelled token address,
      DigitalOcean.asks_again known domain address missing created⟩

/-- The record of a domain with blanks and a point at its end is the one of the bare domain, after
its zone was added. -/
theorem bare_domain_asked_again :
    let account : DigitalOcean.Account := { token := some "token" }
    (Dns.splitDomain " a.b.example.com. \n").1 = "example.com" ∧
    ∃ asked adds, DigitalOcean.AddsZone adds "example.com" ∧
      Denotes DigitalOcean.apex "a.b.example.com" (.v4 #v[192, 0, 2, 1]) (DigitalOcean.Puts asked) ∧
      Raises (DigitalOcean.service account
          (.pointDomain " a.b.example.com. \n" (.v4 #v[192, 0, 2, 1]))).run
        [⟨.send asked, .ok missing⟩, ⟨.send adds, .ok accepted⟩] (.send asked) := by
  have zone : (Dns.splitDomain " a.b.example.com. \n").1 = "example.com" := by decide
  have bare : Dns.bareDomain " a.b.example.com. \n" = Dns.bareDomain "a.b.example.com" := by decide
  obtain ⟨-, -, -, -, -, -, again⟩ := native_dns_names_domain " a.b.example.com. \n" (by decide)
  obtain ⟨asked, adds, addsZone, denotes, raises⟩ :=
    again { token := some "token" } "token" rfl (.v4 #v[192, 0, 2, 1]) missing accepted rfl rfl
  refine ⟨zone, asked, adds, zone ▸ addsZone, ?_, raises⟩
  unfold Denotes at denotes ⊢
  rwa [bare] at denotes

end Rollout.Provider
