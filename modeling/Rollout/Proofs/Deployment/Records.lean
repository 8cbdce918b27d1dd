import Rollout.Deployment.Pointing
import Rollout.Proofs.Deployment.Stages
import Rollout.Proofs.Dns.Record

namespace Rollout.Deployment

open Procedure Dns

/-! Records that a registrar refuses.

The records of an application are set one by one, and the first that is refused ends the
setting.  An address record that is left without content gets the address of the server, which
is refused where the type is for the other family.
-/

variable {Backend : Type} {registrar : Registrar} {domain : String} {record : Record}
  {trace : Story Backend} {outcome : Except Dns.Error Unit}

/-- The records that a registrar is asked to set. -/
def requested (story : Story Backend) : List Record :=
  story.filterMap fun event =>
    match event.1 with
    | .setRecord _ _ record => some record
    | _ => none

theorem traces_setRecords_cons {rest : List Record}
    (traced : Traces (setRecords registrar domain (record :: rest)).run trace outcome) :
    (∃ cause, trace = [⟨.setRecord registrar domain record, .error cause⟩] ∧ outcome = .error cause) ∨
      ∃ line later, trace = ⟨.setRecord registrar domain record, .ok ()⟩ :: ⟨.emit line, ()⟩ :: later ∧
        Traces (setRecords registrar domain rest).run later outcome := by
  obtain ⟨cause, rfl, asks⟩ | ⟨front, back, result, rfl, asks, follows⟩ := traces_run_bind_iff.mp traced
  · exact .inl ⟨cause, traces_query_iff.mp asks, rfl⟩
  · obtain rfl := traces_query_iff.mp asks
    obtain ⟨said, later, rfl, ends⟩ := traces_run_ask_bind_iff.mp follows
    exact .inr ⟨_, later, rfl, ends⟩

/-- A record that is refused is the last that is asked for. -/
theorem requested_prefix {done left : List Record}
    (traced : Traces (setRecords registrar domain (done ++ record :: left)).run trace outcome)
    (refused : ∀ answer, ⟨.setRecord registrar domain record, answer⟩ ∈ trace →
      ∃ cause, answer = .error cause) :
    (∃ cause, outcome = .error cause) ∧ requested trace <+: done ++ [record] := by
  induction done generalizing trace with
  | nil =>
      obtain ⟨cause, rfl, rfl⟩ | ⟨line, later, rfl, ends⟩ := traces_setRecords_cons traced
      · exact ⟨⟨cause, rfl⟩, List.prefix_rfl⟩
      · obtain ⟨cause, impossible⟩ := refused _ List.mem_cons_self
        cases impossible
  | cons first done ih =>
      obtain ⟨cause, rfl, rfl⟩ | ⟨line, later, rfl, ends⟩ := traces_setRecords_cons traced
      · exact ⟨⟨cause, rfl⟩, List.prefix_append [first] (done ++ [record])⟩
      · obtain ⟨fails, begins⟩ := ih ends fun answer member =>
          refused answer (List.mem_cons_of_mem _ (List.mem_cons_of_mem _ member))
        exact ⟨fails, List.prefix_cons_inj first |>.mpr begins⟩

/-- No address record with an address of the other family is taken. -/
def RefusesMisfits (story : Story Backend) : Prop :=
  ∀ registrar domain record answer, ⟨.setRecord registrar domain record, answer⟩ ∈ story →
    HoldsAddress record.recordType → ¬ record.Fits → ∃ cause, answer = .error cause

/-- A record whose content is the address of the server by default holds an address of the
right family just if its type is for the server's own, as it always is without templates.  Of
two such records of different types one does not, and a registrar that refuses such records
takes none of those behind it. -/
theorem defaulted_record_fits_iff (registrar : Registrar) (templates : List Installer.RecordTemplate)
    (domain : String) (address : Address) (context : Template.Context) :
    (∀ record ∈ resolveRecords [] domain address context, record.Fits) ∧
    (∀ template ∈ templates, Defaulted context template →
      (resolve domain address context template).content = address.toText ∧
      ((resolve domain address context template).Fits ↔ template.recordType = addressType address)) ∧
    ∀ first ∈ templates, ∀ second ∈ templates, Defaulted context first → Defaulted context second →
      first.recordType ≠ second.recordType →
      ∃ done misfit left, resolveRecords templates domain address context = done ++ misfit :: left ∧
        HoldsAddress misfit.recordType ∧ misfit.content = address.toText ∧ ¬ misfit.Fits ∧
        ∀ (trace : Story Backend) outcome,
          Traces (setRecords registrar domain (resolveRecords templates domain address context)).run
            trace outcome →
          RefusesMisfits trace →
          (∃ cause, outcome = .error cause) ∧ requested trace <+: done ++ [misfit] := by
  refine ⟨?_, ?_, ?_⟩
  · intro record member
    obtain rfl := List.mem_singleton.mp member
    exact ⟨address, rfl, rfl⟩
  · intro template member nothing
    exact ⟨content_resolve_of_defaulted domain address nothing, fits_resolve_iff nothing⟩
  · intro first member second also nothing none apart
    obtain ⟨template, among, defaulted, misfits⟩ :=
      exists_misfit domain address member also nothing none apart
    have resolved : resolveRecords templates domain address context =
        templates.map (resolve domain address context) :=
      resolveRecords_of_ne_nil (List.ne_nil_of_mem member)
    obtain ⟨done, left, split⟩ := List.append_of_mem
      (resolved ▸ List.mem_map_of_mem among : resolve domain address context template ∈
        resolveRecords templates domain address context)
    refine ⟨done, _, left, split, defaulted.2,
      content_resolve_of_defaulted domain address defaulted, misfits, ?_⟩
    intro trace outcome traced refuses
    rw [split] at traced
    exact requested_prefix traced fun answer asked =>
      refuses registrar domain _ answer asked defaulted.2 misfits

section Both

def templateOf (recordType name content : String) : Installer.RecordTemplate :=
  { recordType, name, content, ttl := 0, proxied := none }

def bothTemplates : List Installer.RecordTemplate :=
  [templateOf "A" "@" "", templateOf "AAAA" "@" "", templateOf "CNAME" "www" "app.example.com"]

def recordOf (recordType name content : String) : Record :=
  { recordType, name, content, ttl := 0, proxied := none }

def bothRecords : List Record :=
  [recordOf "A" "app.example.com" "203.0.113.10", recordOf "AAAA" "app.example.com" "203.0.113.10",
    recordOf "CNAME" "www.app.example.com" "app.example.com"]

theorem resolveRecords_both :
    resolveRecords bothTemplates "app.example.com" siteAddress .empty = bothRecords := by
  decide +kernel

def givenRegistrar : Registrar where
  name := "cloudflare"
  client := { token := "token" }

def sixRefused : Dns.Error := .api "cloudflare" "content is no address of version 6"

def refusedStory : Story Unit :=
  [⟨.setRecord givenRegistrar "app.example.com" (recordOf "A" "app.example.com" "203.0.113.10"), .ok ()⟩,
    ⟨.emit (.plain "Created A record app.example.com -> 203.0.113.10 via cloudflare"), ()⟩,
    ⟨.setRecord givenRegistrar "app.example.com" (recordOf "AAAA" "app.example.com" "203.0.113.10"),
      .error sixRefused⟩]

theorem refusedStory_refuses : RefusesMisfits refusedStory := by
  intro registrar domain record answer asked holds misfits
  obtain same | asked := List.mem_cons.mp asked
  · cases same
    exact absurd ⟨siteAddress, rfl, by decide +kernel⟩ misfits
  obtain same | asked := List.mem_cons.mp asked
  · cases same
  · cases List.mem_singleton.mp asked
    exact ⟨sixRefused, rfl⟩

/-- The address of version 4 is refused for the second record, and the third is never set. -/
theorem second_family_refused :
    Traces (setRecords givenRegistrar "app.example.com"
      (resolveRecords bothTemplates "app.example.com" siteAddress .empty)).run refusedStory
      (.error sixRefused) ∧
    RefusesMisfits refusedStory ∧
    (∃ misfit ∈ requested refusedStory, misfit.recordType = "AAAA" ∧
      misfit.content = "203.0.113.10" ∧ ¬ misfit.Fits) ∧
    ∃ done misfit left, bothRecords = done ++ misfit :: left ∧ ¬ misfit.Fits ∧
      requested refusedStory <+: done ++ [misfit] := by
  obtain ⟨-, fits, mixed⟩ := @defaulted_record_fits_iff Unit givenRegistrar bothTemplates
    "app.example.com" siteAddress .empty
  have traced : Traces (setRecords givenRegistrar "app.example.com"
      (resolveRecords bothTemplates "app.example.com" siteAddress .empty)).run refusedStory
      (.error sixRefused) := by
    rw [resolveRecords_both]
    exact .ask (.ask (.ask (.done _)))
  have four : Defaulted .empty (templateOf "A" "@" "") := ⟨by decide +kernel, .inl rfl⟩
  have six : Defaulted .empty (templateOf "AAAA" "@" "") := ⟨by decide +kernel, .inr rfl⟩
  obtain ⟨done, misfit, left, split, -, -, misfits, stops⟩ :=
    mixed (templateOf "A" "@" "") (by simp [bothTemplates]) (templateOf "AAAA" "@" "")
      (by simp [bothTemplates]) four six (by decide)
  rw [resolveRecords_both] at split
  refine ⟨traced, refusedStory_refuses, ?_, done, misfit, left, split, misfits,
    (stops refusedStory _ traced refusedStory_refuses).2⟩
  have unfit := mt (fits _ (List.mem_cons_of_mem _ List.mem_cons_self) six).2.mp (by decide)
  have record : resolve "app.example.com" siteAddress .empty (templateOf "AAAA" "@" "") =
      recordOf "AAAA" "app.example.com" "203.0.113.10" := by
    decide +kernel
  rw [record] at unfit
  exact ⟨_, List.mem_cons_of_mem _ List.mem_cons_self, rfl, rfl, unfit⟩

end Both

end Rollout.Deployment
