import Mathlib.Data.List.Forall2
import Rollout.Dns.Record
import Rollout.Proofs.Template.Render
import Rollout.Proofs.Text.Blank
import Rollout.Proofs.Text.Pieces

namespace Rollout.Address

/-! Which family an address is of can be seen in its text. -/

variable {groups : List UInt16}

theorem toList_octet (octet : UInt8) : (toString octet).toList = Nat.toDigits 10 octet.toNat :=
  String.toList_ofList

theorem colon_notMem_dotted (octets : Vector UInt8 4) : ':' ∉ (dotted octets).toList := by
  rw [dotted, String.toList_intercalate]
  apply Text.not_mem_intercalate (by decide)
  intro part member
  simp only [List.map_map, List.mem_map] at member
  obtain ⟨octet, -, rfl⟩ := member
  intro inside
  rw [Function.comp_apply, toList_octet] at inside
  have digit := Nat.isDigit_of_mem_toDigits (by decide) (by decide) inside
  revert digit
  decide

theorem colon_mem_joined (several : 2 ≤ groups.length) : ':' ∈ (joined groups).toList := by
  match groups, several with
  | first :: second :: rest, _ =>
      rw [joined, String.toList_intercalate]
      simp only [List.map_cons, List.intercalate_cons_cons]
      simp

/-- Only the text of an address of version 6 has colons. -/
theorem colon_mem_toText_iff {address : Address} :
    ':' ∈ address.toText.toList ↔ ∃ groups, address = .v6 groups := by
  cases address with
  | v4 octets => exact iff_of_false (colon_notMem_dotted octets) nofun
  | v6 groups =>
      refine iff_of_true ?_ ⟨groups, rfl⟩
      unfold toText
      dsimp only
      split
      · simp
      · split
        · exact colon_mem_joined (by simp)
        · simp

end Rollout.Address

namespace Rollout.Dns

open Template (Unmarked)

/-! The records that the templates of a document stand for.

Each template stands for one record, whose name is the domain or one under it.  A name that
is full stays as it is, so the records are the same when they are resolved once more.
-/

variable {domain name : String} {address : Address} {context : Template.Context}

section Names

/-- A name is the domain or one under it. -/
def Within (domain name : String) : Prop := name = domain ∨ ∃ front, name = front ++ "." ++ domain

theorem isSuffixOf_iff : ("." ++ domain).toList.isSuffixOf name.toList = true ↔
    ∃ front, name = front ++ "." ++ domain := by
  rw [List.isSuffixOf_iff_suffix]
  constructor
  · intro ends
    obtain ⟨front, split⟩ := ends
    refine ⟨String.ofList front, String.toList_inj.mp ?_⟩
    rw [← split]
    simp
  · intro under
    obtain ⟨front, rfl⟩ := under
    exact ⟨front.toList, by simp⟩

theorem not_bare_of_under (domain front : String) :
    front ++ "." ++ domain ≠ "" ∧ front ++ "." ++ domain ≠ "@" := by
  have point : '.' ∈ (front ++ "." ++ domain).toList := by simp
  constructor
  · intro empty
    exact absurd (empty ▸ point) (by decide)
  · intro sign
    exact absurd (sign ▸ point) (by decide)

theorem qualify_of_bare (bare : name = "" ∨ name = "@") : qualify domain name = domain := if_pos bare

theorem qualify_of_within (within : Within domain name) : qualify domain name = name := by
  obtain rfl | ⟨front, rfl⟩ := within
  · unfold qualify
    split
    · rfl
    · exact if_pos (.inl rfl)
  · obtain ⟨filled, named⟩ := not_bare_of_under domain front
    rw [qualify, if_neg (by simp only [filled, named, or_self, not_false_iff]),
      if_pos (.inr (isSuffixOf_iff.mpr ⟨front, rfl⟩))]

theorem qualify_of_relative (filled : name ≠ "") (named : name ≠ "@") (outside : ¬ Within domain name) :
    qualify domain name = name ++ "." ++ domain := by
  have inside : ¬ (name = domain ∨ ("." ++ domain).toList.isSuffixOf name.toList = true) := by
    rwa [isSuffixOf_iff]
  rw [qualify, if_neg (not_or.mpr ⟨filled, named⟩), if_neg inside]
  rfl

theorem within_qualify (domain name : String) : Within domain (qualify domain name) := by
  by_cases bare : name = "" ∨ name = "@"
  · rw [qualify_of_bare bare]
    exact .inl rfl
  obtain ⟨filled, named⟩ := not_or.mp bare
  by_cases within : Within domain name
  · rwa [qualify_of_within within]
  · rw [qualify_of_relative filled named within]
    exact .inr ⟨name, rfl⟩

end Names

section Templates

variable {template : Installer.RecordTemplate} {record : Record}

/-- Records whose content is an address. -/
def HoldsAddress (recordType : String) : Prop := recordType = "A" ∨ recordType = "AAAA"

/-- A template has no content of its own, and an address is put in its place. -/
def Defaulted (context : Template.Context) (template : Installer.RecordTemplate) : Prop :=
  context.render template.content = "" ∧ HoldsAddress template.recordType

/-- What a template says of its record. -/
structure Resolves (domain : String) (address : Address) (context : Template.Context)
    (template : Installer.RecordTemplate) (record : Record) : Prop where
  recordType : record.recordType = template.recordType
  ttl : record.ttl = template.ttl
  proxied : record.proxied = template.proxied
  bare : context.render (Text.trimmed template.name) = "" ∨
    context.render (Text.trimmed template.name) = "@" → record.name = domain
  full : Within domain (context.render (Text.trimmed template.name)) →
    record.name = context.render (Text.trimmed template.name)
  relative : context.render (Text.trimmed template.name) ≠ "" →
    context.render (Text.trimmed template.name) ≠ "@" →
    ¬ Within domain (context.render (Text.trimmed template.name)) →
    record.name = context.render (Text.trimmed template.name) ++ "." ++ domain
  defaulted : Defaulted context template → record.content = address.toText
  given : ¬ Defaulted context template → record.content = context.render template.content

theorem name_resolve : (resolve domain address context template).name =
    qualify domain (context.render (Text.trimmed template.name)) := by
  rw [resolve]

theorem content_resolve_of_defaulted (domain : String) (address : Address)
    (nothing : Defaulted context template) :
    (resolve domain address context template).content = address.toText := by
  unfold resolve
  exact if_pos nothing

theorem content_resolve_of_given (something : ¬ Defaulted context template) :
    (resolve domain address context template).content = context.render template.content := by
  unfold resolve
  exact if_neg something

theorem resolves_resolve (domain : String) (address : Address) (context : Template.Context)
    (template : Installer.RecordTemplate) :
    Resolves domain address context template (resolve domain address context template) := by
  constructor
  · rfl
  · rfl
  · rfl
  · exact fun bare => name_resolve.trans (qualify_of_bare bare)
  · exact fun within => name_resolve.trans (qualify_of_within within)
  · exact fun filled named outside => name_resolve.trans (qualify_of_relative filled named outside)
  · exact content_resolve_of_defaulted domain address
  · exact content_resolve_of_given

/-- A template stands for one record only. -/
theorem Resolves.unique {other : Record} (resolves : Resolves domain address context template record)
    (also : Resolves domain address context template other) : record = other := by
  have name : record.name = other.name := by
    by_cases bare : context.render (Text.trimmed template.name) = "" ∨
        context.render (Text.trimmed template.name) = "@"
    · rw [resolves.bare bare, also.bare bare]
    obtain ⟨filled, named⟩ := not_or.mp bare
    by_cases within : Within domain (context.render (Text.trimmed template.name))
    · rw [resolves.full within, also.full within]
    · rw [resolves.relative filled named within, also.relative filled named within]
  have content : record.content = other.content := by
    by_cases nothing : Defaulted context template
    · rw [resolves.defaulted nothing, also.defaulted nothing]
    · rw [resolves.given nothing, also.given nothing]
  have recordType := resolves.recordType.trans also.recordType.symm
  have ttl := resolves.ttl.trans also.ttl.symm
  have proxied := resolves.proxied.trans also.proxied.symm
  cases record
  cases other
  congr

theorem resolves_iff : Resolves domain address context template record ↔
    resolve domain address context template = record := by
  constructor
  · exact (resolves_resolve domain address context template).unique
  · intro same
    exact same ▸ resolves_resolve domain address context template

/-- A record that leaves nothing to resolve. -/
structure Settled (domain : String) (address : Address) (record : Record) : Prop where
  within : Within domain record.name
  filled : record.content = "" → HoldsAddress record.recordType → record.content = address.toText

theorem settled_resolve (domain : String) (address : Address) (context : Template.Context)
    (template : Installer.RecordTemplate) :
    Settled domain address (resolve domain address context template) where
  within := by
    rw [name_resolve]
    exact within_qualify domain _
  filled empty holds := by
    by_cases nothing : Defaulted context template
    · exact content_resolve_of_defaulted domain address nothing
    · rw [content_resolve_of_given nothing] at empty
      exact absurd ⟨empty, holds⟩ nothing

theorem settled_of_mem {templates : List Installer.RecordTemplate}
    (member : record ∈ resolveRecords templates domain address context) :
    Settled domain address record := by
  unfold resolveRecords at member
  split at member
  · obtain rfl := List.mem_singleton.mp member
    exact ⟨.inl rfl, fun _ _ => rfl⟩
  · obtain ⟨template, -, rfl⟩ := List.mem_map.mp member
    exact settled_resolve ..

theorem resolveRecords_ne_nil (templates : List Installer.RecordTemplate) :
    resolveRecords templates domain address context ≠ [] := by
  unfold resolveRecords
  split
  · exact List.cons_ne_nil _ _
  · rename_i filled
    simpa using filled

theorem resolveRecords_of_ne_nil {templates : List Installer.RecordTemplate} (filled : templates ≠ []) :
    resolveRecords templates domain address context = templates.map (resolve domain address context) := by
  rw [resolveRecords, if_neg (by simpa using filled)]

/-- The template that says what a record says. -/
def Record.asTemplate (record : Record) : Installer.RecordTemplate where
  recordType := record.recordType
  name := record.name
  content := record.content
  ttl := record.ttl
  proxied := record.proxied

/-- Nothing in a record is blank at an end of its name or is replaced in its texts. -/
structure Final (context : Template.Context) (record : Record) : Prop where
  tight : Text.Tight record.name.toList
  name : Unmarked context.strings record.name
  content : Unmarked context.strings record.content

theorem final_of_unopened (solid : ∀ char ∈ record.name.toList, Text.isBlank char = false)
    (name : '{' ∉ record.name.toList) (content : '{' ∉ record.content.toList) : Final context record :=
  ⟨Text.tight_of_solid solid, Template.unmarked_of_unopened name, Template.unmarked_of_unopened content⟩

theorem resolve_asTemplate (settled : Settled domain address record) (final : Final context record) :
    resolve domain address context record.asTemplate = record := by
  have name : context.render (Text.trimmed record.asTemplate.name) = record.name := by
    show Template.render _ (Text.trimmed record.name) = _
    rw [Text.trimmed, Text.trim_of_tight final.tight, String.ofList_toList,
      Template.render_of_unmarked final.name]
  have content : context.render record.asTemplate.content = record.content :=
    Template.render_of_unmarked final.content
  apply resolves_iff.mp
  constructor
  · rfl
  · rfl
  · rfl
  · intro bare
    rw [name] at bare
    obtain same | ⟨front, under⟩ := settled.within
    · exact same
    · obtain ⟨filled, named⟩ := not_bare_of_under domain front
      rw [under] at bare
      exact absurd bare (not_or.mpr ⟨filled, named⟩)
  · intro _
    exact name.symm
  · intro _ _ outside
    exact absurd (name ▸ settled.within) outside
  · intro nothing
    obtain ⟨empty, holds⟩ := nothing
    exact settled.filled (content.symm.trans empty) holds
  · intro _
    exact content.symm

end Templates

/-- Every template is qualified exactly once.

Without templates there is the address of the domain alone.  Otherwise the records are those
that the templates stand for, one each and in their order, and no other list is.  Every name is
the domain or one under it, and resolved once more the records are the same. -/
theorem records_qualified_once (domain : String) (address : Address) (context : Template.Context) :
    resolveRecords [] domain address context =
      [{ recordType := addressType address, name := domain, content := address.toText, ttl := 0,
         proxied := none }] ∧
    ∀ templates,
      (templates ≠ [] → ∀ records, resolveRecords templates domain address context = records ↔
        List.Forall₂ (Resolves domain address context) templates records) ∧
      (∀ record ∈ resolveRecords templates domain address context, Within domain record.name) ∧
      ∀ later : Template.Context,
        (∀ record ∈ resolveRecords templates domain address context, Final later record) →
        resolveRecords ((resolveRecords templates domain address context).map Record.asTemplate)
          domain address later = resolveRecords templates domain address context := by
  refine ⟨rfl, fun templates => ⟨?_, ?_, ?_⟩⟩
  · intro filled records
    have each : List.Forall₂ (Resolves domain address context) templates records ↔
        List.Forall₂ Eq (templates.map (resolve domain address context)) records := by
      rw [List.forall₂_map_left_iff]
      exact ⟨.imp fun _ _ => resolves_iff.mp, .imp fun _ _ => resolves_iff.mpr⟩
    rw [each, List.forall₂_eq_eq_eq, resolveRecords_of_ne_nil filled]
  · intro record member
    exact (settled_of_mem member).within
  · intro later final
    rw [resolveRecords_of_ne_nil (by simpa using resolveRecords_ne_nil templates), List.map_map]
    have same : ∀ record ∈ resolveRecords templates domain address context,
        (resolve domain address later ∘ Record.asTemplate) record = record := by
      intro record member
      exact resolve_asTemplate (settled_of_mem member) (final record member)
    rw [List.map_congr_left same, List.map_id']

/-- A name that ends with the letters of the domain is not under it. -/
example : qualify "example.com" "myexample.com" = "myexample.com.example.com" := by decide

section Named

def siteTemplates : List Installer.RecordTemplate :=
  [{ recordType := "A", name := " @ ", content := "", ttl := 0, proxied := none },
    { recordType := "CNAME", name := "www", content := "\x7bopts.Domain\x7d", ttl := 600, proxied := some true }]

def siteContext : Template.Context := Template.Context.empty.insertString "Domain" "app.example.com"

def siteAddress : Address := .v4 #v[203, 0, 113, 10]

def siteRecords : List Record :=
  [{ recordType := "A", name := "app.example.com", content := "203.0.113.10", ttl := 0, proxied := none },
    { recordType := "CNAME", name := "www.app.example.com", content := "app.example.com", ttl := 600,
      proxied := some true }]

theorem resolveRecords_site :
    resolveRecords siteTemplates "app.example.com" siteAddress siteContext = siteRecords := by
  decide +kernel

theorem siteRecords_final : ∀ record ∈ siteRecords, Final siteContext record := by
  refine List.forall_mem_cons.mpr ⟨?_, List.forall_mem_singleton.mpr ?_⟩
  · exact final_of_unopened (Text.solid_of_all (by decide)) (by decide) (by decide)
  · exact final_of_unopened (Text.solid_of_all (by decide)) (by decide) (by decide)

/-- The records of a site are resolved to themselves. -/
theorem siteRecords_resolved_again :
    resolveRecords (siteRecords.map Record.asTemplate) "app.example.com" siteAddress siteContext =
      siteRecords := by
  obtain ⟨-, again⟩ := records_qualified_once "app.example.com" siteAddress siteContext
  have same := (again siteTemplates).2.2 siteContext
  rw [resolveRecords_site] at same
  exact same siteRecords_final

end Named

section Families

variable {template : Installer.RecordTemplate}

/-- The content of a record is an address of the family that its type is for. -/
def Record.Fits (record : Record) : Prop :=
  ∃ address, addressType address = record.recordType ∧ record.content = address.toText

theorem addressType_eq_of_toText {other : Address} (same : address.toText = other.toText) :
    addressType address = addressType other := by
  have families : (∃ groups, address = .v6 groups) ↔ ∃ groups, other = .v6 groups := by
    rw [← Address.colon_mem_toText_iff, same, Address.colon_mem_toText_iff]
  cases address with
  | v4 octets =>
      cases other with
      | v4 octets => rfl
      | v6 groups =>
          obtain ⟨groups, impossible⟩ := families.mpr ⟨groups, rfl⟩
          cases impossible
  | v6 groups =>
      obtain ⟨groups, rfl⟩ := families.mp ⟨groups, rfl⟩
      rfl

/-- A defaulted content fits only the type of the server's own family. -/
theorem fits_resolve_iff (nothing : Defaulted context template) :
    (resolve domain address context template).Fits ↔ template.recordType = addressType address := by
  have content := content_resolve_of_defaulted domain address nothing
  constructor
  · intro fits
    obtain ⟨other, ofType, text⟩ := fits
    rw [content] at text
    rw [addressType_eq_of_toText text]
    exact ofType.symm
  · intro ofType
    exact ⟨address, ofType.symm, content⟩

theorem exists_misfit (domain : String) (address : Address)
    {templates : List Installer.RecordTemplate} {other : Installer.RecordTemplate}
    (member : template ∈ templates) (also : other ∈ templates) (nothing : Defaulted context template)
    (none : Defaulted context other) (apart : template.recordType ≠ other.recordType) :
    ∃ misfit ∈ templates, Defaulted context misfit ∧ ¬ (resolve domain address context misfit).Fits := by
  by_cases fits : template.recordType = addressType address
  · refine ⟨other, also, none, ?_⟩
    rw [fits_resolve_iff none]
    exact fun same => apart (fits.trans same.symm)
  · exact ⟨template, member, nothing, by rwa [fits_resolve_iff nothing]⟩

end Families

end Rollout.Dns
