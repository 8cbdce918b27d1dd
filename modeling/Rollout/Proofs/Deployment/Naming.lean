import Rollout.Proofs.Deployment.Stages
import Rollout.Proofs.Text.Blank

namespace Rollout.Deployment

open Procedure

/-! The name of a server that was given none.

It is spelled like the name of the application.  What stands before the first letter or digit
or behind the last one is left out, letters become small, and all else becomes a hyphen.
Eight random digits follow.  This makes a label of a host name, unless it gets too long.
-/

/-- Small letters, digits and hyphens, with no hyphen at the ends. -/
structure IsHyphenated (text : String) : Prop where
  spelled : ∀ char ∈ text.toList, char.isLower = true ∨ char.isDigit = true ∨ char = '-'
  first : text.toList.head? ≠ some '-'
  last : text.toList.getLast? ≠ some '-'

/-- A label of a host name. -/
structure IsHostLabel (text : String) : Prop extends IsHyphenated text where
  nonempty : 1 ≤ text.length
  fits : text.length ≤ 63

/-- Eight hexadecimal digits in small letters. -/
structure IsNameSuffix (suffix : String) : Prop where
  length_eq : suffix.length = 8
  digits : ∀ char ∈ suffix.toList, char.isDigit = true ∨ ('a' ≤ char ∧ char ≤ 'f')

/-- A name from its first letter or digit to its last one. -/
def spelling (app : String) : List Char :=
  Text.strip (fun char => !char.isAlphanum) app.toList

def nameChar (char : Char) : Char :=
  if char.isAlphanum then char.toLower else '-'

theorem nameChar_spelled (char : Char) :
    (nameChar char).isLower = true ∨ (nameChar char).isDigit = true ∨ nameChar char = '-' := by
  unfold nameChar
  split
  case isTrue alphanum =>
    have capital : ¬ char.toLower.isUpper = true := by
      rw [Text.isUpper_iff, Text.toNat_toLower]
      split <;> omega
    rw [← Text.isAlphanum_toLower, Text.isAlphanum_iff] at alphanum
    obtain upper | lower | digit := alphanum
    · exact absurd upper capital
    · exact .inl lower
    · exact .inr (.inl digit)
  case isFalse => exact .inr (.inr rfl)

theorem nameChar_eq_hyphen_iff {char : Char} : nameChar char = '-' ↔ char.isAlphanum = false := by
  unfold nameChar
  split
  case isTrue alphanum =>
    have kept : char.toLower ≠ '-' := by
      intro same
      rw [← Text.isAlphanum_toLower, same] at alphanum
      cases alphanum
    simp [kept, alphanum]
  case isFalse other => simpa using other

section Stems

variable {app suffix : String}

theorem map_lower_trimmed (app : String) :
    (Text.lower (Text.trimmed app)).toList.map (fun char => if char.isAlphanum then char else '-') =
      (Text.strip Text.isBlank app.toList).map nameChar := by
  rw [Text.lower, Text.trimmed, String.toList_ofList, String.toList_ofList, List.map_map, Text.trim_eq_strip]
  apply List.map_congr_left
  intro char _
  simp [nameChar, Text.isAlphanum_toLower]

theorem stripChar_nameChar (app : String) :
    Text.stripChar '-' ((Text.strip Text.isBlank app.toList).map nameChar) =
      (spelling app).map nameChar := by
  have hyphens : (· == '-') ∘ nameChar = fun char => !char.isAlphanum := by
    funext char
    rw [Bool.eq_iff_iff]
    simp [nameChar_eq_hyphen_iff]
  have blanks (char : Char) (blank : Text.isBlank char = true) : (!char.isAlphanum) = true := by
    simp [Text.isAlphanum_of_isBlank blank]
  rw [Text.stripChar_eq_strip, Text.strip_map, hyphens, Text.strip_strip blanks, spelling]

theorem nameStem_eq (app : String) : nameStem app =
    if (spelling app).isEmpty then "app" else String.ofList ((spelling app).map nameChar) := by
  simp only [nameStem, map_lower_trimmed, stripChar_nameChar, List.isEmpty_map]

example : nameStem "(Uptime Kuma: Größe 2)" = "uptime-kuma--gr--e-2" := by decide +kernel

theorem nameStem_isHyphenated (app : String) : IsHyphenated (nameStem app) := by
  rw [nameStem_eq]
  split
  case isTrue => exact ⟨by simp, by decide, by decide⟩
  case isFalse =>
    constructor
    · intro char member
      rw [String.toList_ofList] at member
      obtain ⟨original, -, rfl⟩ := List.mem_map.mp member
      exact nameChar_spelled original
    · intro starts
      rw [String.toList_ofList, List.head?_map] at starts
      obtain ⟨original, first, hyphen⟩ := Option.map_eq_some_iff.mp starts
      simpa [nameChar_eq_hyphen_iff.mp hyphen] using Text.first_strip original first
    · intro ends
      rw [String.toList_ofList, List.getLast?_map] at ends
      obtain ⟨original, last, hyphen⟩ := Option.map_eq_some_iff.mp ends
      simpa [nameChar_eq_hyphen_iff.mp hyphen] using Text.last_strip original last

theorem length_nameStem (app : String) :
    (nameStem app).length = if (spelling app).isEmpty then 3 else (spelling app).length := by
  rw [nameStem_eq]
  split
  · rfl
  · rw [String.length_ofList, List.length_map]

theorem length_nameStem_pos (app : String) : 1 ≤ (nameStem app).length := by
  rw [length_nameStem]
  split
  case isTrue => decide
  case isFalse spelled => exact List.length_pos_iff.mpr (by simpa using spelled)

theorem toList_serverName (app suffix : String) :
    (serverName app suffix).toList = (nameStem app).toList ++ '-' :: suffix.toList := by
  simp [serverName, toString]

theorem length_serverName (random : IsNameSuffix suffix) :
    (serverName app suffix).length = (nameStem app).length + 9 := by
  have eight : suffix.toList.length = 8 := random.length_eq
  simp [← String.length_toList, toList_serverName, eight]

theorem IsNameSuffix.spelled (random : IsNameSuffix suffix) {char : Char} (member : char ∈ suffix.toList) :
    char.isLower = true ∨ char.isDigit = true := by
  obtain digit | ⟨least, most⟩ := random.digits char member
  · exact .inr digit
  · have low : 0x61 ≤ char.toNat := least
    have high : char.toNat ≤ 0x66 := most
    exact .inl (Text.isLower_iff.mpr (by omega))

theorem IsNameSuffix.getLast? (random : IsNameSuffix suffix) :
    ∃ char ∈ suffix.toList, suffix.toList.getLast? = some char := by
  have eight : suffix.toList.length = 8 := random.length_eq
  have digits : suffix.toList ≠ [] := List.length_pos_iff.mp (by omega)
  exact ⟨_, List.getLast_mem digits, List.getLast?_eq_getLast_of_ne_nil digits⟩

theorem serverName_isHyphenated (app : String) (random : IsNameSuffix suffix) :
    IsHyphenated (serverName app suffix) := by
  have stem := nameStem_isHyphenated app
  constructor
  · intro char member
    rw [toList_serverName, List.mem_append, List.mem_cons] at member
    obtain early | hyphen | late := member
    · exact stem.spelled char early
    · exact .inr (.inr hyphen)
    · exact (random.spelled late).imp_right .inl
  · have begins : (nameStem app).toList ≠ [] := List.length_pos_iff.mp (length_nameStem_pos app)
    rw [toList_serverName, List.head?_append_of_ne_nil _ begins]
    exact stem.first
  · obtain ⟨char, member, last⟩ := random.getLast?
    rw [toList_serverName, List.getLast?_append, List.getLast?_cons, last]
    have solid := random.spelled member
    intro hyphen
    obtain rfl : char = '-' := by simpa using hyphen
    cases solid <;> contradiction

/-- A derived name is a label of a host name as long as what it spells is not too long. -/
theorem isHostLabel_serverName_iff (random : IsNameSuffix suffix) :
    IsHostLabel (serverName app suffix) ↔ (spelling app).length ≤ 54 := by
  have length : (serverName app suffix).length = (nameStem app).length + 9 := length_serverName random
  have fits : (serverName app suffix).length ≤ 63 ↔ (spelling app).length ≤ 54 := by
    rw [length, length_nameStem]
    cases spelling app with
    | nil => simp
    | cons char chars =>
        rw [List.isEmpty_cons, if_neg Bool.false_ne_true]
        omega
  constructor
  · intro label
    exact fits.mp label.fits
  · intro short
    exact { serverName_isHyphenated app random with nonempty := by omega, fits := fits.mpr short }

end Stems

section Orders

variable {Backend : Type} {site : Site Backend} {options : Options} {plan : Plan Backend}
  {size : String} {story : Story Backend} {action : Action Backend}

/-- What is ordered for a plan has the name that was chosen. -/
theorem order_of_provision (orders : action.concern = .order)
    (raises : Raises (provision plan options size).run story action) :
    ∃ naming told name, story = naming ++ told ∧ Traces (chooseName plan options).run naming (.ok name) ∧
      action = .provider plan.provider.backend (.createServer (orderOf plan options size name)) := by
  have awaits (created : Provider.Server) : KeepsTo [.people, .arrival] (do
      say s!"Waiting for server {created.id} to become active"
      let server ← (perform plan.provider (.awaitServer created.id)).adapt Error.ofWait
      announce server
      pure server : Stage Backend Error Provider.Server).run := by
    apply (keepsTo_say (by simp)).then
    intro _
    apply ((keepsTo_perform (by simp [Action.concern])).adapt Error.ofWait).then
    intro server
    apply ((announce_keepsTo server).mono (by simp)).then
    intro _
    exact keepsTo_pure server
  have tells (text : String) : KeepsTo [.people] (say text : Stage Backend Error Unit).run :=
    keepsTo_say (by simp)
  unfold provision at raises
  obtain ⟨naming, _, name, rfl, named, raises⟩ :=
    ((chooseName_keepsTo plan options).raises_then_iff (by simp [orders])).mp raises
  obtain ⟨told, _, _, rfl, -, raises⟩ :=
    ((tells _).raises_then_iff (by simp [orders])).mp raises
  have ordering := raises_run_adapt_iff.mp ((raises_before_iff awaits (by simp [orders])).mp raises)
  obtain ⟨rfl, rfl⟩ := raises_query_iff.mp ordering
  exact ⟨naming, told, name, by simp, named, rfl⟩

/-- What a deployment orders it orders as it provides a server for its plan. -/
theorem order_of_run (orders : action.concern = .order) (raises : Raises (run site options) story action) :
    ∃ plan sizing size rest, Deployment.plan site options = .ok plan ∧ story = sizing ++ rest ∧
      Raises (provision plan options size).run rest action := by
  unfold run deploy at raises
  obtain deploys | ⟨_, _, outcome, -, -, tells⟩ := raises_bind_iff.mp raises
  · have installs := (raises_before_iff (fun installation =>
      (conclude_keepsTo installation options).lift) (by simp [orders])).mp deploys
    cases planned : Deployment.plan site options with
    | error cause =>
        rw [installed_of_error planned] at installs
        exact absurd installs not_raises_run_throw
    | ok plan =>
        rw [installed_of_plan planned] at installs
        obtain ⟨sizing, rest, size, rfl, -, provides⟩ :=
          ((chooseSize_keepsTo plan options).raises_then_iff (by simp [orders])).mp installs
        obtain provides | ⟨_, _, server, -, -, settles⟩ := raises_run_bind_iff.mp provides
        · exact ⟨plan, sizing, size, rest, rfl, rfl, provides⟩
        · cases addressed : server.address with
          | none =>
              rw [addressed] at settles
              exact absurd settles not_raises_run_throw
          | some address =>
              rw [addressed] at settles
              exact absurd settles
                ((install_keepsTo site plan options size server address).not_raises (by simp [orders]))
  · obtain told | ⟨_, _, _, -, -, ends⟩ := raises_bind_iff.mp tells
    · obtain ⟨-, rfl⟩ := raises_query_iff.mp told
      cases outcome <;> cases orders
    · exact absurd ends not_raises_pure

theorem traces_chooseName_unnamed {name : String} (unnamed : Text.isBlankText options.serverName = true)
    (traced : Traces (chooseName plan options).run story (.ok name)) :
    ∃ suffix, story = [⟨.nameSuffix, suffix⟩] ∧ name = serverName plan.spec.app suffix := by
  rw [chooseName, if_pos unnamed] at traced
  obtain ⟨suffix, _, rfl, ends⟩ := traces_run_ask_bind_iff.mp traced
  obtain ⟨rfl, same⟩ := traces_run_pure_iff.mp ends
  exact ⟨suffix, rfl, Except.ok.inj same⟩

end Orders

/-- A server that was given no name is ordered under one that is derived from the application.
It ends in a hyphen and the random digits, behind a stem that is not empty, and it has small
letters, digits and hyphens only, with no hyphen at the ends.  It is a label of a host name
exactly if the name of the application spans at most 54 characters from its first letter or
digit to its last. -/
theorem derived_name_fits_iff (app : String) :
    (∀ suffix, IsNameSuffix suffix →
      (∃ stem, stem ≠ "" ∧ serverName app suffix = stem ++ "-" ++ suffix) ∧
      IsHyphenated (serverName app suffix) ∧
      (IsHostLabel (serverName app suffix) ↔ (spelling app).length ≤ 54)) ∧
    ∀ {Backend : Type} (site : Site Backend) (options : Options) (plan : Plan Backend)
      (past : Story Backend) (backend : Backend) (order : Provider.Order),
      Text.isBlankText options.serverName = true → Deployment.plan site options = .ok plan →
      plan.spec.app = app → Raises (run site options) past (.provider backend (.createServer order)) →
      ∃ suffix, ⟨.nameSuffix, suffix⟩ ∈ past ∧ order.name = serverName app suffix := by
  constructor
  · intro suffix random
    have hyphenated := serverName_isHyphenated app random
    refine ⟨⟨nameStem app, ?_, rfl⟩, hyphenated, ?_⟩
    · intro nothing
      have begins := length_nameStem_pos app
      simp [nothing] at begins
    · exact isHostLabel_serverName_iff random
  · intro Backend site options plan past backend order unnamed planned named raises
    obtain ⟨found, sizing, size, rest, same, rfl, provides⟩ := order_of_run rfl raises
    obtain rfl : found = plan := Except.ok.inj (same.symm.trans planned)
    obtain ⟨naming, told, name, rfl, chosen, ordered⟩ := order_of_provision rfl provides
    obtain ⟨suffix, rfl, derived⟩ := traces_chooseName_unnamed unnamed chosen
    cases ordered
    rw [named] at derived
    exact ⟨suffix, by simp, derived⟩

/-- A long name makes one that is no label. -/
theorem long_name_no_label : ¬ IsHostLabel
    (serverName "Self-hosted Notebook and Knowledge Base for Small Research Teams" "0123abcd") := by
  have random : IsNameSuffix "0123abcd" := ⟨by decide, by simp⟩
  obtain ⟨-, -, label⟩ := (derived_name_fits_iff
    "Self-hosted Notebook and Knowledge Base for Small Research Teams").1 "0123abcd" random
  have long : ¬ (spelling "Self-hosted Notebook and Knowledge Base for Small Research Teams").length ≤ 54 := by
    decide +kernel
  exact fun fits => long (label.mp fits)

end Rollout.Deployment
