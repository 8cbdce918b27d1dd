import Mathlib.Data.List.Dedup
import Rollout.Dns.Domain
import Rollout.Proofs.Json.Fields
import Rollout.Proofs.Text.Blank
import Rollout.Proofs.Text.Pieces

namespace Rollout.Dns

/-! The zones that may hold a domain. -/

/-- The characters of a domain as they are compared: bare and in lower case. -/
def plainDomain (domain : String) : List Char :=
  (Text.lower (String.ofList (bareDomain domain))).toList

/-- A zone of two labels or more covers its own name and all names under it. -/
structure Covers (zone domain : String) : Prop where
  labelled : '.' ∈ zone.toList
  under : plainDomain domain = zone.toList ∨
    ∃ front, plainDomain domain = front ++ '.' :: zone.toList

theorem two_le_length_splitAt {chars : List Char} (labelled : '.' ∈ chars) :
    2 ≤ (Text.splitAt '.' chars).length := by
  obtain ⟨front, back, rfl⟩ := List.append_of_mem labelled
  obtain ⟨first, _, before⟩ := Text.exists_splitAt '.' front
  obtain ⟨second, _, after⟩ := Text.exists_splitAt '.' back
  rw [Text.splitAt_append, before, after]
  simp
  omega

theorem Covers.labels {zone domain : String} (covers : Covers zone domain) :
    ∃ count, (Text.splitAt '.' (plainDomain domain)).drop count = Text.splitAt '.' zone.toList := by
  rcases covers.under with same | ⟨front, below⟩
  · exact ⟨0, by rw [same, List.drop_zero]⟩
  · refine ⟨(Text.splitAt '.' front).length, ?_⟩
    rw [below, Text.splitAt_append, List.drop_left]

/-- Every zone that covers a domain is looked for. -/
theorem Covers.mem_zoneCandidates {zone domain : String} (covers : Covers zone domain) :
    zone ∈ zoneCandidates domain := by
  obtain ⟨count, labels⟩ := covers.labels
  have many := two_le_length_splitAt covers.labelled
  have bound : count < (Text.splitAt '.' (plainDomain domain)).length - 1 := by
    have lengths := congrArg List.length labels
    rw [List.length_drop] at lengths
    omega
  have spelled : joined ((Text.splitAt '.' (plainDomain domain)).drop count) = zone := by
    rw [joined, labels, Text.join_splitAt, String.ofList_toList]
  unfold zoneCandidates
  apply List.mem_eraseDups.mpr
  apply List.mem_cons_of_mem
  exact List.mem_map.mpr ⟨count, List.mem_range.mpr bound, spelled⟩

section Splitting

variable {front back : List (List Char)} {domain : String}

theorem joined_append (some : front ≠ []) (more : back ≠ []) :
    joined (front ++ back) = joined front ++ "." ++ joined back := by
  have chars : List.intercalate ['.'] (front ++ back) =
      List.intercalate ['.'] front ++ '.' :: List.intercalate ['.'] back := by
    induction front with
    | nil => exact absurd rfl some
    | cons label rest ih =>
        cases rest with
        | nil =>
            obtain ⟨next, others, rfl⟩ := List.exists_cons_of_ne_nil more
            simp [List.intercalate]
        | cons second others =>
            have inner := ih (List.cons_ne_nil _ _)
            simp only [List.cons_append] at inner ⊢
            rw [List.intercalate_cons_cons, List.intercalate_cons_cons, inner]
            simp
  simp only [joined, chars, ← String.toList_inj, String.toList_append, String.toList_ofList]
  simp

theorem joined_eq_empty_iff (labelled : ∀ label ∈ front, label ≠ []) :
    joined front = "" ↔ front = [] := by
  constructor
  · intro empty
    cases front with
    | nil => rfl
    | cons label rest =>
        have first := labelled label List.mem_cons_self
        have chars := congrArg String.toList empty
        cases rest with
        | nil => simp [joined, List.intercalate, first] at chars
        | cons second others => simp [joined, List.intercalate_cons_cons, first] at chars
  · intro none
    subst none
    rfl

/-- A domain is its zone, or the part before the zone, a point and the zone. -/
theorem splitDomain_spells
    (labelled : ∀ label ∈ Text.splitAt '.' (bareDomain domain), label ≠ []) :
    ((splitDomain domain).2 = "" ∧ String.ofList (bareDomain domain) = (splitDomain domain).1) ∨
      ((splitDomain domain).2 ≠ "" ∧ String.ofList (bareDomain domain) =
        (splitDomain domain).2 ++ "." ++ (splitDomain domain).1) := by
  let labels := Text.splitAt '.' (bareDomain domain)
  let count := labels.length - 2
  have whole : String.ofList (bareDomain domain) = joined (labels.take count ++ labels.drop count) := by
    rw [List.take_append_drop, joined, Text.join_splitAt]
  have sub : (splitDomain domain).2 = "" ↔ labels.take count = [] :=
    joined_eq_empty_iff fun label member => labelled label (List.mem_of_mem_take member)
  have zone : labels.drop count ≠ [] := by
    obtain ⟨first, rest, cut⟩ := Text.exists_splitAt '.' (bareDomain domain)
    have some : 0 < labels.length := by simp [labels, cut]
    intro none
    have short := List.drop_eq_nil_iff.mp none
    omega
  by_cases none : labels.take count = []
  · refine .inl ⟨sub.mpr none, ?_⟩
    rw [whole, none, List.nil_append]
    rfl
  · exact .inr ⟨mt sub.mp none, whole.trans (joined_append none zone)⟩

/-- The zone of a domain has at most two labels. -/
theorem length_zone_le (domain : String) :
    (Text.splitAt '.' (splitDomain domain).1.toList).length ≤ 2 := by
  let labels := Text.splitAt '.' (bareDomain domain)
  have some : labels.drop (labels.length - 2) ≠ [] := by
    obtain ⟨first, rest, cut⟩ := Text.exists_splitAt '.' (bareDomain domain)
    have positive : 0 < labels.length := by simp [labels, cut]
    exact mt List.drop_eq_nil_iff.mp (by omega)
  have whole : ∀ label ∈ labels.drop (labels.length - 2), '.' ∉ label :=
    fun label member => Text.not_mem_of_mem_splitAt label (List.mem_of_mem_drop member)
  show (Text.splitAt '.' (joined (labels.drop (labels.length - 2))).toList).length ≤ 2
  rw [joined, String.toList_ofList, Text.splitAt_join some whole, List.length_drop]
  omega

/-- No two domains have the same zone and the same part before it. -/
theorem bareDomain_of_splitDomain {other : String}
    (labelled : ∀ label ∈ Text.splitAt '.' (bareDomain domain), label ≠ [])
    (also : ∀ label ∈ Text.splitAt '.' (bareDomain other), label ≠ [])
    (same : splitDomain domain = splitDomain other) : bareDomain domain = bareDomain other := by
  have zone : (splitDomain domain).1 = (splitDomain other).1 := congrArg Prod.fst same
  have sub : (splitDomain domain).2 = (splitDomain other).2 := congrArg Prod.snd same
  apply String.ofList_inj.mp
  obtain ⟨none, whole⟩ | ⟨some, whole⟩ := splitDomain_spells labelled
  · obtain ⟨-, whole'⟩ | ⟨some', -⟩ := splitDomain_spells also
    · rw [whole, whole', zone]
    · exact absurd (sub.symm.trans none) some'
  · obtain ⟨none', -⟩ | ⟨-, whole'⟩ := splitDomain_spells also
    · exact absurd (sub.trans none') some
    · rw [whole, whole', zone, sub]

end Splitting

section Candidates

variable {domain name : String}

/-- The labels of a domain as they are compared. -/
def labelsOf (domain : String) : List (List Char) := Text.splitAt '.' (plainDomain domain)

/-- The last two labels of a domain. -/
def rootOf (domain : String) : String :=
  joined ((labelsOf domain).drop ((labelsOf domain).length - 2))

theorem plainDomain_eq (domain : String) : plainDomain domain = (bareDomain domain).map Char.toLower := by
  simp [plainDomain, Text.lower]

theorem eq_point_of_toLower {char : Char} (lowered : char.toLower = '.') : char = '.' := by
  have code := Text.toNat_toLower char
  rw [lowered] at code
  apply Char.toNat_inj.mp
  have point : ('.' : Char).toNat = 0x2E := rfl
  split at code <;> omega

/-- The longer names that end with the same labels, from the whole domain down. -/
def longerNames (domain : String) : List String :=
  (List.range ((labelsOf domain).length - 2)).map fun count =>
    joined ((labelsOf domain).drop count)

theorem mem_longerNames : name ∈ longerNames domain ↔
    ∃ count < (labelsOf domain).length - 2, joined ((labelsOf domain).drop count) = name := by
  simp [longerNames]

/-- Names with more labels in front are longer. -/
theorem length_joined_drop {labels : List (List Char)} {fewer more : Nat} (less : fewer < more)
    (bound : more < labels.length) :
    (joined (labels.drop more)).length < (joined (labels.drop fewer)).length := by
  have parts : labels.drop fewer = (labels.drop fewer).take (more - fewer) ++ labels.drop more := by
    have rest : labels.drop more = (labels.drop fewer).drop (more - fewer) := by
      rw [List.drop_drop, Nat.add_sub_cancel' (Nat.le_of_lt less)]
    rw [rest, List.take_append_drop]
  have front : (labels.drop fewer).take (more - fewer) ≠ [] := by
    apply List.ne_nil_of_length_pos
    rw [List.length_take, List.length_drop]
    omega
  have back : labels.drop more ≠ [] := mt List.drop_eq_nil_iff.mp (by omega)
  rw [parts, joined_append front back, String.length_append, String.length_append]
  have point : (".": String).length = 1 := rfl
  omega

theorem longerNames_decreasing (domain : String) :
    (longerNames domain).Pairwise fun earlier later => later.length < earlier.length := by
  unfold longerNames
  rw [List.pairwise_map]
  apply List.Pairwise.imp_of_mem _ List.pairwise_lt_range
  intro fewer more _ member less
  have bound := List.mem_range.mp member
  exact length_joined_drop less (by omega)

theorem rootOf_shorter (longer : name ∈ longerNames domain) : (rootOf domain).length < name.length := by
  obtain ⟨count, bound, rfl⟩ := mem_longerNames.mp longer
  exact length_joined_drop (by omega) (by omega)

theorem distinctNames : (rootOf domain :: longerNames domain).Nodup := by
  apply List.nodup_cons.mpr
  constructor
  · intro member
    exact absurd (rootOf_shorter member) (Nat.lt_irrefl _)
  · apply (longerNames_decreasing domain).imp
    intro earlier later shorter same
    rw [same] at shorter
    exact absurd shorter (Nat.lt_irrefl _)

/-- A name that is repeated at the end is listed once. -/
theorem eraseDups_of_last {first : String} {others : List String}
    (distinct : (first :: others).Nodup) :
    (first :: (others ++ [first])).eraseDups = first :: others := by
  obtain ⟨fresh, rest⟩ := List.nodup_cons.mp distinct
  have kept : (others ++ [first]).filter (fun other => !other == first) = others := by
    have apart : others.filter (fun other => !other == first) = others := by
      apply List.filter_eq_self.mpr
      intro other member
      simpa using fun same : other = first => fresh (same ▸ member)
    rw [List.filter_append, apart]
    simp
  rw [List.eraseDups_cons, kept, Json.eraseDups_of_nodup rest]

/-- What is left of a domain's labels covers it, if it is two or more. -/
theorem covers_drop {count : Nat} (bound : count + 2 ≤ (labelsOf domain).length) :
    Covers (joined ((labelsOf domain).drop count)) domain := by
  have left : (labelsOf domain).drop count ≠ [] := mt List.drop_eq_nil_iff.mp (by omega)
  constructor
  · obtain ⟨label, rest, parts⟩ := List.exists_cons_of_ne_nil left
    have more : rest ≠ [] := by
      intro none
      have lengths := congrArg List.length parts
      rw [List.length_drop, none, List.length_singleton] at lengths
      omega
    rw [parts, ← List.singleton_append, joined_append (List.cons_ne_nil _ _) more]
    simp
  · have whole : plainDomain domain = (joined (labelsOf domain)).toList := by
      rw [joined, labelsOf, Text.join_splitAt, String.toList_ofList]
    cases count with
    | zero => exact .inl (by rw [List.drop_zero, whole])
    | succ count =>
        have front : (labelsOf domain).take (count + 1) ≠ [] := by
          apply List.ne_nil_of_length_pos
          rw [List.length_take]
          omega
        refine .inr ⟨(joined ((labelsOf domain).take (count + 1))).toList, ?_⟩
        rw [whole]
        conv_lhs => rw [← List.take_append_drop (count + 1) (labelsOf domain)]
        rw [joined_append front left]
        simp

section Solid

variable (solid : ∀ char ∈ domain.toList, Text.isBlank char = false)
include solid

theorem bareDomain_of_solid : bareDomain domain = Text.stripCharEnd '.' domain.toList := by
  rw [bareDomain, Text.trim_of_tight (Text.tight_of_solid solid)]

/-- A plain domain is plain already. -/
theorem bareDomain_plain : bareDomain (String.ofList (plainDomain domain)) = plainDomain domain := by
  have bare := bareDomain_of_solid solid
  obtain ⟨count, split, ends⟩ := Text.exists_stripCharEnd '.' domain.toList
  rw [← bare] at split ends
  have still : ∀ char ∈ (String.ofList (plainDomain domain)).toList, Text.isBlank char = false := by
    intro char member
    rw [String.toList_ofList, plainDomain_eq] at member
    obtain ⟨original, among, rfl⟩ := List.mem_map.mp member
    rw [Text.isBlank_toLower]
    exact solid original (split ▸ List.mem_append_left _ among)
  rw [bareDomain_of_solid still, String.toList_ofList]
  have unpointed : ∀ before, plainDomain domain ≠ before ++ ['.'] := by
    intro before pointed
    rw [plainDomain_eq] at pointed
    obtain ⟨front, back, parts, -, last⟩ := List.map_eq_append_iff.mp pointed
    obtain ⟨char, rest, rfl, lowered, remains⟩ := List.map_eq_cons_iff.mp last
    obtain rfl := List.map_eq_nil_iff.mp remains
    obtain rfl := eq_point_of_toLower lowered
    exact ends front parts
  simpa using Text.stripCharEnd_append 0 unpointed

/-- Behind the last two labels the longer names follow. -/
theorem zoneCandidates_eq (many : 2 ≤ (labelsOf domain).length) :
    zoneCandidates domain = rootOf domain :: longerNames domain := by
  have plain : Text.lower (String.ofList (bareDomain domain)) = String.ofList (plainDomain domain) := by
    rw [plainDomain, String.ofList_toList]
  have root : (splitDomain (String.ofList (plainDomain domain))).1 = rootOf domain := by
    show joined ((Text.splitAt '.' (bareDomain _)).drop _) = _
    rw [bareDomain_plain solid]
    rfl
  have count : (labelsOf domain).length - 1 = (labelsOf domain).length - 2 + 1 := by omega
  simp only [zoneCandidates, plain, root, String.toList_ofList]
  show (rootOf domain :: (List.range ((labelsOf domain).length - 1)).map
    fun count => joined ((labelsOf domain).drop count)).eraseDups = _
  rw [count, List.range_succ, List.map_append]
  exact eraseDups_of_last distinctNames

theorem mem_zoneCandidates_iff (many : 2 ≤ (labelsOf domain).length) :
    name ∈ zoneCandidates domain ↔ Covers name domain := by
  constructor
  · intro member
    rw [zoneCandidates_eq solid many, List.mem_cons, mem_longerNames] at member
    obtain rfl | ⟨count, bound, rfl⟩ := member
    · exact covers_drop (by omega)
    · exact covers_drop (by omega)
  · intro covers
    exact covers.mem_zoneCandidates

/-- The last two labels are looked for first, and then every longer name that covers the domain,
from the longest down. -/
theorem zoneCandidates_ordered (many : 2 ≤ (labelsOf domain).length) :
    (zoneCandidates domain).Nodup ∧ ∃ longer, zoneCandidates domain = rootOf domain :: longer ∧
      longer.Pairwise (fun earlier later => later.length < earlier.length) ∧
      ∀ name, name ∈ longer ↔ Covers name domain ∧ (rootOf domain).length < name.length := by
  rw [zoneCandidates_eq solid many]
  refine ⟨distinctNames, longerNames domain, rfl, longerNames_decreasing domain, fun name => ?_⟩
  rw [← mem_zoneCandidates_iff solid many, zoneCandidates_eq solid many, List.mem_cons]
  constructor
  · intro longer
    exact ⟨.inr longer, rootOf_shorter longer⟩
  · intro ⟨among, longer⟩
    apply among.resolve_left
    intro same
    rw [same] at longer
    exact Nat.lt_irrefl _ longer

theorem length_zoneCandidates (many : 2 ≤ (labelsOf domain).length) :
    (zoneCandidates domain).length = (labelsOf domain).length - 1 := by
  rw [zoneCandidates_eq solid many, longerNames, List.length_cons, List.length_map, List.length_range]
  omega

end Solid

end Candidates

end Rollout.Dns
