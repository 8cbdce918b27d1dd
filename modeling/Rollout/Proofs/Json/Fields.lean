import Mathlib.Data.List.Nodup
import Rollout.Json.Fields

namespace Rollout.Json

/-! What is read from objects in which no name is written twice. -/

def isUnrepeated (json : Json) : Bool :=
  json.entries?.any fun entries => (entries.map (·.1)).Nodup

variable {α β : Type} {json : Json} {entries : List (String × Json)} {name : String}
  {names : List String}

theorem isUnrepeated_iff : json.isUnrepeated = true ↔
    ∃ entries, json = .object entries ∧ (entries.map (·.1)).Nodup := by
  unfold isUnrepeated entries?
  cases json <;> simp

theorem eraseDups_of_nodup {texts : List String} (distinct : texts.Nodup) : texts.eraseDups = texts := by
  induction texts with
  | nil => rfl
  | cons text rest ih =>
      obtain ⟨fresh, distinct⟩ := List.nodup_cons.mp distinct
      have kept : rest.filter (fun other => !other == text) = rest := by
        apply List.filter_eq_self.mpr
        intro other member
        have apart : other ≠ text := fun same => fresh (same ▸ member)
        simpa using apart
      rw [List.eraseDups_cons, kept, ih distinct]

theorem find?_of_mem {value : Json} (distinct : (entries.map (·.1)).Nodup)
    (member : (name, value) ∈ entries) : entries.find? (·.1 = name) = some (name, value) := by
  induction entries with
  | nil => cases member
  | cons entry rest ih =>
      obtain ⟨fresh, distinct⟩ := List.nodup_cons.mp distinct
      rcases List.mem_cons.mp member with same | later
      · subst same
        simp
      · have apart : entry.1 ≠ name := by
          intro same
          exact fresh (List.mem_map.mpr ⟨(name, value), later, same.symm⟩)
        rw [List.find?_cons_of_neg (by simpa using apart)]
        exact ih distinct later

/-- Without repetitions it does not matter whether the first or the last value is taken. -/
theorem find?_reverse (distinct : (entries.map (·.1)).Nodup) :
    entries.reverse.find? (·.1 = name) = entries.find? (·.1 = name) := by
  cases found : entries.find? (·.1 = name) with
  | none =>
      apply List.find?_eq_none.mpr
      intro entry member
      exact List.find?_eq_none.mp found entry (List.mem_reverse.mp member)
  | some entry =>
      have named : entry.1 = name := by simpa using List.find?_some found
      have member := List.mem_of_find?_eq_some found
      subst named
      apply find?_of_mem
      · rw [List.map_reverse]
        exact List.nodup_reverse.mpr distinct
      · exact List.mem_reverse.mpr member

theorem find?_filter (named : name ∈ names) :
    (entries.filter (·.1 ∈ names)).find? (·.1 = name) = entries.find? (·.1 = name) := by
  rw [List.find?_filter]
  congr 1
  funext entry
  by_cases same : entry.1 = name
  · simp [same, named]
  · simp [same]

/-- The fields of an object are its values. -/
theorem fields?_of_unrepeated (clean : json.isUnrepeated = true) (names : List String) :
    ∃ fields, json.fields? names = some fields ∧ fields.isArray = false ∧
      ∀ name ∈ names, fields.find? name = json.find? name := by
  obtain ⟨entries, rfl, distinct⟩ := isUnrepeated_iff.mp clean
  have kept : ((entries.filter (·.1 ∈ names)).map (·.1)).Nodup :=
    distinct.sublist (List.filter_sublist.map _)
  refine ⟨{ values := entries.filter (·.1 ∈ names), isArray := false }, ?_, rfl, ?_⟩
  · simp only [fields?, eraseDups_of_nodup kept, List.length_map, if_true]
  · intro name named
    have last : entries.reverse.find? (·.1 == name) = entries.find? (·.1 = name) := by
      rw [← find?_reverse distinct]
      congr 1
    simp only [Fields.find?, find?, find?_filter named, last]

section Reading

variable {fields : Fields} {found : Option Json} (same : fields.find? name = found)
include same

theorem required_eq {read : Json → Option α} : fields.required name read = found.bind read := by
  subst same
  rfl

theorem orElse_eq {default : α} {read : Json → Option α} :
    fields.orElse name default read = found.elim (some default) read := by
  subst same
  unfold Fields.orElse
  cases fields.find? name <;> rfl

end Reading

theorem mapM_of_forall₂ {γ : Type} {read : β → Option γ} {values : List α} {items : List β}
    {result : α → γ}
    (reads : List.Forall₂ (fun value item => read item = some (result value)) values items) :
    items.mapM read = some (values.map result) := by
  induction reads with
  | nil => rfl
  | cons first _ ih => simp [List.mapM_cons, first, ih]

theorem list?_map {read : Json → Option α} {shown : α → Json} (values : List α)
    (reads : ∀ value, read (shown value) = some value) :
    Json.list? read (.array (values.map shown)) = some values := by
  have each : List.Forall₂ (fun value item => read item = some (id value)) values (values.map shown) :=
    List.forall₂_map_right_iff.mpr (List.forall₂_same.mpr fun value _ => reads value)
  exact (mapM_of_forall₂ each).trans (congrArg some (List.map_id values))

end Rollout.Json
