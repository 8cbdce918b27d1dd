import Mathlib.Data.List.Basic
import Rollout.Proofs.Template.Condition
import Rollout.Proofs.Template.Render
import Rollout.Proofs.Terminal.Directory
import Rollout.Proofs.Text.Blank
import Rollout.Template.Context

namespace Rollout.Template

/-! What a context holds after any number of changes.

A change writes each field at most once, its text, its flag or both, and what it writes depends
on nothing that was there before.  So the last change that writes a field decides what it holds,
and a map of answers is one change however many fields it names.
-/

open Terminal (getElem?_insert_iff)
open Text (InAnyCase)

/-- What a text says if it is `true` or `false`, in any case of its letters. -/
def said? (value : String) : Option Bool :=
  if InAnyCase value "true" then some true
  else if InAnyCase value "false" then some false
  else none

def answerFlag (value : String) : Bool :=
  (said? value).getD (!value.isEmpty)

theorem said?_eq_true_iff {value : String} : said? value = some true ↔ InAnyCase value "true" := by
  unfold said?
  split
  case isTrue spelled => exact iff_of_true rfl spelled
  case isFalse other => exact iff_of_false (by split <;> simp) other

theorem said?_eq_false_iff {value : String} : said? value = some false ↔ InAnyCase value "false" := by
  unfold said?
  split
  case isTrue spelled =>
    -- The words differ in length, so no text is both.
    refine iff_of_false nofun fun also => ?_
    cases spelled.length_eq.symm.trans also.length_eq
  case isFalse other =>
    split
    case isTrue spelled => exact iff_of_true rfl spelled
    case isFalse neither => exact iff_of_false nofun neither

namespace Context

def flag? (context : Context) (field : String) : Option Bool :=
  context.flags[keyOf field]?

/-- Whatever a context holds under a key. -/
def entry (context : Context) (key : String) : Option String × Option Bool :=
  (context.strings[key]?, context.flags[key]?)

end Context

inductive Change where
  | text (field value : String)
  | flag (field : String) (value : Bool)
  | merge (answers : Variables)

namespace Change

def apply (context : Context) : Change → Context
  | .text field value => context.insertString field value
  | .flag field value => context.insertFlag field value
  | .merge answers => context.mergeAnswers answers

def Names (field : String) : Change → Prop
  | .text named _ => named = field
  | .flag named _ => named = field
  | .merge answers => field ∈ answers

/-- The text that a change writes to a field. -/
def text? (field : String) : Change → Option String
  | .text named value => if named = field then some value else none
  | .flag _ _ => none
  | .merge answers => answers[field]?

/-- The flag that a change writes to a field. -/
def flag? (field : String) : Change → Option Bool
  | .text named value => if named = field then some (!value.isEmpty) else none
  | .flag named value => if named = field then some value else none
  | .merge answers => answers[field]?.map answerFlag

end Change

def changed (context : Context) (changes : List Change) : Context :=
  changes.foldl Change.apply context

variable {context left right : Context} {answers first second : Variables} {changes : List Change}
  {change : Change} {field named key value : String} {flag : Bool}

theorem keyOf_inj : keyOf named = keyOf field ↔ named = field := by
  rw [keyOf, keyOf, String.ext_iff, String.toList_append, String.toList_append,
    List.append_cancel_left_eq, ← String.ext_iff]

theorem ext_entry (same : ∀ key, left.entry key = right.entry key) : left = right := by
  obtain ⟨strings, flags⟩ := left
  obtain ⟨strings', flags'⟩ := right
  have texts : strings = strings' := Std.ExtTreeMap.ext_getElem? fun key => congrArg Prod.fst (same key)
  have marks : flags = flags' := Std.ExtTreeMap.ext_getElem? fun key => congrArg Prod.snd (same key)
  rw [texts, marks]

/-- Contexts are the same if they agree on all fields, and on keys that belong to no field. -/
theorem ext_fields (texts : ∀ field, left.get? field = right.get? field)
    (marks : ∀ field, left.flag? field = right.flag? field)
    (others : ∀ key, (∀ field, keyOf field ≠ key) → left.entry key = right.entry key) :
    left = right := by
  apply ext_entry
  intro key
  by_cases foreign : ∀ field, keyOf field ≠ key
  · exact others key foreign
  · obtain ⟨field, rfl⟩ := not_forall_not.mp foreign
    exact Prod.ext (texts field) (marks field)

/-- The placeholder of a field is rendered to its text. -/
theorem render_field (bare : '{' ∉ field.toList ∧ '}' ∉ field.toList)
    (held : context.get? field = some value) :
    context.render ("\x7b" ++ keyOf field ++ "\x7d") = value := by
  have known : Known context.strings (keyOf field).toList value :=
    ⟨by simp [keyOf, bare], by simp [keyOf, bare], by rw [String.ofList_toList]; exact held⟩
  have nothing : Template.render context.strings "" = "" := rfl
  have rendered := render_replaced known "" ""
  rwa [nothing, String.empty_append, String.append_empty, String.empty_append, String.append_empty]
    at rendered

/-- The guard of a field, if it can be named in one, has its flag. -/
theorem evaluate_field (nameable : Nameable (keyOf field).toList) (context : Context) :
    context.evaluate (keyOf field) = (context.flag? field).getD false :=
  evaluate_name nameable context.flags

section Writing

theorem get?_insertString : (context.insertString named value).get? field =
    (if named = field then some value else none).or (context.get? field) := by
  simp only [Context.get?, Context.insertString, getElem?_insert_iff, keyOf_inj]
  split <;> rfl

theorem flag?_insertString : (context.insertString named value).flag? field =
    (if named = field then some (!value.isEmpty) else none).or (context.flag? field) := by
  simp only [Context.flag?, Context.insertString, getElem?_insert_iff, keyOf_inj]
  split <;> rfl

theorem flag?_insertFlag : (context.insertFlag named flag).flag? field =
    (if named = field then some flag else none).or (context.flag? field) := by
  simp only [Context.flag?, Context.insertFlag, getElem?_insert_iff, keyOf_inj]
  split <;> rfl

theorem entry_insertString (apart : keyOf named ≠ key) :
    (context.insertString named value).entry key = context.entry key := by
  simp only [Context.entry, Context.insertString, getElem?_insert_iff, if_neg apart]

theorem entry_insertFlag (apart : keyOf named ≠ key) :
    (context.insertFlag named flag).entry key = context.entry key := by
  simp only [Context.entry, Context.insertFlag, getElem?_insert_iff, if_neg apart]

/-- An answer is written as a text, and what it says overrides the flag of that text. -/
theorem insertAnswer_eq : context.insertAnswer named value =
    match said? value with
    | some flag => (context.insertString named value).insertFlag named flag
    | none => context.insertString named value := by
  unfold Context.insertAnswer said?
  simp only [Text.sameLetters_iff_inAnyCase value "true" (by decide),
    Text.sameLetters_iff_inAnyCase value "false" (by decide)]
  split
  · rfl
  · split <;> rfl

theorem get?_insertAnswer : (context.insertAnswer named value).get? field =
    (if named = field then some value else none).or (context.get? field) := by
  have written : (context.insertAnswer named value).get? field =
      (context.insertString named value).get? field := by
    rw [insertAnswer_eq]
    cases said? value <;> rfl
  rw [written, get?_insertString]

theorem flag?_insertAnswer : (context.insertAnswer named value).flag? field =
    (if named = field then some (answerFlag value) else none).or (context.flag? field) := by
  rw [insertAnswer_eq, answerFlag]
  cases said? value with
  | none => exact flag?_insertString
  | some flag =>
      simp only [flag?_insertFlag, flag?_insertString]
      split <;> rfl

theorem entry_insertAnswer (apart : keyOf named ≠ key) :
    (context.insertAnswer named value).entry key = context.entry key := by
  rw [insertAnswer_eq]
  cases said? value with
  | none => exact entry_insertString apart
  | some flag => exact (entry_insertFlag apart).trans (entry_insertString apart)

end Writing

section Folding

variable {State Step Value : Type} {step : State → Step → State}

/-- Where a step sets a value or leaves it, the last step that sets it decides. -/
theorem read_foldl (read : State → Option Value) (sets : Step → Option Value)
    (each : ∀ state next, read (step state next) = (sets next).or (read state))
    (steps : List Step) (state : State) :
    read (steps.foldl step state) = (steps.filterMap sets).getLast?.or (read state) := by
  induction steps generalizing state with
  | nil => rfl
  | cons next steps ih =>
      rw [List.foldl_cons, ih, each, ← Option.or_assoc, List.filterMap_cons]
      cases sets next with
      | none => rw [Option.or_none]
      | some value =>
          rw [List.getLast?_cons]
          cases (steps.filterMap sets).getLast? <;> rfl

end Folding

section Merging

variable {Value : Type} {kept : String → Value}

/-- What the entries of a map have for a field. -/
def keptFor (answers : Variables) (kept : String → Value) (field : String) : List Value :=
  answers.toList.filterMap fun (named, value) => if named = field then some (kept value) else none

theorem mem_keptFor {held : Value} : held ∈ keptFor answers kept field ↔
    ∃ value, answers[field]? = some value ∧ kept value = held := by
  simp only [keptFor, List.mem_filterMap, Prod.exists, Std.ExtTreeMap.mem_toList_iff_getElem?_eq_some,
    Option.ite_none_right_eq_some, Option.some_inj]
  constructor
  · rintro ⟨named, value, present, rfl, same⟩
    exact ⟨value, present, same⟩
  · rintro ⟨value, present, same⟩
    exact ⟨field, value, present, rfl, same⟩

theorem getLast?_keptFor : (keptFor answers kept field).getLast? = answers[field]?.map kept := by
  cases last : (keptFor answers kept field).getLast? with
  | some held =>
      obtain ⟨value, present, rfl⟩ := mem_keptFor.mp (List.mem_of_getLast? last)
      rw [present, Option.map_some]
  | none =>
      cases present : answers[field]? with
      | none => rfl
      | some value =>
          have member : kept value ∈ keptFor answers kept field := mem_keptFor.mpr ⟨value, present, rfl⟩
          rw [List.getLast?_eq_none_iff.mp last] at member
          cases member

theorem read_mergeAnswers (read : Context → Option Value) (kept : String → Value)
    (each : ∀ context named value, read (context.insertAnswer named value) =
      (if named = field then some (kept value) else none).or (read context))
    (context : Context) (answers : Variables) :
    read (context.mergeAnswers answers) = (answers[field]?.map kept).or (read context) := by
  rw [Context.mergeAnswers, Std.ExtTreeMap.foldl_eq_foldl_toList, ← getLast?_keptFor]
  exact read_foldl read _ (fun context (named, value) => each context named value) _ _

theorem get?_mergeAnswers : (context.mergeAnswers answers).get? field =
    answers[field]?.or (context.get? field) := by
  have merged := read_mergeAnswers (·.get? field) id (fun _ _ _ => get?_insertAnswer) context answers
  rwa [Option.map_id_fun, id] at merged

theorem flag?_mergeAnswers : (context.mergeAnswers answers).flag? field =
    (answers[field]?.map answerFlag).or (context.flag? field) :=
  read_mergeAnswers (·.flag? field) answerFlag (fun _ _ _ => flag?_insertAnswer) context answers

theorem entry_mergeAnswers (apart : ∀ field ∈ answers, keyOf field ≠ key) :
    (context.mergeAnswers answers).entry key = context.entry key := by
  rw [Context.mergeAnswers, Std.ExtTreeMap.foldl_eq_foldl_toList]
  refine List.foldlRecOn (motive := fun merged : Context => merged.entry key = context.entry key) _ _ rfl ?_
  rintro merged same ⟨named, value⟩ member
  have present : named ∈ answers :=
    Std.ExtTreeMap.mem_iff_isSome_getElem?.mpr
      (Option.isSome_of_eq_some (Std.ExtTreeMap.mem_toList_iff_getElem?_eq_some.mp member))
  exact (entry_insertAnswer (apart named present)).trans same

theorem mergeAnswers_mergeAnswers (context : Context) (answers : Variables) :
    (context.mergeAnswers answers).mergeAnswers answers = context.mergeAnswers answers := by
  apply ext_fields
  · intro field
    rw [get?_mergeAnswers, get?_mergeAnswers, ← Option.or_assoc, Option.or_self]
  · intro field
    rw [flag?_mergeAnswers, flag?_mergeAnswers, ← Option.or_assoc, Option.or_self]
  · intro key foreign
    exact entry_mergeAnswers fun field _ => foreign field

/-- Of two maps that have no field in common, either may be merged first. -/
theorem mergeAnswers_comm (context : Context) (apart : ∀ field ∈ first, field ∉ second) :
    (context.mergeAnswers first).mergeAnswers second =
      (context.mergeAnswers second).mergeAnswers first := by
  have one (field : String) : first[field]? = none ∨ second[field]? = none := by
    by_cases member : field ∈ first
    · exact .inr (Std.ExtTreeMap.getElem?_eq_none (apart field member))
    · exact .inl (Std.ExtTreeMap.getElem?_eq_none member)
  apply ext_fields
  · intro field
    simp only [get?_mergeAnswers]
    rcases one field with none | none <;> rw [none, Option.none_or, Option.none_or]
  · intro field
    simp only [flag?_mergeAnswers]
    rcases one field with none | none <;>
      rw [none, Option.map_none, Option.none_or, Option.none_or]
  · intro key foreign
    have kept {answers : Variables} {context : Context} :
        (context.mergeAnswers answers).entry key = context.entry key :=
      entry_mergeAnswers fun field _ => foreign field
    rw [kept, kept, kept, kept]

end Merging

section Changes

theorem get?_apply : (change.apply context).get? field = (change.text? field).or (context.get? field) := by
  cases change with
  | text named value => exact get?_insertString
  | flag named value => rfl
  | merge answers => exact get?_mergeAnswers

theorem flag?_apply :
    (change.apply context).flag? field = (change.flag? field).or (context.flag? field) := by
  cases change with
  | text named value => exact flag?_insertString
  | flag named value => exact flag?_insertFlag
  | merge answers => exact flag?_mergeAnswers

theorem entry_apply (apart : ∀ field, change.Names field → keyOf field ≠ key) :
    (change.apply context).entry key = context.entry key := by
  cases change with
  | text named value => exact entry_insertString (apart named rfl)
  | flag named value => exact entry_insertFlag (apart named rfl)
  | merge answers => exact entry_mergeAnswers apart

/-- What writes a text writes a flag too. -/
theorem flag?_of_text? (writes : change.text? field = some value) :
    ∃ flag, change.flag? field = some flag := by
  cases change with
  | text named value =>
      obtain ⟨names, -⟩ := Option.ite_none_right_eq_some.mp writes
      exact ⟨_, if_pos names⟩
  | flag named value => cases writes
  | merge answers => exact ⟨answerFlag value, congrArg (Option.map answerFlag) writes⟩

theorem get?_changed : (changed context changes).get? field =
    (changes.filterMap (·.text? field)).getLast?.or (context.get? field) :=
  read_foldl (·.get? field) (·.text? field) (fun _ _ => get?_apply) changes context

theorem flag?_changed : (changed context changes).flag? field =
    (changes.filterMap (·.flag? field)).getLast?.or (context.flag? field) :=
  read_foldl (·.flag? field) (·.flag? field) (fun _ _ => flag?_apply) changes context

theorem entry_changed (apart : ∀ change ∈ changes, ∀ field, change.Names field → keyOf field ≠ key) :
    (changed context changes).entry key = context.entry key := by
  refine List.foldlRecOn (motive := fun after : Context => after.entry key = context.entry key)
    changes Change.apply rfl ?_
  intro after same change member
  exact (entry_apply (apart change member)).trans same

/-- Where the context was empty before, a key is that of a named field or holds nothing. -/
theorem named_or_nothing (changes : List Change) (key : String) :
    (∃ field, keyOf field = key ∧ ∃ change ∈ changes, change.Names field) ∨
      (changed .empty changes).entry key = (none, none) := by
  by_cases named : ∃ field, keyOf field = key ∧ ∃ change ∈ changes, change.Names field
  · exact .inl named
  · exact .inr (entry_changed fun change member field names same =>
      named ⟨field, same, change, member, names⟩)

/-- A text that was written since the context was empty has a flag. -/
theorem flagged (held : (changed .empty changes).get? field = some value) :
    ∃ flag, (changed .empty changes).flag? field = some flag := by
  rw [get?_changed, show Context.empty.get? field = none from rfl, Option.or_none] at held
  obtain ⟨change, member, writes⟩ := List.mem_filterMap.mp (List.mem_of_getLast? held)
  obtain ⟨flag, marks⟩ := flag?_of_text? writes
  have written : (changes.filterMap (·.flag? field)) ≠ [] :=
    List.ne_nil_of_mem (List.mem_filterMap.mpr ⟨change, member, marks⟩)
  rw [flag?_changed, List.getLast?_eq_some_getLast written]
  exact ⟨_, rfl⟩

end Changes

/-- A context keeps for each field what was written last.

From an empty context on, a field has the last text that a change wrote to it and the last flag,
and every text has a flag.  Whatever no change names stays as it was, and is not there if nothing
was there before.  Merging answers again changes nothing, and answers to different fields may be
merged in either order. -/
theorem contexts_keep_the_last_written (changes : List Change) :
    (∀ field,
      (changed .empty changes).get? field = (changes.filterMap (·.text? field)).getLast? ∧
      (changed .empty changes).flag? field = (changes.filterMap (·.flag? field)).getLast?) ∧
    (∀ key ∈ (changed .empty changes).strings, key ∈ (changed .empty changes).flags) ∧
    (∀ key ∈ (changed .empty changes).flags,
      ∃ field, keyOf field = key ∧ ∃ change ∈ changes, change.Names field) ∧
    (∀ context field, (∀ change ∈ changes, ¬ change.Names field) →
      (changed context changes).get? field = context.get? field ∧
      (changed context changes).flag? field = context.flag? field) ∧
    (∀ (context : Context) (answers : Variables),
      (context.mergeAnswers answers).mergeAnswers answers = context.mergeAnswers answers) ∧
    ∀ (context : Context) (first second : Variables), (∀ field ∈ first, field ∉ second) →
      (context.mergeAnswers first).mergeAnswers second =
        (context.mergeAnswers second).mergeAnswers first := by
  have present {Value : Type} {entries : Std.ExtTreeMap String Value} {key : String} :
      key ∈ entries ↔ ∃ held, entries[key]? = some held := by
    rw [Std.ExtTreeMap.mem_iff_isSome_getElem?, Option.isSome_iff_exists]
  refine ⟨?written, ?flagged, ?named, ?untouched, mergeAnswers_mergeAnswers,
    fun context first second => mergeAnswers_comm context⟩
  case written =>
    intro field
    rw [get?_changed, flag?_changed]
    exact ⟨Option.or_none, Option.or_none⟩
  case flagged =>
    intro key member
    obtain ⟨value, held⟩ := present.mp member
    obtain ⟨field, rfl, -⟩ | nothing := named_or_nothing changes key
    · exact present.mpr (flagged held)
    · cases held.symm.trans (congrArg Prod.fst nothing)
  case named =>
    intro key member
    obtain ⟨flag, held⟩ := present.mp member
    obtain named | nothing := named_or_nothing changes key
    · exact named
    · cases held.symm.trans (congrArg Prod.snd nothing)
  case untouched =>
    intro context field unnamed
    have same : (changed context changes).entry (keyOf field) = context.entry (keyOf field) :=
      entry_changed fun change member other names same =>
        unnamed change member (keyOf_inj.mp same ▸ names)
    exact ⟨congrArg Prod.fst same, congrArg Prod.snd same⟩

example : (changed .empty [.flag "Mail" true, .text "Mail" ""]).flag? "Mail" = some false := by
  decide +kernel

end Rollout.Template
