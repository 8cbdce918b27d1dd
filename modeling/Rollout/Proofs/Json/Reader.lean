import Rollout.Json.Printer
import Rollout.Json.Reader
import Rollout.Proofs.Text.Utf8

namespace Rollout.Json

/-! What is written is read back.

A value is read from the characters that it was written as, and the characters behind them are
left.  Numbers are left out: they may be read as others of the same size.
-/

/-- No number stands in a value. -/
inductive Numberless : Json → Prop where
  | null : Numberless .null
  | bool (value : Bool) : Numberless (.bool value)
  | text (value : String) : Numberless (.text value)
  | array {items : List Json} (all : ∀ item ∈ items, Numberless item) : Numberless (.array items)
  | object {entries : List (String × Json)} (all : ∀ entry ∈ entries, Numberless entry.2) :
      Numberless (.object entries)

theorem skipGap_cons {char : Char} {rest : List Char} (solid : isGap char = false) :
    skipGap (char :: rest) = char :: rest :=
  List.dropWhile_cons_of_neg (by simp [solid])

section Strings

variable {char : Char} {rest reversed : List Char} {bound : Nat}

theorem hexDigit?_hexDigit {value : Nat} (digit : value < 16) : hexDigit? (hexDigit value) = some value := by
  revert value
  decide

theorem escapedUnit?_control {value : Nat} (control : value < 0x20) :
    escapedUnit? ('0' :: '0' :: hexDigit (value / 16) :: hexDigit (value % 16) :: rest) =
      some (some (Char.ofNat value), rest) := by
  have high := hexDigit?_hexDigit (show value / 16 < 16 by omega)
  have low := hexDigit?_hexDigit (show value % 16 < 16 by omega)
  have zero : hexDigit? '0' = some 0 := rfl
  have whole : 16 * (value / 16) + value % 16 = value := Nat.div_add_mod value 16
  have unit : hexUnit? ('0' :: '0' :: hexDigit (value / 16) :: hexDigit (value % 16) :: rest) =
      some (value, rest) := by
    simp [hexUnit?, zero, high, low, whole]
  simp only [escapedUnit?, unit, Option.bind_eq_bind, Option.bind_some]
  rw [if_neg (by omega), if_neg (by omega)]

theorem stringTail?_escaped :
    stringTail? (bound + 1) (some reversed) (escaped char ++ rest) =
      stringTail? bound (some (char :: reversed)) rest := by
  unfold escaped
  split
  case h_8 quote slash _ _ _ _ _ =>
    split
    case isTrue control =>
      have same : Char.ofNat char.toNat = char := Char.ofNat_toNat char
      simp [stringTail?, escapedUnit?_control control, same]
    case isFalse printed =>
      simp only [List.singleton_append, stringTail?, if_neg quote, if_neg slash, if_neg printed,
        Option.map_some]
  all_goals rfl

theorem stringTail?_flatMap {text : List Char} (enough : text.length < bound) :
    stringTail? bound (some reversed) (text.flatMap escaped ++ '"' :: rest) =
      some (some (String.ofList (reversed.reverse ++ text)), rest) := by
  induction text generalizing bound reversed with
  | nil =>
      obtain ⟨bound, rfl⟩ := Nat.exists_eq_add_of_lt enough
      simp [stringTail?]
  | cons char text ih =>
      obtain ⟨bound, rfl⟩ : ∃ less, bound = less + 1 := ⟨bound - 1, by omega⟩
      rw [List.flatMap_cons, List.append_assoc, stringTail?_escaped,
        ih (Nat.lt_of_succ_lt_succ enough)]
      simp

theorem length_escaped_pos (char : Char) : 1 ≤ (escaped char).length := by
  unfold escaped
  split <;> try split
  all_goals simp

theorem length_le_flatMap_escaped (text : List Char) : text.length ≤ (text.flatMap escaped).length := by
  induction text with
  | nil => exact Nat.le_refl _
  | cons char text ih =>
      have first := length_escaped_pos char
      rw [List.flatMap_cons, List.length_append, List.length_cons]
      omega

theorem toList_quote (text : String) :
    (quote text).toList = '"' :: (text.toList.flatMap escaped ++ ['"']) := by
  simp [quote]

end Strings

section Values

variable {json : Json} {items reversed : List Json} {entries before : List (String × Json)}
  {rest : List Char} {bound : Nat}

/-- The characters that an entry of an object is written as. -/
def entryChars (entry : String × Json) : List Char :=
  (quote entry.1).toList ++ ':' :: entry.2.render.toList

theorem renderAll_eq_map : render.renderAll items = items.map render := by
  induction items with
  | nil => rfl
  | cons item items ih => exact congrArg (item.render :: ·) ih

theorem renderEntries_eq_map :
    (render.renderEntries entries).map String.toList = entries.map entryChars := by
  induction entries with
  | nil => rfl
  | cons entry entries ih =>
      obtain ⟨name, item⟩ := entry
      simp [render.renderEntries, entryChars, ih]

theorem toList_render_array :
    (render (.array items)).toList =
      '[' :: ([','].intercalate (items.map fun item => item.render.toList) ++ [']']) := by
  simp [render, renderAll_eq_map, Function.comp_def]

theorem toList_render_object :
    (render (.object entries)).toList =
      '\x7b' :: ([','].intercalate (entries.map entryChars) ++ ['\x7d']) := by
  simp [render, renderEntries_eq_map]

/-- What a value is written as begins neither with a gap nor with the end of a list. -/
theorem Numberless.head_render (plain : json.Numberless) :
    ∃ first tail, json.render.toList = first :: tail ∧ isGap first = false ∧ first ≠ ']' := by
  cases plain with
  | null => exact ⟨'n', _, rfl, rfl, by decide⟩
  | bool value => cases value <;> exact ⟨_, _, rfl, rfl, by decide⟩
  | text value => exact ⟨'"', _, by rw [render, toList_quote], rfl, by decide⟩
  | array all => exact ⟨'[', _, toList_render_array, rfl, by decide⟩
  | object all => exact ⟨'\x7b', _, toList_render_object, rfl, by decide⟩

/-- A value is read from what it was written as, and what stands behind it is left. -/
def ReadsBack (json : Json) : Prop :=
  ∀ {bound : Nat} {rest : List Char}, json.render.toList.length ≤ bound →
    readValue? bound (json.render.toList ++ rest) = some (json, rest)

theorem readsBack_null : ReadsBack .null := by
  intro bound rest enough
  obtain ⟨bound, rfl⟩ := Nat.exists_eq_add_of_le' (Nat.one_le_of_lt enough)
  rfl

theorem readsBack_bool (value : Bool) : ReadsBack (.bool value) := by
  intro bound rest enough
  cases value <;>
  · obtain ⟨bound, rfl⟩ := Nat.exists_eq_add_of_le' (Nat.one_le_of_lt enough)
    rfl

theorem readsBack_text (value : String) : ReadsBack (.text value) := by
  intro bound rest enough
  have length := length_le_flatMap_escaped value.toList
  rw [render, toList_quote] at enough ⊢
  simp only [List.length_cons, List.length_append, List.length_nil] at enough
  obtain ⟨bound, rfl⟩ := Nat.exists_eq_add_of_le' (Nat.one_le_of_lt enough)
  have read := @stringTail?_flatMap rest [] bound value.toList (by omega)
  rw [List.cons_append, List.append_assoc, List.singleton_append, readValue?, skipGap_cons rfl]
  simp only
  rw [read]
  simp [ofText]

/-- The items of an array that has some are read up to its end. -/
theorem readItems?_intercalate (filled : items ≠ []) (back : ∀ item ∈ items, item.ReadsBack)
    (enough : ([','].intercalate (items.map fun item => item.render.toList)).length < bound) :
    readItems? bound reversed
        ([','].intercalate (items.map fun item => item.render.toList) ++ ']' :: rest) =
      some (.array (reversed.reverse ++ items), rest) := by
  induction items generalizing bound reversed with
  | nil => contradiction
  | cons item items ih =>
      obtain ⟨reads, back⟩ := List.forall_mem_cons.mp back
      obtain ⟨bound, rfl⟩ := Nat.exists_eq_add_of_le' (Nat.one_le_of_lt enough)
      rw [List.map_cons] at enough ⊢
      by_cases last : items = []
      · subst last
        rw [List.map_nil, List.intercalate_singleton] at enough ⊢
        rw [readItems?, reads (by omega)]
        simp [skipGap_cons (show isGap ']' = false from rfl)]
      · have more : items.map (fun item => item.render.toList) ≠ [] := by simpa using last
        rw [List.intercalate_cons_of_ne_nil more] at enough ⊢
        simp only [List.length_append, List.length_singleton] at enough
        rw [List.append_assoc, List.append_assoc, List.singleton_append, readItems?, reads (by omega)]
        simp only [Option.bind_eq_bind, Option.bind_some, skipGap_cons (show isGap ',' = false from rfl)]
        rw [ih last back (by omega)]
        simp

theorem intercalate_head {first : Char} {tail : List Char} {more : List (List Char)} :
    ∃ chars, [','].intercalate ((first :: tail) :: more) = first :: chars := by
  cases more with
  | nil => exact ⟨tail, List.intercalate_singleton⟩
  | cons next more => exact ⟨_, List.intercalate_cons_cons⟩

theorem readsBack_array (plain : ∀ item ∈ items, item.Numberless)
    (back : ∀ item ∈ items, item.ReadsBack) : ReadsBack (.array items) := by
  intro bound rest enough
  rw [toList_render_array] at enough ⊢
  simp only [List.length_cons, List.length_append, List.length_nil] at enough
  obtain ⟨bound, rfl⟩ := Nat.exists_eq_add_of_le' (Nat.one_le_of_lt enough)
  rw [List.cons_append, List.append_assoc, List.singleton_append, readValue?, skipGap_cons rfl]
  cases items with
  | nil => rfl
  | cons item items =>
      have reads := @readItems?_intercalate (item :: items) [] rest bound (List.cons_ne_nil _ _) back
        (by omega)
      obtain ⟨first, tail, head, solid, other⟩ := (plain item List.mem_cons_self).head_render
      rw [List.map_cons, head] at reads ⊢
      obtain ⟨chars, begins⟩ := intercalate_head
      rw [begins] at reads ⊢
      simp only [List.cons_append, skipGap_cons solid] at reads ⊢
      split
      · rename_i same
        cases same
        contradiction
      · exact reads

/-- What is read behind an entry. -/
def afterEntry (bound : Nat) (before : List (String × Json)) (rest : List Char) :
    Option (Json × List Char) :=
  match skipGap rest with
  | ',' :: rest => readEntries? bound (some before) rest
  | '\x7d' :: rest => some (.object before.reverse, rest)
  | _ => none

theorem readEntries?_entry {entry : String × Json} (reads : entry.2.ReadsBack)
    (enough : (entryChars entry).length ≤ bound) :
    readEntries? (bound + 1) (some before) (entryChars entry ++ rest) =
      afterEntry bound (entry :: before) rest := by
  obtain ⟨name, item⟩ := entry
  have reads : item.ReadsBack := reads
  have length := length_le_flatMap_escaped name.toList
  rw [entryChars, toList_quote] at enough ⊢
  simp only [List.length_cons, List.length_append, List.length_nil] at enough
  simp only [List.cons_append, List.append_assoc, List.nil_append, readEntries?,
    skipGap_cons (show isGap '"' = false from rfl)]
  rw [stringTail?_flatMap (by omega)]
  simp only [Option.bind_eq_bind, Option.bind_some, skipGap_cons (show isGap ':' = false from rfl)]
  rw [reads (by omega)]
  simp only [Option.bind_some, List.reverse_nil, List.nil_append, String.ofList_toList]
  rfl

/-- The entries of an object that has some are read up to its end. -/
theorem readEntries?_intercalate (filled : entries ≠ []) (back : ∀ entry ∈ entries, entry.2.ReadsBack)
    (enough : ([','].intercalate (entries.map entryChars)).length < bound) :
    readEntries? bound (some before) ([','].intercalate (entries.map entryChars) ++ '\x7d' :: rest) =
      some (.object (before.reverse ++ entries), rest) := by
  induction entries generalizing bound before with
  | nil => contradiction
  | cons entry entries ih =>
      obtain ⟨reads, back⟩ := List.forall_mem_cons.mp back
      obtain ⟨bound, rfl⟩ := Nat.exists_eq_add_of_le' (Nat.one_le_of_lt enough)
      rw [List.map_cons] at enough ⊢
      by_cases last : entries = []
      · subst last
        rw [List.map_nil, List.intercalate_singleton] at enough ⊢
        rw [readEntries?_entry reads (by omega), afterEntry, skipGap_cons rfl]
        simp
      · have more : entries.map entryChars ≠ [] := by simpa using last
        rw [List.intercalate_cons_of_ne_nil more] at enough ⊢
        simp only [List.length_append, List.length_singleton] at enough
        rw [List.append_assoc, List.append_assoc, List.singleton_append, readEntries?_entry reads (by omega),
          afterEntry, skipGap_cons rfl]
        simp only
        rw [ih last back (by omega)]
        simp

theorem readsBack_object (back : ∀ entry ∈ entries, entry.2.ReadsBack) : ReadsBack (.object entries) := by
  intro bound rest enough
  rw [toList_render_object] at enough ⊢
  simp only [List.length_cons, List.length_append, List.length_nil] at enough
  obtain ⟨bound, rfl⟩ := Nat.exists_eq_add_of_le' (Nat.one_le_of_lt enough)
  rw [List.cons_append, List.append_assoc, List.singleton_append, readValue?, skipGap_cons rfl]
  cases entries with
  | nil => rfl
  | cons entry entries =>
      have reads := @readEntries?_intercalate (entry :: entries) [] rest bound (List.cons_ne_nil _ _) back
        (by omega)
      rw [List.map_cons, entryChars, toList_quote, List.cons_append] at reads ⊢
      obtain ⟨chars, begins⟩ := intercalate_head
      rw [begins] at reads ⊢
      simp only [List.cons_append, skipGap_cons (show isGap '"' = false from rfl)] at reads ⊢
      exact reads

theorem Numberless.readsBack (plain : json.Numberless) : json.ReadsBack := by
  induction plain with
  | null => exact readsBack_null
  | bool value => exact readsBack_bool value
  | text value => exact readsBack_text value
  | array all ih => exact readsBack_array all ih
  | object all ih => exact readsBack_object ih

theorem parse?_render (plain : json.Numberless) : parse? json.render = some json := by
  have read := @Numberless.readsBack json plain (2 * json.render.toList.length + 2) [] (by omega)
  rw [List.append_nil] at read
  rw [parse?, read]
  rfl

/-- A text of a value without numbers, in UTF-8, is read as the value. -/
theorem ofBytes?_bytesOf_render (plain : json.Numberless) :
    ofBytes? (Text.Utf8.bytesOf json.render) = some json := by
  rw [ofBytes?, Text.Utf8.bytesOf, Text.Utf8.decode?_encode]
  simp [parse?_render plain]

end Values

end Rollout.Json
