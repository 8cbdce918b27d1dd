import Rollout.Proofs.Text.Numeral
import Rollout.Proofs.Text.Pieces
import Rollout.Quantity

namespace Rollout.Quantity

open Text (Frames Numeral Tight isBlank trim wordLimit)

/-! Capacities and durations, and the texts that denote them.

A capacity is the written amount in the unit that is asked for.  A duration is a numeral, and
possibly a unit behind it with blanks between the two.  Both are read exactly: neither the amount
nor what it comes to in its unit may exceed a 64-bit word.  The ways to write a unit do not overlap,
so a text states one capacity at most.
-/

section Capacities

variable {text : String} {amount capacity : Nat} {unit : CapacityUnit}

def CapacityUnit.inMegabytes : CapacityUnit → Nat → Nat
  | .gigabytes, amount => amount * 1024
  | _, amount => amount

def CapacityUnit.inGigabytes : CapacityUnit → Nat → Nat
  | .megabytes, amount => amount / 1024
  | _, amount => amount

theorem capacity?_lt (read : capacity? text = some (amount, unit)) : amount < Text.wordLimit := by
  obtain ⟨value, number, same⟩ := Option.map_eq_some_iff.mp read
  cases same
  exact (Text.unsigned?_eq_some_iff.mp number).2

theorem toMegabytes?_eq_some_iff (word : amount < Text.wordLimit) :
    toMegabytes? (amount, unit) = some capacity ↔
      capacity = unit.inMegabytes amount ∧ capacity < Text.wordLimit := by
  cases unit with
  | gigabytes =>
      show (if amount * 1024 < Text.wordLimit then some (amount * 1024) else none) = _ ↔ _
      split
      case isTrue fits => simp [CapacityUnit.inMegabytes, eq_comm]; omega
      case isFalse fails => simp [CapacityUnit.inMegabytes]; omega
  | megabytes => simp [toMegabytes?, CapacityUnit.inMegabytes, eq_comm]; omega
  | bare => simp [toMegabytes?, CapacityUnit.inMegabytes, eq_comm]; omega

theorem parseMegabytes_eq_ok_iff :
    parseMegabytes text = .ok capacity ↔ ∃ amount unit, capacity? text = some (amount, unit) ∧
      capacity = unit.inMegabytes amount ∧ capacity < Text.wordLimit := by
  have parsed : parseMegabytes text = .ok capacity ↔
      (capacity? text).bind toMegabytes? = some capacity := by
    unfold parseMegabytes
    split <;> simp [*]
  rw [parsed, Option.bind_eq_some_iff]
  constructor
  · intro ⟨⟨amount, unit⟩, read, counted⟩
    exact ⟨amount, unit, read, (toMegabytes?_eq_some_iff (capacity?_lt read)).mp counted⟩
  · intro ⟨amount, unit, read, counted⟩
    exact ⟨(amount, unit), read, (toMegabytes?_eq_some_iff (capacity?_lt read)).mpr counted⟩

theorem inGigabytes_le (unit : CapacityUnit) (amount : Nat) : unit.inGigabytes amount ≤ amount := by
  cases unit <;> simp [CapacityUnit.inGigabytes, Nat.div_le_self]

theorem parseGigabytes_eq_ok_iff :
    parseGigabytes text = .ok capacity ↔ ∃ amount unit, capacity? text = some (amount, unit) ∧
      capacity = unit.inGigabytes amount ∧ capacity < Text.wordLimit := by
  have parsed : parseGigabytes text = .ok capacity ↔
      (capacity? text).map toGigabytes = some capacity := by
    unfold parseGigabytes
    split <;> simp [*]
  rw [parsed, Option.map_eq_some_iff]
  constructor
  · intro ⟨⟨amount, unit⟩, read, counted⟩
    have same : capacity = unit.inGigabytes amount := by
      rw [← counted]
      cases unit <;> rfl
    have below := capacity?_lt read
    have least := inGigabytes_le unit amount
    exact ⟨amount, unit, read, same, by omega⟩
  · intro ⟨amount, unit, read, same, _⟩
    refine ⟨(amount, unit), read, ?_⟩
    rw [same]
    cases unit <;> rfl

end Capacities

section Durations

/-- The units of a duration, in seconds. -/
def durationUnits : List (Char × Nat) := [('s', 1), ('m', 60), ('h', 3600)]

/-- A duration as it is written, its number and the seconds of its unit. -/
inductive Duration : List Char → Nat → Nat → Prop where
  | bare {number : List Char} {amount : Nat} (numeral : Numeral number amount) :
      Duration number amount 1
  | marked {number gap : List Char} {mark : Char} {amount unit : Nat}
      (numeral : Numeral number amount) (blank : ∀ char ∈ gap, isBlank char = true)
      (known : (mark, unit) ∈ durationUnits) : Duration (number ++ gap ++ [mark]) amount unit

/-- A text lasts some seconds if it is a duration between blanks and all its numbers are words. -/
def Lasts (text : String) (seconds : Nat) : Prop :=
  ∃ written amount unit, Frames text.toList written ∧ Duration written amount unit ∧
    amount < 2 ^ 64 ∧ amount * unit < 2 ^ 64 ∧ seconds = amount * unit

variable {chars front number : List Char} {mark : Char} {amount unit seconds : Nat}

theorem unitSeconds?_eq_some_iff : unitSeconds? mark = some unit ↔ (mark, unit) ∈ durationUnits := by
  unfold unitSeconds?
  split <;> simp_all [durationUnits, eq_comm]

theorem unitSeconds?_of_isDigit (decimal : Text.isDigit mark = true) : unitSeconds? mark = none := by
  unfold unitSeconds?
  split
  case h_4 => rfl
  all_goals cases decimal

theorem fit_eq_some_iff : fit amount = some seconds ↔ amount < wordLimit ∧ seconds = amount := by
  unfold fit
  split <;> simp_all [eq_comm]

section Reading

/-- The seconds that a numeral counts in a unit. -/
def counted (number : List Char) (unit : Nat) : Option Nat :=
  (Text.unsigned? wordLimit number).bind fun amount => fit (amount * unit)

theorem counted_eq_some_iff : counted number unit = some seconds ↔
    ∃ amount, Numeral number amount ∧ amount < wordLimit ∧ amount * unit < wordLimit ∧
      seconds = amount * unit := by
  simp only [counted, Option.bind_eq_some_iff, Text.unsigned?_eq_some_iff, fit_eq_some_iff, and_assoc]

/-- The last character tells where the number ends and what it counts. -/
theorem duration?_concat (front : List Char) (last : Char) :
    duration? (front ++ [last]) = match unitSeconds? last with
      | some unit => counted (trim front) unit
      | none => counted (trim (front ++ [last])) 1 := by
  simp only [duration?, List.getLast?_concat, List.dropLast_concat, Option.bind_eq_bind,
    Option.bind_some]
  cases unitSeconds? last with
  | some unit => rfl
  | none => rfl

/-- In front of a tight text, trimming takes only blanks at its end. -/
theorem trim_before {back : List Char} (tight : Tight (front ++ back)) :
    ∃ gap, front = trim front ++ gap ∧ ∀ char ∈ gap, isBlank char = true := by
  have first : ∀ char ∈ front.head?, isBlank char = false := by
    intro char starts
    apply tight.first
    rw [List.head?_append, starts]
    rfl
  rw [trim, Text.trimLeft_of_first first]
  exact Text.trimRight_split front

theorem trim_numeral (numeral : Numeral number amount) {gap : List Char}
    (blank : ∀ char ∈ gap, isBlank char = true) : trim (number ++ gap) = number :=
  Text.trim_of_frames ⟨⟨[], gap, rfl, nofun, blank⟩, Text.tight_of_solid numeral.solid⟩

/-- What a duration is made of, by its last character. -/
theorem Duration.parts {last : Char} (written : Duration (front ++ [last]) amount unit) :
    unitSeconds? last = some unit ∧ Numeral (trim front) amount ∨
      unitSeconds? last = none ∧ unit = 1 ∧ Numeral (front ++ [last]) amount := by
  generalize whole : front ++ [last] = chars at written
  cases written with
  | bare numeral =>
      obtain ⟨digits, digit, rfl, decimal⟩ := numeral.ends
      obtain ⟨-, same⟩ := List.append_inj' whole rfl
      cases same
      exact .inr ⟨unitSeconds?_of_isDigit decimal, rfl, numeral⟩
  | marked numeral blank known =>
      obtain ⟨rfl, same⟩ := List.append_inj' whole rfl
      cases same
      rw [trim_numeral numeral blank]
      exact .inl ⟨unitSeconds?_eq_some_iff.mpr known, numeral⟩

theorem Duration.ne_nil (written : Duration chars amount unit) : chars ≠ [] := by
  cases written with
  | bare numeral =>
      obtain ⟨front, last, rfl, -⟩ := numeral.ends
      simp
  | marked numeral blank known => simp

/-- A duration has one number and one unit. -/
theorem Duration.unique {other also : Nat} (written : Duration chars amount unit)
    (again : Duration chars other also) : amount = other ∧ unit = also := by
  obtain nothing | ⟨front, last, rfl⟩ := List.eq_nil_or_concat' chars
  · exact absurd nothing written.ne_nil
  obtain ⟨known, numeral⟩ | ⟨none, rfl, numeral⟩ := written.parts
  · obtain ⟨known', numeral'⟩ | ⟨none', -, -⟩ := again.parts
    · exact ⟨numeral.unique numeral', Option.some.inj (known.symm.trans known')⟩
    · cases known.symm.trans none'
  · obtain ⟨known', -⟩ | ⟨-, rfl, numeral'⟩ := again.parts
    · cases none.symm.trans known'
    · exact ⟨numeral.unique numeral', rfl⟩

theorem duration?_eq_some_iff (tight : Tight chars) : duration? chars = some seconds ↔
    ∃ amount unit, Duration chars amount unit ∧ amount < wordLimit ∧ amount * unit < wordLimit ∧
      seconds = amount * unit := by
  obtain rfl | ⟨front, last, rfl⟩ := List.eq_nil_or_concat' chars
  · refine iff_of_false nofun ?_
    rintro ⟨amount, unit, written, -⟩
    exact written.ne_nil rfl
  rw [duration?_concat]
  constructor
  · intro read
    cases known : unitSeconds? last with
    | some unit =>
        rw [known] at read
        obtain ⟨amount, numeral, fits⟩ := counted_eq_some_iff.mp read
        obtain ⟨gap, split, blank⟩ := trim_before tight
        refine ⟨amount, unit, ?_, fits⟩
        rw [split]
        exact .marked numeral blank (unitSeconds?_eq_some_iff.mp known)
    | none =>
        rw [known, Text.trim_of_tight tight] at read
        obtain ⟨amount, numeral, fits⟩ := counted_eq_some_iff.mp read
        exact ⟨amount, 1, .bare numeral, fits⟩
  · rintro ⟨amount, unit, written, fits⟩
    obtain ⟨known, numeral⟩ | ⟨none, rfl, numeral⟩ := written.parts
    · rw [known]
      exact counted_eq_some_iff.mpr ⟨amount, numeral, fits⟩
    · rw [none, Text.trim_of_tight tight]
      exact counted_eq_some_iff.mpr ⟨amount, numeral, fits⟩

end Reading

theorem parseDuration_eq_ok_iff {text : String} : parseDuration text = .ok seconds ↔ Lasts text seconds := by
  have parsed : parseDuration text = .ok seconds ↔ duration? (trim text.toList) = some seconds := by
    unfold parseDuration
    split <;> simp [*]
  rw [parsed, duration?_eq_some_iff (Text.tight_trim text.toList)]
  constructor
  · rintro ⟨amount, unit, written, fits⟩
    exact ⟨_, amount, unit, Text.frames_trim text.toList, written, fits⟩
  · rintro ⟨written, amount, unit, frames, reads, fits⟩
    rw [Text.trim_of_frames frames]
    exact ⟨amount, unit, reads, fits⟩

theorem parseDuration_of_not_lasts {text : String} (never : ∀ seconds, ¬ Lasts text seconds) :
    parseDuration text = .error (.invalidDuration text) := by
  cases parsed : parseDuration text with
  | ok seconds => exact absurd (parseDuration_eq_ok_iff.mp parsed) (never seconds)
  | error cause =>
      unfold parseDuration at parsed
      split at parsed
      · cases parsed
      · exact parsed.symm

/-- Durations are read exactly and never wrap around.

A text is read as some seconds just if it lasts them; every other text is rejected as it was
given.  So is a duration whose number or product exceeds a word, which has no other reading. -/
theorem durations_read_exactly (text : String) :
    (∀ seconds, parseDuration text = .ok seconds ↔ Lasts text seconds) ∧
    ((∀ seconds, ¬ Lasts text seconds) → parseDuration text = .error (.invalidDuration text)) ∧
    ∀ written amount unit, Frames text.toList written → Duration written amount unit →
      (∀ other also, Duration written other also → other = amount ∧ also = unit) ∧
      (2 ^ 64 ≤ amount ∨ 2 ^ 64 ≤ amount * unit →
        parseDuration text = .error (.invalidDuration text)) := by
  refine ⟨fun seconds => parseDuration_eq_ok_iff, parseDuration_of_not_lasts, ?_⟩
  intro written amount unit frames reads
  refine ⟨fun other also again => again.unique reads, fun exceeds => ?_⟩
  apply parseDuration_of_not_lasts
  rintro seconds ⟨core, other, also, frames', again, below, fits, -⟩
  obtain rfl := (Text.trim_of_frames frames').symm.trans (Text.trim_of_frames frames)
  obtain ⟨rfl, rfl⟩ := again.unique reads
  omega

example : parseDuration " +90  m " = .ok 5400 := by decide +kernel

end Durations

section Spellings

/-- The ways in which the unit of a capacity is written, in small letters. -/
def capacityMarks : CapacityUnit → List String
  | .gigabytes => ["g", "gb", "gib"]
  | .megabytes => ["m", "mb", "mib"]
  | .bare => []

/-- A capacity as it is written in small letters, its number and its unit. -/
inductive Capacity : List Char → Nat → CapacityUnit → Prop where
  | bare {number : List Char} {amount : Nat} (numeral : Numeral number amount) :
      Capacity number amount .bare
  | marked {number gap : List Char} {mark : String} {amount : Nat} {unit : CapacityUnit}
      (numeral : Numeral number amount) (blank : ∀ char ∈ gap, isBlank char = true)
      (known : mark ∈ capacityMarks unit) : Capacity (number ++ gap ++ mark.toList) amount unit

/-- A text states a capacity if in small letters it is one between blanks, and its number is a
word. -/
def States (text : String) (amount : Nat) (unit : CapacityUnit) : Prop :=
  ∃ written, Frames (text.toList.map Char.toLower) written ∧ Capacity written amount unit ∧
    amount < 2 ^ 64

variable {text : String} {front lower number : List Char} {mark : String} {amount : Nat}
  {unit : CapacityUnit}

theorem mem_unitNames : (mark, unit) ∈ unitNames ↔ mark ∈ capacityMarks unit := by
  cases unit <;> simp [unitNames, capacityMarks, or_left_comm, or_comm]

/-- No way to write a unit ends another one. -/
theorem unitNames_apart : ∀ named ∈ unitNames, ∀ other ∈ unitNames,
    named.1.toList <:+ other.1.toList → named = other := by
  decide

theorem unitNames_undecimal : ∀ named ∈ unitNames, ∃ front last,
    named.1.toList = front ++ [last] ∧ Text.isDigit last = false := by
  have letters : ∀ named ∈ unitNames, (named.1.toList.getLast?).any (!Text.isDigit ·) = true := by
    decide
  intro named among
  obtain ⟨last, ends, other⟩ := (Option.any_eq_true ..).mp (letters named among)
  obtain ⟨front, spelled⟩ := List.getLast?_eq_some_iff.mp ends
  exact ⟨front, last, spelled, by simpa using other⟩

/-- So it does not matter which one is looked for first. -/
theorem splitUnit_marked (front : List Char) (known : mark ∈ capacityMarks unit) :
    splitUnit (front ++ mark.toList) = (front, unit) := by
  have member : (mark, unit) ∈ unitNames := mem_unitNames.mpr known
  unfold splitUnit
  cases found : unitNames.findSome? _ with
  | none =>
      have absent := List.findSome?_eq_none_iff.mp found _ member
      have present : Text.dropEnd? mark.toList (front ++ mark.toList) = some front :=
        Text.dropEnd?_eq_some_iff.mpr rfl
      simp [present] at absent
  | some hit =>
      obtain ⟨⟨name, other⟩, among, hits⟩ := List.exists_of_findSome?_eq_some found
      obtain ⟨rest, drops, rfl⟩ := Option.map_eq_some_iff.mp hits
      have split := Text.dropEnd?_eq_some_iff.mp drops
      have ends : name.toList <:+ front ++ mark.toList := ⟨rest, split.symm⟩
      have same : (name, other) = (mark, unit) := by
        rcases List.suffix_or_suffix_of_suffix ends (List.suffix_append front mark.toList) with
          first | second
        · exact unitNames_apart _ among _ member first
        · exact (unitNames_apart _ member _ among second).symm
      cases same
      exact congrArg (·, unit) (List.append_cancel_right split).symm

theorem splitUnit_cases (lower : List Char) :
    (∃ front mark unit, mark ∈ capacityMarks unit ∧ lower = front ++ mark.toList ∧
      splitUnit lower = (front, unit)) ∨ splitUnit lower = (lower, .bare) := by
  unfold splitUnit
  cases found : unitNames.findSome? _ with
  | none => exact .inr rfl
  | some hit =>
      obtain ⟨⟨mark, unit⟩, among, hits⟩ := List.exists_of_findSome?_eq_some found
      obtain ⟨front, drops, rfl⟩ := Option.map_eq_some_iff.mp hits
      have known := mem_unitNames.mp among
      have split := Text.dropEnd?_eq_some_iff.mp drops
      exact .inl ⟨front, mark, unit, known, split, rfl⟩

theorem splitUnit_numeral (numeral : Numeral number amount) :
    splitUnit number = (number, .bare) := by
  obtain ⟨front, mark, unit, known, split, -⟩ | bare := splitUnit_cases number
  · obtain ⟨before, digit, ends, decimal⟩ := numeral.ends
    obtain ⟨rest, last, spelled, other⟩ := unitNames_undecimal _ (mem_unitNames.mpr known)
    rw [split, spelled, ← List.append_assoc] at ends
    obtain ⟨-, same⟩ := List.append_inj' ends rfl
    cases same
    cases decimal.symm.trans other
  · exact bare

theorem capacity?_eq (text : String) :
    capacity? text = match splitUnit ((trim text.toList).map Char.toLower) with
      | (number, unit) => (Text.unsigned? wordLimit (trim number)).map (·, unit) := rfl

theorem numbered_eq_some_iff {number : List Char} {named other : CapacityUnit} :
    (Text.unsigned? wordLimit (trim number)).map (·, named) = some (amount, other) ↔
      Numeral (trim number) amount ∧ amount < wordLimit ∧ named = other := by
  simp only [Option.map_eq_some_iff, Prod.mk.injEq, Text.unsigned?_eq_some_iff]
  constructor
  · intro ⟨value, ⟨numeral, below⟩, same, unit⟩
    exact ⟨same ▸ numeral, same ▸ below, unit⟩
  · intro ⟨numeral, below, unit⟩
    exact ⟨amount, ⟨numeral, below⟩, rfl, unit⟩

theorem capacity?_eq_some_iff : capacity? text = some (amount, unit) ↔ States text amount unit := by
  have tight : Tight (trim (text.toList.map Char.toLower)) := Text.tight_trim _
  have frames := Text.frames_trim (text.toList.map Char.toLower)
  rw [capacity?_eq, ← Text.trim_map_toLower]
  constructor
  · intro read
    generalize trim (text.toList.map Char.toLower) = lower at *
    obtain ⟨front, mark, named, known, split, parts⟩ | parts := splitUnit_cases lower
    · rw [parts] at read
      obtain ⟨numeral, below, same⟩ := numbered_eq_some_iff.mp read
      obtain ⟨gap, spaced, blank⟩ := trim_before (split ▸ tight)
      refine ⟨lower, frames, ?_, below⟩
      rw [split, spaced, ← same]
      exact .marked numeral blank known
    · rw [parts] at read
      obtain ⟨numeral, below, same⟩ := numbered_eq_some_iff.mp read
      rw [Text.trim_of_tight tight] at numeral
      exact ⟨lower, frames, same ▸ .bare numeral, below⟩
  · intro ⟨written, framed, spelled, below⟩
    rw [Text.trim_of_frames framed]
    cases spelled with
    | bare numeral =>
        rw [splitUnit_numeral numeral]
        refine numbered_eq_some_iff.mpr ⟨?_, below, rfl⟩
        rwa [Text.trim_of_tight (Text.tight_of_solid numeral.solid)]
    | @marked number gap _ _ _ numeral blank known =>
        rw [splitUnit_marked (number ++ gap) known]
        refine numbered_eq_some_iff.mpr ⟨?_, below, rfl⟩
        rwa [trim_numeral numeral blank]

theorem States.unique {other : Nat} {also : CapacityUnit} (states : States text amount unit)
    (again : States text other also) : amount = other ∧ unit = also := by
  have same := (capacity?_eq_some_iff.mpr states).symm.trans (capacity?_eq_some_iff.mpr again)
  simpa using same

theorem parse_of_states (states : States text amount unit) :
    parseGigabytes text = .ok (unit.inGigabytes amount) ∧
      parseMegabytes text = if unit.inMegabytes amount < wordLimit then .ok (unit.inMegabytes amount)
        else .error (.invalidSize text) := by
  have read : capacity? text = some (amount, unit) := capacity?_eq_some_iff.mpr states
  have below : amount < wordLimit := capacity?_lt read
  unfold parseGigabytes parseMegabytes
  rw [read]
  constructor
  · cases unit <;> rfl
  · cases unit with
    | gigabytes =>
        show (match fit (amount * 1024) with | some amount => _ | none => _) = _
        unfold fit
        by_cases fits : amount * 1024 < wordLimit
        · simp [CapacityUnit.inMegabytes, fits]
        · simp [CapacityUnit.inMegabytes, fits]
    | megabytes => exact (if_pos below).symm
    | bare => exact (if_pos below).symm

theorem parse_of_not_states (never : ∀ amount unit, ¬ States text amount unit) :
    parseGigabytes text = .error (.invalidSize text) ∧
      parseMegabytes text = .error (.invalidSize text) := by
  have unread : capacity? text = none := by
    cases read : capacity? text with
    | none => rfl
    | some parts => exact absurd (capacity?_eq_some_iff.mp read) (never parts.1 parts.2)
  unfold parseGigabytes parseMegabytes
  rw [unread]
  exact ⟨rfl, rfl⟩

theorem capacity?_of_sameLetters {other : String}
    (same : Text.sameLetters (Text.trimmed other) (Text.trimmed text) = true) :
    capacity? other = capacity? text := by
  have lowered : (trim other.toList).map Char.toLower = (trim text.toList).map Char.toLower := by
    simpa [Text.sameLetters, Text.lower, Text.trimmed, String.ofList_inj] using same
  rw [capacity?_eq, capacity?_eq, lowered]

theorem states_or_never (text : String) :
    (∃ amount unit, States text amount unit) ∨ ∀ amount unit, ¬ States text amount unit := by
  by_cases states : ∃ amount unit, States text amount unit
  · exact .inl states
  · exact .inr fun amount unit stated => states ⟨amount, unit, stated⟩

theorem cause_of_rejected {cause : Error}
    (rejected : parseMegabytes text = .error cause ∨ parseGigabytes text = .error cause) :
    cause = .invalidSize text := by
  obtain ⟨amount, unit, states⟩ | never := states_or_never text
  · obtain ⟨gigabytes, megabytes⟩ := parse_of_states states
    rw [gigabytes, megabytes] at rejected
    split at rejected
    · simp at rejected
    · simpa [eq_comm] using rejected
  · obtain ⟨gigabytes, megabytes⟩ := parse_of_not_states never
    rw [gigabytes, megabytes] at rejected
    simpa [eq_comm] using rejected

theorem parseGigabytes_rejects_iff :
    parseGigabytes text = .error (.invalidSize text) ↔ ∀ amount unit, ¬ States text amount unit := by
  constructor
  · intro rejected amount unit states
    rw [(parse_of_states states).1] at rejected
    cases rejected
  · intro never
    exact (parse_of_not_states never).1

/-- Only megabytes that come from gigabytes can exceed a word. -/
theorem exceeds_iff (states : States text amount unit) :
    ¬ unit.inMegabytes amount < wordLimit ↔ unit = .gigabytes ∧ 2 ^ 54 ≤ amount := by
  obtain ⟨_, _, _, below⟩ := states
  have word : wordLimit = 2 ^ 64 := rfl
  rw [word]
  cases unit with
  | gigabytes => simp only [CapacityUnit.inMegabytes, true_and]; omega
  | megabytes => simpa [CapacityUnit.inMegabytes] using below
  | bare => simpa [CapacityUnit.inMegabytes] using below

theorem parseMegabytes_rejects_iff :
    parseMegabytes text = .error (.invalidSize text) ↔
      (∀ amount unit, ¬ States text amount unit) ∨
        ∃ amount, States text amount .gigabytes ∧ 2 ^ 54 ≤ amount := by
  constructor
  · intro rejected
    obtain ⟨amount, unit, states⟩ | never := states_or_never text
    · rw [(parse_of_states states).2] at rejected
      split at rejected
      · cases rejected
      · rename_i exceeds
        obtain ⟨rfl, many⟩ := (exceeds_iff states).mp exceeds
        exact .inr ⟨amount, states, many⟩
    · exact .inl never
  · intro either
    obtain never | ⟨amount, states, many⟩ := either
    · exact (parse_of_not_states never).2
    · rw [(parse_of_states states).2, if_neg ((exceeds_iff states).mpr ⟨rfl, many⟩)]

/-- Capacities in megabytes and in gigabytes agree.

A text is rejected in both unless it states a capacity, as it was given; in megabytes it is also
rejected if it states gigabytes whose megabytes exceed a word.  Otherwise a text with a unit comes
to gigabytes that are its megabytes divided by 1024 and rounded down, and a bare number is the same
in both.  Capitals and blanks around the text make no difference. -/
theorem capacities_agree (text : String) :
    (∀ cause, parseMegabytes text = .error cause ∨ parseGigabytes text = .error cause →
      cause = .invalidSize text) ∧
    (parseGigabytes text = .error (.invalidSize text) ↔ ∀ amount unit, ¬ States text amount unit) ∧
    (parseMegabytes text = .error (.invalidSize text) ↔
      parseGigabytes text = .error (.invalidSize text) ∨
        ∃ amount, States text amount .gigabytes ∧ 2 ^ 54 ≤ amount) ∧
    (∀ amount unit, States text amount unit →
      (∀ other also, States text other also → other = amount ∧ also = unit) ∧
      parseGigabytes text = .ok (unit.inGigabytes amount) ∧
      ∀ megabytes, parseMegabytes text = .ok megabytes → megabytes = unit.inMegabytes amount ∧
        (unit ≠ .bare → parseGigabytes text = .ok (megabytes / 1024))) ∧
    (∀ amount, States text amount .bare →
      parseMegabytes text = .ok amount ∧ parseGigabytes text = .ok amount) ∧
    ∀ other, Text.sameLetters (Text.trimmed other) (Text.trimmed text) = true →
      (parseMegabytes other).toOption = (parseMegabytes text).toOption ∧
        (parseGigabytes other).toOption = (parseGigabytes text).toOption := by
  refine ⟨fun cause => cause_of_rejected, parseGigabytes_rejects_iff, ?_, ?_, ?_, ?_⟩
  · rw [parseGigabytes_rejects_iff]
    exact parseMegabytes_rejects_iff
  · intro amount unit states
    obtain ⟨gigabytes, megabytes⟩ := parse_of_states states
    refine ⟨fun other also again => again.unique states, gigabytes, fun found accepted => ?_⟩
    rw [megabytes] at accepted
    split at accepted
    · cases accepted
      refine ⟨rfl, fun marked => ?_⟩
      rw [gigabytes]
      cases unit with
      | gigabytes => simp [CapacityUnit.inGigabytes, CapacityUnit.inMegabytes]
      | megabytes => rfl
      | bare => exact absurd rfl marked
    · cases accepted
  · intro amount states
    obtain ⟨gigabytes, megabytes⟩ := parse_of_states states
    have fits : amount < wordLimit := by
      apply Decidable.of_not_not
      intro exceeds
      cases ((exceeds_iff states).mp exceeds).1
    exact ⟨megabytes.trans (if_pos fits), gigabytes⟩
  · intro other same
    have read := capacity?_of_sameLetters same
    constructor
    · unfold parseMegabytes
      rw [read]
      cases (capacity? text).bind toMegabytes? <;> rfl
    · unfold parseGigabytes
      rw [read]
      cases (capacity? text).map toGigabytes <;> rfl

example : parseMegabytes " 25 GiB" = .ok 25600 ∧ parseGigabytes "25 gib" = .ok 25 := by
  decide +kernel

end Spellings
end Rollout.Quantity
