import Mathlib.Data.List.Basic
import Rollout.Template.Render

namespace Rollout.Template

/-! What rendering makes of a text.

A text reads in one way as characters that are kept and known placeholders that are replaced:
every known placeholder, wherever it is written, is one of its pieces.  Rendering puts the
value in the place of each such piece, and readings of two texts make a reading of both
together unless a known placeholder is cut in two.
-/

variable {values : Variables}

section Readings

/-- A key that can be written between braces and has a value. -/
structure Known (values : Variables) (key : List Char) (value : String) : Prop where
  unopened : '{' ∉ key
  unclosed : '}' ∉ key
  valued : values[String.ofList key]? = some value

inductive Piece where
  | kept (char : Char)
  | replaced (key : List Char) (value : String)
deriving DecidableEq

def Piece.written : Piece → List Char
  | .kept char => [char]
  | .replaced key _ => '{' :: key ++ ['}']

def Piece.rendered : Piece → List Char
  | .kept char => [char]
  | .replaced _ value => value.toList

/-- A text is made of pieces, and each place where a known placeholder is written is a piece. -/
structure Reads (values : Variables) (chars : List Char) (pieces : List Piece) : Prop where
  written : pieces.flatMap Piece.written = chars
  known : ∀ key value, .replaced key value ∈ pieces → Known values key value
  found : ∀ before key value after, Known values key value →
    chars = before ++ '{' :: key ++ '}' :: after →
    ∃ front back, pieces = front ++ .replaced key value :: back ∧
      front.flatMap Piece.written = before ∧ back.flatMap Piece.written = after

/-- A known placeholder begins in one text and ends in the next. -/
def Spans (values : Variables) (first second : List Char) : Prop :=
  ∃ before front back after value, first = before ++ '{' :: front ∧ second = back ++ '}' :: after ∧
    Known values (front ++ back) value

variable {chars first second : List Char} {pieces others front back : List Piece}

/-- A text without known placeholders is kept. -/
theorem reads_kept
    (none : ∀ before key value after, Known values key value →
      chars ≠ before ++ '{' :: key ++ '}' :: after) :
    Reads values chars (chars.map .kept) where
  written := by rw [List.flatMap_map]; exact List.flatMap_singleton' chars
  known key value member := by simp at member
  found before key value after known split := absurd split (none before key value after known)

/-- Between two braces with no other between them there is one placeholder. -/
theorem placeholder_inj {before after key other : List Char} (opened : '{' ∉ key) (closed : '}' ∉ key)
    (same : '{' :: key ++ ['}'] = before ++ '{' :: other ++ '}' :: after) :
    before = [] ∧ key = other ∧ after = [] := by
  rw [List.append_assoc] at same
  cases before with
  | nil =>
      have rest : key ++ '}' :: [] = other ++ '}' :: after := (List.cons.inj same).2
      obtain ⟨keys, -, ends⟩ := (List.append_cons_inj_of_notMem closed List.not_mem_nil).mp rest
      exact ⟨rfl, keys, ends.symm⟩
  | cons brace before =>
      have rest : key ++ ['}'] = before ++ ('{' :: other ++ '}' :: after) := (List.cons.inj same).2
      have inside : '{' ∈ key ++ ['}'] := by
        rw [rest]
        simp
      exact absurd inside (by simpa using opened)

/-- A known placeholder is read as one piece. -/
theorem reads_replaced {key : List Char} {value : String} (known : Known values key value) :
    Reads values ('{' :: key ++ ['}']) [.replaced key value] where
  written := List.append_nil _
  known other value' member := by
    obtain ⟨rfl, rfl⟩ := Piece.replaced.inj (List.mem_singleton.mp member)
    exact known
  found before other value' after known' split := by
    obtain ⟨rfl, rfl, rfl⟩ := placeholder_inj known.unopened known.unclosed split
    have values : value = value' := Option.some.inj (known.valued.symm.trans known'.valued)
    exact ⟨[], [], by rw [values]; rfl, rfl, rfl⟩

theorem reads_unknown {key : List Char} (opened : '{' ∉ key) (closed : '}' ∉ key)
    (unknown : values[String.ofList key]? = none) :
    Reads values ('{' :: key ++ ['}']) (('{' :: key ++ ['}']).map .kept) := by
  apply reads_kept
  intro before other value after known split
  obtain ⟨-, rfl, -⟩ := placeholder_inj opened closed split
  have valued := known.valued
  rw [unknown] at valued
  cases valued

/-- Where a placeholder is written in two texts: in the first, in the second, or across. -/
theorem placeholder_cases {before key after : List Char}
    (split : first ++ second = before ++ '{' :: key ++ '}' :: after) :
    (∃ rest, first = before ++ '{' :: key ++ '}' :: rest ∧ after = rest ++ second) ∨
      (∃ rest, before = first ++ rest ∧ second = rest ++ '{' :: key ++ '}' :: after) ∨
      ∃ front back, key = front ++ back ∧ first = before ++ '{' :: front ∧
        second = back ++ '}' :: after := by
  rw [List.append_assoc] at split
  rcases List.append_eq_append_iff.mp split with ⟨rest, rfl, later⟩ | ⟨rest, rfl, later⟩
  · exact .inr (.inl ⟨rest, rfl, by rw [later, List.append_assoc]⟩)
  · cases rest with
    | nil => exact .inr (.inl ⟨[], by simp, by simpa using later.symm⟩)
    | cons brace rest =>
        obtain ⟨rfl, inner⟩ := List.cons.inj later
        have inner : key ++ '}' :: after = rest ++ second := inner
        rcases List.append_eq_append_iff.mp inner with ⟨rest', rfl, ends⟩ | ⟨rest', rfl, ends⟩
        · cases rest' with
          | nil => exact .inr (.inr ⟨key, [], by simp, by simp, by simpa using ends.symm⟩)
          | cons close rest' =>
              obtain ⟨rfl, remains⟩ := List.cons.inj ends
              exact .inl ⟨rest', by simp, remains⟩
        · exact .inr (.inr ⟨rest, rest', rfl, rfl, ends⟩)

/-- Readings of two texts make one of both together. -/
theorem Reads.append (begins : Reads values first front) (ends : Reads values second back)
    (apart : ¬ Spans values first second) : Reads values (first ++ second) (front ++ back) where
  written := by rw [List.flatMap_append, begins.written, ends.written]
  known key value member := by
    rcases List.mem_append.mp member with member | member
    · exact begins.known key value member
    · exact ends.known key value member
  found before key value after known split := by
    rcases placeholder_cases split with ⟨rest, starts, rfl⟩ | ⟨rest, rfl, stops⟩ |
      ⟨opening, closing, rfl, starts, stops⟩
    · obtain ⟨earlier, later, rfl, written, remains⟩ := begins.found before key value rest known starts
      refine ⟨earlier, later ++ back, by simp, written, ?_⟩
      rw [List.flatMap_append, remains, ends.written]
    · obtain ⟨earlier, later, rfl, written, remains⟩ := ends.found rest key value after known stops
      refine ⟨front ++ earlier, later, by simp, ?_, remains⟩
      rw [List.flatMap_append, begins.written, written]
    · exact absurd ⟨before, opening, closing, after, value, starts, stops, known⟩ apart

theorem written_ne_nil (piece : Piece) : piece.written ≠ [] := by
  cases piece <;> exact List.cons_ne_nil _ _

/-- Without its first piece a reading is one of the rest. -/
theorem Reads.tail {piece : Piece} (reads : Reads values chars (piece :: pieces)) :
    Reads values (pieces.flatMap Piece.written) pieces where
  written := rfl
  known key value member := reads.known key value (List.mem_cons_of_mem _ member)
  found before key value after known split := by
    have whole : chars = (piece.written ++ before) ++ '{' :: key ++ '}' :: after := by
      rw [← reads.written, List.flatMap_cons, split]
      simp
    obtain ⟨earlier, later, pieces', written, remains⟩ :=
      reads.found (piece.written ++ before) key value after known whole
    cases earlier with
    | nil => exact absurd (List.append_eq_nil_iff.mp written.symm).1 (written_ne_nil piece)
    | cons first earlier =>
        obtain ⟨rfl, rfl⟩ := List.cons.inj pieces'
        exact ⟨earlier, later, rfl, List.append_cancel_left written, remains⟩

/-- A placeholder that stands first is the first piece of any reading. -/
theorem Reads.head_of_replaced {key : List Char} {value : String}
    (reads : Reads values chars (.replaced key value :: pieces)) (other : Reads values chars others) :
    ∃ rest, others = .replaced key value :: rest := by
  have known := reads.known key value List.mem_cons_self
  have split : chars = [] ++ '{' :: key ++ '}' :: pieces.flatMap Piece.written := by
    rw [← reads.written, List.flatMap_cons]
    simp [Piece.written]
  obtain ⟨earlier, later, rfl, written, -⟩ := other.found [] key value _ known split
  cases earlier with
  | nil => exact ⟨later, rfl⟩
  | cons first earlier => exact absurd (List.append_eq_nil_iff.mp written).1 (written_ne_nil first)

/-- A text reads in one way. -/
theorem Reads.unique (reads : Reads values chars pieces) (other : Reads values chars others) :
    others = pieces := by
  induction pieces generalizing chars others with
  | nil =>
      have empty := other.written.trans reads.written.symm
      cases others with
      | nil => rfl
      | cons piece others =>
          exact absurd (List.append_eq_nil_iff.mp empty).1 (written_ne_nil piece)
  | cons piece pieces ih =>
      have same : ∃ rest, others = piece :: rest := by
        cases piece with
        | replaced key value => exact reads.head_of_replaced other
        | kept char =>
            cases others with
            | nil =>
                have empty := reads.written.trans other.written.symm
                cases empty
            | cons first rest =>
                cases first with
                | replaced key value =>
                    obtain ⟨rest', impossible⟩ := other.head_of_replaced reads
                    cases impossible
                | kept char' =>
                    have written := reads.written.trans other.written.symm
                    obtain ⟨rfl, -⟩ := List.cons.inj written
                    exact ⟨rest, rfl⟩
      obtain ⟨rest, rfl⟩ := same
      have remains : rest.flatMap Piece.written = pieces.flatMap Piece.written := by
        have written := other.written.trans reads.written.symm
        exact List.append_cancel_left written
      have tail := other.tail
      rw [remains] at tail
      rw [ih reads.tail tail]

end Readings

section Scanning

/-- What a closing brace makes of the key before it. -/
def closing (values : Variables) (key : List Char) : List Piece :=
  match values[String.ofList key]? with
  | some value => [.replaced key value]
  | none => ('{' :: key ++ ['}']).map .kept

/-- The pieces of the characters that follow an opening brace and a possible key. -/
def scan (values : Variables) : Option (List Char) → List Char → List Piece
  | reading, [] => (unread reading).map .kept
  | reading, '{' :: chars => (unread reading).map .kept ++ scan values (some []) chars
  | some reversed, '}' :: chars => closing values reversed.reverse ++ scan values none chars
  | some reversed, char :: chars => scan values (some (char :: reversed)) chars
  | none, char :: chars => .kept char :: scan values none chars

theorem rendered_kept (chars : List Char) : (chars.map Piece.kept).flatMap Piece.rendered = chars := by
  rw [List.flatMap_map]
  exact List.flatMap_singleton' chars

theorem rendered_closing (values : Variables) (key : List Char) :
    (closing values key).flatMap Piece.rendered = placeholder values key := by
  unfold closing placeholder
  cases values[String.ofList key]? with
  | some value => exact List.append_nil _
  | none => exact rendered_kept _

theorem rendered_scan (values : Variables) (reading : Option (List Char)) (chars : List Char) :
    (scan values reading chars).flatMap Piece.rendered = renderFrom values reading chars := by
  fun_induction renderFrom values reading chars with
  | case1 reading => rw [scan, rendered_kept]
  | case2 reading chars ih => rw [scan, List.flatMap_append, rendered_kept, ih]
  | case3 chars reversed ih => rw [scan, List.flatMap_append, rendered_closing, ih]
  | case4 reversed char chars unopened unclosed ih => rw [scan, ih] <;> assumption
  | case5 char chars unopened ih => rw [scan, List.flatMap_cons, ih] <;> first | rfl | assumption

/-- The characters of a possible key hold no brace. -/
def Bare (reading : Option (List Char)) : Prop :=
  ∀ reversed ∈ reading, '{' ∉ reversed ∧ '}' ∉ reversed

theorem reads_unread {reading : Option (List Char)} (bare : Bare reading) :
    Reads values (unread reading) ((unread reading).map .kept) := by
  apply reads_kept
  intro before key value after known split
  have closed : '}' ∈ unread reading := by
    rw [split]
    simp
  cases reading with
  | none => cases closed
  | some reversed =>
      obtain ⟨-, unclosed⟩ := bare reversed rfl
      simp [unread, unclosed] at closed

theorem reads_closing {key : List Char} (opened : '{' ∉ key) (closed : '}' ∉ key) :
    Reads values ('{' :: key ++ ['}']) (closing values key) := by
  unfold closing
  cases valued : values[String.ofList key]? with
  | some value => exact reads_replaced ⟨opened, closed, valued⟩
  | none => exact reads_unknown opened closed valued

/-- Before an opening brace no placeholder is open any more. -/
theorem not_spans_opening (first chars : List Char) : ¬ Spans values first ('{' :: chars) := by
  rintro ⟨before, front, back, after, value, -, stops, known⟩
  cases back with
  | nil => cases stops
  | cons brace back =>
      obtain ⟨rfl, -⟩ := List.cons.inj stops
      exact known.unopened (by simp)

theorem not_spans_closed (chars second : List Char) : ¬ Spans values (chars ++ ['}']) second := by
  rintro ⟨before, front, back, after, value, starts, -, known⟩
  have inside : '}' ∈ '{' :: front := by
    have last := congrArg List.getLast? starts
    rw [List.getLast?_concat, List.getLast?_append_cons] at last
    exact List.mem_of_getLast? last.symm
  have closed : '}' ∈ front := by simpa using inside
  exact known.unclosed (List.mem_append_left back closed)

theorem not_spans_plain {char : Char} (plain : char ≠ '{') (second : List Char) :
    ¬ Spans values [char] second := by
  rintro ⟨before, front, back, after, value, starts, -, -⟩
  have inside : '{' ∈ [char] := by
    rw [starts]
    simp
  exact plain (List.mem_singleton.mp inside).symm

/-- What the scanner finds is a reading: the induction goes along the scanner, which in each
case cuts the text where no placeholder can be cut. -/
theorem reads_scan (reading : Option (List Char)) (chars : List Char) (bare : Bare reading) :
    Reads values (unread reading ++ chars) (scan values reading chars) := by
  fun_induction scan values reading chars with
  | case1 reading =>
      rw [List.append_nil]
      exact reads_unread bare
  | case2 reading chars ih =>
      have rest : Reads values ('{' :: chars) (scan values (some []) chars) :=
        ih fun reversed member => by
          obtain rfl := Option.some.inj member
          simp
      exact (reads_unread bare).append rest (not_spans_opening _ chars)
  | case3 reversed chars ih =>
      obtain ⟨opened, closed⟩ := bare reversed rfl
      have key : Reads values ('{' :: reversed.reverse ++ ['}']) (closing values reversed.reverse) :=
        reads_closing (by simpa using opened) (by simpa using closed)
      have rest : Reads values chars (scan values none chars) := ih nofun
      have whole : unread (some reversed) ++ '}' :: chars = ('{' :: reversed.reverse ++ ['}']) ++ chars := by
        simp [unread]
      rw [whole]
      exact key.append rest (not_spans_closed ('{' :: reversed.reverse) chars)
  | case4 reversed char chars unopened unclosed ih =>
      obtain ⟨opened, closed⟩ := bare reversed rfl
      have longer : Bare (some (char :: reversed)) := by
        intro key member
        obtain rfl := Option.some.inj member
        exact ⟨by simpa [opened] using fun same => unopened same.symm,
          by simpa [closed] using fun same => unclosed same.symm⟩
      have whole : unread (some reversed) ++ char :: chars =
          unread (some (char :: reversed)) ++ chars := by
        simp [unread]
      rw [whole]
      exact ih longer
  | case5 char chars unopened ih =>
      have plain : char ≠ '{' := unopened
      have single : Reads values [char] ([char].map .kept) := by
        apply reads_kept
        intro before key value after known split
        have inside : '{' ∈ [char] := by
          rw [split]
          simp
        exact plain (List.mem_singleton.mp inside).symm
      exact single.append (ih nofun) (not_spans_plain plain chars)

theorem reads_text (values : Variables) (chars : List Char) : Reads values chars (scan values none chars) :=
  reads_scan none chars nofun

/-- Rendering goes by the pieces of a text. -/
theorem render_of_reads {text : String} (reads : Reads values text.toList pieces) :
    render values text = String.ofList (pieces.flatMap Piece.rendered) := by
  rw [render, ← rendered_scan, reads.unique (reads_text values text.toList)]

/-- Without known placeholders every piece is kept. -/
theorem Reads.rendered_of_unknown (reads : Reads values chars pieces)
    (unknown : ∀ before key value after, Known values key value →
      chars ≠ before ++ '{' :: key ++ '}' :: after) :
    pieces.flatMap Piece.rendered = chars := by
  rw [(reads_kept unknown).unique reads, rendered_kept]

/-- No known placeholder is written in a text. -/
def Unmarked (values : Variables) (text : String) : Prop :=
  ∀ before key value after, Known values key value → text.toList ≠ before ++ '{' :: key ++ '}' :: after

theorem unmarked_of_unopened {text : String} (unopened : '{' ∉ text.toList) : Unmarked values text := by
  intro before key value after known split
  apply unopened
  rw [split]
  simp

theorem render_of_unmarked {text : String} (unmarked : Unmarked values text) : render values text = text := by
  have reads := reads_text values text.toList
  rw [render_of_reads reads, reads.rendered_of_unknown unmarked, String.ofList_toList]

/-- The value of a known placeholder is copied between what the rest is rendered to. -/
theorem render_replaced {key value : String} (known : Known values key.toList value)
    (before after : String) :
    render values (before ++ "\x7b" ++ key ++ "\x7d" ++ after) =
      render values before ++ value ++ render values after := by
  have start := reads_text values before.toList
  have rest := reads_text values after.toList
  have later := (reads_replaced known).append rest (not_spans_closed ('{' :: key.toList) _)
  have reads := start.append later (not_spans_opening _ _)
  have whole : (before ++ "\x7b" ++ key ++ "\x7d" ++ after).toList =
      before.toList ++ (('{' :: key.toList ++ ['}']) ++ after.toList) := by
    simp
  rw [← whole] at reads
  rw [render_of_reads reads, render_of_reads start, render_of_reads rest]
  simp [Piece.rendered, String.ofList_append, String.append_assoc]

end Scanning

/-- Rendering replaces the known placeholders of a text, all at once, and keeps everything else.

Every text reads in exactly one way, and rendering puts together what its pieces are rendered
to, so a value is copied as it is and not searched again.  A text in which no known placeholder
is written stays as it is, and texts can be rendered one by one unless a known placeholder is
cut in two. -/
theorem render_substitutes (values : Variables) :
    (∀ text, ∃ pieces, Reads values text.toList pieces ∧
      (∀ others, Reads values text.toList others → others = pieces) ∧
      render values text = String.ofList (pieces.flatMap Piece.rendered)) ∧
    (∀ before key value after, Known values key.toList value →
      render values (before ++ "\x7b" ++ key ++ "\x7d" ++ after) =
        render values before ++ value ++ render values after) ∧
    (∀ text, (∀ before key value after, Known values key value →
        text.toList ≠ before ++ '{' :: key ++ '}' :: after) →
      render values text = text) ∧
    ∀ first second, ¬ Spans values first.toList second.toList →
      render values (first ++ second) = render values first ++ render values second := by
  refine ⟨?_, ?_, ?_, ?_⟩
  · intro text
    have reads := reads_text values text.toList
    exact ⟨_, reads, fun others other => reads.unique other, render_of_reads reads⟩
  · intro before key value after known
    exact render_replaced known before after
  · intro text unknown
    exact render_of_unmarked unknown
  · intro first second apart
    have front := reads_text values first.toList
    have back := reads_text values second.toList
    have both : Reads values (first ++ second).toList _ :=
      String.toList_append ▸ front.append back apart
    rw [render_of_reads both, render_of_reads front, render_of_reads back, List.flatMap_append,
      String.ofList_append]

end Rollout.Template
