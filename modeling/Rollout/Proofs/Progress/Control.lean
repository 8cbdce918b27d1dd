import Rollout.Proofs.Progress.Framing

namespace Rollout.Progress

/-! Lines for people and lines with control information, as a reader can tell them apart.

A line with control information is one line on the wire and starts with its marker.  A
line for people is sent as it is, so it passes for control information as soon as a line
of it starts with a marker; nothing else does.
-/

def Line.isControl : Line → Bool
  | .plain _ => false
  | .sessionStarted _ | .terminalOutput _ | .sessionEnded _ | .done | .failed _ => true

def Line.session? : Line → Option String
  | .sessionStarted id | .sessionEnded id => some id
  | .plain _ | .terminalOutput _ | .done | .failed _ => none

/-- What is handed to a stream: a line of progress, or a line against silence. -/
inductive Handover where
  | progress (line : Line)
  | keepAlive

def Handover.text : Handover → String
  | .progress line => line.text
  | .keepAlive => Stream.keepAliveLine

def Handover.line? : Handover → Option Line
  | .progress line => some line
  | .keepAlive => none

/-- The lines on the wire that pass for control information and carry none. -/
def Line.forged : Line → List (List Char)
  | .plain text => (wholeLines text.toList).filter isMarked
  | .sessionStarted _ | .terminalOutput _ | .sessionEnded _ | .done | .failed _ => []

section Texts

theorem not_mem_letter (sextet : Nat) : Text.Base64.letter sextet ≠ '\n' := by
  by_cases last : sextet < 62
  · have all : ∀ small < 62, Text.Base64.letter small ≠ '\n' := by decide
    exact all sextet last
  · by_cases plus : sextet = 62
    · rw [plus]
      decide
    · have slash : Text.Base64.letter sextet = '/' := by
        rw [Text.Base64.letter, if_neg (by omega), if_neg (by omega), if_neg (by omega), if_neg plus]
      rw [slash]
      decide

theorem not_mem_base64 (bytes : List UInt8) : '\n' ∉ Text.Base64.encode bytes := by
  induction bytes using Text.Base64.encode.induct with
  | case1 => simp [Text.Base64.encode]
  | case2 a => simp [Text.Base64.encode, (not_mem_letter _).symm]
  | case3 a b => simp [Text.Base64.encode, (not_mem_letter _).symm]
  | case4 a b c rest ih => simp [Text.Base64.encode, (not_mem_letter _).symm, ih]

theorem trim_subset (chars : List Char) : Text.trim chars ⊆ chars := by
  intro char member
  have kept := List.mem_reverse.mp member
  have inside := List.mem_reverse.mp (List.dropWhile_subset _ kept)
  exact List.dropWhile_subset _ inside

theorem not_mem_folded (message : List Char) : '\n' ∉ folded message := by
  apply Text.not_mem_intercalate (by decide)
  intro piece member
  obtain ⟨line, among, rfl⟩ := List.mem_map.mp (List.mem_filter.mp member).1
  exact fun feed => Text.not_mem_of_mem_lines line among (trim_subset line feed)

end Texts

section Wire

variable {line : Line}

theorem toList_spaced (marker rest : String) :
    s!"{marker} {rest}".toList = marker.toList ++ ' ' :: rest.toList := by
  show (marker ++ " " ++ rest).toList = _
  simp

/-- A control line is a marker and text without line breaks. -/
theorem text_of_isControl (control : line.isControl = true) :
    ∃ marker ∈ markers, ∃ rest, line.text.toList = marker.toList ++ rest ∧
      ((∀ id ∈ line.session?, '\n' ∉ id.toList) → '\n' ∉ rest) := by
  cases line with
  | plain text => cases control
  | sessionStarted id =>
      refine ⟨sessionMarker, by simp [markers], _, toList_spaced sessionMarker id, fun named => ?_⟩
      simpa using named id rfl
  | terminalOutput bytes =>
      refine ⟨outputMarker, by simp [markers], _, toList_spaced outputMarker _, fun _ => ?_⟩
      simpa using not_mem_base64 bytes
  | sessionEnded id =>
      refine ⟨endMarker, by simp [markers], _, toList_spaced endMarker id, fun named => ?_⟩
      simpa using named id rfl
  | done => exact ⟨doneMarker, by simp [markers], [], by simp [Line.text], fun _ => List.not_mem_nil⟩
  | failed message =>
      refine ⟨failureMarker, by simp [markers], _, toList_spaced failureMarker _, fun _ => ?_⟩
      simpa using not_mem_folded message.toList

theorem isMarked_text (control : line.isControl = true) : isMarked line.text.toList = true := by
  obtain ⟨marker, known, rest, starts, -⟩ := text_of_isControl control
  refine List.any_eq_true.mpr ⟨marker, known, ?_⟩
  rw [starts]
  exact List.isPrefixOf_iff_prefix.mpr (List.prefix_append _ _)

theorem wholeLines_text (control : line.isControl = true)
    (named : ∀ id ∈ line.session?, '\n' ∉ id.toList) :
    wholeLines line.text.toList = [line.text.toList] := by
  obtain ⟨marker, known, rest, starts, single⟩ := text_of_isControl control
  have clean : ∀ marker ∈ markers, '\n' ∉ marker.toList := by decide
  apply wholeLines_of_not_mem
  rw [starts, List.mem_append]
  exact not_or.mpr ⟨clean marker known, single named⟩

theorem marked_text (named : ∀ id ∈ line.session?, '\n' ∉ id.toList) :
    (wholeLines line.text.toList).filter isMarked =
      (if line.isControl then [line.text.toList] else []) ++ line.forged := by
  cases control : line.isControl with
  | true =>
      have none : line.forged = [] := by
        cases line <;> first | rfl | cases control
      rw [wholeLines_text control named, none]
      simp [isMarked_text control]
  | false =>
      cases line with
      | plain text => rfl
      | sessionStarted id => cases control
      | terminalOutput bytes => cases control
      | sessionEnded id => cases control
      | done => cases control
      | failed message => cases control

end Wire

section Streams

variable {handovers : List Handover} {lines : List Line}

theorem filter_handovers {wanted : List Char → Bool}
    (silent : (wholeLines Stream.keepAliveLine.toList).filter wanted = [])
    (handed : handovers.filterMap Handover.line? = lines) :
    (handovers.flatMap fun handover => wholeLines handover.text.toList).filter wanted =
      lines.flatMap fun line => (wholeLines line.text.toList).filter wanted := by
  induction handovers generalizing lines with
  | nil =>
      subst handed
      rfl
  | cons handover rest ih =>
      rw [List.flatMap_cons, List.filter_append]
      cases handover with
      | keepAlive =>
          rw [Handover.text, silent, List.nil_append]
          exact ih handed
      | progress line =>
          subst handed
          rw [ih rfl]
          rfl

theorem marked_handovers (handed : handovers.filterMap Handover.line? = lines)
    (named : ∀ line ∈ lines, ∀ id ∈ line.session?, '\n' ∉ id.toList) :
    (handovers.flatMap fun handover => wholeLines handover.text.toList).filter isMarked =
      lines.flatMap fun line =>
        (if line.isControl then [line.text.toList] else []) ++ line.forged := by
  rw [filter_handovers (by decide) handed, List.flatMap_def, List.flatMap_def]
  apply congrArg List.flatten
  apply List.map_congr_left
  intro line member
  exact marked_text (named line member)

theorem length_control_forged (lines : List Line) :
    (lines.flatMap fun line => (if line.isControl then [line.text.toList] else []) ++ line.forged).length =
      ((lines.filter Line.isControl).map (·.text.toList)).length + (lines.flatMap Line.forged).length := by
  induction lines with
  | nil => rfl
  | cons line rest ih =>
      rw [List.flatMap_cons, List.flatMap_cons, List.length_append, List.length_append,
        List.length_append, ih]
      cases control : line.isControl with
      | true =>
          rw [List.filter_cons_of_pos control, List.map_cons, List.length_cons, if_pos rfl]
          simp only [List.length_singleton]
          omega
      | false =>
          rw [List.filter_cons_of_neg (by simp [control]), if_neg (by simp)]
          simp only [List.length_nil]
          omega

theorem flatMap_of_honest (honest : ∀ line ∈ lines, line.forged = []) :
    (lines.flatMap fun line => (if line.isControl then [line.text.toList] else []) ++ line.forged) =
      (lines.filter Line.isControl).map (·.text.toList) := by
  induction lines with
  | nil => rfl
  | cons line rest ih =>
      obtain ⟨first, later⟩ := List.forall_mem_cons.mp honest
      rw [List.flatMap_cons, first, List.append_nil, ih later]
      cases control : line.isControl with
      | true => rw [List.filter_cons_of_pos control]; rfl
      | false => rw [List.filter_cons_of_neg (by simp [control])]; rfl

/-- A reader is right about all control information exactly if no line is forged. -/
theorem marked_eq_control_iff (handed : handovers.filterMap Handover.line? = lines)
    (named : ∀ line ∈ lines, ∀ id ∈ line.session?, '\n' ∉ id.toList) :
    (handovers.flatMap fun handover => wholeLines handover.text.toList).filter isMarked =
        (lines.filter Line.isControl).map (·.text.toList) ↔
      ∀ line ∈ lines, line.forged = [] := by
  rw [marked_handovers handed named]
  constructor
  · intro right
    -- What is forged stands among the control lines, so only its length is looked at.
    have lengths := length_control_forged lines
    rw [right] at lengths
    have none : lines.flatMap Line.forged = [] := List.eq_nil_of_length_eq_zero (by omega)
    exact List.flatMap_eq_nil_iff.mp none
  · exact flatMap_of_honest

/-- The last line is the last apart from lines against silence. -/
theorem last_of_handovers {before : List Line} {last : Line}
    (handed : handovers.filterMap Handover.line? = before ++ [last]) (control : last.isControl = true)
    (named : ∀ id ∈ last.session?, '\n' ∉ id.toList) :
    ∃ front, (handovers.flatMap fun handover => wholeLines handover.text.toList).filter
      (· ≠ Stream.keepAliveLine.toList) = front ++ [last.text.toList] := by
  rw [filter_handovers (by decide) handed, List.flatMap_append]
  have other : last.text.toList ≠ Stream.keepAliveLine.toList := by
    intro same
    have marked := isMarked_text control
    rw [same] at marked
    revert marked
    decide
  have alone : [last].flatMap (fun line => (wholeLines line.text.toList).filter
      (· ≠ Stream.keepAliveLine.toList)) = [last.text.toList] := by
    rw [List.flatMap_singleton, wholeLines_text control named]
    exact List.filter_cons_of_pos (by simpa using other)
  rw [alone]
  exact ⟨_, rfl⟩

end Streams

theorem forged_eq_nil_iff {lines : List Line} :
    (∀ line ∈ lines, line.forged = []) ↔
      ∀ text, .plain text ∈ lines → ∀ line ∈ wholeLines text.toList, isMarked line = false := by
  constructor
  · intro honest text member line among
    have none := List.filter_eq_nil_iff.mp (honest _ member) line among
    simpa using none
  · intro plain line member
    cases line with
    | plain text =>
        apply List.filter_eq_nil_iff.mpr
        intro piece among
        simp [plain text member piece among]
    | _ => rfl

end Rollout.Progress
