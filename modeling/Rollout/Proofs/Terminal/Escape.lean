import Rollout.Proofs.Text.Unfinished
import Rollout.Terminal.Escape

namespace Rollout.Terminal

/-! What a terminal shows of any bytes.

Only line feeds and characters that are no controls are shown, and what was shown is shown
again as it is.  In a sequence a byte is executed or leaves no trace; the bytes that end any
sequence do so wherever they come, so that two terminals which read the same bytes from
there on show the same.
-/

variable {state other : Reading} {byte : UInt8} {chars : List Char} {bytes : List UInt8}

@[simp]
theorem stripFrom_cons (state : Reading) (byte : UInt8) (bytes : List UInt8) :
    stripFrom state (byte :: bytes) = (step state byte).1 ++ stripFrom (step state byte).2 bytes := rfl

section Sequences

/-- What a byte does in a sequence: it is executed or leaves no trace, and it begins no
character. -/
structure Hidden (byte : UInt8) (read : List Char × Reading) : Prop where
  shows : read.1 = [] ∨ read.1 = execute byte
  apart : ∀ pending, read.2 ≠ .ground (some pending)

theorem hidden_anywhere (apart : ∀ pending, state ≠ .ground (some pending)) (byte : UInt8) :
    Hidden byte (anywhere state byte) := by
  unfold anywhere
  split
  · exact ⟨.inr rfl, nofun⟩
  split
  · exact ⟨.inl rfl, nofun⟩
  · exact ⟨.inl rfl, apart⟩

theorem hidden_stepEscape (byte : UInt8) : Hidden byte (stepEscape byte) := by
  unfold stepEscape
  split
  · exact ⟨.inr rfl, nofun⟩
  split
  · exact ⟨.inr rfl, nofun⟩
  repeat' split
  all_goals exact ⟨.inl rfl, nofun⟩

theorem hidden_stepEscapeIntermediate (byte : UInt8) : Hidden byte (stepEscapeIntermediate byte) := by
  unfold stepEscapeIntermediate
  split
  · exact ⟨.inr rfl, nofun⟩
  split
  · exact hidden_anywhere (by nofun) byte
  repeat' split
  all_goals exact ⟨.inl rfl, nofun⟩

theorem hidden_stepCsi (apart : ∀ pending, state ≠ .ground (some pending)) (byte : UInt8) :
    Hidden byte (stepCsi state byte) := by
  unfold stepCsi
  split
  · exact ⟨.inr rfl, apart⟩
  split
  · exact hidden_anywhere apart byte
  repeat' split
  all_goals exact ⟨.inl rfl, nofun⟩

theorem hidden_stepDcs (apart : ∀ pending, state ≠ .ground (some pending)) (byte : UInt8) :
    Hidden byte (stepDcs state byte) := by
  unfold stepDcs
  split
  · exact ⟨.inl rfl, apart⟩
  split
  · exact hidden_anywhere apart byte
  repeat' split
  all_goals exact ⟨.inl rfl, nofun⟩

theorem hidden_stepPassthrough (byte : UInt8) : Hidden byte (stepPassthrough byte) := by
  unfold stepPassthrough
  split
  · exact ⟨.inl rfl, nofun⟩
  · exact hidden_anywhere (by nofun) byte

theorem hidden_stepCommand (byte : UInt8) : Hidden byte (stepCommand byte) := by
  unfold stepCommand
  split
  · exact ⟨.inl rfl, nofun⟩
  · exact hidden_anywhere (by nofun) byte

theorem hidden_step (inside : ∀ pending, state ≠ .ground pending) (byte : UInt8) :
    Hidden byte (step state byte) := by
  cases state with
  | ground pending => exact absurd rfl (inside pending)
  | escape => exact hidden_stepEscape byte
  | escapeIntermediate => exact hidden_stepEscapeIntermediate byte
  | csiEntry => exact hidden_stepCsi (by nofun) byte
  | csiParameter => exact hidden_stepCsi (by nofun) byte
  | csiIntermediate => exact hidden_stepCsi (by nofun) byte
  | csiIgnore => exact hidden_stepCsi (by nofun) byte
  | dcsEntry => exact hidden_stepDcs (by nofun) byte
  | dcsParameter => exact hidden_stepDcs (by nofun) byte
  | dcsIntermediate => exact hidden_stepDcs (by nofun) byte
  | dcsPassthrough => exact hidden_stepPassthrough byte
  | command => exact hidden_stepCommand byte
  | ignoredString => exact hidden_anywhere (by nofun) byte

/-- A terminal is between sequences, perhaps inside of a character, or inside of a sequence. -/
theorem ground_or_inside (state : Reading) :
    (∃ pending, state = .ground pending) ∨ ∀ pending, state ≠ .ground pending := by
  cases state with
  | ground pending => exact .inl ⟨pending, rfl⟩
  | _ => exact .inr nofun

end Sequences

section Visible

/-- A text of which all is shown. -/
def Visible (chars : List Char) : Prop := ∀ char ∈ chars, isShown char = true

theorem isShown_iff (char : Char) : isShown char = true ↔ char = '\n' ∨ isControl char = false := by
  simp [isShown]

theorem isShown_of_beyond {char : Char} (beyond : 0xA0 ≤ char.toNat) : isShown char = true := by
  rw [isShown_iff]
  right
  simp only [isControl, Bool.or_eq_false_iff, Bool.and_eq_false_iff, decide_eq_false_iff_not]
  omega

theorem visible_nil : Visible [] := nofun

theorem visible_shown (pieces : List Text.Utf8.Piece) : Visible (shown pieces) :=
  fun _ member => (List.mem_filter.mp member).2

theorem visible_execute (byte : UInt8) : Visible (execute byte) := by
  unfold execute
  split
  · exact List.forall_mem_singleton.mpr rfl
  · exact visible_nil

theorem visible_fresh (byte : UInt8) : Visible (fresh byte).1 := by
  unfold fresh
  split
  · exact visible_nil
  split
  · exact visible_nil
  · exact visible_shown _

theorem visible_stepGround (pending : Option Text.Utf8.Pending) (byte : UInt8) :
    Visible (stepGround pending byte).1 := by
  cases pending with
  | none => exact visible_fresh byte
  | some pending =>
      simp only [stepGround]
      split
      · exact visible_shown _
      · exact List.forall_mem_cons.mpr ⟨rfl, visible_fresh byte⟩

theorem visible_step (state : Reading) (byte : UInt8) : Visible (step state byte).1 := by
  rcases ground_or_inside state with ⟨pending, rfl⟩ | inside
  · exact visible_stepGround pending byte
  · rcases (hidden_step inside byte).shows with silent | executed
    · rw [silent]
      exact visible_nil
    · rw [executed]
      exact visible_execute byte

theorem visible_stripFrom (state : Reading) (bytes : List UInt8) : Visible (stripFrom state bytes) := by
  induction bytes generalizing state with
  | nil => exact visible_nil
  | cons byte bytes ih => exact List.forall_mem_append.mpr ⟨visible_step state byte, ih _⟩

end Visible

section Texts

theorem shown_append (front back : List Text.Utf8.Piece) :
    shown (front ++ back) = shown front ++ shown back := by
  simp [shown]

theorem shown_chars (chars : List Char) : shown (chars.map some) = chars.filter isShown := by
  simp [shown, Function.comp_def]

/-- Between sequences, a byte is read as text if it breaks nothing. -/
theorem step_of_whole {pending : Option Text.Utf8.Pending} (plain : byte ≠ 0x1B)
    (whole : none ∉ (Text.Utf8.step byte pending).1) :
    step (.ground pending) byte =
      (shown (Text.Utf8.step byte pending).1, .ground (Text.Utf8.step byte pending).2) := by
  cases pending with
  | none =>
      simp only [step, stepGround, fresh, Text.Utf8.step] at whole ⊢
      rw [if_neg plain, if_neg]
      rintro ⟨least, most⟩
      have follows : byte.toNat ≤ 0xBF :=
        Nat.le_trans (UInt8.le_iff_toNat_le.mp most) (by decide)
      rw [Text.Utf8.start_of_follower (UInt8.le_iff_toNat_le.mp least) follows] at whole
      exact whole (List.mem_singleton.mpr rfl)
  | some pending =>
      cases accepted : pending.accepts byte with
      | true => simp [step, stepGround, Text.Utf8.step, accepted]
      | false => simp [Text.Utf8.step, accepted] at whole

theorem stripFrom_of_whole {pending : Option Text.Utf8.Pending} (plain : 0x1B ∉ bytes)
    (whole : none ∉ Text.Utf8.piecesFrom pending bytes) :
    stripFrom (.ground pending) bytes = shown (Text.Utf8.piecesFrom pending bytes) := by
  induction bytes generalizing pending with
  | nil =>
      cases pending with
      | none => rfl
      | some pending => simp [Text.Utf8.piecesFrom] at whole
  | cons byte bytes ih =>
      obtain ⟨first, later⟩ := List.ne_and_not_mem_of_not_mem_cons plain
      have now : none ∉ (Text.Utf8.step byte pending).1 := fun member =>
        whole (List.mem_append_left _ member)
      have next : none ∉ Text.Utf8.piecesFrom (Text.Utf8.step byte pending).2 bytes := fun member =>
        whole (List.mem_append_right _ member)
      rw [stripFrom_cons, step_of_whole first.symm now, ih later next, ← shown_append]
      rfl

/-- Of a text without escapes, all but its control characters is shown. -/
theorem strip_encode (plain : '\x1b' ∉ chars) :
    strip (Text.Utf8.encode chars) = chars.filter isShown := by
  have read : Text.Utf8.piecesFrom none (Text.Utf8.encode chars) = chars.map some :=
    Text.Utf8.pieces_encode chars
  have whole : none ∉ Text.Utf8.piecesFrom none (Text.Utf8.encode chars) := by
    rw [read]
    simp
  have unescaped : 0x1B ∉ Text.Utf8.encode chars :=
    Text.Utf8.not_mem_encode_of_ascii (show '\x1b'.toNat < 0x80 by decide) plain
  rw [strip, ground, stripFrom_of_whole unescaped whole, read, shown_chars]

theorem Visible.plain (visible : Visible chars) : '\x1b' ∉ chars :=
  fun member => absurd (visible _ member) (by decide)

theorem strip_of_visible (visible : Visible chars) : strip (Text.Utf8.encode chars) = chars := by
  rw [strip_encode visible.plain, List.filter_eq_self]
  exact visible

end Texts

section States

/-- The state in which bytes leave a terminal. -/
def readingAfter (state : Reading) (bytes : List UInt8) : Reading :=
  bytes.foldl (fun state byte => (step state byte).2) state

theorem stripFrom_append (state : Reading) (front back : List UInt8) :
    stripFrom state (front ++ back) = stripFrom state front ++ stripFrom (readingAfter state front) back := by
  induction front generalizing state with
  | nil => rfl
  | cons byte front ih => simp only [List.cons_append, stripFrom_cons, ih, List.append_assoc,
      readingAfter, List.foldl_cons]

/-- A state that bytes can lead to: an unfinished character is one that can be finished. -/
def Reading.Sound (state : Reading) : Prop :=
  ∀ pending, state = .ground (some pending) → pending.Completes

theorem sound_ground : ground.Sound := nofun

theorem fresh_sound (byte : UInt8) : (fresh byte).2.Sound := by
  unfold fresh
  split
  · exact nofun
  split
  · exact nofun
  · intro pending unfinished
    exact Text.Utf8.completes_start (Reading.ground.inj unfinished)

theorem Reading.Sound.step (sound : state.Sound) (byte : UInt8) : (step state byte).2.Sound := by
  rcases ground_or_inside state with ⟨_ | pending, rfl⟩ | inside
  · exact fresh_sound byte
  · cases accepted : pending.accepts byte with
    | true =>
        intro next unfinished
        simp only [Terminal.step, stepGround, accepted, if_true] at unfinished
        exact (sound pending rfl).push accepted (Reading.ground.inj unfinished)
    | false =>
        simp only [Terminal.step, stepGround, accepted, if_neg Bool.false_ne_true]
        exact fresh_sound byte
  · intro pending unfinished
    exact absurd unfinished ((hidden_step inside byte).apart pending)

theorem Reading.Sound.after (sound : state.Sound) (bytes : List UInt8) :
    (readingAfter state bytes).Sound := by
  induction bytes generalizing state with
  | nil => exact sound
  | cons byte bytes ih => exact ih (sound.step byte)

/-- Bytes that continue a character that did not begin leave nothing unfinished. -/
theorem readingAfter_followers {front : List UInt8}
    (followers : ∀ byte ∈ front, 0x80 ≤ byte.toNat ∧ byte.toNat ≤ 0xBF) :
    readingAfter ground front = ground := by
  induction front with
  | nil => rfl
  | cons byte front ih =>
      obtain ⟨⟨least, most⟩, later⟩ := List.forall_mem_cons.mp followers
      have first : (step ground byte).2 = ground := by
        have other : byte ≠ 0x1B := by
          rintro rfl
          exact absurd least (by decide)
        simp only [ground, step, stepGround, fresh]
        rw [if_neg other, Text.Utf8.start_of_follower least most]
        split <;> rfl
      rw [readingAfter, List.foldl_cons, first]
      exact ih later

/-- Cancel, substitute and escape end any sequence. -/
def EndsAny (byte : UInt8) : Prop := byte = 0x18 ∨ byte = 0x1A ∨ byte = 0x1B

/-- Where a sequence is ended, it does not matter any more what was read before. -/
theorem step_of_endsAny (sound : state.Sound) (ends : EndsAny byte) :
    (step state byte).2 = if byte = 0x1B then .escape else ground := by
  cases state with
  | ground pending =>
      cases pending with
      | none => rcases ends with rfl | rfl | rfl <;> rfl
      | some pending =>
          have refused : pending.accepts byte = false := by
            have low := (sound pending rfl).low
            have first : byte.toNat < 0x80 := by rcases ends with rfl | rfl | rfl <;> decide
            rw [Bool.eq_false_iff]
            intro accepted
            have least := (Text.Utf8.Pending.accepts_iff.mp accepted).1
            omega
          simp only [step, stepGround, refused, if_neg Bool.false_ne_true]
          rcases ends with rfl | rfl | rfl <;> rfl
  | _ => rcases ends with rfl | rfl | rfl <;> rfl

theorem readingAfter_snoc (state : Reading) (bytes : List UInt8) (byte : UInt8) :
    readingAfter state (bytes ++ [byte]) = (step (readingAfter state bytes) byte).2 := by
  simp [readingAfter]

theorem readingAfter_of_endsAny (sound : state.Sound) (same : other.Sound) (ends : EndsAny byte)
    (front front' : List UInt8) :
    readingAfter state (front ++ [byte]) = readingAfter other (front' ++ [byte]) := by
  rw [readingAfter_snoc, readingAfter_snoc, step_of_endsAny (sound.after front) ends,
    step_of_endsAny (same.after front') ends]

end States

/-- What is shown of any bytes holds no control characters but line feeds.  The texts without
other controls are exactly those that are shown as they are, so nothing changes when what was
shown is read again, and of a text without escapes only its control characters are lost. -/
theorem shown_text_normal (bytes : List UInt8) :
    (∀ char ∈ strip bytes, char = '\n' ∨ isControl char = false) ∧
    strip (Text.Utf8.encode (strip bytes)) = strip bytes ∧
    (∀ chars, strip (Text.Utf8.encode chars) = chars ↔
      ∀ char ∈ chars, char = '\n' ∨ isControl char = false) ∧
    ∀ chars, '\x1b' ∉ chars → strip (Text.Utf8.encode chars) = chars.filter isShown := by
  have clean (bytes : List UInt8) : ∀ char ∈ strip bytes, char = '\n' ∨ isControl char = false :=
    fun char member => (isShown_iff char).mp (visible_stripFrom ground bytes char member)
  have fixed (chars : List Char) (shows : ∀ char ∈ chars, char = '\n' ∨ isControl char = false) :
      strip (Text.Utf8.encode chars) = chars :=
    strip_of_visible fun char member => (isShown_iff char).mpr (shows char member)
  refine ⟨clean bytes, fixed _ (clean bytes), fun chars => ⟨fun same => ?_, fixed chars⟩,
    fun chars => strip_encode⟩
  rw [← same]
  exact clean _

end Rollout.Terminal
