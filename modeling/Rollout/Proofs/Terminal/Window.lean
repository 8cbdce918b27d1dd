import Rollout.Proofs.Terminal.Escape
import Rollout.Proofs.Text.Pieces
import Rollout.Terminal.Window

namespace Rollout.Terminal

/-! What the window of a terminal holds and shows.

The window holds the last bytes of all that was written, however it was cut into chunks.  It
reads them as if nothing had come before.  So what it shows is the end of what the terminal
displayed if the bytes that were dropped end between characters and sequences; otherwise
the rest of a sequence or of a character can show up that was never displayed.
-/

variable {state : Reading} {byte : UInt8} {char : Char} {pending : Text.Utf8.Pending}

section Endings

variable {Item : Type} {front back : List Item} {item other : Item}

theorem eq_of_suffix (first : front <:+ whole) (second : back <:+ whole)
    (length : front.length = back.length) : front = back :=
  (List.suffix_of_suffix_length_le first second (Nat.le_of_eq length)).eq_of_length length

theorem last_of_suffix (ends : front ++ [item] <:+ back ++ [other]) : item = other := by
  have single : [item] <:+ back ++ [other] := (List.suffix_append front [item]).trans ends
  exact List.singleton_inj.mp (eq_of_suffix single (List.suffix_append back [other]) rfl)

/-- A run of one item that does not fit into the end of a list reaches into its front. -/
theorem last_of_run {count : Nat} (ends : List.replicate count item <:+ front ++ back)
    (short : back.length < count) : front.getLast? = some item := by
  obtain ⟨before, split⟩ := ends
  rcases List.append_eq_append_iff.mp split with ⟨inner, rfl, run⟩ | ⟨inner, -, rest⟩
  · have items : ∀ inside ∈ inner, inside = item := fun inside member =>
      List.eq_of_mem_replicate (run ▸ List.mem_append_left back member)
    have lengths := congrArg List.length run
    rw [List.length_replicate, List.length_append] at lengths
    cases last : inner.getLast? with
    | none =>
        rw [List.getLast?_eq_none_iff.mp last] at lengths
        simp only [List.length_nil] at lengths
        omega
    | some inside =>
        rw [List.getLast?_append, last, items inside (List.mem_of_getLast? last)]
        rfl
  · have lengths := congrArg List.length rest
    rw [List.length_append, List.length_replicate] at lengths
    omega

end Endings

namespace Window

/-- The window after chunks that were written from the start. -/
def after (chunks : List (List UInt8)) : Window := chunks.foldl append empty

theorem append_suffix (window : Window) (chunk : List UInt8) :
    (window.append chunk).bytes <:+ window.bytes ++ chunk := by
  simp only [append]
  exact List.drop_suffix _ _

theorem append_length (window : Window) (chunk : List UInt8) :
    (window.append chunk).bytes.length = min (window.bytes ++ chunk).length capacity := by
  simp only [append, List.length_drop]
  omega

theorem eq_of_bytes {window other : Window} (same : window.bytes = other.bytes) : window = other := by
  cases window
  cases other
  exact congrArg mk same

theorem append_append (window : Window) (front back : List UInt8) :
    (window.append front).append back = window.append (front ++ back) := by
  have first : (window.append front).bytes ++ back <:+ window.bytes ++ front ++ back :=
    List.suffix_append_self_iff.mpr (append_suffix window front)
  have second := append_suffix (window.append front) back
  rw [List.append_assoc] at first
  apply eq_of_bytes
  apply eq_of_suffix (second.trans first) (append_suffix window (front ++ back))
  simp only [append_length, List.length_append]
  omega

/-- Where the chunks are cut does not matter. -/
theorem after_eq (chunks : List (List UInt8)) : after chunks = empty.append chunks.flatten := by
  have cut (chunks : List (List UInt8)) (front : List UInt8) :
      chunks.foldl append (empty.append front) = empty.append (front ++ chunks.flatten) := by
    induction chunks generalizing front with
    | nil => rw [List.flatten_nil, List.append_nil, List.foldl_nil]
    | cons chunk chunks ih => rw [List.foldl_cons, append_append, ih, List.flatten_cons, List.append_assoc]
  exact cut chunks []

theorem after_suffix (chunks : List (List UInt8)) : (after chunks).bytes <:+ chunks.flatten := by
  rw [after_eq]
  exact append_suffix empty chunks.flatten

theorem after_length (chunks : List (List UInt8)) :
    (after chunks).bytes.length = min chunks.flatten.length capacity := by
  rw [after_eq, append_length]
  rfl

theorem after_of_full {chunks : List (List UInt8)} {older held : List UInt8}
    (stream : chunks.flatten = older ++ held) (full : held.length = capacity) :
    (after chunks).bytes = held := by
  refine eq_of_suffix (after_suffix chunks) (stream ▸ List.suffix_append older held) ?_
  rw [after_length, stream, List.length_append]
  omega

/-- The window holds the last bytes of what was written, as many as it has room for, so
nothing that is asked of it depends on how the bytes were cut into chunks. -/
theorem last_bytes_kept (chunks : List (List UInt8)) :
    (after chunks).bytes <:+ chunks.flatten ∧
    (after chunks).bytes.length = min chunks.flatten.length 65536 ∧
    ∀ others : List (List UInt8), others.flatten = chunks.flatten →
      (after others).bytes.length = (after chunks).bytes.length ∧
      (after others).shown = (after chunks).shown ∧
      ∀ prompt, (after others).shows prompt = (after chunks).shows prompt ∧
        ∀ limit, (after others).await prompt limit = (after chunks).await prompt limit := by
  refine ⟨after_suffix chunks, after_length chunks, fun others same => ?_⟩
  have equal : after others = after chunks := by rw [after_eq, after_eq, same]
  rw [equal]
  exact ⟨rfl, rfl, fun prompt => ⟨rfl, fun limit => rfl⟩⟩

end Window

section Misreading

/-- A byte that is shown between sequences and leaves no trace inside of them. -/
structure Prints (byte : UInt8) (char : Char) : Prop where
  shows : step ground byte = ([char], ground)
  silent : execute byte = []

theorem Prints.run (prints : Prints byte char) (count : Nat) :
    strip (List.replicate count byte) = List.replicate count char := by
  induction count with
  | zero => rfl
  | succ count ih =>
      rw [strip, List.replicate_succ, stripFrom_cons, prints.shows, List.replicate_succ]
      exact congrArg (char :: ·) ih

theorem Prints.hides (prints : Prints byte char) (inside : ∀ pending, state ≠ .ground pending) :
    (step state byte).1 = [] :=
  (hidden_step inside byte).shows.elim id (·.trans prints.silent)

/-- Outside of characters, each of some bytes shows one character at most. -/
theorem Prints.length_le (prints : Prints byte char)
    (apart : ∀ pending, state ≠ .ground (some pending)) (count : Nat) :
    (stripFrom state (List.replicate count byte)).length ≤ count := by
  induction count generalizing state with
  | zero => exact Nat.le_refl 0
  | succ count ih =>
      rw [List.replicate_succ, stripFrom_cons, List.length_append]
      rcases ground_or_inside state with ⟨_ | pending, rfl⟩ | inside
      · have shows : step (.ground none) byte = ([char], .ground none) := prints.shows
        have later : (stripFrom (.ground none) (List.replicate count byte)).length ≤ count := ih nofun
        simp only [shows, List.length_singleton]
        omega
      · exact absurd rfl (apart pending)
      · have later := ih (hidden_step inside byte).apart
        rw [prints.hides inside, List.length_nil]
        omega

/-- Inside of a sequence, the first of some bytes shows nothing. -/
theorem Prints.length_lt (prints : Prints byte char) (inside : ∀ pending, state ≠ .ground pending)
    (count : Nat) : (stripFrom state (List.replicate (count + 1) byte)).length < count + 1 := by
  rw [List.replicate_succ, stripFrom_cons, prints.hides inside]
  exact Nat.lt_succ_of_le (prints.length_le (hidden_step inside byte).apart count)

theorem prints_a : Prints 0x61 'a' := ⟨by decide, by decide⟩

theorem prints_b : Prints 0x62 'b' := ⟨by decide, by decide⟩

theorem prints_x : Prints 0x78 'x' := ⟨by decide, by decide⟩

/-- In the middle of a sequence, a full window can show more than was displayed. -/
theorem misread_sequence (inside : ∀ pending, state ≠ .ground pending) (displayed : List Char) :
    ∃ held, held.length = Window.capacity ∧ ¬ strip held <:+ displayed ++ stripFrom state held := by
  obtain ⟨count, full⟩ : ∃ count, Window.capacity = count + 1 := ⟨65535, rfl⟩
  have misread {byte : UInt8} {char : Char} (prints : Prints byte char)
      (other : displayed.getLast? ≠ some char) :
      ∃ held, held.length = Window.capacity ∧ ¬ strip held <:+ displayed ++ stripFrom state held := by
    refine ⟨List.replicate Window.capacity byte, List.length_replicate, fun ends => other ?_⟩
    rw [full, prints.run] at ends
    exact last_of_run ends (prints.length_lt inside count)
  -- One of two letters is not what was displayed last.
  by_cases last : displayed.getLast? = some 'a'
  · exact misread prints_b (by simp [last])
  · exact misread prints_a last

/-- The bytes that finish a character are displayed as that character. -/
theorem displays_finished (completes : pending.Completes) :
    ∃ char, char ≠ '\uFFFD' ∧ ∀ text, Visible text →
      stripFrom (.ground (some pending)) (pending.closing ++ Text.Utf8.encode text) = char :: text := by
  obtain ⟨front, closing, followers⟩ := completes.closing_eq
  obtain ⟨char, beyond, other, finishes⟩ := completes.closes
  refine ⟨char, other, fun text visible => ?_⟩
  have unescaped : 0x1B ∉ pending.closing ++ Text.Utf8.encode text := by
    rw [closing]
    intro member
    rcases List.mem_append.mp member with inside | later
    · rcases List.mem_append.mp inside with follower | last
      · exact absurd (followers _ follower).1 (by decide)
      · exact absurd (List.mem_singleton.mp last) (by decide)
    · exact Text.Utf8.not_mem_encode_of_ascii (show '\x1b'.toNat < 0x80 by decide) visible.plain later
  have pieces : Text.Utf8.piecesFrom (some pending) (pending.closing ++ Text.Utf8.encode text) =
      (char :: text).map some := by
    rw [finishes, List.map_cons, ← Text.Utf8.pieces_encode]
    rfl
  rw [stripFrom_of_whole unescaped (by simp [pieces]), pieces, shown_chars, List.filter_eq_self]
  exact List.forall_mem_cons.mpr ⟨isShown_of_beyond beyond, visible⟩

/-- The same bytes at the start of a window end in a broken piece. -/
theorem shows_broken (completes : pending.Completes) {text : List Char} (visible : Visible text) :
    ∃ before, strip (pending.closing ++ Text.Utf8.encode text) = before ++ ['\uFFFD'] ++ text := by
  obtain ⟨front, closing, followers⟩ := completes.closing_eq
  have broken : step ground 0xBF = (['\uFFFD'], ground) := by decide
  have rest : stripFrom ground (Text.Utf8.encode text) = text := strip_of_visible visible
  refine ⟨strip front, ?_⟩
  rw [closing, strip, List.append_assoc, stripFrom_append, readingAfter_followers followers,
    List.singleton_append, stripFrom_cons, broken, rest, List.append_assoc]
  rfl

/-- In the middle of a character, a full window can show a broken piece of it. -/
theorem misread_character (completes : pending.Completes) (displayed : List Char) :
    ∃ held, held.length = Window.capacity ∧
      ¬ strip held <:+ displayed ++ stripFrom (.ground (some pending)) held := by
  let text := List.replicate (Window.capacity - pending.missing) 'a'
  have visible : Visible text := fun char member => by
    rw [List.eq_of_mem_replicate member]
    rfl
  have written : (Text.Utf8.encode text).length = Window.capacity - pending.missing := by
    have single : 'a'.utf8Size = 1 := by decide
    simp [Text.Utf8.encode, text, List.length_flatMap, single]
  obtain ⟨char, other, displays⟩ := displays_finished completes
  obtain ⟨before, shows⟩ := shows_broken completes visible
  refine ⟨pending.closing ++ Text.Utf8.encode text, ?_, fun ends => ?_⟩
  · have due := completes.due
    have room : 3 ≤ Window.capacity := by decide
    rw [List.length_append, written, Text.Utf8.Pending.closing, List.length_cons, List.length_replicate]
    omega
  · rw [displays text visible, shows, List.append_cons displayed, List.suffix_append_self_iff] at ends
    exact other (last_of_suffix ends).symm

theorem exists_misread (sound : state.Sound) (amid : state ≠ ground) (displayed : List Char) :
    ∃ held, held.length = Window.capacity ∧ ¬ strip held <:+ displayed ++ stripFrom state held := by
  rcases ground_or_inside state with ⟨_ | pending, rfl⟩ | inside
  · exact absurd rfl amid
  · exact misread_character (sound pending rfl) displayed
  · exact misread_sequence inside displayed

end Misreading

namespace Window

/-- What a window shows that has dropped bytes.

Whatever fills the window behind them, it shows an end of what the terminal displayed, exactly
if the dropped bytes end between characters and sequences.  In any case it shows behind the first
byte that ends any sequence what the terminal displayed behind it.  A window that has dropped
nothing shows all that was displayed. -/
theorem shown_is_displayed_iff (older : List UInt8) :
    (readingAfter ground older = ground ↔
      ∀ chunks held, chunks.flatten = older ++ held → held.length = capacity →
        (after chunks).shown <:+ strip chunks.flatten) ∧
    (∀ chunks front byte back, EndsAny byte →
      chunks.flatten = older ++ (front ++ byte :: back) → (front ++ byte :: back).length = capacity →
      ∃ later, (after chunks).shown = strip (front ++ [byte]) ++ later ∧
        strip chunks.flatten = strip (older ++ (front ++ [byte])) ++ later) ∧
    ∀ chunks, chunks.flatten.length ≤ capacity → (after chunks).shown = strip chunks.flatten := by
  refine ⟨⟨fun between chunks held stream full => ?_, fun displayed => ?_⟩,
    fun chunks front byte back ends stream full => ?_, fun chunks fits => ?_⟩
  · rw [shown, after_of_full stream full, stream, strip, strip, stripFrom_append, between]
    exact List.suffix_append _ _
  · refine Decidable.byContradiction fun amid => ?_
    obtain ⟨held, full, apart⟩ := exists_misread (sound_ground.after older) amid (strip older)
    have ends := displayed [older ++ held] held (by simp) full
    have stream : [older ++ held].flatten = older ++ held := by simp
    rw [shown, after_of_full stream full, stream, strip, strip, stripFrom_append] at ends
    exact apart ends
  · refine ⟨stripFrom (readingAfter ground (front ++ [byte])) back, ?_, ?_⟩
    · rw [shown, after_of_full stream full, strip, strip, ← stripFrom_append, List.append_assoc]
      rfl
    · have same := readingAfter_of_endsAny sound_ground sound_ground ends front (older ++ front)
      rw [List.append_assoc older] at same
      rw [stream, same, strip, strip, ← stripFrom_append, List.append_assoc, List.append_assoc]
      rfl
  · have whole : (after chunks).bytes = chunks.flatten := by
      refine (after_suffix chunks).eq_of_length ?_
      rw [after_length]
      omega
    rw [shown, whole]

/-- A title that is displayed nowhere is matched once its beginning has been dropped. -/
theorem cut_title_matched :
    let older : List UInt8 := [0x1B, 0x5D, 0x30, 0x3B]
    let title : List UInt8 := Text.Utf8.bytesOf "Overwrite?" ++ [0x07]
    let chunks := [older ++ title, List.replicate 65525 0x78]
    let prompt := Prompt.text "Overwrite?"
    (after chunks).await prompt 1000 = (true, 0) ∧
    prompt.occursIn (strip chunks.flatten) = false ∧
    ¬ ∀ chunks held, chunks.flatten = older ++ held → held.length = capacity →
      (after chunks).shown <:+ strip chunks.flatten := by
  intro older title chunks prompt
  have stream : chunks.flatten = older ++ (title ++ List.replicate 65525 0x78) := by
    simp only [chunks, List.flatten_cons, List.flatten_nil, List.append_nil, List.append_assoc]
  have full : (title ++ List.replicate 65525 0x78).length = capacity := by
    have size : title.length = 11 := by decide
    rw [List.length_append, size, List.length_replicate]
    rfl
  have tail : readingAfter ground title = ground := by decide
  have question : strip title = "Overwrite?".toList := by decide
  have whole : readingAfter ground (older ++ title) = ground := by decide
  have hidden : strip (older ++ title) = [] := by decide
  have shows : (after chunks).shown = "Overwrite?".toList ++ List.replicate 65525 'x' := by
    rw [shown, after_of_full stream full, strip, stripFrom_append, tail, ← strip, ← strip, question,
      prints_x.run]
  have displays : strip chunks.flatten = List.replicate 65525 'x' := by
    rw [stream, ← List.append_assoc, strip, stripFrom_append, whole, ← strip, ← strip, hidden,
      prints_x.run, List.nil_append]
  refine ⟨?_, ?_, fun displayed => ?_⟩
  · have seen : (after chunks).shows prompt = true := by
      rw [Window.shows, shows]
      exact Text.occursIn_append _ _
    rw [await, if_pos seen]
  · have absent : 'O' ∉ List.replicate 65525 'x' := fun member =>
      absurd (List.eq_of_mem_replicate member) (by decide)
    have first : "Overwrite?".toList = 'O' :: "verwrite?".toList := by decide
    rw [displays, Prompt.occursIn, first]
    exact Text.occursIn_of_absent absent
  · have between := (shown_is_displayed_iff older).1.mpr displayed
    exact absurd between (by decide)

end Window

end Rollout.Terminal
