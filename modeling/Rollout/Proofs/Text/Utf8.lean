import Rollout.Text.Utf8

namespace Rollout.Text.Utf8

/-! Texts survive being encoded and decoded, and bytes are read line by line. -/

/-- A byte that continues a character carries six bits. -/
def continuation (bits : Nat) : UInt8 := UInt8.ofNat (bits % 64 + 128)

theorem toNat_continuation (bits : Nat) : (continuation bits).toNat = bits % 64 + 128 := by
  simp only [continuation, UInt8.toNat_ofNat']
  omega

theorem toNat_ofNat_of_valid {code : Nat} (valid : code.isValidChar) : (Char.ofNat code).toNat = code := by
  rw [Char.ofNat, dif_pos valid]
  rfl

theorem start_ofNat {code : Nat} (byte : code < 256) :
    start (UInt8.ofNat code) =
      if code < 0x80 then ([some (Char.ofNat code)], none)
      else if code < 0xC2 then ([none], none)
      else if code < 0xE0 then ([], some ⟨code % 32, 1, 0x80, 0xBF⟩)
      else if code = 0xE0 then ([], some ⟨0, 2, 0xA0, 0xBF⟩)
      else if code = 0xED then ([], some ⟨13, 2, 0x80, 0x9F⟩)
      else if code < 0xF0 then ([], some ⟨code % 16, 2, 0x80, 0xBF⟩)
      else if code = 0xF0 then ([], some ⟨0, 3, 0x90, 0xBF⟩)
      else if code < 0xF4 then ([], some ⟨code % 8, 3, 0x80, 0xBF⟩)
      else if code = 0xF4 then ([], some ⟨4, 3, 0x80, 0x8F⟩)
      else ([none], none) := by
  have same : (UInt8.ofNat code).toNat = code := by
    rw [UInt8.toNat_ofNat']
    omega
  simp only [start, tail, UInt8.lt_iff_toNat_lt, ← UInt8.toNat_inj, same]
  rfl

variable {rest : List UInt8} {value bits : Nat} {low high : UInt8}

theorem accepts_continuation {missing : Nat} (above : low.toNat ≤ bits % 64 + 128)
    (below : bits % 64 + 128 ≤ high.toNat) :
    Pending.accepts ⟨value, missing, low, high⟩ (continuation bits) = true := by
  simp only [Pending.accepts, Bool.and_eq_true, decide_eq_true_eq, UInt8.le_iff_toNat_le,
    toNat_continuation]
  exact ⟨above, below⟩

theorem piecesFrom_last (above : low.toNat ≤ bits % 64 + 128)
    (below : bits % 64 + 128 ≤ high.toNat) :
    piecesFrom (some ⟨value, 1, low, high⟩) (continuation bits :: rest) =
      some (Char.ofNat (value * 64 + bits % 64)) :: piecesFrom none rest := by
  have six : (bits % 64 + 128) % 64 = bits % 64 := by omega
  simp [piecesFrom, step, accepts_continuation above below, Pending.push, toNat_continuation, six]

theorem piecesFrom_more {missing : Nat} (above : low.toNat ≤ bits % 64 + 128)
    (below : bits % 64 + 128 ≤ high.toNat) :
    piecesFrom (some ⟨value, missing + 2, low, high⟩) (continuation bits :: rest) =
      piecesFrom (some ⟨value * 64 + bits % 64, missing + 1, 0x80, 0xBF⟩) rest := by
  have six : (bits % 64 + 128) % 64 = bits % 64 := by omega
  simp [piecesFrom, step, accepts_continuation above below, Pending.push, tail, toNat_continuation,
    six]

theorem piecesFrom_start {code : Nat} {pieces : List Piece}
    {state : Option Pending} (starts : start (UInt8.ofNat code) = (pieces, state)) :
    piecesFrom none (UInt8.ofNat code :: rest) = pieces ++ piecesFrom state rest := by
  simp [piecesFrom, step, starts]

theorem piecesFrom_two {code : Nat} (least : 0x80 ≤ code) (most : code ≤ 0x7ff) :
    piecesFrom none (UInt8.ofNat (code / 64 % 32 + 0xC0) :: continuation code :: rest) =
      some (Char.ofNat code) :: piecesFrom none rest := by
  have byte : code / 64 % 32 + 0xC0 < 256 := by omega
  have starts := start_ofNat byte
  rw [if_neg (by omega), if_neg (by omega), if_pos (by omega)] at starts
  have whole : (code / 64 % 32 + 0xC0) % 32 * 64 + code % 64 = code := by omega
  rw [piecesFrom_start starts, List.nil_append, piecesFrom_last (by simp) (by simp; omega), whole]

theorem piecesFrom_three {code : Nat} (least : 0x800 ≤ code) (most : code ≤ 0xffff)
    (valid : code < 0xd800 ∨ 0xdfff < code) :
    piecesFrom none (UInt8.ofNat (code / 4096 % 16 + 0xE0) :: continuation (code / 64) ::
      continuation code :: rest) = some (Char.ofNat code) :: piecesFrom none rest := by
  have byte : code / 4096 % 16 + 0xE0 < 256 := by omega
  have starts := start_ofNat byte
  rw [if_neg (by omega), if_neg (by omega), if_neg (by omega)] at starts
  have whole : (code / 4096 * 64 + code / 64 % 64) * 64 + code % 64 = code := by omega
  by_cases first : code / 4096 % 16 + 0xE0 = 0xE0
  · rw [if_pos first] at starts
    have none : 0 = code / 4096 := by omega
    rw [piecesFrom_start starts, List.nil_append, piecesFrom_more (by simp; omega) (by simp; omega),
      piecesFrom_last (by simp) (by simp; omega), none, whole]
  · rw [if_neg first] at starts
    by_cases late : code / 4096 % 16 + 0xE0 = 0xED
    · rw [if_pos late] at starts
      have thirteen : 13 = code / 4096 := by omega
      rw [piecesFrom_start starts, List.nil_append, piecesFrom_more (by simp) (by simp; omega),
        piecesFrom_last (by simp) (by simp; omega), thirteen, whole]
    · rw [if_neg late, if_pos (by omega)] at starts
      have four : (code / 4096 % 16 + 0xE0) % 16 = code / 4096 := by omega
      rw [four] at starts
      rw [piecesFrom_start starts, List.nil_append, piecesFrom_more (by simp) (by simp; omega),
        piecesFrom_last (by simp) (by simp; omega), whole]

theorem piecesFrom_four {code : Nat} (least : 0x10000 ≤ code) (most : code ≤ 0x10ffff) :
    piecesFrom none (UInt8.ofNat (code / 262144 % 8 + 0xF0) :: continuation (code / 4096) ::
      continuation (code / 64) :: continuation code :: rest) =
        some (Char.ofNat code) :: piecesFrom none rest := by
  have byte : code / 262144 % 8 + 0xF0 < 256 := by omega
  have starts := start_ofNat byte
  rw [if_neg (by omega), if_neg (by omega), if_neg (by omega), if_neg (by omega), if_neg (by omega),
    if_neg (by omega)] at starts
  have whole : ((code / 262144 * 64 + code / 4096 % 64) * 64 + code / 64 % 64) * 64 + code % 64 =
      code := by omega
  by_cases first : code / 262144 % 8 + 0xF0 = 0xF0
  · rw [if_pos first] at starts
    have none : 0 = code / 262144 := by omega
    rw [piecesFrom_start starts, List.nil_append, piecesFrom_more (by simp; omega) (by simp; omega),
      piecesFrom_more (by simp) (by simp; omega), piecesFrom_last (by simp) (by simp; omega), none, whole]
  · rw [if_neg first] at starts
    by_cases middle : code / 262144 % 8 + 0xF0 < 0xF4
    · rw [if_pos middle] at starts
      have three : (code / 262144 % 8 + 0xF0) % 8 = code / 262144 := by omega
      rw [three] at starts
      rw [piecesFrom_start starts, List.nil_append, piecesFrom_more (by simp) (by simp; omega),
        piecesFrom_more (by simp) (by simp; omega), piecesFrom_last (by simp) (by simp; omega), whole]
    · rw [if_neg middle, if_pos (by omega)] at starts
      have four : 4 = code / 262144 := by omega
      rw [piecesFrom_start starts, List.nil_append, piecesFrom_more (by simp) (by simp; omega),
        piecesFrom_more (by simp) (by simp; omega), piecesFrom_last (by simp) (by simp; omega), four,
        whole]

theorem piecesFrom_utf8EncodeChar (char : Char) :
    piecesFrom none (String.utf8EncodeChar char ++ rest) = some char :: piecesFrom none rest := by
  have valid : char.val.toNat < 0xd800 ∨ 0xdfff < char.val.toNat ∧ char.val.toNat < 0x110000 := char.valid
  have same : Char.ofNat char.val.toNat = char := Char.ofNat_toNat char
  unfold String.utf8EncodeChar
  simp only
  by_cases one : char.val.toNat ≤ 0x7f
  · have byte : char.val.toNat < 256 := by omega
    have starts := start_ofNat byte
    rw [if_pos (by omega), same] at starts
    rw [if_pos one]
    exact piecesFrom_start starts
  · rw [if_neg one]
    by_cases two : char.val.toNat ≤ 0x7ff
    · rw [if_pos two]
      exact (piecesFrom_two (by omega) two).trans (by rw [same]; rfl)
    · rw [if_neg two]
      by_cases three : char.val.toNat ≤ 0xffff
      · rw [if_pos three]
        exact (piecesFrom_three (by omega) three (by omega)).trans (by rw [same]; rfl)
      · rw [if_neg three]
        exact (piecesFrom_four (by omega) (by omega)).trans (by rw [same]; rfl)

theorem pieces_encode (chars : List Char) : pieces (encode chars) = chars.map some := by
  induction chars with
  | nil => rfl
  | cons char chars ih =>
      have first : encode (char :: chars) = String.utf8EncodeChar char ++ encode chars := rfl
      rw [pieces, first, piecesFrom_utf8EncodeChar]
      exact congrArg (some char :: ·) ih

theorem decodeLossy_encode (chars : List Char) : decodeLossy (encode chars) = chars := by
  rw [decodeLossy, pieces_encode, List.map_map]
  exact List.map_id chars

theorem decode?_encode (chars : List Char) : decode? (encode chars) = some chars := by
  rw [decode?, pieces_encode, List.mapM_map]
  have kept : chars.mapM (id ∘ some) = some (chars.map id) := List.mapM_pure (m := Option)
  rw [kept, List.map_id]

theorem encode_append (front back : List Char) : encode (front ++ back) = encode front ++ encode back :=
  List.flatMap_append

/-- A byte of the first half is the code of the character that it belongs to. -/
theorem code_of_mem_utf8EncodeChar {char : Char} {byte : UInt8}
    (member : byte ∈ String.utf8EncodeChar char) (ascii : byte.toNat < 0x80) :
    byte.toNat = char.toNat := by
  have above {code : Nat} (second : 0x80 ≤ code % 256) : byte ≠ UInt8.ofNat code := by
    rintro rfl
    rw [UInt8.toNat_ofNat'] at ascii
    omega
  unfold String.utf8EncodeChar at member
  simp only at member
  split at member
  · rename_i one
    rw [List.mem_singleton.mp member, UInt8.toNat_ofNat']
    exact Nat.mod_eq_of_lt (by omega)
  split at member
  · simp only [List.mem_cons, List.not_mem_nil, or_false] at member
    rcases member with first | second
    · exact absurd first (above (by omega))
    · exact absurd second (above (by omega))
  split at member
  · simp only [List.mem_cons, List.not_mem_nil, or_false] at member
    rcases member with first | second | third
    · exact absurd first (above (by omega))
    · exact absurd second (above (by omega))
    · exact absurd third (above (by omega))
  · simp only [List.mem_cons, List.not_mem_nil, or_false] at member
    rcases member with first | second | third | fourth
    · exact absurd first (above (by omega))
    · exact absurd second (above (by omega))
    · exact absurd third (above (by omega))
    · exact absurd fourth (above (by omega))

/-- A character of the first 128 has its byte only where it stands. -/
theorem not_mem_encode_of_ascii {char : Char} {chars : List Char} (ascii : char.toNat < 0x80)
    (absent : char ∉ chars) : UInt8.ofNat char.toNat ∉ encode chars := by
  intro member
  obtain ⟨other, among, within⟩ := List.mem_flatMap.mp member
  have code : (UInt8.ofNat char.toNat).toNat = char.toNat := by
    rw [UInt8.toNat_ofNat']
    omega
  have same := code_of_mem_utf8EncodeChar within (by omega)
  rw [code] at same
  exact absent (Char.toNat_inj.mp same ▸ among)

section LineFeeds

variable {pending : Pending} {byte : UInt8} {state : Option Pending}

/-- The byte of a line feed. -/
def feed : UInt8 := 10

/-- An unfinished character that no line feed continues and that never becomes one. -/
structure Pending.Apart (pending : Pending) : Prop where
  low : 0x80 ≤ pending.low.toNat
  high : pending.high.toNat ≤ 0xBF
  value : 1 ≤ pending.value ∨ 0x90 ≤ pending.low.toNat

/-- What a byte is read as holds no line feed, and leaves none to come. -/
def Feedless (read : List Piece × Option Pending) : Prop :=
  some '\n' ∉ read.1 ∧ ∀ pending ∈ read.2, pending.Apart

theorem ofNat_ne_feed {code : Nat} (other : code ≠ 10) : '\n' ≠ Char.ofNat code := by
  intro same
  by_cases valid : code.isValidChar
  · have value := toNat_ofNat_of_valid valid
    rw [← same] at value
    exact other value.symm
  · have zero : Char.ofNat code = Char.ofNat 0 := by
      rw [Char.ofNat, dif_neg valid]
      rfl
    rw [zero] at same
    revert same
    decide

theorem feedless_nothing : Feedless ([none], none) := ⟨by simp, nofun⟩

theorem feedless_char {code : Nat} (other : code ≠ 10) :
    Feedless ([some (Char.ofNat code)], none) :=
  ⟨by simp [ofNat_ne_feed other], nofun⟩

theorem feedless_tail {value missing : Nat} {low high : UInt8} (least : 0x80 ≤ low.toNat)
    (most : high.toNat ≤ 0xBF) (positive : 1 ≤ value ∨ 0x90 ≤ low.toNat) :
    Feedless ([], some ⟨value, missing, low, high⟩) := by
  refine ⟨by simp, ?_⟩
  rintro _ ⟨⟩
  exact ⟨least, most, positive⟩

theorem start_feedless (other : byte ≠ feed) : Feedless (start byte) := by
  have code : byte.toNat ≠ 10 := fun same => other (UInt8.toNat_inj.mp same)
  have read := start_ofNat byte.toNat_lt
  rw [UInt8.ofNat_toNat] at read
  rw [read]
  split
  · exact feedless_char code
  split
  · exact feedless_nothing
  split
  · exact feedless_tail (by simp) (by simp) (.inl (by omega))
  split
  · exact feedless_tail (by simp) (by simp) (.inr (by simp))
  split
  · exact feedless_tail (by simp) (by simp) (.inl (by simp))
  split
  · exact feedless_tail (by simp) (by simp) (.inl (by omega))
  split
  · exact feedless_tail (by simp) (by simp) (.inr (by simp))
  split
  · exact feedless_tail (by simp) (by simp) (.inl (by omega))
  split
  · exact feedless_tail (by simp) (by simp) (.inl (by simp))
  · exact feedless_nothing

theorem push_feedless (apart : pending.Apart) (accepted : pending.accepts byte = true) :
    Feedless (pending.push byte) := by
  simp only [Pending.accepts, Bool.and_eq_true, decide_eq_true_eq, UInt8.le_iff_toNat_le] at accepted
  obtain ⟨least, most⟩ := accepted
  have far : 10 < pending.value * 64 + byte.toNat % 64 := by
    rcases apart.value with positive | late
    · omega
    · have := apart.high
      omega
  unfold Pending.push
  simp only
  split
  · exact feedless_char (by omega)
  · exact feedless_tail (by simp) (by simp) (.inl (by omega))

theorem step_feedless (other : byte ≠ feed) (apart : ∀ pending ∈ state, pending.Apart) :
    Feedless (step byte state) := by
  cases state with
  | none => exact start_feedless other
  | some pending =>
      cases accepted : pending.accepts byte with
      | true => simpa [step, accepted] using push_feedless (apart pending rfl) accepted
      | false =>
          obtain ⟨pieces, next⟩ := start_feedless other
          simp only [step, accepted]
          exact ⟨by simpa using pieces, next⟩

theorem not_mem_piecesFrom {bytes : List UInt8} (absent : feed ∉ bytes)
    (apart : ∀ pending ∈ state, pending.Apart) : some '\n' ∉ piecesFrom state bytes := by
  induction bytes generalizing state with
  | nil => cases state <;> simp [piecesFrom]
  | cons byte bytes ih =>
      obtain ⟨other, later⟩ := List.ne_and_not_mem_of_not_mem_cons absent
      obtain ⟨pieces, next⟩ := step_feedless other.symm apart
      exact List.not_mem_append pieces (ih later next)

/-- Bytes without a line feed are read without one. -/
theorem not_mem_decodeLossy {bytes : List UInt8} (absent : feed ∉ bytes) :
    '\n' ∉ decodeLossy bytes := by
  intro member
  obtain ⟨piece, among, shown⟩ := List.mem_map.mp member
  cases piece with
  | none => exact absurd shown (by decide)
  | some char =>
      obtain rfl : char = '\n' := shown
      exact not_mem_piecesFrom absent (by simp) among

theorem step_feed (apart : ∀ pending ∈ state, pending.Apart) :
    step feed state = (piecesFrom state [] ++ [some '\n'], none) := by
  cases state with
  | none => rfl
  | some pending =>
      have low := (apart pending rfl).low
      have refused : pending.accepts feed = false := by
        simp only [Pending.accepts, Bool.and_eq_false_iff, decide_eq_false_iff_not,
          UInt8.le_iff_toNat_le, feed]
        left
        simp
        omega
      simp only [step, refused]
      rfl

theorem piecesFrom_feed {front back : List UInt8} (absent : feed ∉ front)
    (apart : ∀ pending ∈ state, pending.Apart) :
    piecesFrom state (front ++ feed :: back) =
      piecesFrom state front ++ some '\n' :: piecesFrom none back := by
  induction front generalizing state with
  | nil =>
      rw [List.nil_append, piecesFrom.eq_2, step_feed apart]
      simp
  | cons byte front ih =>
      obtain ⟨other, later⟩ := List.ne_and_not_mem_of_not_mem_cons absent
      have next := (step_feedless other.symm apart).2
      rw [List.cons_append, piecesFrom, piecesFrom]
      simp only [ih later next, List.append_assoc]

/-- A line feed ends what was read before it, finished or not. -/
theorem decodeLossy_feed {front back : List UInt8} (absent : feed ∉ front) :
    decodeLossy (front ++ feed :: back) = decodeLossy front ++ '\n' :: decodeLossy back := by
  have cut : piecesFrom none (front ++ feed :: back) =
      piecesFrom none front ++ some '\n' :: piecesFrom none back := piecesFrom_feed absent (by simp)
  rw [decodeLossy, pieces, cut, List.map_append, List.map_cons]
  rfl

theorem not_mem_encode {chars : List Char} (absent : '\n' ∉ chars) : feed ∉ encode chars :=
  not_mem_encode_of_ascii (show '\n'.toNat < 0x80 by decide) absent

end LineFeeds

end Rollout.Text.Utf8
