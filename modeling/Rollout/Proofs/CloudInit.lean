import Rollout.CloudInit
import Rollout.Proofs.Files
import Rollout.Proofs.Text.Blank
import Rollout.Proofs.Text.Utf8

namespace Rollout.CloudInit

/-! What becomes of a value that holds a key or names a file with one.

Keys and paths are told apart by how they begin, before any file is looked at.  So a path that
begins as keys do is taken for a key.
-/

variable {files : Files.Tree} {home : Option String} {value key : String}

/-- A text that begins as public keys do. -/
def IsKey (text : String) : Prop := ∃ start ∈ keyStarts, start.toList <+: text.toList

/-- The path that a value stands for. -/
def pathOf (home : Option String) (value : String) : String :=
  Files.expandTilde home (Text.trimmed value)

/-- What a value comes to if whatever names a file is read as a file. -/
inductive Resolves (files : Files.Tree) (home : Option String) (value : String) :
    Except Error String → Prop where
  | blank (empty : Text.trimmed value = "") : Resolves files home value (.error .keyEmpty)
  | stored {content : String} (some : Text.trimmed value ≠ "")
      (stores : files.Stores (pathOf home value) content) (isKey : IsKey (Text.trimmed content)) :
      Resolves files home value (.ok (Text.trimmed content))
  | storedBlank {content : String} (some : Text.trimmed value ≠ "")
      (stores : files.Stores (pathOf home value) content) (empty : Text.trimmed content = "") :
      Resolves files home value (.error .keyEmpty)
  | storedOther {content : String} (some : Text.trimmed value ≠ "")
      (stores : files.Stores (pathOf home value) content) (filled : Text.trimmed content ≠ "")
      (other : ¬ IsKey (Text.trimmed content)) :
      Resolves files home value (.error (.invalidKey (pathOf home value)))
  | inline (unnamed : ∀ bytes, ¬ files.Names (pathOf home value) bytes)
      (isKey : IsKey (Text.trimmed value)) : Resolves files home value (.ok (Text.trimmed value))
  | unread {cause : Files.Failure} (some : Text.trimmed value ≠ "")
      (unstored : ∀ content, ¬ files.Stores (pathOf home value) content)
      (other : IsKey (Text.trimmed value) → ∃ bytes, files.Names (pathOf home value) bytes) :
      Resolves files home value (.error (.unreadable (pathOf home value) cause))

theorem isPublicKey_iff {text : String} : isPublicKey text = true ↔ IsKey text := by
  simp [isPublicKey, IsKey]

theorem IsKey.ne_empty {text : String} (isKey : IsKey text) : text ≠ "" := by
  intro empty
  subst empty
  revert isKey
  rw [← isPublicKey_iff]
  decide

/-- What the content of a file comes to. -/
def judged (path content : String) : Except Error String :=
  let key := Text.trimmed content
  if key.isEmpty then .error .keyEmpty
  else if isPublicKey key then .ok key
  else .error (.invalidKey path)

theorem judged_resolves {content : String} (some : Text.trimmed value ≠ "")
    (stores : files.Stores (pathOf home value) content) :
    Resolves files home value (judged (pathOf home value) content) := by
  unfold judged
  by_cases empty : Text.trimmed content = ""
  · rw [if_pos (by simp [empty])]
    exact .storedBlank some stores empty
  · rw [if_neg (by simpa using empty)]
    by_cases isKey : IsKey (Text.trimmed content)
    · rw [if_pos (isPublicKey_iff.mpr isKey)]
      exact .stored some stores isKey
    · rw [if_neg (mt isPublicKey_iff.mp isKey)]
      exact .storedOther some stores empty isKey

theorem judged_eq_ok_iff {path content : String} :
    judged path content = .ok key ↔ IsKey (Text.trimmed content) ∧ key = Text.trimmed content := by
  unfold judged
  by_cases empty : Text.trimmed content = ""
  · have none : ¬ IsKey "" := fun isKey => isKey.ne_empty rfl
    simp [empty, none]
  · rw [if_neg (by simpa using empty)]
    by_cases isKey : IsKey (Text.trimmed content)
    · simp [isPublicKey_iff.mpr isKey, isKey, eq_comm]
    · simp [mt isPublicKey_iff.mp isKey, isKey]

theorem judged_error {path content : String} {error : Error} (fails : judged path content = .error error) :
    error = .keyEmpty ∨ error = .invalidKey path := by
  simp only [judged] at fails
  split at fails
  · exact .inl (Except.error.inj fails).symm
  · split at fails
    · cases fails
    · exact .inr (Except.error.inj fails).symm

theorem resolvePublicKey_blank (empty : Text.trimmed value = "") :
    resolvePublicKey files home value = .error .keyEmpty := by
  unfold resolvePublicKey
  rw [if_pos (by simp [empty])]

theorem resolvePublicKey_key (isKey : IsKey (Text.trimmed value)) :
    resolvePublicKey files home value = .ok (Text.trimmed value) := by
  unfold resolvePublicKey
  rw [if_neg (by simpa using isKey.ne_empty), if_pos (isPublicKey_iff.mpr isKey)]

theorem resolvePublicKey_path (some : Text.trimmed value ≠ "") (other : ¬ IsKey (Text.trimmed value)) :
    resolvePublicKey files home value = match files.readPath (pathOf home value) with
      | .error cause => .error (.unreadable (pathOf home value) cause)
      | .ok content => judged (pathOf home value) content := by
  unfold resolvePublicKey
  rw [if_neg (by simpa using some), if_neg (mt isPublicKey_iff.mp other)]
  cases read : files.readPath (pathOf home value) with
  | error cause =>
      unfold pathOf at read ⊢
      simp only [read]
  | ok content =>
      unfold pathOf at read ⊢
      simp only [read, judged]

/-- A value that begins as keys do is right if there is no such file, or one that holds the value
itself. -/
theorem resolves_inline_iff (isKey : IsKey (Text.trimmed value)) :
    Resolves files home value (.ok (Text.trimmed value)) ↔
      ∀ bytes, files.Names (pathOf home value) bytes → ∃ content,
        files.Stores (pathOf home value) content ∧ Text.trimmed content = Text.trimmed value := by
  constructor
  · intro resolves bytes named
    generalize result : (.ok (Text.trimmed value) : Except Error String) = outcome at resolves
    cases resolves with
    | stored some stores isKey => exact ⟨_, stores, (Except.ok.inj result).symm⟩
    | inline unnamed isKey => exact absurd named (unnamed bytes)
    | _ => cases result
  · intro same
    by_cases named : ∃ bytes, files.Names (pathOf home value) bytes
    · obtain ⟨bytes, named⟩ := named
      obtain ⟨content, stores, equal⟩ := same bytes named
      rw [← equal]
      exact .stored isKey.ne_empty stores (equal ▸ isKey)
    · exact .inline (not_exists.mp named) isKey

/-- Any other value is right if the file that it names may be read. -/
theorem resolves_path_iff (some : Text.trimmed value ≠ "") (other : ¬ IsKey (Text.trimmed value)) :
    Resolves files home value (resolvePublicKey files home value) ↔
      ∀ content, files.Stores (pathOf home value) content → Files.Confined (pathOf home value) := by
  rw [resolvePublicKey_path some other]
  cases read : files.readPath (pathOf home value) with
  | ok content =>
      obtain ⟨confined, stores⟩ := Files.readPath_eq_ok_iff.mp read
      exact iff_of_true (judged_resolves some stores) fun _ _ => confined
  | error cause =>
      constructor
      · intro resolves content stores
        cases resolves with
        | unread _ unstored _ => exact absurd stores (unstored content)
      · intro confined
        refine .unread some ?_ fun isKey => absurd isKey other
        intro content stores
        cases read.symm.trans (Files.readPath_eq_ok_iff.mpr ⟨confined content stores, stores⟩)

/-- Which values come to what they should, and what becomes of the others.

A value that begins as keys do is a key even if it names a file, and a relative path that leads
out of the working directory is refused even if it leads to a key.  All other values come to
what they should. -/
theorem publicKey_resolves_iff (files : Files.Tree) (home : Option String) (value : String) :
    let given := Text.trimmed value
    let path := pathOf home value
    let result := resolvePublicKey files home value
    (Resolves files home value result ↔
      (IsKey given → ∀ bytes, files.Names path bytes →
        ∃ content, files.Stores path content ∧ Text.trimmed content = given) ∧
      (¬ IsKey given → given ≠ "" → ∀ content, files.Stores path content → Files.Confined path)) ∧
    (IsKey given → result = .ok given) ∧
    (¬ IsKey given → given ≠ "" → ¬ Files.Confined path → ∀ bytes, files.Names path bytes →
      result = .error (.unreadable path .outside) ∨ result = .error (.unreadable path .notDirectory)) ∧
    (∀ key, result = .ok key → key ≠ "" ∧ Text.trimmed key = key ∧ IsKey key) ∧
    ∀ error, result = .error error → error = .keyEmpty ∨ error = .invalidKey path ∨
      ∃ cause, error = .unreadable path cause := by
  intro given path result
  by_cases empty : given = ""
  · have blank : result = .error .keyEmpty := resolvePublicKey_blank empty
    have none : ¬ IsKey given := fun isKey => isKey.ne_empty empty
    rw [blank]
    refine ⟨?_, fun isKey => absurd isKey none, fun _ some => absurd empty some, nofun, ?_⟩
    · exact iff_of_true (.blank empty) ⟨fun isKey => absurd isKey none, fun _ some => absurd empty some⟩
    · intro error same
      exact .inl (Except.error.inj same).symm
  by_cases isKey : IsKey given
  · have inline : result = .ok given := resolvePublicKey_key isKey
    rw [inline]
    refine ⟨?_, fun _ => rfl, fun other => absurd isKey other, ?_, nofun⟩
    · simpa [isKey] using resolves_inline_iff isKey
    · intro key same
      obtain rfl := Except.ok.inj same
      exact ⟨empty, Text.trimmed_trimmed value, isKey⟩
  · have read : result = _ := resolvePublicKey_path empty isKey
    refine ⟨?_, fun key => absurd key isKey, ?_, ?_, ?_⟩
    · simpa [isKey, empty] using resolves_path_iff empty isKey
    · intro _ _ loose bytes named
      rw [read]
      exact (Files.readPath_of_not_confined named loose).imp (fun refused => by rw [refused])
        fun refused => by rw [refused]
    · intro key same
      rw [read] at same
      split at same
      · cases same
      · obtain ⟨isKey, rfl⟩ := judged_eq_ok_iff.mp same
        exact ⟨isKey.ne_empty, Text.trimmed_trimmed _, isKey⟩
    · intro error same
      rw [read] at same
      split at same
      · exact .inr (.inr ⟨_, (Except.error.inj same).symm⟩)
      · exact (judged_error same).imp id .inl

section Misreading

def storedKey : String := "ssh-ed25519 AAAA ci\n"

/-- A key in a folder that is called as keys begin, and one beside the working directory. -/
def twoKeys : Files.Tree where
  files := [(["work", "ssh-keys", "ci.pub"], Text.Utf8.bytesOf storedKey),
    (["keys", "ci.pub"], Text.Utf8.bytesOf storedKey)]
  directories := []
  working := some ["work"]

theorem twoKeys_stores {path : String} {names : List String} (relative : Files.isAbsolute path = false)
    (parts : Files.names path = names)
    (leads : twoKeys.Leads ["work"] names (.file (Text.Utf8.bytesOf storedKey))) :
    twoKeys.Stores path storedKey := by
  refine ⟨_, storedKey.toList, ⟨["work"], ?_, parts ▸ leads⟩, Text.Utf8.decode?_encode _, ?_⟩
  · rw [if_neg (by simp [relative])]
    rfl
  · exact String.ofList_toList.symm

/-- The path of the first key is taken for a key itself, and the path of the second is refused. -/
theorem key_paths_misread :
    twoKeys.Stores "ssh-keys/ci.pub" storedKey ∧ twoKeys.Stores "../keys/ci.pub" storedKey ∧
    resolvePublicKey twoKeys none "ssh-keys/ci.pub" = .ok "ssh-keys/ci.pub" ∧
    ¬ Resolves twoKeys none "ssh-keys/ci.pub" (resolvePublicKey twoKeys none "ssh-keys/ci.pub") ∧
    resolvePublicKey twoKeys none "../keys/ci.pub" = .error (.unreadable "../keys/ci.pub" .outside) ∧
    ¬ Resolves twoKeys none "../keys/ci.pub" (resolvePublicKey twoKeys none "../keys/ci.pub") := by
  have inside : twoKeys.Stores "ssh-keys/ci.pub" storedKey := by
    apply twoKeys_stores (by decide) (by decide : _ = ["ssh-keys", "ci.pub"])
    exact .on rfl (.on rfl (.here rfl))
  have beside : twoKeys.Stores "../keys/ci.pub" storedKey := by
    apply twoKeys_stores (by decide) (by decide : _ = ["..", "keys", "ci.pub"])
    exact .on rfl (.on rfl (.on rfl (.here rfl)))
  refine ⟨inside, beside, by decide, ?_, by decide, ?_⟩
  · intro resolves
    have isKey : IsKey (Text.trimmed "ssh-keys/ci.pub") := isPublicKey_iff.mp (by decide)
    have path : pathOf none "ssh-keys/ci.pub" = "ssh-keys/ci.pub" := by decide
    obtain ⟨same, -⟩ := (publicKey_resolves_iff twoKeys none "ssh-keys/ci.pub").1.mp resolves
    rw [path] at same
    have stored := inside
    obtain ⟨bytes, -, named, -⟩ := stored
    obtain ⟨content, stores, equal⟩ := same isKey bytes named
    obtain rfl := stores.unique inside
    revert equal
    decide
  · intro resolves
    have other : ¬ IsKey (Text.trimmed "../keys/ci.pub") := mt isPublicKey_iff.mpr (by decide)
    have path : pathOf none "../keys/ci.pub" = "../keys/ci.pub" := by decide
    obtain ⟨-, confined⟩ := (publicKey_resolves_iff twoKeys none "../keys/ci.pub").1.mp resolves
    rw [path] at confined
    have loose : ¬ Files.Confined "../keys/ci.pub" := by
      unfold Files.Confined
      decide
    exact loose (confined other (by decide) storedKey beside)

end Misreading

end Rollout.CloudInit
