import Rollout.Installer.Registry
import Rollout.Proofs.Check
import Rollout.Proofs.Terminal.Directory
import Rollout.Proofs.Text.Order
import Rollout.Proofs.Text.Pieces

namespace Rollout.Installer.Registry

/-! Directories of installer documents.

The documents of a directory are registered in the order of their names, so that nothing
depends on the order in which the directory lists them.  Of several that declare one
application the last stays, and one that fails keeps those behind it from being registered.
-/

section Documents

/-- The specification that a document of a directory declares. -/
inductive Declares (read : String → Except Files.Failure String) (name : String) : Spec → Prop where
  | intro {text : String} {spec : Spec} (loaded : read name = .ok text)
      (parsed : Spec.ofText text = .ok spec) : Declares read name spec

/-- The failure of a document, which names its path. -/
inductive Fails (path : String) (read : String → Except Files.Failure String) (name : String) :
    RegistryError → Prop where
  | unreadable {cause : Files.Failure} (failed : read name = .error cause) :
      Fails path read name (.unreadable (Files.join path name) cause)
  | refused {text : String} {cause : DocumentError} (loaded : read name = .ok text)
      (failed : Spec.ofText text = .error cause) :
      Fails path read name (.refused (Files.join path name) cause)

/-- A registry after some specifications were registered: of those with one name it has the
last, and the rest as before. -/
structure Adds (before : Registry) (specs : List Spec) (after : Registry) : Prop where
  last : ∀ front spec back, specs = front ++ spec :: back →
    (∀ later ∈ back, later.app ≠ spec.app) → after[spec.app]? = some spec
  others : ∀ app, (∀ spec ∈ specs, spec.app ≠ app) → after[app]? = before[app]?

end Documents

section Names

variable {listed other : List String}

theorem isDocumentName_iff (name : String) :
    isDocumentName name = true ↔ ∃ stem, name = stem ++ ".yaml" ∨ name = stem ++ ".yml" := by
  have ends (ending : String) :
      (Text.dropEnd? ending.toList name.toList).isSome = true ↔ ∃ stem, name = stem ++ ending := by
    simp only [Option.isSome_iff_exists, Text.dropEnd?_eq_some_iff]
    constructor
    · intro ⟨stem, same⟩
      exact ⟨String.ofList stem, String.ext (by simpa using same)⟩
    · intro ⟨stem, same⟩
      exact ⟨stem.toList, by rw [same, String.toList_append]⟩
  rw [isDocumentName, Bool.or_eq_true, ends, ends, exists_or]

theorem documentNames_perm (listed : List String) :
    (documentNames listed).Perm (listed.filter isDocumentName) :=
  List.mergeSort_perm _ _

theorem mem_documentNames {name : String} :
    name ∈ documentNames listed ↔ name ∈ listed ∧ isDocumentName name = true := by
  rw [(documentNames_perm listed).mem_iff, List.mem_filter]

theorem documentNames_sorted (listed : List String) : (documentNames listed).Pairwise (· ≤ ·) := by
  have transitive (first second third : String) (low : decide (first ≤ second) = true)
      (high : decide (second ≤ third) = true) : decide (first ≤ third) = true :=
    decide_eq_true (String.le_trans (of_decide_eq_true low) (of_decide_eq_true high))
  have total (first second : String) : (decide (first ≤ second) || decide (second ≤ first)) = true := by
    simpa using String.le_total first second
  exact (List.pairwise_mergeSort transitive total _).imp of_decide_eq_true

theorem documentNames_of_perm (same : other.Perm listed) : documentNames other = documentNames listed := by
  apply List.Perm.eq_of_pairwise (fun _ _ _ _ => String.le_antisymm) (documentNames_sorted other)
    (documentNames_sorted listed)
  calc (documentNames other).Perm (other.filter isDocumentName) := documentNames_perm other
    _ |>.Perm (listed.filter isDocumentName) := same.filter isDocumentName
    _ |>.Perm (documentNames listed) := (documentNames_perm listed).symm

end Names

section Registering

variable {registry after : Registry} {spec : Spec} {specs : List Spec}

theorem getElem?_register {app : String} :
    (registry.register spec)[app]? = if spec.app = app then some spec else registry[app]? :=
  Terminal.getElem?_insert_iff

theorem Adds.cons (adds : Adds (registry.register spec) specs after) :
    Adds registry (spec :: specs) after := by
  refine ⟨?last, ?others⟩
  case last =>
    intro front chosen back split apart
    cases front with
    | nil =>
        cases split
        rw [adds.others _ apart, getElem?_register, if_pos rfl]
    | cons _ front =>
        cases split
        exact adds.last front chosen back rfl apart
  case others =>
    intro app absent
    obtain ⟨differs, later⟩ := List.forall_mem_cons.mp absent
    rw [adds.others app later, getElem?_register, if_neg differs]

theorem adds_foldl (registry : Registry) (specs : List Spec) :
    Adds registry specs (specs.foldl register registry) := by
  induction specs generalizing registry with
  | nil => exact ⟨by simp, fun _ _ => rfl⟩
  | cons spec specs ih => exact (ih (registry.register spec)).cons

end Registering

section Loading

variable {registry : Registry} {path name : String} {listed names front back : List String}
  {read : String → Except Files.Failure String} {specs : List Spec} {failure : RegistryError}

theorem declares_or_fails (path : String) (read : String → Except Files.Failure String) (name : String) :
    (∃ spec, Declares read name spec) ∨ ∃ failure, Fails path read name failure := by
  cases loaded : read name with
  | error cause => exact Or.inr ⟨_, .unreadable loaded⟩
  | ok text =>
      cases parsed : Spec.ofText text with
      | error cause => exact Or.inr ⟨_, .refused loaded parsed⟩
      | ok spec => exact Or.inl ⟨spec, .intro loaded parsed⟩

theorem not_fails_of_declares {spec : Spec} (declares : Declares read name spec) :
    ¬ Fails path read name failure := by
  intro fails
  obtain ⟨loaded, parsed⟩ := declares
  cases fails with
  | unreadable failed => simp [loaded] at failed
  | refused reloaded failed =>
      rw [loaded, Except.ok.injEq] at reloaded
      simp [← reloaded, parsed] at failed

theorem registerTexts_declared (declared : List.Forall₂ (Declares read) front specs)
    (texts : List (String × Except RegistryError String)) :
    registry.registerTexts (front.map (readAt path read) ++ texts) =
      (specs.foldl register registry).registerTexts texts := by
  induction declared generalizing registry with
  | nil => rfl
  | cons declares _ ih =>
      obtain ⟨loaded, parsed⟩ := declares
      simp [registerTexts, readAt, loaded, parsed, Except.mapError, ih]

theorem registerTexts_fails (fails : Fails path read name failure)
    (texts : List (String × Except RegistryError String)) :
    registry.registerTexts (readAt path read name :: texts) = (registry, some failure) := by
  cases fails with
  | unreadable failed => simp [registerTexts, readAt, failed, Except.mapError]
  | refused loaded failed => simp [registerTexts, readAt, loaded, failed, Except.mapError]

theorem loadListed_declared (declared : List.Forall₂ (Declares read) (documentNames listed) specs) :
    registry.loadListed path listed read =
      (specs.foldl register registry, .ok (listed.countP isDocumentName)) := by
  have all : registry.registerTexts ((documentNames listed).map (readAt path read)) =
      (specs.foldl register registry, none) := by
    simpa [registerTexts] using registerTexts_declared declared []
  simp only [loadListed, all]
  rw [(documentNames_perm listed).length_eq, List.countP_eq_length_filter]

theorem loadListed_fails (split : documentNames listed = front ++ name :: back)
    (declared : List.Forall₂ (Declares read) front specs) (fails : Fails path read name failure) :
    registry.loadListed path listed read = (specs.foldl register registry, .error failure) := by
  simp only [loadListed, split, List.map_append, List.map_cons, registerTexts_declared declared,
    registerTexts_fails fails]

/-- Either all documents declare something or there is a first one that does not. -/
theorem declared_or_first_failing (path : String) (read : String → Except Files.Failure String)
    (names : List String) : (∃ specs, List.Forall₂ (Declares read) names specs) ∨
      ∃ front name back specs failure, names = front ++ name :: back ∧
        List.Forall₂ (Declares read) front specs ∧ Fails path read name failure := by
  induction names with
  | nil => exact Or.inl ⟨[], .nil⟩
  | cons name names ih =>
      rcases declares_or_fails path read name with ⟨spec, declares⟩ | ⟨failure, fails⟩
      · rcases ih with ⟨specs, declared⟩ | ⟨front, first, back, specs, failure, rfl, declared, fails⟩
        · exact Or.inl ⟨spec :: specs, .cons declares declared⟩
        · exact Or.inr ⟨name :: front, first, back, spec :: specs, failure, rfl,
            .cons declares declared, fails⟩
      · exact Or.inr ⟨[], name, names, [], failure, rfl, .nil, fails⟩

end Loading

/-- Loading the documents among some listed names comes to the same in whatever order these
are listed.  It goes through the names that end like documents in the order of their bytes.
If all of them declare something it counts them, and the last of each application is
registered.  Otherwise it reports the first failure, and those behind it are not registered. -/
theorem loadListed_lastWins (registry : Registry) (path : String) (listed : List String)
    (read : String → Except Files.Failure String) :
    (∀ files directory, files.openDirectory path = .ok directory →
      registry.loadDirectory files path = registry.loadListed path (files.namesIn directory)
        fun name => files.readText directory [name]) ∧
    (∀ other, other.Perm listed →
      registry.loadListed path other read = registry.loadListed path listed read) ∧
    (documentNames listed).Perm (listed.filter isDocumentName) ∧
    (∀ name, isDocumentName name = true ↔ ∃ stem, name = stem ++ ".yaml" ∨ name = stem ++ ".yml") ∧
    (documentNames listed).Pairwise (fun name later =>
      Text.Utf8.bytesOf name ≤ Text.Utf8.bytesOf later) ∧
    ((∀ name ∈ listed, isDocumentName name = true → ∃ spec, Declares read name spec) →
      ∃ specs after, List.Forall₂ (Declares read) (documentNames listed) specs ∧
        registry.loadListed path listed read = (after, .ok (listed.countP isDocumentName)) ∧
        Adds registry specs after) ∧
    ∀ name ∈ listed, isDocumentName name = true → ∀ cause, Fails path read name cause →
      ∃ front first back specs failure after, documentNames listed = front ++ first :: back ∧
        List.Forall₂ (Declares read) front specs ∧ Fails path read first failure ∧
        registry.loadListed path listed read = (after, .error failure) ∧
        Adds registry specs after := by
  have outcome := declared_or_first_failing path read (documentNames listed)
  refine ⟨?tree, ?order, documentNames_perm listed, isDocumentName_iff, ?sorted, ?all, ?failing⟩
  case tree =>
    intro files directory opened
    simp only [loadDirectory, opened]
  case order =>
    intro other same
    simp only [loadListed, documentNames_of_perm same]
  case sorted => exact (documentNames_sorted listed).imp Text.Utf8.bytesOf_le_iff.mpr
  case all =>
    intro declares
    rcases outcome with ⟨specs, declared⟩ | ⟨front, first, back, specs, failure, split, -, fails⟩
    · exact ⟨specs, _, declared, loadListed_declared declared, adds_foldl registry specs⟩
    · obtain ⟨among, isDocument⟩ := mem_documentNames.mp (split ▸ by simp : first ∈ documentNames listed)
      obtain ⟨spec, declares⟩ := declares first among isDocument
      exact absurd fails (not_fails_of_declares declares)
  case failing =>
    intro name among isDocument cause fails
    rcases outcome with ⟨specs, declared⟩ | ⟨front, first, back, specs, failure, split, declared, stops⟩
    · have member : name ∈ documentNames listed := mem_documentNames.mpr ⟨among, isDocument⟩
      obtain ⟨spec, -, declares⟩ := Check.exists_of_mem_left declared name member
      exact absurd fails (not_fails_of_declares declares)
    · exact ⟨front, first, back, specs, failure, _, split, declared, stops,
        loadListed_fails split declared stops, adds_foldl registry specs⟩

end Rollout.Installer.Registry
