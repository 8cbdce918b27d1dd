import Rollout.Proofs.Provider.Choice
import Rollout.Rehearsal.Cloud

namespace Rollout.Provider

/-! What is recommended of a catalogue.

A list of sizes recommends the first of the cheapest that meet a requirement, and nothing if
none does.  For a region the list is the part of the catalogue that is offered there, so a
size behind the catalogue matters only if it is offered, meets the requirement and costs
less.
-/

variable {sizes : List Size} {best other extra : Size} {requirement : Requirement}
  {region id : String} {error : Error}

section Choice

theorem meets_iff (size : Size) :
    size.meets requirement = true ↔
      requirement.cpu ≤ size.vcpus ∧ requirement.ramMb ≤ size.memoryMb := by
  simp [Size.meets]

theorem cheapest?_eq_none_iff : cheapest? sizes = none ↔ sizes = [] := by
  cases sizes <;> simp [cheapest?]

theorem chooseSize_eq_ok_iff : chooseSize sizes requirement = .ok id ↔ Recommends sizes requirement id := by
  constructor
  · exact recommends_of_chooseSize
  · rintro ⟨best, cheapest, rfl⟩
    unfold chooseSize
    cases found : cheapest? (sizes.filter (·.meets requirement)) with
    | some chosen => rw [(cheapest_of_cheapest? found).unique cheapest]
    | none =>
        have member := cheapest.mem
        rw [cheapest?_eq_none_iff.mp found] at member
        cases member

theorem chooseSize_eq_error_iff :
    chooseSize sizes requirement = .error error ↔
      error = .noMatchingSize requirement.cpu requirement.ramMb ∧
        ∀ size ∈ sizes, ¬ (requirement.cpu ≤ size.vcpus ∧ requirement.ramMb ≤ size.memoryMb) := by
  have none_iff : cheapest? (sizes.filter (·.meets requirement)) = none ↔
      ∀ size ∈ sizes, ¬ (requirement.cpu ≤ size.vcpus ∧ requirement.ramMb ≤ size.memoryMb) := by
    simp only [cheapest?_eq_none_iff, List.filter_eq_nil_iff, meets_iff]
  rw [← none_iff]
  unfold chooseSize
  cases cheapest? (sizes.filter (·.meets requirement)) with
  | some size => simp
  | none => simp [eq_comm]

theorem exists_chooseSize_iff :
    (∃ id, chooseSize sizes requirement = .ok id) ↔
      ∃ size ∈ sizes, requirement.cpu ≤ size.vcpus ∧ requirement.ramMb ≤ size.memoryMb := by
  cases chosen : chooseSize sizes requirement with
  | ok id =>
      obtain ⟨best, cheapest, -⟩ := chooseSize_eq_ok_iff.mp chosen
      obtain ⟨member, meets⟩ := List.mem_filter.mp cheapest.mem
      simpa using ⟨best, member, (meets_iff best).mp meets⟩
  | error error =>
      simpa using (chooseSize_eq_error_iff.mp chosen).2

end Choice

section Regions

/-- The part of a catalogue that is offered in a region, in the order of the catalogue. -/
def offeredIn (region : String) (sizes : List Size) : List Size :=
  sizes.filter fun size => size.regions = [] ∨ region ∈ size.regions

/-- The sizes of a region are listed by listing all of them. -/
def ListsByRegion {m : Type → Type} [Monad m]
    (perform : (call : Call) → ExceptT Error m call.Result) : Prop :=
  ∀ region, perform (.listSizesIn region) = do
    let sizes ← perform .listSizes
    pure (sizes.filter (·.isOfferedIn region))

theorem DigitalOcean.listsByRegion (account : Account) : ListsByRegion (service account) :=
  fun _ => rfl

theorem offeredIn_eq (region : String) (sizes : List Size) :
    sizes.filter (·.isOfferedIn region) = offeredIn region sizes := by
  apply List.filter_congr
  intro size _
  rw [Bool.eq_iff_iff]
  simp [Size.isOfferedIn]

theorem offeredIn_append (front back : List Size) :
    offeredIn region (front ++ back) = offeredIn region front ++ offeredIn region back :=
  List.filter_append ..

theorem recommendSize_eq {m : Type → Type} [Monad m] [LawfulMonad m]
    {perform : (call : Call) → ExceptT Error m call.Result} (byRegion : ListsByRegion perform)
    (requirement : Requirement) (named : Text.isBlankText region = false) :
    recommendSize perform requirement region = (do
      let sizes ← perform .listSizes
      ExceptT.mk (pure (chooseSize (offeredIn region sizes) requirement))) := by
  simp [recommendSize, named, byRegion region, offeredIn_eq]

/-- A size that does not meet the requirement, or that costs no less than the one that is
recommended, does not matter behind the others. -/
theorem chooseSize_snoc
    (idle : extra.meets requirement = false ∨
      ∃ best, Cheapest (sizes.filter (·.meets requirement)) best ∧ best.price ≤ extra.price) :
    chooseSize (sizes ++ [extra]) requirement = chooseSize sizes requirement := by
  cases meets : extra.meets requirement with
  | false => simp [chooseSize, List.filter_append, meets]
  | true =>
      rcases idle with fails | ⟨best, cheapest, dear⟩
      · rw [meets] at fails
        cases fails
      · have stays := (cheapest_iff_foremost.mp cheapest).snoc extra
        rw [if_neg (not_lt.mpr dear)] at stays
        have chosen : chooseSize sizes requirement = .ok best.id :=
          chooseSize_eq_ok_iff.mpr ⟨best, cheapest, rfl⟩
        rw [chosen, chooseSize_eq_ok_iff]
        exact ⟨best, by simpa [meets, cheapest_iff_foremost] using stays, rfl⟩

/-- Of any sizes the first of the cheapest that meet the requirement is recommended, and if
none meets it, this is the error.  For a region these are the sizes of the catalogue that are
offered there.  A size behind the catalogue does not matter if it does not meet the
requirement, is not offered there, or costs no less than the recommended one.  The service of
DigitalOcean lists by region. -/
theorem recommended_size_cheapest {m : Type → Type} [Monad m] [LawfulMonad m]
    (perform : (call : Call) → ExceptT Error m call.Result) (byRegion : ListsByRegion perform)
    (requirement : Requirement) (region : String) (named : Text.isBlankText region = false) :
    (∀ sizes,
      (∀ id, chooseSize sizes requirement = .ok id ↔ Recommends sizes requirement id) ∧
      ((∃ id, chooseSize sizes requirement = .ok id) ↔
        ∃ size ∈ sizes, requirement.cpu ≤ size.vcpus ∧ requirement.ramMb ≤ size.memoryMb) ∧
      ∀ error, chooseSize sizes requirement = .error error ↔
        error = .noMatchingSize requirement.cpu requirement.ramMb ∧
          ∀ size ∈ sizes, ¬ (requirement.cpu ≤ size.vcpus ∧ requirement.ramMb ≤ size.memoryMb)) ∧
    recommendSize perform requirement region = (do
      let sizes ← perform .listSizes
      ExceptT.mk (pure (chooseSize (offeredIn region sizes) requirement))) ∧
    (∀ sizes extra,
      (¬ (requirement.cpu ≤ extra.vcpus ∧ requirement.ramMb ≤ extra.memoryMb) ∨
        ¬ (extra.regions = [] ∨ region ∈ extra.regions) ∨
        ∃ best, Cheapest ((offeredIn region sizes).filter (·.meets requirement)) best ∧
          best.price ≤ extra.price) →
      chooseSize (offeredIn region (sizes ++ [extra])) requirement =
        chooseSize (offeredIn region sizes) requirement) ∧
    ∀ account, ListsByRegion (DigitalOcean.service account) := by
  refine ⟨fun sizes => ⟨fun id => chooseSize_eq_ok_iff, exists_chooseSize_iff,
    fun error => chooseSize_eq_error_iff⟩, recommendSize_eq byRegion requirement named, ?_,
    DigitalOcean.listsByRegion⟩
  intro sizes extra idle
  rw [offeredIn_append]
  by_cases offered : extra.regions = [] ∨ region ∈ extra.regions
  · have listed : offeredIn region [extra] = [extra] := by simp [offeredIn, offered]
    rw [listed]
    apply chooseSize_snoc
    rcases idle with fails | elsewhere | dear
    · exact .inl (Bool.eq_false_iff.mpr (mt (meets_iff extra).mp fails))
    · exact absurd offered elsewhere
    · exact .inr dear
  · have unlisted : offeredIn region [extra] = [] := by simp [offeredIn, offered]
    rw [unlisted, List.append_nil]

end Regions

section Rehearsed

open Rehearsal (Cloud CloudLog)

theorem listsByRegion_cloud (cloud : Cloud) : ListsByRegion cloud.perform := fun _ => rfl

def regionalSizes : List Size := [
  { id := "elsewhere", vcpus := 2, memoryMb := 2048, diskGb := 25, price := 3, regions := ["nyc1"] },
  { id := "tiny", vcpus := 1, memoryMb := 512, diskGb := 10, price := 1, regions := [] },
  { id := "regional", vcpus := 1, memoryMb := 1024, diskGb := 25, price := 4, regions := ["ams3"] },
  { id := "everywhere", vcpus := 2, memoryMb := 2048, diskGb := 25, price := 4, regions := [] }]

/-- Of two sizes of one price the first is recommended, though a cheaper one is offered
elsewhere. -/
theorem regional_size_recommended :
    Text.isBlankText "ams3" = false ∧
    ((recommendSize (Cloud.perform { sizes := regionalSizes }) ⟨1, 1024, 0⟩ "ams3").run.run
      {}).1 = .ok "regional" := by
  have named : Text.isBlankText "ams3" = false := by decide
  refine ⟨named, ?_⟩
  rw [(recommended_size_cheapest _ (listsByRegion_cloud { sizes := regionalSizes }) ⟨1, 1024, 0⟩ "ams3"
    named).2.1]
  decide +kernel

end Rehearsed

end Rollout.Provider
