import Mathlib.Algebra.Order.Ring.Rat
import Rollout.Proofs.Foremost
import Rollout.Proofs.Procedure.Traces
import Rollout.Provider.DigitalOcean
import Rollout.Provider.Scaleway.Service

namespace Rollout.Provider

open Procedure

/-! The cheapest of the sizes that will do.

Of several sizes with the lowest price it is the first.
-/

/-- Sizes before it cost more, and sizes after it cost no less. -/
def Cheapest (sizes : List Size) (best : Size) : Prop :=
  ∃ front back, sizes = front ++ best :: back ∧ (∀ other ∈ front, best.price < other.price) ∧
    ∀ other ∈ back, best.price ≤ other.price

/-- A catalogue recommends the cheapest of its sizes that meet a requirement. -/
def Recommends (sizes : List Size) (requirement : Requirement) (id : String) : Prop :=
  ∃ best, Cheapest (sizes.filter (·.meets requirement)) best ∧ best.id = id

variable {sizes : List Size} {best other : Size} {requirement : Requirement} {id : String}

theorem cheapest_iff_foremost : Cheapest sizes best ↔ Foremost Size.price sizes best := Iff.rfl

namespace Cheapest

theorem mem (cheapest : Cheapest sizes best) : best ∈ sizes := (cheapest_iff_foremost.mp cheapest).mem

theorem le (cheapest : Cheapest sizes best) (member : other ∈ sizes) : best.price ≤ other.price :=
  (cheapest_iff_foremost.mp cheapest).le member

theorem unique (cheapest : Cheapest sizes best) (also : Cheapest sizes other) : best = other :=
  (cheapest_iff_foremost.mp cheapest).unique (cheapest_iff_foremost.mp also)

end Cheapest

theorem cheapest_of_cheapest? (found : cheapest? sizes = some best) : Cheapest sizes best := by
  cases sizes with
  | nil => cases found
  | cons size rest =>
      cases found
      have first : Foremost Size.price [size] size := Foremost.head nofun
      exact first.foldl rest

theorem recommends_of_chooseSize (chosen : chooseSize sizes requirement = .ok id) :
    Recommends sizes requirement id := by
  unfold chooseSize at chosen
  split at chosen
  · next best found =>
      cases chosen
      exact ⟨best, cheapest_of_cheapest? found, rfl⟩
  · cases chosen

/-- The sizes that a service recommends are those that its catalogue recommends. -/
def ChoosesFromCatalogue (service : Service) : Prop :=
  ∀ requirement trace id, Traces (service (.chooseSize requirement)).run trace (.ok id) →
    ∃ sizes, Traces (service .listSizes).run trace (.ok sizes) ∧ Recommends sizes requirement id

/-- A service chooses a size among those that it lists. -/
def ListsToChoose (service : Service) : Prop :=
  ∀ requirement, service (.chooseSize requirement) = do
    let sizes ← service .listSizes
    ExceptT.mk (pure (chooseSize sizes requirement))

theorem ListsToChoose.choosesFromCatalogue {service : Service} (lists : ListsToChoose service) :
    ChoosesFromCatalogue service := by
  intro requirement trace id traced
  rw [lists] at traced
  obtain ⟨front, back, sizes, rfl, listed, chooses⟩ := traces_run_bind_ok_iff.mp traced
  obtain ⟨rfl, chosen⟩ := traces_pure_iff.mp chooses
  exact ⟨sizes, by simpa using listed, recommends_of_chooseSize chosen.symm⟩

theorem DigitalOcean.listsToChoose (account : Account) : ListsToChoose (service account) := fun _ => rfl

theorem Scaleway.listsToChoose (account : Account) : ListsToChoose (service account) := fun _ => rfl

theorem DigitalOcean.choosesFromCatalogue (account : Account) :
    ChoosesFromCatalogue (service account) :=
  (listsToChoose account).choosesFromCatalogue

theorem Scaleway.choosesFromCatalogue (account : Account) :
    ChoosesFromCatalogue (service account) :=
  (listsToChoose account).choosesFromCatalogue

end Rollout.Provider
