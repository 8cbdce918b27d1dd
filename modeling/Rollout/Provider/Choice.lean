import Rollout.Provider.Basic
import Rollout.Text.Blank

namespace Rollout.Provider

/-! The size of a new server. -/

def Size.meets (size : Size) (requirement : Requirement) : Bool :=
  requirement.cpu ≤ size.vcpus && requirement.ramMb ≤ size.memoryMb

def Size.isOfferedIn (size : Size) (region : String) : Bool :=
  size.regions.isEmpty || region ∈ size.regions

/-- The first of the cheapest sizes. -/
def cheapest? : List Size → Option Size
  | [] => none
  | size :: rest =>
      some (rest.foldl (fun best size => if size.price < best.price then size else best) size)

def chooseSize (sizes : List Size) (requirement : Requirement) : Except Error String :=
  match cheapest? (sizes.filter (·.meets requirement)) with
  | some size => .ok size.id
  | none => .error (.noMatchingSize requirement.cpu requirement.ramMb)

/-- Recommends a size: of all that the provider sells, or of those offered in a
region. -/
def recommendSize {m : Type → Type} [Monad m]
    (perform : (call : Call) → ExceptT Error m call.Result) (requirement : Requirement)
    (region : String) : ExceptT Error m String := do
  if Text.isBlankText region then perform (.chooseSize requirement)
  else
    let sizes ← perform (.listSizesIn region)
    ExceptT.mk (pure (chooseSize sizes requirement))

end Rollout.Provider
