import Rollout.Json.Fields
import Rollout.Provider.Basic

namespace Rollout.Provider.Scaleway

/-! The sizes of server that a zone sells. -/

def bytesPerMb : Nat := 1024 * 1024
def bytesPerGb : Nat := 1000000000

def maxVolume? (json : Json) : Option Nat := do
  (← json.fields? ["max_size"]).orElse "max_size" 0 (Json.below? Text.wordLimit)

/-- Reads one product.  It is a size only if it has a price. -/
def size? (zone id : String) (json : Json) : Option (Option Size) := do
  let fields ← json.fields? ["monthly_price", "ncpus", "ram", "volumes_constraint"]
  let price ← fields.orElse "monthly_price" none (Json.nullable? Json.number?)
  let vcpus ← fields.required "ncpus" (Json.below? Text.smallWordLimit)
  let memory ← fields.required "ram" (Json.below? Text.wordLimit)
  let volume ← fields.orElse "volumes_constraint" none (Json.nullable? maxVolume?)
  some <| price.map fun price => {
    id, vcpus, price
    memoryMb := memory / bytesPerMb
    diskGb := volume.getD 0 / bytesPerGb
    regions := [zone] }

/-- Reads the products of a zone and puts them in the order of their names; of
equal names the last counts. -/
def sizes? (zone : String) (json : Json) : Option (List Size) := do
  let products ← (← json.fields? ["servers"]).orElse "servers" [] Json.entries?
  let sizes ← products.mapM fun (id, product) => do some (id, ← size? zone id product)
  some ((Std.ExtTreeMap.ofList sizes compare).toList.filterMap (·.2))

end Rollout.Provider.Scaleway
