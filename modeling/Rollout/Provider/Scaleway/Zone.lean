import Rollout.Provider.Basic
import Rollout.Text.Pieces

namespace Rollout.Provider.Scaleway

/-! Zones, and references to the servers in them. -/

private def city (id name : String) : List Region :=
  [1, 2, 3].map fun number => { id := s!"{id}-{number}", name := s!"{name} {number}" }

def zones : List Region := city "fr-par" "Paris" ++ city "nl-ams" "Amsterdam" ++ city "pl-waw" "Warsaw"

structure Reference where
  zone : String
  id : String
deriving Repr, DecidableEq

namespace Reference

/-- Reads a zone, a slash and an id; without a slash the server is in the default
zone. -/
def ofText (defaultZone text : String) : Reference :=
  match Text.cutAt? '/' text.toList with
  | some (zone, id) => { zone := String.ofList zone, id := String.ofList id }
  | none => { zone := defaultZone, id := text }

def toText (reference : Reference) : String := s!"{reference.zone}/{reference.id}"

end Reference

end Rollout.Provider.Scaleway
