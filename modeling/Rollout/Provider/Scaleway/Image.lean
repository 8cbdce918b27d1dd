import Rollout.Json.Shape
import Rollout.Text.Pieces

namespace Rollout.Provider.Scaleway

/-! The images that servers start from. -/

structure Image where
  id : String
  architecture : String
  state : String
  created : String
deriving Repr, DecidableEq

namespace Image

private def rootVolume : Json.Shape :=
  .record [("id", .text), ("name", .text), ("size", .word), ("volume_type", .text)]

def shape : Json.Shape :=
  .record [("id", .text), ("name", .text), ("arch", .text), ("creation_date", .text),
    ("modification_date", .text), ("from_server", .nullable .text), ("organization", .text),
    ("public", .flag), ("state", .text), ("project", .text), ("tags", .list .text),
    ("zone", .text), ("root_volume", rootVolume), ("default_bootscript", .nullable .object),
    ("extra_volumes", .object)]

def ofJson? (json : Json) : Option Image := do
  guard (shape json)
  some {
    id := ← (← json.find? "id").text?
    architecture := ← (← json.find? "arch").text?
    state := ← (← json.find? "state").text?
    created := ← (← json.find? "creation_date").text? }

/-- The first of the images created last, among those that are available for an
architecture.  The dates are compared as texts. -/
def newest? (images : List Image) (architecture : String) : Option Image :=
  match images.filter fun image => image.architecture = architecture ∧ image.state = "available" with
  | [] => none
  | first :: rest =>
      some (rest.foldl (fun best image => if best.created < image.created then image else best) first)

private def isHex (char : Char) : Bool :=
  char.isDigit || ('a' ≤ char && char ≤ 'f') || ('A' ≤ char && char ≤ 'F')

private def isHyphenated (chars : List Char) : Bool :=
  let groups := Text.splitAt '-' chars
  groups.map List.length == [8, 4, 4, 4, 12] && groups.all (·.all isHex)

/-- Whether a text is the id of an image: a universally unique identifier with or
without its hyphens, in braces, or as a uniform resource name. -/
def isId (text : String) : Bool :=
  let chars := text.toList
  (chars.length = 32 && chars.all isHex) || isHyphenated chars ||
    (match Text.dropStart? ['\x7b'] chars with
      | some inner => (Text.dropEnd? ['\x7d'] inner).any isHyphenated
      | none => false) ||
    (Text.dropStart? "urn:uuid:".toList chars).any isHyphenated

end Image

end Rollout.Provider.Scaleway
