import Rollout.Json.Basic

namespace Rollout.Json

/-! Records with known fields, as interfaces send them.

A record is an object, whose other entries are ignored and in which no field is
written twice, or an array of the values of its fields in order.
-/

/-- The values of the fields that are present, and whether the record was an
array, in which every field needs a value unless it has a default. -/
structure Fields where
  values : List (String × Json)
  isArray : Bool

def fields? (names : List String) : Json → Option Fields
  | .object entries =>
      let values := entries.filter (·.1 ∈ names)
      if (values.map (·.1)).eraseDups.length = values.length
      then some { values, isArray := false }
      else none
  | .array items =>
      if items.length ≤ names.length then some { values := names.zip items, isArray := true }
      else none
  | _ => none

namespace Fields

variable {α : Type}

def find? (fields : Fields) (name : String) : Option Json :=
  (fields.values.find? (·.1 = name)).map (·.2)

def required (fields : Fields) (name : String) (read : Json → Option α) : Option α := do
  read (← fields.find? name)

/-- A field that may be null, and in an object also missing. -/
def optional (fields : Fields) (name : String) (read : Json → Option α) : Option (Option α) :=
  match fields.find? name with
  | none => if fields.isArray then none else some none
  | some .null => some none
  | some value => (read value).map some

/-- A field that has a default when it is missing, but may not be null. -/
def orElse (fields : Fields) (name : String) (default : α) (read : Json → Option α) : Option α :=
  match fields.find? name with
  | none => some default
  | some value => read value

end Fields

variable {α : Type}

def list? (read : Json → Option α) (json : Json) : Option (List α) := do
  (← json.items?).mapM read

def nullable? (read : Json → Option α) : Json → Option (Option α)
  | .null => some none
  | value => (read value).map some

end Rollout.Json
