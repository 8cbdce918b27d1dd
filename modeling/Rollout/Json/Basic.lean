import Rollout.Decimal.Binary64

namespace Rollout

/-! JSON values.

An object keeps its entries in the order of the text, repeated names included.
A number remembers whether it was written as a whole number, because a field
for whole numbers accepts no fraction such as `1.0`.  Where nobody reads them,
even texts without a meaning and numbers of any size are let pass.
-/

inductive Json where
  | null
  | bool (value : Bool)
  | whole (value : Int)
  | fraction (negative : Bool) (digits : Nat) (exponent : Int)
  | text (value : String)
  | array (items : List Json)
  | object (entries : List (String × Json))
  /-- A text with half of an escaped character in it, or an object with such a name. -/
  | garbled
deriving Repr, Inhabited

namespace Json

/-- The last value written under a name. -/
def find? (name : String) : Json → Option Json
  | .object entries => (entries.reverse.find? (·.1 == name)).map (·.2)
  | _ => none

def text? : Json → Option String
  | .text value => some value
  | _ => none

def bool? : Json → Option Bool
  | .bool value => some value
  | _ => none

def items? : Json → Option (List Json)
  | .array items => some items
  | _ => none

def entries? : Json → Option (List (String × Json))
  | .object entries => some entries
  | _ => none

def below? (limit : Nat) : Json → Option Nat
  | .whole (.ofNat value) => if value < limit then some value else none
  | _ => none

/-- Any number that a 64-bit binary fraction can hold. -/
def number? : Json → Option Rat
  | .whole value => Decimal.ofScientific? (value < 0) value.natAbs 0
  | .fraction negative digits exponent => Decimal.ofScientific? negative digits exponent
  | _ => none

/-- Whether a reader can keep all of a value, and not only pass over it. -/
def isLegible : Json → Bool
  | .fraction negative digits exponent =>
      (Decimal.ofScientific? negative digits exponent).isSome
  | .array items => allItems items
  | .object entries => allEntries entries
  | .garbled => false
  | _ => true
where
  allItems : List Json → Bool
    | [] => true
    | item :: items => item.isLegible && allItems items
  allEntries : List (String × Json) → Bool
    | [] => true
    | (_, item) :: entries => item.isLegible && allEntries entries

def legible? (json : Json) : Option Json := if json.isLegible then some json else none

end Json

end Rollout
