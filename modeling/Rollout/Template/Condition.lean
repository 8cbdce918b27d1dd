import Rollout.Text.Pieces
import Std.Data.ExtTreeMap

namespace Rollout.Template

/-! Guard expressions: operands joined by `||`, each of them literals joined by
`&&`, each literal the name of a flag, negated by a leading `!`.

A flag that is not set is false.  A literal without a name never holds, negated
or not, so a malformed operand never holds and a blank expression is false.
-/

abbrev Flags := Std.ExtTreeMap String Bool

structure Literal where
  negated : Bool
  name : String
deriving Repr, DecidableEq

namespace Literal

def ofToken? (token : List Char) : Option Literal :=
  let (negated, name) := match Text.trim token with
    | '!' :: rest => (true, Text.trim rest)
    | name => (false, name)
  if name.isEmpty then none else some { negated, name := String.ofList name }

def holds (flags : Flags) (literal : Literal) : Bool :=
  (flags[literal.name]?.getD false) != literal.negated

end Literal

/-- A condition is a list of operands, each a list of tokens that may fail to be
literals. -/
abbrev Condition := List (List (Option Literal))

namespace Condition

def parse (expression : String) : Condition :=
  (Text.splitAtDouble '|' expression.toList).map fun operand =>
    (Text.splitAtDouble '&' operand).map Literal.ofToken?

def holds (flags : Flags) (condition : Condition) : Bool :=
  condition.any fun operand => operand.all fun literal =>
    match literal with
    | some literal => literal.holds flags
    | none => false

end Condition

def evaluate (flags : Flags) (expression : String) : Bool :=
  (Condition.parse expression).holds flags

end Rollout.Template
