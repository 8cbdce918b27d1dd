import Rollout.Regex.Folding

namespace Rollout.Regex

/-! Sets of characters as runs of code points.

The runs of a set are in ascending order and leave a gap between any two, so
equal sets have equal runs.
-/

/-- Runs of code points, given by their first and last. -/
structure CharSet where
  runs : List (Nat × Nat)
deriving Repr, DecidableEq

namespace CharSet

def lastCode : Nat := 0x10FFFF

def empty : CharSet := ⟨[]⟩

def all : CharSet := ⟨[(0, lastCode)]⟩

private def joined : List (Nat × Nat) → List (Nat × Nat)
  | [] => []
  | (first, last) :: runs =>
      match joined runs with
      | [] => [(first, last)]
      | (next, end') :: others =>
          if next ≤ last + 1 then (first, max last end') :: others
          else (first, last) :: (next, end') :: others

private def insertRun (run : Nat × Nat) : List (Nat × Nat) → List (Nat × Nat)
  | [] => [run]
  | next :: runs => if run.1 ≤ next.1 then run :: next :: runs else next :: insertRun run runs

def ofRuns (runs : List (Nat × Nat)) : CharSet :=
  ⟨joined (runs.mergeSort fun left right => left.1 ≤ right.1)⟩

def ofRange (first last : Nat) : CharSet := ⟨[(first, last)]⟩

def ofChar (char : Char) : CharSet := ofRange char.toNat char.toNat

def contains (set : CharSet) (code : Nat) : Bool :=
  search set.runs
where
  search : List (Nat × Nat) → Bool
    | [] => false
    | (first, last) :: runs => if code < first then false else code ≤ last || search runs

def union (left right : CharSet) : CharSet :=
  ofRuns (left.runs ++ right.runs)

private def gaps : Nat → List (Nat × Nat) → List (Nat × Nat)
  | start, [] => if start ≤ lastCode then [(start, lastCode)] else []
  | start, (first, last) :: runs =>
      if start < first then (start, first - 1) :: gaps (last + 1) runs else gaps (last + 1) runs

def complement (set : CharSet) : CharSet :=
  ⟨gaps 0 set.runs⟩

def intersection (left right : CharSet) : CharSet :=
  (left.complement.union right.complement).complement

def difference (left right : CharSet) : CharSet :=
  left.intersection right.complement

def symmetricDifference (left right : CharSet) : CharSet :=
  (left.difference right).union (right.difference left)

def withCases (set : CharSet) : CharSet :=
  match set.runs with
  | [(first, last)] =>
      if first = last then ofRuns ((cases first).map fun code => (code, code)) else general
  | _ => general
where
  general : CharSet :=
    let sources := foldRules.flatMap fun rule =>
      (List.range rule.count).map fun place => rule.first + place * rule.stride
    let extra := sources.flatMap fun code =>
      let target := folded code
      if set.contains code || set.contains target then
        (target, target) :: (unfolded target).map fun other => (other, other)
      else []
    ofRuns (set.runs ++ extra)

end CharSet

end Rollout.Regex
