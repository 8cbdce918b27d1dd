import Rollout.Regex.Property

namespace Rollout.Regex

/-! Patterns and where they match.

A pattern relates the places of a text: from a place where it starts to match
to those where it may end.  `Pattern.ends` computes the ends for a whole list of
starts at once, each list in ascending order without repetition.
-/

inductive Look where
  | textStart
  | textEnd
  | lineStart
  | lineEnd
  | boundary (unicode : Bool)
  | noBoundary (unicode : Bool)
  | wordStart (unicode : Bool)
  | wordEnd (unicode : Bool)
  | wordStartHalf (unicode : Bool)
  | wordEndHalf (unicode : Bool)
deriving Repr, DecidableEq

inductive Pattern where
  | empty
  | set (chars : CharSet)
  | look (condition : Look)
  | sequence (first second : Pattern)
  | either (left right : Pattern)
  | repeated (body : Pattern) (atLeast : Nat) (atMost : Option Nat)
deriving Repr, DecidableEq

namespace Look

private def isWordAt (text : Array Char) (unicode : Bool) (place : Nat) : Bool :=
  match text[place]? with
  | some char =>
      if unicode then
        if char.toNat < 0x80 then asciiWordChars.contains char.toNat
        else wordChars.contains char.toNat
      else asciiWordChars.contains char.toNat
  | none => false

private def isWordBefore (text : Array Char) (unicode : Bool) : Nat → Bool
  | 0 => false
  | place + 1 => isWordAt text unicode place

def holds (text : Array Char) (place : Nat) : Look → Bool
  | .textStart => place = 0
  | .textEnd => place = text.size
  | .lineStart => place = 0 || text[place - 1]? == some '\n'
  | .lineEnd => place = text.size || text[place]? == some '\n'
  | .boundary unicode => isWordBefore text unicode place != isWordAt text unicode place
  | .noBoundary unicode => isWordBefore text unicode place == isWordAt text unicode place
  | .wordStart unicode => !isWordBefore text unicode place && isWordAt text unicode place
  | .wordEnd unicode => isWordBefore text unicode place && !isWordAt text unicode place
  | .wordStartHalf unicode => !isWordBefore text unicode place
  | .wordEndHalf unicode => !isWordAt text unicode place

end Look

/-- Marks places, returning those that were not marked before. -/
private def mark : List Nat → Array Bool → List Nat × Array Bool
  | [], seen => ([], seen)
  | place :: places, seen =>
      if seen[place]?.getD true then mark places seen
      else
        let (fresh, seen) := mark places (seen.setIfInBounds place true)
        (place :: fresh, seen)

private def marked (seen : Array Bool) : List Nat :=
  (List.range seen.size).filter fun place => seen[place]?.getD false

/-- All places reached by moving any number of times, `bound` at most.  Each round
moves only from places that are new. -/
private def closure (move : List Nat → List Nat) : Nat → List Nat → Array Bool → Array Bool
  | 0, _, seen => seen
  | bound + 1, frontier, seen =>
      if frontier.isEmpty then seen
      else
        let (fresh, seen) := mark (move frontier) seen
        closure move bound fresh seen

private def moveTimes (move : List Nat → List Nat) : Nat → List Nat → List Nat
  | 0, places => places
  | count + 1, places => if places.isEmpty then [] else moveTimes move count (move places)

def merge : List Nat → List Nat → List Nat
  | [], right => right
  | left, [] => left
  | first :: left, second :: right =>
      if first < second then first :: merge left (second :: right)
      else if second < first then second :: merge (first :: left) right
      else first :: merge left right
termination_by left right => left.length + right.length

private def moveRepeatedly (size : Nat) (move : List Nat → List Nat) (atLeast : Nat)
    (atMost : Option Nat) (starts : List Nat) : List Nat :=
  let places := moveTimes move atLeast starts
  let (fresh, seen) := mark places (Array.replicate (size + 1) false)
  let rounds := match atMost with
    | some count => min (count - atLeast) (size + 1)
    | none => size + 1
  marked (closure move rounds fresh seen)

namespace Pattern

/-- The places where a match may end that starts at one of `starts`. -/
def ends (text : Array Char) : Pattern → List Nat → List Nat
  | .empty, starts => starts
  | .set chars, starts =>
      (starts.filter fun place => text[place]?.any (chars.contains ·.toNat)).map (· + 1)
  | .look condition, starts => starts.filter fun place => condition.holds text place
  | .sequence first second, starts => ends text second (ends text first starts)
  | .either left right, starts => merge (ends text left starts) (ends text right starts)
  | .repeated body atLeast atMost, starts =>
      moveRepeatedly text.size (ends text body) atLeast atMost starts

def occursIn (pattern : Pattern) (chars : List Char) : Bool :=
  let text := chars.toArray
  !(pattern.ends text (List.range (text.size + 1))).isEmpty

end Pattern

end Rollout.Regex
