import Rollout.Text.Numeral
import Rollout.Text.Pieces

namespace Rollout

/-! Internet addresses of both families and their one canonical text.

An address of version 6 may be written in many ways.  It is printed in lower case
without leading zeros, and the first of its longest runs of two or more zero
groups is left out; an address that stands for one of version 4 ends with it.
-/

inductive Address where
  | v4 (octets : Vector UInt8 4)
  | v6 (groups : Vector UInt16 8)
deriving Repr, DecidableEq

namespace Address

def localhost : Address := .v4 #v[127, 0, 0, 1]

private def octet? (digits : List Char) : Option UInt8 := do
  guard (digits.length ≤ 3 && (digits.length ≤ 1 || digits.head? != some '0'))
  let value ← Text.digits? digits
  guard (value < 256)
  some value.toUInt8

private def octets? (chars : List Char) : Option (Vector UInt8 4) :=
  match (Text.splitAt '.' chars).mapM octet? with
  | some [first, second, third, fourth] => some #v[first, second, third, fourth]
  | _ => none

private def hexValue? (char : Char) : Option Nat :=
  if Text.isDigit char then some (Text.digitValue char)
  else if 'a' ≤ char && char ≤ 'f' then some (char.toNat - 'a'.toNat + 10)
  else if 'A' ≤ char && char ≤ 'F' then some (char.toNat - 'A'.toNat + 10)
  else none

private def group? (digits : List Char) : Option UInt16 := do
  guard (1 ≤ digits.length && digits.length ≤ 4)
  let values ← digits.mapM hexValue?
  some (values.foldl (fun value digit => value * 16 + digit) 0).toUInt16

private def pair (high low : UInt8) : UInt16 :=
  high.toUInt16 * 256 + low.toUInt16

/-- Groups of hexadecimal digits; the last two may be written as four octets. -/
private def groups? : List (List Char) → Option (List UInt16)
  | [] => some []
  | [last] =>
      match octets? last with
      | some octets => some [pair octets[0] octets[1], pair octets[2] octets[3]]
      | none => (group? last).map ([·])
  | piece :: rest => do some ((← group? piece) :: (← groups? rest))

private def pieces (chars : List Char) : List (List Char) :=
  if chars.isEmpty then [] else Text.splitAt ':' chars

/-- All eight groups, or two colons for the zero groups that are left out, before
which no octets may stand. -/
private def sixGroups? (chars : List Char) : Option (List UInt16) :=
  match Text.splitAtDouble ':' chars with
  | [all] => groups? (pieces all)
  | [before, after] => do
      let before ← (pieces before).mapM group?
      let after ← groups? (pieces after)
      guard (before.length + after.length < 8)
      some (before ++ List.replicate (8 - before.length - after.length) 0 ++ after)
  | _ => none

def ofText? (text : String) : Option Address :=
  match octets? text.toList with
  | some octets => some (.v4 octets)
  | none => do
      let groups ← sixGroups? text.toList
      if sized : groups.toArray.size = 8 then some (.v6 ⟨groups.toArray, sized⟩) else none

def dotted (octets : Vector UInt8 4) : String :=
  ".".intercalate (octets.toList.map toString)

def hex (group : UInt16) : String :=
  String.ofList (Nat.toDigits 16 group.toNat)

def joined (groups : List UInt16) : String :=
  ":".intercalate (groups.map hex)

/-- The place and the length of the first of the longest runs of zero groups. -/
def zeroRun (groups : List UInt16) : Nat × Nat :=
  let runs := (List.range 8).map fun place =>
    (place, ((groups.drop place).takeWhile (· = 0)).length)
  runs.foldl (fun best run => if best.2 < run.2 then run else best) (0, 0)

def toText : Address → String
  | .v4 octets => dotted octets
  | .v6 groups =>
      match groups.toList with
      | [0, 0, 0, 0, 0, 0xFFFF, high, low] =>
          let octets : Vector UInt8 4 :=
            #v[(high / 256).toUInt8, high.toUInt8, (low / 256).toUInt8, low.toUInt8]
          "::ffff:" ++ dotted octets
      | groups =>
          let (place, length) := zeroRun groups
          if length < 2 then joined groups
          else joined (groups.take place) ++ "::" ++ joined (groups.drop (place + length))

instance : ToString Address := ⟨toText⟩

end Address

end Rollout
