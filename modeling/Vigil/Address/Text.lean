import Vigil.Address.Basic
import Vigil.Text.Numeral
import Vigil.Text.Fields

/-!
# Texts of Addresses

An address of version four is written as four decimal octets. One of version six is written in the
canonical form: groups in lower-case hexadecimal without leading zeros, the first longest run of at
least two zero groups replaced by `::`, and a mapped address with its last 32 bits as octets.

Reading is strict. An octet has no leading zero, a group has at most four digits, `::` stands for
at least one group, and octets may stand for the last two groups.
-/

namespace Vigil.Address

open Vigil.Text

/-- The decimal octets of an address of version four, separated by dots. -/
def dotted (a : BitVec 32) : List Char := joinWith ['.'] ((octets a).map (numeral 10))

/-- The groups in hexadecimal, separated by colons. -/
def colonGroups (gs : List Nat) : List Char := joinWith [':'] (gs.map (numeral 16))

/-- The number of zeros at the front. -/
def leadingZeros (gs : List Nat) : Nat := (gs.takeWhile (· = 0)).length

/-- The position and the length of the first longest run of zeros. -/
def longestZeros (gs : List Nat) : Nat × Nat :=
  (List.range gs.length).foldl
    (fun best start =>
      let run := leadingZeros (gs.drop start)
      if best.2 < run then (start, run) else best)
    (0, 0)

/-- The groups with the first longest run of at least two zeros left out. -/
def compressed (gs : List Nat) : List Char :=
  let (start, run) := longestZeros gs
  if 2 ≤ run then colonGroups (gs.take start) ++ [':', ':'] ++ colonGroups (gs.drop (start + run))
  else colonGroups gs

/-- The canonical text of an address, as characters. -/
def chars : Address → List Char
  | .v4 a => dotted a
  | .v6 a =>
    match mapped? a with
    | some m => "::ffff:".toList ++ dotted m
    | none => compressed (groups a)

/-- The canonical text of an address. -/
def text (a : Address) : String := String.ofList a.chars

/-- A decimal octet without leading zeros. -/
def octet? (cs : List Char) : Option Nat :=
  if cs.length = 1 ∨ (cs.length ≤ 3 ∧ cs.head? ≠ some '0') then
    (numeral? 10 cs).filter (· < 256)
  else none

/-- An address of version four from its four octets. -/
def readV4? (cs : List Char) : Option (BitVec 32) := do
  let parts ← (fields '.' cs).mapM octet?
  if parts.length = 4 then some (ofOctets parts) else none

/-- A group of one to four hexadecimal digits. -/
def group? (cs : List Char) : Option Nat :=
  if cs.length ≤ 4 then numeral? 16 cs else none

/-- Groups from the fields between colons, the last of which may hold four octets. -/
def groupsOfFields? : List (List Char) → Option (List Nat)
  | [] => some []
  | [f] =>
    match group? f with
    | some g => some [g]
    | none => (readV4? f).map fun a => [a.toNat / 65536, a.toNat % 65536]
  | f :: fs => do
    let g ← group? f
    let gs ← groupsOfFields? fs
    return g :: gs

/-- Groups from a text that may be empty. -/
def groupsOfText? (cs : List Char) : Option (List Nat) :=
  if cs.isEmpty then some [] else groupsOfFields? (fields ':' cs)

/-- The texts before and after the first double colon, if there is one. -/
def splitGap : List Char → Option (List Char × List Char)
  | ':' :: ':' :: cs => some ([], cs)
  | c :: cs => (splitGap cs).map fun (before, after) => (c :: before, after)
  | [] => none

/-- An address of version six from its groups. -/
def readV6? (cs : List Char) : Option (BitVec 128) :=
  match splitGap cs with
  | none => do
    let gs ← groupsOfFields? (fields ':' cs)
    if gs.length = 8 then some (ofGroups gs) else none
  | some (before, after) => do
    let front ← if before.isEmpty then some [] else (fields ':' before).mapM group?
    let back ← groupsOfText? after
    if front.length + back.length ≤ 7 then
      some (ofGroups (front ++ List.replicate (8 - front.length - back.length) 0 ++ back))
    else none

/-- An address of either version from its characters. -/
def ofChars? (cs : List Char) : Option Address :=
  match readV4? cs with
  | some a => some (.v4 a)
  | none => (readV6? cs).map .v6

/-- An address of either version from its text. -/
def ofText? (s : String) : Option Address := ofChars? s.toList

end Vigil.Address
