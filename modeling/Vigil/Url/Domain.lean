import Vigil.Unicode.HostMapping
import Vigil.Unicode.Composed
import Vigil.Unicode.Script
import Vigil.Url.Punycode

/-!
# International Domains

A domain is brought to one ASCII form: its characters are mapped and composed, it is cut into
labels, each label is checked, and a label beyond ASCII is written in its marked ASCII form. A
label that comes in that form is decoded first and held to the same rules, so that the two spellings
of a domain have one result.

The rules for a label: its characters are mapped and composed, there is no combining mark in front,
a joiner stands only where it has an effect, and, where any label of the domain holds characters
that run from right to left, directions are not mixed.
-/

namespace Vigil.Url

open Vigil.Text Vigil.Unicode

/-- ASCII characters that no domain may hold. -/
def isForbidden (c : Char) : Bool :=
  c.toNat ≤ 0x20 || c.toNat == 0x7F ||
    ['%', '#', '/', ':', '<', '>', '?', '@', '[', '\\', ']', '^', '|'].contains c

/-- Whether a character lies in ASCII. -/
def isAscii (c : Char) : Bool := c.toNat < 0x80

/-- What marks a label in ASCII form. -/
def marker : List Char := "xn--".toList

/-- Whether letters on both sides of a joiner join across it, the ones before it given in reverse. -/
def joinsAcross (before after : List Char) : Bool :=
  let previous := (before.dropWhile joinsThrough.contains).head?
  let next := (after.dropWhile joinsThrough.contains).head?
  previous.any (fun c => joinsBoth.contains c || joinsNext.contains c) &&
    next.any (fun c => joinsBoth.contains c || joinsPrevious.contains c)

/-- The class of the sign that suppresses a vowel. -/
def viramaClass : Nat := 9

/-- Whether every joiner has an effect: after a vowel sign, or, for the one that keeps letters
apart, between letters that would join. The characters before are given in reverse. -/
def joinersValid (before : List Char) : List Char → Bool
  | [] => true
  | c :: cs =>
    let afterVirama := before.head?.any fun d => combiningClass d == viramaClass
    let valid :=
      if c.toNat = 0x200C then afterVirama || joinsAcross before cs
      else if c.toNat = 0x200D then afterVirama
      else true
    valid && joinersValid (c :: before) cs

/-- The directions that the rule for mixed text tells apart. -/
inductive Direction
  | left | right | arabicNumber | europeanNumber | neutral | nonspacing
  deriving DecidableEq

/-- The direction of a character. -/
def directionOf (c : Char) : Direction :=
  if rightToLeft.contains c then .right
  else if arabicNumber.contains c then .arabicNumber
  else if europeanNumber.contains c then .europeanNumber
  else if neutral.contains c then .neutral
  else if nonspacing.contains c then .nonspacing
  else .left

/-- The direction of the last character that is no nonspacing mark. -/
def lastDirection? (ds : List Direction) : Option Direction :=
  (ds.reverse.dropWhile (· = .nonspacing)).head?

/-- Whether a label of a domain with characters from right to left keeps to one direction. -/
def directionValid (label : List Char) : Bool :=
  let ds := label.map directionOf
  match ds.head? with
  | none => true
  | some .right =>
    ds.all (· ≠ .left) &&
      (lastDirection? ds).any (fun d => d = .right ∨ d = .europeanNumber ∨ d = .arabicNumber) &&
      !(ds.contains .europeanNumber && ds.contains .arabicNumber)
  | some .left =>
    ds.all (fun d => d ≠ .right ∧ d ≠ .arabicNumber) &&
      (lastDirection? ds).any (fun d => d = .left ∨ d = .europeanNumber)
  | some _ => false

/-- Whether a domain holds characters that run from right to left. -/
def runsRightToLeft (labels : List (List Char)) : Bool :=
  labels.any fun label => label.any fun c => rightToLeft.contains c || arabicNumber.contains c

/-- Whether a character is already in the form that mapping leaves. -/
def isMapped (c : Char) : Bool := mapHostChar? c == some [c]

/-- The rules for one label by itself. In ASCII nothing composes, and there are no marks and no
joiners. -/
def labelValid (label : List Char) : Bool :=
  label.all isMapped && !marker.isPrefixOf label &&
    (label.all isAscii ||
      (composed label == label && !(label.head?.any mark.contains) && joinersValid [] label))

/-- The label that a mapped label stands for, if it keeps to the rules. -/
def readLabel? (label : List Char) : Option (List Char) :=
  if marker.isPrefixOf label then do
    let u ← Punycode.decode? (label.drop marker.length)
    if u.any (!isAscii ·) && labelValid u then some u else none
  else if labelValid label then some label
  else none

/-- The ASCII form of a label. -/
def asciiLabel (label : List Char) : List Char :=
  if label.all isAscii then label else marker ++ Punycode.encode label

/-- The ASCII form of a domain, if all its characters and labels are allowed. -/
def asciiDomain? (cs : List Char) : Option (List Char) := do
  let mapped ← cs.mapM mapHostChar?
  let text := composed mapped.flatten
  if text.any fun c => isAscii c && isForbidden c then none
  else
    let labels ← (fields '.' text).mapM readLabel?
    if runsRightToLeft labels && !labels.all directionValid then none
    else some (joinWith ['.'] (labels.map asciiLabel))

end Vigil.Url
