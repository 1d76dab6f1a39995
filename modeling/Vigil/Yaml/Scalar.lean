import Vigil.Json.Reader
import Vigil.Yaml.Node

/-!
# Types of Scalars

A plain scalar has the type that its text suggests: null, a flag, a whole number in one of four
bases, a fraction, or a text. A tag of the standard types forces its type, and any other tag makes a
text of a scalar.
-/

namespace Vigil.Yaml

open Vigil.Text

/-- Whether a text is a spelling of null. -/
def isNullText (s : String) : Bool := ["null", "Null", "NULL", "~"].contains s

/-- The flag that a text spells. -/
def flag? (s : String) : Option Bool :=
  if ["true", "True", "TRUE"].contains s then some true
  else if ["false", "False", "FALSE"].contains s then some false
  else none

/-- Digits that are no number for the zero that they begin with. -/
def isPaddedNumber (cs : List Char) : Bool :=
  let digits :=
    match cs with
    | '-' :: rest => rest
    | '+' :: rest => rest
    | rest => rest
  1 < digits.length && digits.head? == some '0' && digits.all Char.isDigit

/-- The base that a text after its sign is marked with, and its digits. -/
def marked? : List Char → Option (Nat × List Char)
  | '0' :: 'x' :: rest => some (16, rest)
  | '0' :: 'o' :: rest => some (8, rest)
  | '0' :: 'b' :: rest => some (2, rest)
  | _ => none

/-- The magnitude of a whole number after its sign. -/
def magnitude? (cs : List Char) : Option Nat :=
  match marked? cs with
  | some (base, digits) => numeral? base digits
  | none => if isPaddedNumber cs then none else numeral? 10 cs

/-- A whole number of any size. -/
def wholeNumber? : List Char → Option Int
  | '-' :: rest => (magnitude? rest).map fun n => -(n : Int)
  | '+' :: rest => (magnitude? rest).map fun n => (n : Int)
  | rest => (magnitude? rest).map fun n => (n : Int)

/-- Whether a whole number fits 64 bits. -/
def fitsWord (n : Int) : Bool := -0x8000000000000000 ≤ n && n < 0x10000000000000000

/-- Whether a whole number fits 128 bits. -/
def fitsLong (n : Int) : Bool :=
  -0x80000000000000000000000000000000 ≤ n && n < 0x100000000000000000000000000000000

/-- The spellings of the fractions that are not finite, after a sign. -/
def specialFractions : List String := [".inf", ".Inf", ".INF"]

/-- The spellings of what is not a number. -/
def noNumbers : List String := [".nan", ".NaN", ".NAN"]

/-- A fraction in decimal: digits with a point anywhere, and an exponent. -/
def decimal? (negative : Bool) (cs : List Char) : Option Double := do
  let (whole, rest) := Json.spanDigits cs
  let (places, rest) :=
    match rest with
    | '.' :: rest => Json.spanDigits rest
    | rest => ([], rest)
  let digits ← numeral? 10 (whole ++ places)
  let (exponent, rest) ←
    match rest with
    | 'e' :: rest => Json.readExponent? rest
    | 'E' :: rest => Json.readExponent? rest
    | rest => some (0, rest)
  if rest.isEmpty then Double.ofDecimal? negative ⟨digits, exponent - places.length⟩ else none

/-- The fraction that a text spells. No setting takes a fraction, so the ones that are not finite
may be read as zero. -/
def fraction? (s : String) : Option Double :=
  let zero := Double.zero false
  let cs := s.toList
  let unsigned :=
    match cs with
    | '+' :: rest => rest
    | rest => rest
  if specialFractions.contains (String.ofList unsigned) || noNumbers.contains s then some zero
  else
    match cs with
    | '-' :: rest => if specialFractions.contains (String.ofList rest) then some zero else decimal? true rest
    | _ => decimal? false unsigned

/-- The value of a whole number, if it is not too long. -/
def wholeJson? (n : Int) : Option Json := if fitsWord n then some (.num (.int n)) else none

/-- The value that a plain scalar suggests. A whole number beyond 64 bits has none, one beyond 128
bits is a fraction. -/
def suggested? (s : String) : Option Json :=
  if s.isEmpty || isNullText s then some .null
  else
    match flag? s with
    | some b => some (.bool b)
    | none =>
      match (wholeNumber? s.toList).filter fitsLong with
      | some n => wholeJson? n
      | none =>
        if isPaddedNumber s.toList then some (.str s)
        else
          match fraction? s with
          | some x => some (.num (.real x))
          | none => some (.str s)

/-- Whether a tag is one of the document's own types. -/
def isLocalTag (tag : String) : Bool := "!".toList.isPrefixOf tag.toList

/-- The standard tag of a type. -/
def standardTag (type : String) : String := "tag:yaml.org,2002:" ++ type

/-- The value of a scalar. Types of the document's own have none. -/
def scalarJson? (tag : Option String) (style : Style) (text : String) : Option Json :=
  match tag with
  | none => if style = .plain then suggested? text else some (.str text)
  | some tag =>
    if isLocalTag tag then none
    else if tag = standardTag "bool" then (flag? text).map .bool
    else if tag = standardTag "int" then ((wholeNumber? text.toList).filter fitsLong).bind wholeJson?
    else if tag = standardTag "float" then (fraction? text).map fun x => .num (.real x)
    else if tag = standardTag "null" then if isNullText text then some .null else none
    else some (.str text)

end Vigil.Yaml
