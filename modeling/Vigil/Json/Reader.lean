import Vigil.Json.Basic
import Vigil.Text.Numeral

/-!
# Reading Values

The strict reader of structured values. Objects come out ordered by key, a whole number outside 64
bits becomes a double, and a text that holds anything but one value and blanks is refused, as is a value
that is nested too deep. A double is read fast and not always exactly: its digits are rounded before
they are scaled.

## Main definitions

* `Json.ofParts?`: the double of a number by its parts;
* `Json.ofText?`: the one value that a text holds.
-/

namespace Vigil.Json

open Vigil.Text

/-- The blanks between the tokens of a document. -/
def isSpace (c : Char) : Bool := c == ' ' || c == '\n' || c == '\t' || c == '\r'

/-- The characters after the leading blanks. -/
def skipSpace (cs : List Char) : List Char := cs.dropWhile isSpace

/-- The value of four hexadecimal digits. -/
def hex4? (a b c d : Char) : Option Nat := numeral? 16 [a, b, c, d]

/-- The character of a code unit that is no surrogate. -/
def unit? (n : Nat) : Option Char := if 0xD800 ≤ n ∧ n ≤ 0xDFFF then none else some (Char.ofNat n)

/-- The character that a pair of surrogates stands for. -/
def pair? (high low : Nat) : Option Char :=
  if 0xD800 ≤ high ∧ high ≤ 0xDBFF ∧ 0xDC00 ≤ low ∧ low ≤ 0xDFFF then
    some (Char.ofNat (0x10000 + (high - 0xD800) * 0x400 + (low - 0xDC00)))
  else none

/-- The characters of a string whose opening quote has been read, and the rest after its closing
quote. -/
def readString? : List Char → Option (List Char × List Char)
  | [] => none
  | '"' :: rest => some ([], rest)
  | '\\' :: 'u' :: a :: b :: c :: d :: rest =>
    match (hex4? a b c d).bind unit? with
    | some ch => (readString? rest).map fun (s, r) => (ch :: s, r)
    | none =>
      match rest with
      | '\\' :: 'u' :: e :: f :: g :: h :: rest =>
        match hex4? a b c d, hex4? e f g h with
        | some high, some low =>
          match pair? high low with
          | some ch => (readString? rest).map fun (s, r) => (ch :: s, r)
          | none => none
        | _, _ => none
      | _ => none
  | '\\' :: e :: rest =>
    let plain : Option Char :=
      match e with
      | '"' => some '"'
      | '\\' => some '\\'
      | '/' => some '/'
      | 'b' => some '\x08'
      | 'f' => some '\x0c'
      | 'n' => some '\n'
      | 'r' => some '\r'
      | 't' => some '\t'
      | _ => none
    match plain with
    | some ch => (readString? rest).map fun (s, r) => (ch :: s, r)
    | none => none
  | c :: rest =>
    if c.toNat < 0x20 then none else (readString? rest).map fun (s, r) => (c :: s, r)

/-- The leading digits and the rest. -/
def spanDigits (cs : List Char) : List Char × List Char :=
  (cs.takeWhile Char.isDigit, cs.dropWhile Char.isDigit)

/-- The exponent after `e`, if one is well formed. -/
def readExponent? (cs : List Char) : Option (Int × List Char) :=
  let (negative, body) :=
    match cs with
    | '-' :: r => (true, r)
    | '+' :: r => (false, r)
    | r => (false, r)
  let (digits, rest) := spanDigits body
  (numeral? 10 digits).map fun n => (if negative then -(n : Int) else n, rest)

/-- Digits put behind those of a number, as long as it fits 64 bits, with the digits that are left. -/
def significand : Nat → List Char → Nat × List Char
  | n, [] => (n, [])
  | n, c :: cs =>
    let next := n * 10 + (c.toNat - '0'.toNat)
    if next < 0x10000000000000000 then significand next cs else (n, c :: cs)

/-- The double of a number by its parts. The digits make a number of 64 bits as far as they go, and this
is rounded and then scaled. Digits that are left before the point count as powers of ten, and those
after the point are dropped. -/
def ofParts? (negative : Bool) (whole places : List Char) (exponent : Int) : Option Double := do
  let (n, left) := significand 0 whole
  let (n, dropped) := significand n places
  let x ← Double.ofFraction? negative n 1
  x.scale? (exponent + left.length - (places.length - dropped.length : Nat))

/-- The digits after a point, if there is one, and the rest. -/
def readPlaces? : List Char → Option (List Char × List Char)
  | '.' :: r =>
    let (digits, rest) := spanDigits r
    if digits.isEmpty then none else some (digits, rest)
  | r => some ([], r)

/-- The exponent of a number, if it has one, and the rest. -/
def readPower? : List Char → Option (Int × List Char)
  | 'e' :: r => readExponent? r
  | 'E' :: r => readExponent? r
  | r => some (0, r)

/-- The number of the given sign whose whole part is `whole`. -/
def readFraction? (negative : Bool) (whole : List Char) (cs : List Char) :
    Option (Number × List Char) := do
  let (places, cs) ← readPlaces? cs
  let (exponent, cs) ← readPower? cs
  let x ← ofParts? negative whole places exponent
  return (.real x, cs)

/-- Whether a text goes on with a fraction or an exponent. -/
def continuesNumber : List Char → Bool
  | '.' :: _ => true
  | 'e' :: _ => true
  | 'E' :: _ => true
  | _ => false

/-- A number and the rest. A whole number of 64 bits is exact, minus zero is a double. -/
def readNumber? (cs : List Char) : Option (Number × List Char) := do
  let (negative, body) :=
    match cs with
    | '-' :: r => (true, r)
    | r => (false, r)
  let (whole, rest) := spanDigits body
  let n ← numeral? 10 whole
  if 1 < whole.length ∧ whole.head? = some '0' then none
  else if continuesNumber rest then readFraction? negative whole rest
  else if negative then
    if 0 < n ∧ n ≤ 0x8000000000000000 then some (.int (-(n : Int)), rest)
    else readFraction? negative whole rest
  else if n < 0x10000000000000000 then some (.int n, rest)
  else readFraction? negative whole rest

/-- How deep arrays and objects may be nested in a value. -/
def deepest : Nat := 127

mutual

/-- A value and the rest, looking at no more than `fuel` nested tokens and at no more levels of arrays
and objects than the second argument says. -/
def readValue? : Nat → Nat → List Char → Option (Json × List Char)
  | 0, _, _ => none
  | fuel + 1, levels, cs =>
    match skipSpace cs with
    | 'n' :: 'u' :: 'l' :: 'l' :: rest => some (.null, rest)
    | 't' :: 'r' :: 'u' :: 'e' :: rest => some (.bool true, rest)
    | 'f' :: 'a' :: 'l' :: 's' :: 'e' :: rest => some (.bool false, rest)
    | '"' :: rest => (readString? rest).map fun (s, r) => (.str (String.ofList s), r)
    | '[' :: rest =>
      match levels with
      | 0 => none
      | levels + 1 =>
        match skipSpace rest with
        | ']' :: rest => some (.arr [], rest)
        | rest => (readItems? fuel levels rest).map fun (items, r) => (.arr items, r)
    | '\x7b' :: rest =>
      match levels with
      | 0 => none
      | levels + 1 =>
        match skipSpace rest with
        | '\x7d' :: rest => some (.obj [], rest)
        | rest => (readFields? fuel levels rest).map fun (fields, r) => (ofFields fields, r)
    | rest => (readNumber? rest).map fun (n, r) => (.num n, r)

/-- The items of an array up to its closing bracket. -/
def readItems? : Nat → Nat → List Char → Option (List Json × List Char)
  | 0, _, _ => none
  | fuel + 1, levels, cs => do
    let (v, rest) ← readValue? fuel levels cs
    match skipSpace rest with
    | ']' :: rest => some ([v], rest)
    | ',' :: rest => (readItems? fuel levels rest).map fun (vs, r) => (v :: vs, r)
    | _ => none

/-- The fields of an object up to its closing brace. -/
def readFields? : Nat → Nat → List Char → Option (List (String × Json) × List Char)
  | 0, _, _ => none
  | fuel + 1, levels, cs =>
    match skipSpace cs with
    | '"' :: rest => do
      let (key, rest) ← readString? rest
      match skipSpace rest with
      | ':' :: rest =>
        let (v, rest) ← readValue? fuel levels rest
        match skipSpace rest with
        | '\x7d' :: rest => some ([(String.ofList key, v)], rest)
        | ',' :: rest => (readFields? fuel levels rest).map fun (fs, r) => ((String.ofList key, v) :: fs, r)
        | _ => none
      | _ => none
    | _ => none

end

/-- The one value that a text holds. -/
def ofChars? (cs : List Char) : Option Json :=
  match readValue? (2 * cs.length + 1) deepest cs with
  | some (v, rest) => if (skipSpace rest).isEmpty then some v else none
  | none => none

/-- The one value that a text holds. -/
def ofText? (s : String) : Option Json := ofChars? s.toList

end Vigil.Json
