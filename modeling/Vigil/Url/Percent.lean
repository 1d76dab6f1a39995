import Vigil.Text.Numeral

/-!
# Percent Encoding

The characters that a part of a URL cannot hold as they are stand in it as the bytes of their UTF-8
form, each after a percent sign. Which characters these are differs by part. Decoding gives bytes,
for a text may hold bytes that form no character.
-/

namespace Vigil.Url

open Vigil.Text

/-- Controls and everything beyond ASCII, which no part can hold. -/
def isControl (c : Char) : Bool := c.toNat < 0x20 || 0x7E < c.toNat

/-- The characters that a fragment cannot hold. -/
def fragmentSet (c : Char) : Bool := isControl c || [' ', '"', '<', '>', '`'].contains c

/-- The characters that a query cannot hold. -/
def querySet (c : Char) : Bool := isControl c || [' ', '"', '#', '<', '>', '\''].contains c

/-- The characters that a path segment cannot hold. -/
def pathSet (c : Char) : Bool := fragmentSet c || ['#', '?', '\x7b', '\x7d'].contains c

/-- The characters that a user name or a password cannot hold. -/
def userinfoSet (c : Char) : Bool :=
  pathSet c || ['/', ':', ';', '=', '@', '[', '\\', ']', '^', '|'].contains c

/-- A byte after a percent sign. -/
def percentByte (b : UInt8) : List Char := '%' :: (padded 16 2 b.toNat).map Char.toUpper

/-- A character as it stands in a part that cannot hold the characters of `set`. -/
def encodeChar (set : Char → Bool) (c : Char) : List Char :=
  if set c then (String.utf8EncodeChar c).flatMap percentByte else [c]

/-- A text as it stands in a part that cannot hold the characters of `set`. -/
def percentEncode (set : Char → Bool) (cs : List Char) : List Char := cs.flatMap (encodeChar set)

/-- The bytes of a text whose escapes are undone. An incomplete escape stands for itself. -/
def percentDecode : List Char → List UInt8
  | [] => []
  | '%' :: a :: b :: cs =>
    match digit? 16 a, digit? 16 b with
    | some x, some y => UInt8.ofNat (x * 16 + y) :: percentDecode cs
    | _, _ => 37 :: percentDecode (a :: b :: cs)
  | c :: cs => String.utf8EncodeChar c ++ percentDecode cs

/-- The characters that bytes form, if they are well formed. -/
def utf8Chars? (bytes : List UInt8) : Option (List Char) :=
  (ByteArray.mk bytes.toArray).utf8Decode?.map Array.toList

end Vigil.Url
