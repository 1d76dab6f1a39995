import Vigil.Json.Basic
import Vigil.Double.Shortest
import Vigil.Text.Numeral

/-!
# Written Values

The compact text of a structured value: no blanks, fields in the order of the object, strings with
only the quote, the backslash and the control characters escaped.
-/

namespace Vigil.Json

open Vigil.Text

/-- The escape of one character inside a string, the character itself where none is needed. -/
def escapeChar (c : Char) : List Char :=
  match c with
  | '"' => ['\\', '"']
  | '\\' => ['\\', '\\']
  | '\n' => ['\\', 'n']
  | '\r' => ['\\', 'r']
  | '\t' => ['\\', 't']
  | '\x08' => ['\\', 'b']
  | '\x0c' => ['\\', 'f']
  | c => if c.toNat < 0x20 then ['\\', 'u'] ++ padded 16 4 c.toNat else [c]

/-- A string with its quotes. -/
def quote (s : String) : List Char := ['"'] ++ s.toList.flatMap escapeChar ++ ['"']

/-- The text of a number. -/
def numberChars : Number → List Char
  | .int n => if n < 0 then '-' :: numeral 10 n.natAbs else numeral 10 n.natAbs
  | .real x => x.text.toList

mutual

/-- The compact text of a value, as characters. -/
def chars : Json → List Char
  | .null => "null".toList
  | .bool true => "true".toList
  | .bool false => "false".toList
  | .num n => numberChars n
  | .str s => quote s
  | .arr items => ['['] ++ itemChars items ++ [']']
  | .obj fields => ['\x7b'] ++ fieldChars fields ++ ['\x7d']

/-- The texts of the items with commas between them. -/
def itemChars : List Json → List Char
  | [] => []
  | [v] => v.chars
  | v :: w :: rest => v.chars ++ [','] ++ itemChars (w :: rest)

/-- The texts of the fields with commas between them. -/
def fieldChars : List (String × Json) → List Char
  | [] => []
  | [(k, v)] => quote k ++ [':'] ++ v.chars
  | (k, v) :: f :: rest => quote k ++ [':'] ++ v.chars ++ [','] ++ fieldChars (f :: rest)

end

/-- The compact text of a value. -/
def text (v : Json) : String := String.ofList v.chars

end Vigil.Json
