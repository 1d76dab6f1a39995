import Vigil.Unicode.Ranges

/-!
# Characters by Table

A function from code points to texts, listed the way the character database lists a property:
`c:x.y` sends the character `c` to `x` and `y`, `a-b:x` sends the characters from `a` to `b` to
those from `x` on, `a-b/s:x` does so for every `s`-th of them, and `c:` sends `c` to nothing.
-/

namespace Vigil.Unicode

open Vigil.Text

/-- One line of a table: every `stride`-th character of a range, and where the first of them goes. -/
structure Mapping where
  low : Nat
  high : Nat
  stride : Nat
  target : List Nat

namespace Mapping

/-- The code points separated by dots. -/
def points? (cs : List Char) : Option (List Nat) :=
  if cs.isEmpty then some [] else (fields '.' cs).mapM (numeral? 16)

/-- One word of a table. -/
def ofWord? (word : List Char) : Option Mapping := do
  let (source, target) ← splitOnce ':' word
  let target ← points? target
  let (range, stride) :=
    match splitOnce '/' source with
    | none => (source, some 1)
    | some (range, stride) => (range, numeral? 16 stride)
  let stride ← stride
  let (low, high) ← Ranges.span? range
  return ⟨low, high, stride, target⟩

/-- What a table sends a code point to, if it mentions it. A stride of zero sends the whole range to
one place, a longer target is meant as it stands. -/
def image? (m : Mapping) (n : Nat) : Option (List Nat) :=
  if m.low ≤ n ∧ n ≤ m.high then
    let offset := n - m.low
    if m.stride = 0 then some m.target
    else if offset % m.stride = 0 then
      match m.target with
      | [x] => some [x + offset]
      | xs => some xs
    else none
  else none

end Mapping

/-- The lines of a table. -/
structure Table where
  mappings : List Mapping

namespace Table

/-- The table that a text lists. -/
def ofText (s : String) : Table := ⟨(words s).filterMap Mapping.ofWord?⟩

/-- What the table sends a character to, if it mentions it. -/
def find? (t : Table) (c : Char) : Option (List Char) :=
  (t.mappings.findSome? fun m => m.image? c.toNat).map (·.map Char.ofNat)

end Table

end Vigil.Unicode
