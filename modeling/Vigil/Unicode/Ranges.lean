import Vigil.Text.Blank
import Vigil.Text.Fields
import Vigil.Text.Numeral

/-!
# Ranges of Code Points

A property of characters is kept as the text of its ranges, the way the character database lists
them: hexadecimal code points and ranges of them, separated by blanks.
-/

namespace Vigil.Unicode

open Vigil.Text

/-- A set of code points as inclusive ranges. -/
structure Ranges where
  spans : List (Nat × Nat)

/-- The non-empty words between the blanks of a text. -/
def words (s : String) : List (List Char) :=
  (fields ' ' (s.toList.map fun c => if isBlank c then ' ' else c)).filter (!·.isEmpty)

namespace Ranges

/-- One range, written as a code point or as two with a hyphen between. -/
def span? (word : List Char) : Option (Nat × Nat) :=
  match splitOnce '-' word with
  | none => (numeral? 16 word).map fun n => (n, n)
  | some (low, high) => do
    let l ← numeral? 16 low
    let h ← numeral? 16 high
    return (l, h)

/-- The set that a text of ranges lists. -/
def ofText (s : String) : Ranges := ⟨(words s).filterMap span?⟩

/-- Whether a character lies in one of the ranges. -/
def contains (r : Ranges) (c : Char) : Bool :=
  r.spans.any fun (low, high) => low ≤ c.toNat && c.toNat ≤ high

end Ranges

end Vigil.Unicode
