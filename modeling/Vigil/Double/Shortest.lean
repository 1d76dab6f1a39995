import Vigil.Double.Basic

/-!
# Shortest Decimals

The decimal that a double is written with: the fewest digits that read back as the same double and,
of the two such decimals that can lie on one grid, the nearer. Where no decimal of at most 17
digits is found the exact value is written, so there is always an answer.
-/

namespace Vigil.Double

/-- The number of decimal places before the point of `num / den`, negative or zero when the value
is below one tenth or below one. -/
def placesBeforePoint (num den : Nat) : Int :=
  if den ≤ num then (Nat.toDigits 10 (num / den)).length
  else
    let below := (Nat.toDigits 10 (den / num)).length
    if den ≤ num * Nat.pow 10 (below - 1) then 2 - (below : Int) else 1 - (below : Int)

/-- The floor of `num / den` on the grid of multiples of `10 ^ exponent`. -/
def floorOnGrid (num den : Nat) (exponent : Int) : Nat :=
  if 0 ≤ exponent then num / (den * Nat.pow 10 exponent.toNat)
  else num * Nat.pow 10 (-exponent).toNat / den

/-- Whether the floor is at least as near to `num / den` as its successor. -/
def floorIsNearer (num den : Nat) (floor : Nat) (exponent : Int) : Bool :=
  let (gridNum, gridDen) :=
    if 0 ≤ exponent then (Nat.pow 10 exponent.toNat, 1) else (1, Nat.pow 10 (-exponent).toNat)
  let twice := 2 * num * gridDen
  let middle := (2 * floor + 1) * gridNum * den
  if twice = middle then floor % 2 == 0 else decide (twice < middle)

/-- The neighbour on the grid that reads back as `x`, the nearer one first. -/
def neighbour? (x : Double) (num den : Nat) (exponent : Int) : Option Decimal :=
  let floor := floorOnGrid num den exponent
  let order := if floorIsNearer num den floor exponent then [floor, floor + 1] else [floor + 1, floor]
  (order.map fun digits => Decimal.mk digits exponent).find? fun d =>
    ofDecimal? x.negative d = some x

/-- A decimal without zeros at the end of its digits, as far as the first argument goes. -/
def dropZeros : Nat → Decimal → Decimal
  | 0, d => d
  | fuel + 1, d => if d.digits % 10 = 0 then dropZeros fuel ⟨d.digits / 10, d.exponent + 1⟩ else d

/-- The exact value of `units * 2 ^ (-1074)`. -/
def exactDecimal (units : Nat) : Decimal := ⟨units * Nat.pow 5 unitExponent, -(unitExponent : Int)⟩

/-- The shortest decimal that reads back as `x`. -/
def shortest (x : Double) : Decimal :=
  if x.units = 0 then ⟨0, 0⟩
  else
    let num := x.units
    let den := Nat.pow 2 unitExponent
    let places := placesBeforePoint num den
    let candidates := (List.range 17).filterMap fun n => neighbour? x num den (places - (n + 1 : Nat))
    dropZeros 17 (candidates.head?.getD (exactDecimal num))

/-- The sign as a text. -/
def signChars (x : Double) : List Char := if x.negative then ['-'] else []

/-- The digits of a decimal with a point after `places` of them, zeros filled in on either side. -/
def positional (digits : List Char) (places : Int) : List Char :=
  if places ≤ 0 then ['0', '.'] ++ List.replicate (-places).toNat '0' ++ digits
  else
    let n := places.toNat
    if digits.length ≤ n then digits ++ List.replicate (n - digits.length) '0' ++ ['.', '0']
    else digits.take n ++ ['.'] ++ digits.drop n

/-- The digits of a decimal with a point after the first and the exponent that this takes. -/
def scientific (digits : List Char) (places : Int) : List Char :=
  let exponent := places - 1
  let magnitude := Nat.toDigits 10 exponent.natAbs
  let mantissa := if digits.length ≤ 1 then digits else digits.take 1 ++ ['.'] ++ digits.drop 1
  mantissa ++ ['e'] ++ (if exponent < 0 then '-' :: magnitude else magnitude)

/-- The text of a double in a document: positional from `1e-5` up to below `1e16`, scientific
elsewhere, and always with a point or an exponent. -/
def text (x : Double) : String :=
  let d := x.shortest
  let digits := Nat.toDigits 10 d.digits
  let places : Int := digits.length + d.exponent
  let body :=
    if d.digits = 0 then "0.0".toList
    else if -5 < places ∧ places ≤ 16 then positional digits places
    else scientific digits places
  String.ofList (signChars x ++ body)

end Vigil.Double
