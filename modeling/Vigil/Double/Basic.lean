/-!
# Finite Doubles

A finite double-precision number by its sign and its magnitude code: the eleven bits of the
exponent followed by the 52 bits of the fraction. Codes are ordered as the magnitudes are, and
within one exponent they are evenly spaced; rounding uses both facts.

A decimal is a whole number of units in some power of ten. Reading a decimal rounds to nearest,
ties going to the even code, and fails past the largest finite double. Scaling a double by a power of
ten rounds as well, once for each step that it takes, so that a number which is scaled after its digits
were rounded may end up beside the nearest double.
-/

namespace Vigil

/-- The number of codes of one exponent. -/
abbrev codesPerExponent : Nat := 0x10000000000000

/-- A finite double-precision number. -/
structure Double where
  negative : Bool
  code : Nat
  code_lt : code < 2047 * codesPerExponent
  deriving DecidableEq, Repr

/-- `digits * 10 ^ exponent`, a magnitude. -/
structure Decimal where
  digits : Nat
  exponent : Int
  deriving DecidableEq, Repr

namespace Decimal

/-- The decimal as a numerator and a denominator. -/
def fraction (d : Decimal) : Nat × Nat :=
  if 0 ≤ d.exponent then (d.digits * Nat.pow 10 d.exponent.toNat, 1)
  else (d.digits, Nat.pow 10 (-d.exponent).toNat)

end Decimal

namespace Double

/-- The unit of the smallest binade: magnitudes are whole multiples of `2 ^ (-1074)`. -/
def unitExponent : Nat := 1074

/-- The magnitude of a code in units of `2 ^ (-1074)`. -/
def unitsOfCode (code : Nat) : Nat :=
  if code < 2 * codesPerExponent then code
  else (codesPerExponent + code % codesPerExponent) * Nat.pow 2 (code / codesPerExponent - 1)

/-- The magnitude in units of `2 ^ (-1074)`. -/
def units (x : Double) : Nat := unitsOfCode x.code

/-- The whole number nearest to `num / den`, the even one of two equally near. -/
def roundHalfEven (num den : Nat) : Nat :=
  let q := num / den
  let r := num % den
  if 2 * r < den then q
  else if den < 2 * r then q + 1
  else if q % 2 = 0 then q
  else q + 1

/-- The code nearest to the magnitude `num / den`. -/
def nearestCode (num den : Nat) : Nat :=
  let scaled := num * Nat.pow 2 unitExponent
  let shift := Nat.log2 (scaled / den) - 52
  shift * codesPerExponent + roundHalfEven scaled (den * Nat.pow 2 shift)

/-- The double of the given sign nearest to `num / den`, unless that is past the largest. -/
def ofFraction? (negative : Bool) (num den : Nat) : Option Double :=
  let code := nearestCode num den
  if h : code < 2047 * codesPerExponent then some ⟨negative, code, h⟩ else none

/-- Zero of either sign. -/
def zero (negative : Bool) : Double := ⟨negative, 0, by decide⟩

/-- The double of the given sign nearest to a decimal, unless that is past the largest. A decimal
of more than 400 places before the point is past it, one that starts more than 400 places after
the point rounds to zero, so that no power of ten grows beyond the text. -/
def ofDecimal? (negative : Bool) (d : Decimal) : Option Double :=
  if d.digits = 0 then some (zero negative)
  else
    let places : Int := (Nat.toDigits 10 d.digits).length + d.exponent
    if 400 < places then none
    else if places < -400 then some (zero negative)
    else ofFraction? negative d.fraction.1 d.fraction.2

/-! ### Powers of ten -/

/-- The product with a magnitude, unless that is past the largest. -/
def times? (x y : Double) : Option Double :=
  ofFraction? x.negative (x.units * y.units) (Nat.pow 2 (2 * unitExponent))

/-- The quotient by a magnitude. -/
def over? (x y : Double) : Option Double := ofFraction? x.negative x.units y.units

/-- The largest exponent of a power of ten among the doubles. -/
def longestScale : Nat := 308

/-- A power of ten. -/
def tenTo? (n : Nat) : Option Double := ofFraction? false (Nat.pow 10 n) 1

/-- A double divided by the largest power of ten, that number of times or until nothing is left. -/
def shrink? : Nat → Double → Option Double
  | 0, x => some x
  | n + 1, x =>
    if x.units = 0 then some x
    else do
      let y ← x.over? (← tenTo? longestScale)
      shrink? n y

/-- A double scaled by a power of ten. -/
def scale? (x : Double) (exponent : Int) : Option Double :=
  let n := exponent.natAbs
  if 0 ≤ exponent then
    if n ≤ longestScale then do x.times? (← tenTo? n)
    else if x.units = 0 then some x
    else none
  else do
    let steps := (n - 1) / longestScale
    let y ← x.shrink? steps
    y.over? (← tenTo? (n - steps * longestScale))

end Double

end Vigil
