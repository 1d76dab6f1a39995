import Vigil.Duration.Basic
import Vigil.Text.Blank

/-!
# Durations in Settings

A duration is written as a sum of counted units, largest unit first: `1h 30m 5ms`. A year is 365.25
days and a month 30.44 days. Reading is more liberal than writing: units in any order and repeated,
long unit names, blanks between and inside the numbers, and a decimal fraction where the unit is a
whole multiple of it. A number or a sum that does not fit 64 bits is refused.
-/

namespace Vigil.Duration

open Vigil.Text

/-- The units that a duration is counted in. -/
inductive Scale
  | nanosecond | microsecond | millisecond | second | minute | hour | day | week | month | year
  deriving DecidableEq, Repr

namespace Scale

/-- The length of a unit: as a count of `1` or of `10 ^ 9` nanoseconds, the finer grid first. -/
def length : Scale → Nat × Nat
  | nanosecond => (1, 1)
  | microsecond => (1000, 1)
  | millisecond => (1000000, 1)
  | second => (1, nanosPerSecond)
  | minute => (60, nanosPerSecond)
  | hour => (3600, nanosPerSecond)
  | day => (86400, nanosPerSecond)
  | week => (604800, nanosPerSecond)
  | month => (2630016, nanosPerSecond)
  | year => (31557600, nanosPerSecond)

/-- The grid on which a decimal fraction of a unit has to lie: nanoseconds for units up to the
minute, whole seconds for longer ones. There is no fraction of a nanosecond. -/
def fractionLength : Scale → Option (Nat × Nat)
  | nanosecond => none
  | second => some (1000000000, 1)
  | minute => some (60000000000, 1)
  | s => some s.length

/-- The unit of a name. -/
def ofName? (name : List Char) : Option Scale :=
  let s := String.ofList name
  if ["nanos", "nsec", "ns"].contains s then some nanosecond
  else if ["usec", "us", "µs"].contains s then some microsecond
  else if ["millis", "msec", "ms"].contains s then some millisecond
  else if ["seconds", "second", "secs", "sec", "s"].contains s then some second
  else if ["minutes", "minute", "mins", "min", "m"].contains s then some minute
  else if ["hours", "hour", "hrs", "hr", "h"].contains s then some hour
  else if ["days", "day", "d"].contains s then some day
  else if ["weeks", "week", "wks", "wk", "w"].contains s then some week
  else if ["months", "month", "M"].contains s then some month
  else if ["years", "year", "yrs", "yr", "y"].contains s then some year
  else none

end Scale

/-- A count that fits 64 bits. -/
def word? (n : Nat) : Option Nat := if n < wordSize then some n else none

/-- A decimal fraction by its digits and the power of ten they are out of. -/
structure Fraction where
  numerator : Nat
  denominator : Nat

/-- `total` nanoseconds and `amount` of a grid more. On the grid of nanoseconds the part below a
second is added up first, and that sum has to fit 64 bits as well. -/
def add? (total amount grid : Nat) : Option Nat := do
  let part ← if grid = 1 then word? (total % nanosPerSecond + amount) else some 0
  let sum ← ofNanos? (if grid = 1 then total - total % nanosPerSecond + part else total + amount * grid)
  return sum.nanos

/-- `total` nanoseconds and a counted unit more. -/
def addUnit? (total count : Nat) (fraction : Option Fraction) (scale : Scale) : Option Nat := do
  let (size, grid) := scale.length
  let whole ← word? (count * size)
  let total ← add? total whole grid
  match fraction with
  | none => some total
  | some f =>
    let (size, grid) ← scale.fractionLength
    let scaled ← word? (f.numerator * size)
    if scaled % f.denominator = 0 then add? total (scaled / f.denominator) grid else none

/-- Whether a character can stand in the name of a unit. -/
def isUnitChar (c : Char) : Bool := c.isAlpha || c == 'µ'

/-- Where a reader stands inside a duration. -/
inductive Place
  /-- Before a number. -/
  | start
  /-- Inside the whole part of a number. -/
  | whole (count : Nat)
  /-- After the point of a number. -/
  | fraction (count : Nat) (part : Fraction)
  /-- Inside the name of a unit, kept in reverse. -/
  | unit (count : Nat) (part : Option Fraction) (name : List Char)

/-- The value of an ASCII decimal digit. -/
def decimalDigit? (c : Char) : Option Nat := if c.isDigit then some (c.toNat - 48) else none

/-- One character read, from the place and the nanoseconds before it. -/
def step? (total : Nat) (place : Place) (c : Char) : Option (Nat × Place) :=
  match place with
  | .start =>
    match decimalDigit? c with
    | some d => some (total, .whole d)
    | none => if isBlank c then some (total, .start) else none
  | .whole n =>
    match decimalDigit? c with
    | some d => (word? (n * 10 + d)).map fun m => (total, .whole m)
    | none =>
      if isBlank c then some (total, .whole n)
      else if isUnitChar c then some (total, .unit n none [c])
      else if c = '.' then some (total, .fraction n ⟨0, 1⟩)
      else none
  | .fraction n f =>
    match decimalDigit? c with
    | some d => do
      let denominator ← word? (f.denominator * 10)
      let numerator ← word? (f.numerator * 10 + d)
      return (total, .fraction n ⟨numerator, denominator⟩)
    | none =>
      if isBlank c then some (total, .fraction n f)
      else if isUnitChar c ∧ f.denominator ≠ 1 then some (total, .unit n (some f) [c])
      else none
  | .unit n f name =>
    match decimalDigit? c with
    | some d => do
      let scale ← Scale.ofName? name.reverse
      let total ← addUnit? total n f scale
      return (total, .whole d)
    | none =>
      if isBlank c then do
        let scale ← Scale.ofName? name.reverse
        let total ← addUnit? total n f scale
        return (total, .start)
      else if isUnitChar c then some (total, .unit n f (c :: name))
      else none

/-- All characters read, from a place and the nanoseconds before it. -/
def readFrom? (total : Nat) (place : Place) : List Char → Option (Nat × Place)
  | [] => some (total, place)
  | c :: cs =>
    match step? total place c with
    | some (total, place) => readFrom? total place cs
    | none => none

/-- The duration that characters stand for: one or more counted units, or a lone zero. -/
def ofChars? (cs : List Char) : Option Duration :=
  if cs = ['0'] then some zero
  else
    match readFrom? 0 .start cs with
    | some (total, .unit n f name) => do
      let scale ← Scale.ofName? name.reverse
      let total ← addUnit? total n f scale
      ofNanos? total
    | some (total, .start) =>
      if cs.any (fun c => !isBlank c) then ofNanos? total else none
    | _ => none

/-- The duration that a text stands for. -/
def ofText? (s : String) : Option Duration := ofChars? s.toList

/-- The units that a duration is written in, each with its count, largest first. A unit of calendar
length takes a plural `s`. -/
def counts (d : Duration) : List (Nat × String × Bool) :=
  let secs := d.secs
  let nanos := d.subsecNanos
  let inYear := secs % 31557600
  let inMonth := inYear % 2630016
  let inDay := inMonth % 86400
  [(secs / 31557600, "year", true),
    (inYear / 2630016, "month", true),
    (inMonth / 86400, "day", true),
    (inDay / 3600, "h", false),
    (inDay % 3600 / 60, "m", false),
    (inDay % 60, "s", false),
    (nanos / 1000000, "ms", false),
    (nanos / 1000 % 1000, "us", false),
    (nanos % 1000, "ns", false)]

/-- A count with its unit. -/
def countText : Nat × String × Bool → String
  | (n, name, plural) => Text.decimal n ++ name ++ if plural ∧ 1 < n then "s" else ""

/-- The form for settings. -/
def text (d : Duration) : String :=
  let parts := (d.counts.filter fun p => p.1 ≠ 0).map countText
  if parts.isEmpty then "0s" else " ".intercalate parts

end Vigil.Duration
