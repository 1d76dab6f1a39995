import Vigil.Text.Numeral

/-!
# Durations

A span of time in whole nanoseconds, at most `2 ^ 64 - 1` seconds and 999999999 nanoseconds. It is
shown in two forms. The form for messages, defined here, is one decimal number in the largest unit
that fits; the form for settings is in `Vigil.Duration.Text`.
-/

namespace Vigil

/-- The nanoseconds in a second. -/
abbrev nanosPerSecond : Nat := 1000000000

/-- The number of words of 64 bits. -/
abbrev wordSize : Nat := 0x10000000000000000

/-- A span of time. -/
structure Duration where
  nanos : Nat
  nanos_lt : nanos < wordSize * nanosPerSecond
  deriving DecidableEq, Repr

namespace Duration

/-- The span of that many nanoseconds, if it is in range. -/
def ofNanos? (n : Nat) : Option Duration :=
  if h : n < wordSize * nanosPerSecond then some ⟨n, h⟩ else none

/-- The span of a count of seconds below `2 ^ 64` and of a fraction below a second. -/
def ofParts (secs : Fin wordSize) (fraction : Fin nanosPerSecond) : Duration :=
  ⟨secs * nanosPerSecond + fraction, by
    have h1 := secs.isLt
    have h2 := fraction.isLt
    unfold nanosPerSecond wordSize at *
    omega⟩

/-- The span of that many whole seconds. -/
def seconds (n : Fin wordSize) : Duration := ofParts n 0

/-- No time at all. -/
def zero : Duration := ⟨0, by decide⟩

instance : Inhabited Duration := ⟨zero⟩

/-- The longest span. -/
def longest : Duration := ⟨wordSize * nanosPerSecond - 1, by decide⟩

/-- A span as near to a count of nanoseconds as the range allows. -/
def clamp (n : Nat) : Duration := (ofNanos? n).getD longest

/-- The whole seconds. -/
def secs (d : Duration) : Nat := d.nanos / nanosPerSecond

/-- The nanoseconds beyond the whole seconds. -/
def subsecNanos (d : Duration) : Nat := d.nanos % nanosPerSecond

/-- The whole milliseconds. -/
def millis (d : Duration) : Nat := d.nanos / 1000000

instance : LE Duration := ⟨fun a b => a.nanos ≤ b.nanos⟩

instance (a b : Duration) : Decidable (a ≤ b) := inferInstanceAs (Decidable (a.nanos ≤ b.nanos))

/-- `whole + part / 10 ^ places` with the zeros at the end left out. -/
def decimalChars (whole part places : Nat) : List Char :=
  let digits := Text.padded 10 places part
  let kept := (digits.reverse.dropWhile (· = '0')).reverse
  Text.numeral 10 whole ++ if kept.isEmpty then [] else '.' :: kept

/-- The form for messages: `1.5s`, `50ms`, `1.5µs` or `7ns`. -/
def debugText (d : Duration) : String :=
  let n := d.nanos
  if nanosPerSecond ≤ n then
    String.ofList (decimalChars (n / nanosPerSecond) (n % nanosPerSecond) 9 ++ ['s'])
  else if 1000000 ≤ n then String.ofList (decimalChars (n / 1000000) (n % 1000000) 6 ++ ['m', 's'])
  else if 1000 ≤ n then String.ofList (decimalChars (n / 1000) (n % 1000) 3 ++ ['µ', 's'])
  else String.ofList (Text.numeral 10 n ++ ['n', 's'])

end Duration

end Vigil
