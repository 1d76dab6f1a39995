/-!
# Punycode

An international label is carried in ASCII by its ASCII characters, a hyphen, and a series of
numbers that say where the other characters are inserted, in ascending order of code point. A number
is written least significant digit first in a base that shrinks digit by digit, around a bias that
follows the sizes seen so far.

## Main definitions

* `Punycode.encode`, `Punycode.decode?`: a label to and from its ASCII form, without the marker.
-/

namespace Vigil.Punycode

/-- The letter or digit of a value below 36. -/
def digitChar (d : Nat) : Char := if d < 26 then Char.ofNat (0x61 + d) else Char.ofNat (0x30 + (d - 26))

/-- The value of a letter, in either case, or of a digit. -/
def digit? (c : Char) : Option Nat :=
  let n := c.toNat
  if 0x61 ≤ n ∧ n ≤ 0x7A then some (n - 0x61)
  else if 0x41 ≤ n ∧ n ≤ 0x5A then some (n - 0x41)
  else if 0x30 ≤ n ∧ n ≤ 0x39 then some (n - 0x30 + 26)
  else none

theorem digit?_digitChar {d : Nat} (h : d < 36) : digit? (digitChar d) = some d := by
  have hall : ∀ e ∈ List.range 36, digit? (digitChar e) = some e := by decide
  exact hall d (List.mem_range.mpr h)

/-- The least value that is not the last digit, at place `k` (counted in steps of 36). -/
def threshold (bias k : Nat) : Nat := if k ≤ bias then 1 else min 26 (k - bias)

theorem one_le_threshold (bias k : Nat) : 1 ≤ threshold bias k := by
  unfold threshold
  split <;> omega

theorem threshold_le (bias k : Nat) : threshold bias k ≤ 26 := by
  unfold threshold
  split <;> omega

/-- The bias after a number of mean size `delta`, with the part of it found so far. -/
def settle (delta k : Nat) : Nat :=
  if 455 < delta then settle (delta / 35) (k + 36) else k + 36 * delta / (delta + 38)
termination_by delta
decreasing_by omega

/-- The bias after the number `delta`, with `count` characters in place, the first time or later. -/
def adapt (delta count : Nat) (first : Bool) : Nat :=
  let scaled := if first then delta / 700 else delta / 2
  settle (scaled + scaled / count) 0

/-- The digits of a number from place `k` on. -/
def encodeNumber (bias k n : Nat) : List Char :=
  let t := threshold bias k
  if n < t then [digitChar n]
  else digitChar (t + (n - t) % (36 - t)) :: encodeNumber bias (k + 36) ((n - t) / (36 - t))
termination_by n
decreasing_by
  have h1 := one_le_threshold bias k
  have h2 := threshold_le bias k
  have h3 := Nat.div_le_self (n - threshold bias k) (36 - threshold bias k)
  omega

/-- What insertion carries from one character to the next: the count of positions passed since the
last insertion, the bias, and the characters in place. -/
structure Cursor where
  delta : Nat
  bias : Nat
  inPlace : Nat

/-- The numbers for the insertions of the code point `point` while passing over the text, and the
cursor after it. -/
def encodePoint (first : Nat) (point : Nat) : List Char → Cursor → List Char × Cursor
  | [], cur => ([], cur)
  | c :: cs, cur =>
    if c.toNat < point then encodePoint first point cs { cur with delta := cur.delta + 1 }
    else if c.toNat = point then
      let next : Cursor :=
        ⟨0, adapt cur.delta (cur.inPlace + 1) (cur.inPlace == first), cur.inPlace + 1⟩
      let (out, last) := encodePoint first point cs next
      (encodeNumber cur.bias 36 cur.delta ++ out, last)
    else encodePoint first point cs cur

/-- The numbers for all code points in ascending order, the ones below `from` being done. -/
def encodePoints (first : Nat) (text : List Char) : List Nat → Nat → Cursor → List Char
  | [], _, _ => []
  | p :: ps, start, cur =>
    let (out, last) := encodePoint first p text { cur with delta := cur.delta + (p - start) * (cur.inPlace + 1) }
    out ++ encodePoints first text ps (p + 1) { last with delta := last.delta + 1 }

/-- A number put in its place among ascending ones, once. -/
def insertAscending (n : Nat) : List Nat → List Nat
  | [] => [n]
  | m :: ms => if n < m then n :: m :: ms else if n = m then m :: ms else m :: insertAscending n ms

/-- The code points beyond ASCII in ascending order. -/
def foreignPoints (text : List Char) : List Nat :=
  ((text.filter fun c => 0x80 ≤ c.toNat).map Char.toNat).foldr insertAscending []

/-- The ASCII characters of a text. -/
def basicChars (text : List Char) : List Char := text.filter fun c => c.toNat < 0x80

/-- The ASCII form of a label. -/
def encode (text : List Char) : List Char :=
  let basic := basicChars text
  let start := basic.length
  basic ++ (if basic.isEmpty then [] else ['-']) ++
    encodePoints start text (foreignPoints text) 0x80 ⟨0, 72, start⟩

/-- A number from its digits, from place `k` on, and the rest of the text. -/
def decodeNumber? (bias : Nat) : Nat → Nat → List Char → Option (Nat × List Char)
  | _, _, [] => none
  | k, weight, c :: cs =>
    match digit? c with
    | none => none
    | some d =>
      if d < threshold bias k then some (d * weight, cs)
      else
        (decodeNumber? bias (k + 36) (weight * (36 - threshold bias k)) cs).map fun (n, r) =>
          (d * weight + n, r)

theorem length_decodeNumber? {bias k weight n : Nat} {cs rest : List Char}
    (h : decodeNumber? bias k weight cs = some (n, rest)) : rest.length < cs.length := by
  induction cs generalizing k weight n with
  | nil => simp [decodeNumber?] at h
  | cons c cs ih =>
    rw [decodeNumber?] at h
    split at h
    · simp at h
    · split at h
      · simp only [Option.some.injEq, Prod.mk.injEq] at h
        simp [h.2]
      · obtain ⟨⟨m, r⟩, hm, he⟩ := Option.map_eq_some_iff.1 h
        obtain ⟨-, rfl⟩ := Prod.mk.inj he
        exact Nat.lt_succ_of_lt (ih hm)

/-- A code point that is a character. -/
def char? (n : Nat) : Option Char :=
  if n < 0xD800 ∨ (0xDFFF < n ∧ n < 0x110000) then some (Char.ofNat n) else none

/-- The text with one insertion after another, from the position and the code point of the last. -/
def insertAll? (bias point position : Nat) (text : List Char) : List Char → Option (List Char)
  | [] => some text
  | c :: cs =>
    match h : decodeNumber? bias 36 1 (c :: cs) with
    | none => none
    | some (n, rest) =>
      let count := text.length + 1
      let reached := position + n
      match char? (point + reached / count) with
      | none => none
      | some ch =>
        have : rest.length < (c :: cs).length := length_decodeNumber? h
        insertAll? (adapt n count (position == 0)) (point + reached / count)
          (reached % count + 1) (text.insertIdx (reached % count) ch) rest
termination_by cs => cs.length
decreasing_by exact this

/-- The parts before and after the last hyphen. A hyphen in front does not separate. -/
def splitBasic (cs : List Char) : List Char × List Char :=
  let tail := cs.reverse.takeWhile (· ≠ '-')
  if tail.length + 1 < cs.length then (cs.take (cs.length - tail.length - 1), tail.reverse)
  else ([], cs)

/-- The label of an ASCII form. -/
def decode? (cs : List Char) : Option (List Char) :=
  let (basic, extended) := splitBasic cs
  if basic.all fun c => c.toNat < 0x80 then insertAll? 72 0x80 0 basic extended else none

end Vigil.Punycode
