/-!
# Numerals

Natural numbers written in a base up to sixteen. Writing is canonical (no leading zero, lower-case
letters), reading accepts leading zeros and either case of a letter.

## Main results

* `numeral?_numeral`: a written number reads back, in every base from two to sixteen.
-/

namespace Vigil.Text

/-- The value of a digit below `base`, letters counting from ten in either case. -/
def digit? (base : Nat) (c : Char) : Option Nat :=
  let n := c.toNat
  let v := if 0x30 ≤ n ∧ n ≤ 0x39 then n - 0x30
    else if 0x61 ≤ n ∧ n ≤ 0x7A then n - 0x61 + 10
    else if 0x41 ≤ n ∧ n ≤ 0x5A then n - 0x41 + 10
    else base
  if v < base then some v else none

/-- The number that digits stand for when they follow the digits of `acc`. -/
def foldDigits? (base : Nat) : Nat → List Char → Option Nat
  | acc, [] => some acc
  | acc, c :: cs =>
    match digit? base c with
    | some d => foldDigits? base (acc * base + d) cs
    | none => none

/-- The number written in `base`, if there is at least one character and all are digits. -/
def numeral? (base : Nat) (cs : List Char) : Option Nat :=
  if cs.isEmpty then none else foldDigits? base 0 cs

/-- The digits of `n` in `base`, without leading zeros. -/
def numeral (base n : Nat) : List Char := Nat.toDigits base n

/-- The decimal text of `n`. -/
def decimal (n : Nat) : String := String.ofList (numeral 10 n)

/-- `n` in `base`, with zeros in front up to `width` characters. -/
def padded (base width n : Nat) : List Char :=
  let digits := numeral base n
  List.replicate (width - digits.length) '0' ++ digits

theorem digit?_digitChar {base d : Nat} (hb : base ≤ 16) (h : d < base) :
    digit? base (Nat.digitChar d) = some d := by
  have hall : ∀ b ∈ List.range 17, ∀ e ∈ List.range b, digit? b (Nat.digitChar e) = some e := by
    decide
  exact hall base (List.mem_range.mpr (by omega)) d (List.mem_range.mpr h)

theorem foldDigits?_append (base acc : Nat) (xs ys : List Char) :
    foldDigits? base acc (xs ++ ys) = (foldDigits? base acc xs).bind (foldDigits? base · ys) := by
  induction xs generalizing acc with
  | nil => rfl
  | cons c xs ih =>
    simp only [List.cons_append, foldDigits?]
    cases digit? base c with
    | none => rfl
    | some d => exact ih _

theorem foldDigits?_toDigits {base : Nat} (hb : 1 < base) (hb' : base ≤ 16) (n : Nat) :
    foldDigits? base 0 (Nat.toDigits base n) = some n := by
  induction n using Nat.strongRecOn with
  | _ n ih =>
    by_cases h : n < base
    · rw [Nat.toDigits_of_lt_base h, foldDigits?, digit?_digitChar hb' h]
      simp [foldDigits?]
    · rw [Nat.toDigits_of_base_le hb (by omega), foldDigits?_append, ih _ (Nat.div_lt_self (by omega) hb)]
      simp only [Option.bind_some, foldDigits?]
      rw [digit?_digitChar hb' (Nat.mod_lt _ (by omega))]
      simp only [Option.some.injEq]
      exact Nat.div_add_mod' n base

/-- A written number reads back. -/
theorem numeral?_numeral {base : Nat} (hb : 1 < base) (hb' : base ≤ 16) (n : Nat) :
    numeral? base (numeral base n) = some n := by
  rw [numeral?, numeral, if_neg]
  · exact foldDigits?_toDigits hb hb' n
  · rw [List.isEmpty_iff]
    exact Nat.toDigits_ne_nil

/-- What reads as a number consists of digits. -/
theorem isSome_digit?_of_foldDigits? {base acc n : Nat} {cs : List Char}
    (h : foldDigits? base acc cs = some n) : ∀ c ∈ cs, (digit? base c).isSome := by
  induction cs generalizing acc with
  | nil => exact fun _ hc => absurd hc List.not_mem_nil
  | cons c cs ih =>
    rw [foldDigits?] at h
    split at h
    next d hd => exact List.forall_mem_cons.mpr ⟨hd ▸ rfl, ih h⟩
    next => cases h

/-- What reads as a number consists of digits. -/
theorem isSome_digit?_of_numeral? {base n : Nat} {cs : List Char} (h : numeral? base cs = some n) :
    ∀ c ∈ cs, (digit? base c).isSome := by
  rw [numeral?] at h
  split at h
  · cases h
  · exact isSome_digit?_of_foldDigits? h

/-- A written number consists of digits. -/
theorem isSome_digit?_of_mem_numeral {base n : Nat} (hb : 1 < base) (hb' : base ≤ 16) {c : Char}
    (h : c ∈ numeral base n) : (digit? base c).isSome :=
  isSome_digit?_of_numeral? (numeral?_numeral hb hb' n) c h

/-- A written number has a digit. -/
theorem numeral_ne_nil (base n : Nat) : numeral base n ≠ [] := Nat.toDigits_ne_nil

/-- A written number has no leading zero. -/
theorem head?_numeral {n : Nat} (h : 0 < n) : (numeral 10 n).head? ≠ some '0' := by
  rw [numeral]
  induction n using Nat.strongRecOn with
  | _ n ih =>
    by_cases hn : n < 10
    · have hall : ∀ d ∈ List.range 10, 0 < d → [Nat.digitChar d].head? ≠ some '0' := by decide
      rw [Nat.toDigits_of_lt_base hn]
      exact hall n (List.mem_range.mpr hn) h
    · have hhead := ih (n / 10) (by omega) (by omega)
      obtain ⟨c, cs, hcs⟩ := List.exists_cons_of_ne_nil (Nat.toDigits_ne_nil (b := 10) (n := n / 10))
      rw [Nat.toDigits_of_base_le (by omega) (by omega), hcs, List.cons_append]
      rwa [hcs] at hhead

end Vigil.Text
