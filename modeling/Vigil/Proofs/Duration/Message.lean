import Mathlib
import Vigil.Duration.Basic

/-!
# Durations in Messages

The form of a duration for messages is one decimal number and a unit, and it is exact: the unit tells
how many places the number can have, the places left out at its end are zeros, and the number with its
zeros counts nanoseconds. So the form determines the duration, though no reader for it exists.

## Main results

* `decimalChars_inj`: a decimal number determines its whole part and its places.
* `debugText_injective`: durations with one form for messages are equal.
-/

namespace Vigil

namespace Text

theorem foldDigits?_replicate_zero (base n : Nat) (h : 0 < base) (hb : base ≤ 16) (cs : List Char) :
    foldDigits? base 0 (List.replicate n '0' ++ cs) = foldDigits? base 0 cs := by
  induction n with
  | zero => rfl
  | succ n ih =>
    have hzero : digit? base '0' = some 0 := digit?_digitChar hb h
    rw [List.replicate_succ, List.cons_append, foldDigits?, hzero]
    simpa only [Nat.zero_mul, Nat.add_zero] using ih

/-- A number with zeros in front reads as that number. -/
theorem foldDigits?_padded {base : Nat} (hb : 1 < base) (hb' : base ≤ 16) (width n : Nat) :
    foldDigits? base 0 (padded base width n) = some n := by
  rw [padded, foldDigits?_replicate_zero base _ (by omega) hb']
  exact foldDigits?_toDigits hb hb' n

/-- A number that fits has as many characters as asked for. -/
theorem length_padded {base width n : Nat} (hb : 1 < base) (hw : 0 < width) (h : n < base ^ width) :
    (padded base width n).length = width := by
  have hle : (numeral base n).length ≤ width := (Nat.length_toDigits_le_iff hb hw).mpr h
  simp only [padded, List.length_append, List.length_replicate]
  omega

end Text

namespace Duration

open Text

/-- Texts of one length that differ in leading zeros at most are equal. -/
theorem eq_of_dropWhile_zero {cs ds : List Char} (hlength : cs.length = ds.length)
    (h : cs.dropWhile (· = '0') = ds.dropWhile (· = '0')) : cs = ds := by
  induction cs generalizing ds with
  | nil => exact (List.eq_nil_of_length_eq_zero hlength.symm).symm
  | cons c cs ih =>
    cases ds with
    | nil => cases hlength
    | cons d ds =>
      rw [List.length_cons, List.length_cons, Nat.add_right_cancel_iff] at hlength
      -- what is left of a text is no longer than it
      have hshort : ∀ (e : Char) (es fs : List Char), fs.length = es.length →
          fs.dropWhile (· = '0') ≠ e :: es := fun e es fs hle heq => by
        have hlong := congrArg List.length heq
        have := (List.dropWhile_sublist (· = '0') (l := fs)).length_le
        rw [List.length_cons] at hlong
        omega
      by_cases hc : c = '0' <;> by_cases hd : d = '0'
      · subst hc hd
        rw [ih hlength (by simpa using h)]
      · exact absurd (by simpa [hc, hd] using h) (hshort d ds cs hlength)
      · exact absurd (by simpa [hc, hd] using h.symm) (hshort c cs ds hlength.symm)
      · simpa [hc, hd] using h

/-- Characters without the zeros at their end. -/
def trimmed (cs : List Char) : List Char := (cs.reverse.dropWhile (· = '0')).reverse

/-- The places of a number, without the zeros at their end, determine it. -/
theorem eq_of_trimmed_padded {places part part' : Nat} (hplaces : 0 < places)
    (hpart : part < 10 ^ places) (hpart' : part' < 10 ^ places)
    (h : trimmed (padded 10 places part) = trimmed (padded 10 places part')) : part = part' := by
  have hlength : (padded 10 places part).reverse.length = (padded 10 places part').reverse.length := by
    rw [List.length_reverse, List.length_reverse, length_padded (by omega) hplaces hpart,
      length_padded (by omega) hplaces hpart']
  have hpadded := List.reverse_inj.mp (eq_of_dropWhile_zero hlength (List.reverse_inj.mp h))
  have hread : foldDigits? 10 0 (padded 10 places part) = some part :=
    foldDigits?_padded (by omega) (by omega) places part
  rw [hpadded, foldDigits?_padded (by omega) (by omega)] at hread
  exact (Option.some.inj hread).symm

theorem isDigit_of_mem_padded {places n : Nat} {c : Char} (h : c ∈ padded 10 places n) :
    c.isDigit = true := by
  rw [padded, List.mem_append] at h
  rcases h with h | h
  · rw [List.eq_of_mem_replicate h]
    rfl
  · exact Nat.isDigit_of_mem_toDigits (by omega) (by omega) h

theorem isDigit_of_mem_trimmed {places n : Nat} {c : Char} (h : c ∈ trimmed (padded 10 places n)) :
    c.isDigit = true :=
  isDigit_of_mem_padded
    (List.mem_reverse.mp ((List.dropWhile_sublist _).subset (List.mem_reverse.mp h)))

/-- What follows the whole part of a number. -/
def pointChars (part places : Nat) : List Char :=
  let kept := trimmed (padded 10 places part)
  if kept.isEmpty then [] else '.' :: kept

theorem decimalChars_eq (whole part places : Nat) :
    decimalChars whole part places = numeral 10 whole ++ pointChars part places := rfl

/-- A decimal number consists of digits and a point. -/
theorem mem_decimalChars {whole part places : Nat} {c : Char} (h : c ∈ decimalChars whole part places) :
    (c.isDigit || c == '.') = true := by
  rw [decimalChars_eq, List.mem_append] at h
  rcases h with h | h
  · rw [Nat.isDigit_of_mem_toDigits (by omega) (by omega) h]
    rfl
  · rw [pointChars] at h
    split at h
    · cases h
    · rcases List.mem_cons.mp h with rfl | h
      · rfl
      · rw [isDigit_of_mem_trimmed h]
        rfl

/-- What follows the whole part does not begin with a digit. -/
theorem takeWhile_pointChars (part places : Nat) :
    (pointChars part places).takeWhile Char.isDigit = [] := by
  rw [pointChars]
  split <;> rfl

/-- **A decimal number determines its whole part and its places.** -/
theorem decimalChars_inj {whole whole' part part' places : Nat} (hpart : part < 10 ^ places)
    (hpart' : part' < 10 ^ places)
    (h : decimalChars whole part places = decimalChars whole' part' places) :
    whole = whole' ∧ part = part' := by
  rw [decimalChars_eq, decimalChars_eq] at h
  have hdigits : ∀ n, ∀ c ∈ numeral 10 n, c.isDigit = true := fun n c hc =>
    Nat.isDigit_of_mem_toDigits (by omega) (by omega) hc
  have hnumeral : numeral 10 whole = numeral 10 whole' := by
    have htake := congrArg (List.takeWhile Char.isDigit) h
    rwa [List.takeWhile_append_of_pos (hdigits _), List.takeWhile_append_of_pos (hdigits _),
      takeWhile_pointChars, takeWhile_pointChars, List.append_nil, List.append_nil] at htake
  have hwhole : whole = whole' := by
    have hread : numeral? 10 (numeral 10 whole) = some whole :=
      numeral?_numeral (by omega) (by omega) whole
    rw [hnumeral, numeral?_numeral (by omega) (by omega)] at hread
    exact (Option.some.inj hread).symm
  refine ⟨hwhole, ?_⟩
  rw [hnumeral] at h
  have hpoint := List.append_cancel_left h
  rcases Nat.eq_zero_or_pos places with rfl | hplaces
  · omega
  · refine eq_of_trimmed_padded hplaces hpart hpart' ?_
    rw [pointChars, pointChars] at hpoint
    grind

/-- The number of places that a duration is shown with at most, and its unit. -/
def debugUnit (d : Duration) : Nat × List Char :=
  if nanosPerSecond ≤ d.nanos then (9, ['s'])
  else if 1000000 ≤ d.nanos then (6, ['m', 's'])
  else if 1000 ≤ d.nanos then (3, ['µ', 's'])
  else (0, ['n', 's'])

/-- The form for messages is a decimal number and a unit. -/
theorem debugText_eq (d : Duration) : d.debugText =
    String.ofList (decimalChars (d.nanos / 10 ^ d.debugUnit.1) (d.nanos % 10 ^ d.debugUnit.1)
      d.debugUnit.1 ++ d.debugUnit.2) := by
  rw [debugText, debugUnit]
  split
  · rfl
  split
  · rfl
  split
  · rfl
  · have hnone : decimalChars (d.nanos / 10 ^ 0) (d.nanos % 10 ^ 0) 0 = numeral 10 d.nanos := by
      rw [decimalChars_eq, Nat.pow_zero, Nat.div_one, Nat.mod_one]
      exact List.append_nil _
    rw [hnone]

/-- The units of the form for messages, each with its number of places. -/
def debugUnits : List (Nat × List Char) :=
  [(9, ['s']), (6, ['m', 's']), (3, ['µ', 's']), (0, ['n', 's'])]

theorem debugUnit_mem (d : Duration) : d.debugUnit ∈ debugUnits := by
  rw [debugUnit]
  repeat' split
  all_goals simp [debugUnits]

/-- A unit has one number of places. -/
theorem places_of_unit {d d' : Duration} (h : d.debugUnit.2 = d'.debugUnit.2) :
    d.debugUnit.1 = d'.debugUnit.1 := by
  have hall : ∀ u ∈ debugUnits, ∀ u' ∈ debugUnits, u.2 = u'.2 → u.1 = u'.1 := by decide
  exact hall _ d.debugUnit_mem _ d'.debugUnit_mem h

/-- A unit begins with no character of a number. -/
theorem takeWhile_debugUnit (d : Duration) :
    d.debugUnit.2.takeWhile (fun c => c.isDigit || c == '.') = [] := by
  have hall : ∀ u ∈ debugUnits, u.2.takeWhile (fun c => c.isDigit || c == '.') = [] := by decide
  exact hall _ d.debugUnit_mem

/-- **Durations with one form for messages are equal.** -/
theorem debugText_injective {d d' : Duration} (h : d.debugText = d'.debugText) : d = d' := by
  rw [debugText_eq, debugText_eq, String.ofList_inj] at h
  have hnumber := congrArg (List.takeWhile fun c => c.isDigit || c == '.') h
  rw [List.takeWhile_append_of_pos fun c hc => mem_decimalChars hc,
    List.takeWhile_append_of_pos fun c hc => mem_decimalChars hc, takeWhile_debugUnit,
    takeWhile_debugUnit, List.append_nil, List.append_nil] at hnumber
  rw [hnumber] at h
  have hplaces := places_of_unit (List.append_cancel_left h)
  rw [← hplaces] at hnumber
  obtain ⟨hwhole, hpart⟩ := decimalChars_inj (Nat.mod_lt _ (Nat.pow_pos (by omega)))
    (Nat.mod_lt _ (Nat.pow_pos (by omega))) hnumber
  have hnanos : d.nanos = d'.nanos := by
    rw [← Nat.div_add_mod' d.nanos (10 ^ d.debugUnit.1), hwhole, hpart, Nat.div_add_mod']
  cases d
  cases d'
  cases hnanos
  rfl

end Duration

end Vigil
