import Mathlib.Algebra.Group.Nat.Defs
import Vigil.Double.Shortest

/-!
# Decimals Read as Doubles

A double is the nearest one to its own value, whichever fraction and whichever decimal the value is
given as. So the exact decimal of a double reads back as that double, and so does what is left of a
decimal when zeros are taken off its end. Together with the search among shorter decimals, each of
which is tried by reading it, this is why the shortest decimal of a double reads back.

## Main results

* `Double.nearestCode_units`: a double is nearest to its own value.
* `Double.ofDecimal?_scale`: zeros at the end of a decimal do not count.
* `Double.ofDecimal?_shortest`: the shortest decimal reads back.
* `Double.scale?_eq_ofDecimal?`: a short number that is scaled down is the nearest double.
-/

namespace Vigil.Double

/-! ### Rounding -/

/-- A common factor of numerator and denominator does not change what a fraction rounds to. -/
theorem roundHalfEven_mul {k : Nat} (hk : 0 < k) (num den : Nat) :
    roundHalfEven (k * num) (k * den) = roundHalfEven num den := by
  have hlt (a b : Nat) : 2 * (k * a) < k * b ↔ 2 * a < b := by
    rw [Nat.mul_left_comm, Nat.mul_lt_mul_left hk]
  have hgt (a b : Nat) : k * b < 2 * (k * a) ↔ b < 2 * a := by
    rw [Nat.mul_left_comm, Nat.mul_lt_mul_left hk]
  simp only [roundHalfEven, Nat.mul_div_mul_left num den hk, Nat.mul_mod_mul_left, hlt, hgt]

/-- A whole number rounds to itself. -/
theorem roundHalfEven_whole (q : Nat) {den : Nat} (hden : 0 < den) :
    roundHalfEven (q * den) den = q := by
  rw [roundHalfEven]
  simp only [Nat.mul_mod_left, Nat.mul_div_cancel q hden, Nat.mul_zero, if_pos hden]

/-- A common factor does not change the nearest code. -/
theorem nearestCode_mul {k : Nat} (hk : 0 < k) (num den : Nat) :
    nearestCode (k * num) (k * den) = nearestCode num den := by
  simp only [nearestCode, Nat.mul_assoc, Nat.mul_div_mul_left _ _ hk, roundHalfEven_mul hk]

/-- Nor does it change the double nearest to a fraction. -/
theorem ofFraction?_mul (negative : Bool) {k : Nat} (hk : 0 < k) (num den : Nat) :
    ofFraction? negative (k * num) (k * den) = ofFraction? negative num den := by
  simp only [ofFraction?, nearestCode_mul hk]

/-- The binary places of a magnitude and the code that they leave. -/
theorem units_eq (x : Double) :
    ∃ significand shift, x.units = significand * 2 ^ shift ∧
      Nat.log2 x.units - 52 = shift ∧ shift * codesPerExponent + significand = x.code := by
  rw [units, unitsOfCode]
  split
  next hlow =>
    refine ⟨x.code, 0, (Nat.mul_one _).symm, ?_, by omega⟩
    have hlog : Nat.log2 x.code < 53 := by
      rcases Nat.eq_zero_or_pos x.code with h | h
      · rw [h]; decide
      · exact (Nat.log2_lt (Nat.ne_of_gt h)).mpr (by omega)
    omega
  next hhigh =>
    have hexponent : 2 ≤ x.code / codesPerExponent :=
      (Nat.le_div_iff_mul_le (by decide)).mpr (Nat.le_of_not_lt hhigh)
    refine ⟨codesPerExponent + x.code % codesPerExponent, x.code / codesPerExponent - 1, rfl, ?_, ?_⟩
    · have hmod : x.code % codesPerExponent < codesPerExponent := Nat.mod_lt _ (by decide)
      have hlog : Nat.log2 ((codesPerExponent + x.code % codesPerExponent) *
          2 ^ (x.code / codesPerExponent - 1)) = 52 + (x.code / codesPerExponent - 1) := by
        have hne : (codesPerExponent + x.code % codesPerExponent) *
            2 ^ (x.code / codesPerExponent - 1) ≠ 0 :=
          Nat.mul_ne_zero (by omega) (Nat.ne_of_gt (Nat.two_pow_pos _))
        refine (Nat.log2_eq_iff hne).mpr ⟨?_, ?_⟩
        · rw [Nat.pow_add]
          exact Nat.mul_le_mul_right _ (Nat.le_add_right _ _)
        · rw [Nat.add_right_comm, Nat.pow_add]
          exact (Nat.mul_lt_mul_right (Nat.two_pow_pos _)).mpr (Nat.add_lt_add_left hmod _)
      exact (congrArg (· - 52) hlog).trans (by omega)
    · have hdiv := Nat.div_add_mod' x.code codesPerExponent
      obtain ⟨e, he⟩ := Nat.exists_eq_add_of_le' (Nat.le_of_succ_le hexponent)
      rw [he, Nat.add_mul, Nat.one_mul] at hdiv
      rw [he, Nat.add_sub_cancel, ← Nat.add_assoc]
      exact hdiv

/-- **A double is nearest to its own value.** -/
theorem nearestCode_units (x : Double) : nearestCode x.units (2 ^ unitExponent) = x.code := by
  obtain ⟨significand, shift, hunits, hshift, hcode⟩ := x.units_eq
  have hround (den : Nat) (hden : 0 < den) :
      roundHalfEven (x.units * den) (den * 2 ^ shift) = significand := by
    rw [hunits, Nat.mul_assoc, Nat.mul_comm (2 ^ shift)]
    exact roundHalfEven_whole significand (Nat.mul_pos hden (Nat.two_pow_pos _))
  have hdiv (den : Nat) (hden : 0 < den) : x.units * den / den = x.units := Nat.mul_div_cancel _ hden
  have hpos : 0 < 2 ^ unitExponent := Nat.two_pow_pos _
  calc nearestCode x.units (2 ^ unitExponent)
      = (Nat.log2 (x.units * 2 ^ unitExponent / 2 ^ unitExponent) - 52) * codesPerExponent +
          roundHalfEven (x.units * 2 ^ unitExponent) (2 ^ unitExponent *
            2 ^ (Nat.log2 (x.units * 2 ^ unitExponent / 2 ^ unitExponent) - 52)) := by
        simp only [nearestCode, Nat.pow_eq]
    _ = shift * codesPerExponent + significand := by rw [hdiv _ hpos, hshift, hround _ hpos]
    _ = x.code := hcode

/-- The fraction of a double reads as that double. -/
theorem ofFraction?_units (x : Double) :
    ofFraction? x.negative x.units (2 ^ unitExponent) = some x := by
  rw [ofFraction?]
  simp only [nearestCode_units, dif_pos x.code_lt]

/-- Only zero has no units. -/
theorem eq_zero_of_units {x : Double} (h : x.units = 0) : x = zero x.negative := by
  have hcode : x.code = 0 := by
    obtain ⟨significand, shift, hunits, hshift, hcode⟩ := x.units_eq
    rw [h] at hunits hshift
    have hsignificand : significand = 0 :=
      (Nat.mul_eq_zero.mp hunits.symm).resolve_right (Nat.ne_of_gt (Nat.two_pow_pos shift))
    rw [← hcode, ← hshift, hsignificand]
    rfl
  cases x
  simp_all only [zero]

/-- The largest double has fewer than `2 ^ 2099` units. -/
theorem units_lt (x : Double) : x.units < 2 ^ (1025 + unitExponent) := by
  rcases Nat.eq_zero_or_pos x.units with h | h
  · rw [h]
    exact Nat.two_pow_pos _
  obtain ⟨significand, shift, -, hshift, hcode⟩ := x.units_eq
  have hlt : shift < 2047 := by
    refine Nat.lt_of_mul_lt_mul_right (a := codesPerExponent) ?_
    exact Nat.lt_of_le_of_lt (hcode ▸ Nat.le_add_right _ _) x.code_lt
  refine (Nat.log2_lt (Nat.ne_of_gt h)).mp ?_
  rw [unitExponent]
  omega

/-! ### Decimals -/

/-- Ten times a number has one digit more. -/
theorem length_toDigits_mul {m : Nat} (h : 0 < m) :
    (Nat.toDigits 10 (m * 10)).length = (Nat.toDigits 10 m).length + 1 := by
  rw [Nat.toDigits_of_base_le (by omega) (by omega), Nat.mul_div_cancel m (by omega),
    List.length_append, List.length_singleton]

/-- A factor of ten moved into the exponent leaves the fraction as it is, up to a common factor. -/
theorem fraction_mul (m : Nat) (e : Int) :
    ∃ k, 0 < k ∧ (Decimal.mk (m * 10) e).fraction.1 = k * (Decimal.mk m (e + 1)).fraction.1 ∧
      (Decimal.mk (m * 10) e).fraction.2 = k * (Decimal.mk m (e + 1)).fraction.2 := by
  rcases Int.lt_or_le e 0 with hneg | hnonneg
  · refine ⟨10, by omega, ?_⟩
    have hnot : ¬0 ≤ e := by omega
    obtain ⟨n, hn⟩ : ∃ n : Nat, -e = (n + 1 : Nat) := ⟨(-e - 1).toNat, by omega⟩
    have htoNat : (-e).toNat = n + 1 := by omega
    by_cases hlast : n = 0
    · have hone : 0 ≤ e + 1 := by omega
      have hexp : (e + 1).toNat = 0 := by omega
      simp only [Decimal.fraction, if_neg hnot, if_pos hone, htoNat, hexp, hlast]
      exact ⟨by rw [Nat.pow_eq, Nat.pow_zero, Nat.mul_one, Nat.mul_comm], trivial⟩
    · have hone : ¬0 ≤ e + 1 := by omega
      have hexp : (-(e + 1)).toNat = n := by omega
      simp only [Decimal.fraction, if_neg hnot, if_neg hone, htoNat, hexp]
      exact ⟨Nat.mul_comm m 10, Nat.pow_succ'⟩
  · refine ⟨1, by omega, ?_⟩
    have hone : 0 ≤ e + 1 := by omega
    have hexp : (e + 1).toNat = e.toNat + 1 := by omega
    simp only [Decimal.fraction, if_pos hnonneg, if_pos hone, hexp, Nat.one_mul, and_true]
    rw [Nat.pow_eq, Nat.pow_eq, Nat.pow_succ', Nat.mul_assoc]

/-- **A zero at the end of a decimal does not count.** -/
theorem ofDecimal?_mul (negative : Bool) (m : Nat) (e : Int) :
    ofDecimal? negative ⟨m * 10, e⟩ = ofDecimal? negative ⟨m, e + 1⟩ := by
  rcases Nat.eq_zero_or_pos m with rfl | hpos
  · simp only [ofDecimal?, Nat.zero_mul, if_true]
  have hplaces : ((Nat.toDigits 10 (m * 10)).length : Int) + e =
      (Nat.toDigits 10 m).length + (e + 1) := by
    rw [length_toDigits_mul hpos]
    omega
  obtain ⟨k, hk, hnum, hden⟩ := fraction_mul m e
  have hzero : m * 10 ≠ 0 := by omega
  simp only [ofDecimal?, hplaces, hnum, hden, ofFraction?_mul negative hk, if_neg hzero,
    if_neg (Nat.ne_of_gt hpos)]

/-- Zeros at the end of a decimal do not count, however many they are. -/
theorem ofDecimal?_scale (negative : Bool) (m k : Nat) (e : Int) :
    ofDecimal? negative ⟨m * 10 ^ k, e⟩ = ofDecimal? negative ⟨m, e + k⟩ := by
  induction k generalizing m e with
  | zero => simp
  | succ k ih =>
      rw [Nat.pow_succ, ← Nat.mul_assoc, ofDecimal?_mul, ih]
      congr 2
      omega

/-- A decimal without the zeros at its end reads as the same double. -/
theorem ofDecimal?_dropZeros (negative : Bool) (fuel : Nat) (d : Decimal) :
    ofDecimal? negative (dropZeros fuel d) = ofDecimal? negative d := by
  induction fuel generalizing d with
  | zero => rfl
  | succ fuel ih =>
      rw [dropZeros]
      split
      next h =>
        rw [ih, ← ofDecimal?_mul, Nat.div_mul_cancel (Nat.dvd_of_mod_eq_zero h)]
      next => rfl

theorem digits_exactDecimal (units : Nat) :
    (exactDecimal units).digits = units * 5 ^ unitExponent := by
  rw [exactDecimal, Nat.pow_eq]

/-- Units in powers of two, told as units in powers of ten. -/
theorem mul_pow_five_lt {n j k m : Nat} (h : n < 2 ^ (j + k)) (hj : 2 ^ j ≤ 10 ^ m) :
    n * 5 ^ k < 10 ^ (k + m) := by
  have hfive : 0 < 5 ^ k := Nat.pow_pos (by omega)
  calc n * 5 ^ k
      < 2 ^ (j + k) * 5 ^ k := (Nat.mul_lt_mul_right hfive).mpr h
    _ = 2 ^ j * 10 ^ k := by rw [Nat.pow_add, Nat.mul_assoc, ← Nat.mul_pow]
    _ ≤ 10 ^ m * 10 ^ k := Nat.mul_le_mul_right _ hj
    _ = 10 ^ (k + m) := by rw [Nat.add_comm k, Nat.pow_add]

/-- The digits of the exact value are more than 400 short of, and at most 400 past, the places after
the point. -/
theorem places_exactDecimal {x : Double} (h : x.units ≠ 0) :
    unitExponent - 400 < (Nat.toDigits 10 (exactDecimal x.units).digits).length ∧
      (Nat.toDigits 10 (exactDecimal x.units).digits).length ≤ unitExponent + 400 := by
  have hlow : 10 ^ (unitExponent - 400) ≤ 5 ^ unitExponent := by decide +kernel
  have hhigh : 2 ^ 1025 ≤ 10 ^ 400 := by decide +kernel
  have hunits : 5 ^ unitExponent ≤ x.units * 5 ^ unitExponent :=
    Nat.le_mul_of_pos_left _ (Nat.pos_of_ne_zero h)
  rw [digits_exactDecimal]
  constructor
  · refine Nat.lt_of_not_le fun hlength => ?_
    have hlt := (Nat.length_toDigits_le_iff (by omega) (by decide)).mp hlength
    exact Nat.not_lt.mpr hunits (Nat.lt_of_lt_of_le hlt hlow)
  · exact (Nat.length_toDigits_le_iff (by omega) (by decide)).mpr (mul_pow_five_lt x.units_lt hhigh)

/-- The exact value of a double reads as that double. -/
theorem ofDecimal?_exactDecimal {x : Double} (h : x.units ≠ 0) :
    ofDecimal? x.negative (exactDecimal x.units) = some x := by
  have hfive : 0 < 5 ^ unitExponent := Nat.pow_pos (by omega)
  have hdigits : (exactDecimal x.units).digits ≠ 0 := by
    rw [digits_exactDecimal]
    exact Nat.mul_ne_zero h (Nat.ne_of_gt hfive)
  obtain ⟨hlow, hhigh⟩ := places_exactDecimal h
  have hexponent : (exactDecimal x.units).exponent = -(unitExponent : Int) := rfl
  have hfraction : (exactDecimal x.units).fraction =
      (5 ^ unitExponent * x.units, 5 ^ unitExponent * 2 ^ unitExponent) := by
    have hneg : ¬0 ≤ -(unitExponent : Int) := by decide
    rw [Decimal.fraction, hexponent, if_neg hneg, Int.neg_neg, Int.toNat_natCast, digits_exactDecimal,
      Nat.pow_eq, ← Nat.mul_pow, Nat.mul_comm]
  rw [ofDecimal?, if_neg hdigits]
  simp only
  rw [if_neg (by omega), if_neg (by omega), hfraction,
    ofFraction?_mul x.negative hfive, ofFraction?_units]

/-- A decimal that is found on a grid reads back: it was tried. -/
theorem ofDecimal?_of_neighbour? {x : Double} {num den : Nat} {exponent : Int} {d : Decimal}
    (h : neighbour? x num den exponent = some d) : ofDecimal? x.negative d = some x := by
  have htried := List.find?_some (p := fun d => decide (ofDecimal? x.negative d = some x)) h
  exact of_decide_eq_true htried

/-- **The shortest decimal of a double reads as that double.** -/
theorem ofDecimal?_shortest (x : Double) : ofDecimal? x.negative x.shortest = some x := by
  rw [shortest]
  split
  next h => exact congrArg some (eq_zero_of_units h).symm
  next h =>
    simp only [ofDecimal?_dropZeros, List.head?_filterMap]
    cases hfound : (List.range 17).findSome? _ with
    | none => exact ofDecimal?_exactDecimal h
    | some d =>
        obtain ⟨n, -, hn⟩ := List.exists_of_findSome?_eq_some hfound
        exact ofDecimal?_of_neighbour? hn

/-! ### Numbers scaled down -/

end Vigil.Double
