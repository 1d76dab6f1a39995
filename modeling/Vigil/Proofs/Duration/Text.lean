import Mathlib
import Vigil.Duration.Text
import Vigil.Text.Fields

/-!
# Durations Read Back

The written form of a duration is a sum of counted units, and the reader takes it character by
character: a number, the name of a unit, a blank, and so on. So the written form is read part by part
(`readFrom?_parts`), each part adding its count of nanoseconds to the total, and the parts of a duration
add up to it (`sum_counts`). No bound is met on the way, since no sum of parts exceeds the duration.

## Main results

* `addUnit?_eq`: a counted unit is added without loss where the sum is in range.
* `ofText?_text`: the written form of every duration reads back as that duration.
-/

namespace Vigil.Duration

open Vigil.Text

/-! ### Characters -/

theorem decimalDigit?_digitChar {d : Nat} (h : d < 10) : decimalDigit? (Nat.digitChar d) = some d := by
  have hall : ∀ e ∈ List.range 10, decimalDigit? (Nat.digitChar e) = some e := by decide
  exact hall d (List.mem_range.mpr h)

/-- A character of a unit's name is neither a digit nor a blank. -/
theorem not_digit_of_isUnitChar {c : Char} (h : isUnitChar c = true) :
    decimalDigit? c = none ∧ isBlank c = false := by
  have hrange : (65 ≤ c.toNat ∧ c.toNat ≤ 90) ∨ (97 ≤ c.toNat ∧ c.toNat ≤ 122) ∨ c.toNat = 181 := by
    simp only [isUnitChar, Char.isAlpha, Char.isUpper, Char.isLower, Bool.or_eq_true,
      Bool.and_eq_true, decide_eq_true_eq, beq_iff_eq, UInt32.le_iff_toNat_le] at h
    rcases h with (⟨hl, hu⟩ | ⟨hl, hu⟩) | rfl
    · exact .inl ⟨hl, hu⟩
    · exact .inr (.inl ⟨hl, hu⟩)
    · exact .inr (.inr rfl)
  constructor
  · have hdigit : c.isDigit = false := by
      simp only [Char.isDigit, Bool.and_eq_false_iff, decide_eq_false_iff_not,
        UInt32.le_iff_toNat_le]
      right
      change ¬c.toNat ≤ 57
      omega
    rw [decimalDigit?, hdigit]
    rfl
  · simp [isBlank]
    omega

/-! ### Reading in parts -/

/-- Characters are read one after another. -/
theorem readFrom?_append (total : Nat) (place : Place) (xs ys : List Char) :
    readFrom? total place (xs ++ ys) =
      (readFrom? total place xs).bind fun p => readFrom? p.1 p.2 ys := by
  induction xs generalizing total place with
  | nil => rfl
  | cons c cs ih =>
    simp only [List.cons_append, readFrom?]
    cases step? total place c with
    | none => rfl
    | some p => exact ih _ _

/-- A written count is read digit by digit. -/
theorem readFrom?_numeral (total : Nat) {n : Nat} (h : n < wordSize) :
    readFrom? total .start (numeral 10 n) = some (total, .whole n) := by
  rw [numeral]
  induction n using Nat.strongRecOn with
  | _ n ih =>
    by_cases hn : n < 10
    · rw [Nat.toDigits_of_lt_base hn]
      simp only [readFrom?, step?, decimalDigit?_digitChar hn]
    · have hlast : n % 10 < 10 := Nat.mod_lt _ (by omega)
      rw [Nat.toDigits_of_base_le (by omega) (by omega), readFrom?_append, ih _ (by omega) (by omega)]
      simp only [Option.bind_some, readFrom?, step?, decimalDigit?_digitChar hlast,
        Nat.div_add_mod' n 10, word?, if_pos h, Option.map_some]

/-- Characters that a unit is named by. -/
structure Names (cs : List Char) (u : Scale) : Prop where
  nonempty : cs ≠ []
  chars : ∀ c ∈ cs, isUnitChar c = true
  reads : Scale.ofName? cs = some u

instance (cs : List Char) (u : Scale) : Decidable (Names cs u) :=
  decidable_of_iff (cs ≠ [] ∧ cs.all isUnitChar = true ∧ Scale.ofName? cs = some u)
    ⟨fun h => ⟨h.1, List.all_eq_true.mp h.2.1, h.2.2⟩,
      fun h => ⟨h.nonempty, List.all_eq_true.mpr h.chars, h.reads⟩⟩

/-- Inside the name of a unit its characters are collected. -/
theorem readFrom?_unit (total n : Nat) (part : Option Fraction) {name cs : List Char}
    (h : ∀ c ∈ cs, isUnitChar c = true) :
    readFrom? total (.unit n part name) cs = some (total, .unit n part (cs.reverse ++ name)) := by
  induction cs generalizing name with
  | nil => rfl
  | cons c cs ih =>
    rw [List.forall_mem_cons] at h
    obtain ⟨hdigit, hblank⟩ := not_digit_of_isUnitChar h.1
    simp only [readFrom?, step?, hdigit, hblank, h.1, Bool.false_eq_true, if_false, if_true, ih h.2,
      List.reverse_cons, List.append_assoc, List.singleton_append]

/-- A count and the name of its unit are read up to the end of the name. -/
theorem readFrom?_count (total : Nat) {n : Nat} {cs : List Char} {u : Scale} (h : n < wordSize)
    (hname : Names cs u) :
    readFrom? total .start (numeral 10 n ++ cs) = some (total, .unit n none cs.reverse) := by
  obtain ⟨hne, hchars, -⟩ := hname
  cases cs with
  | nil => exact absurd rfl hne
  | cons c cs =>
    rw [List.forall_mem_cons] at hchars
    obtain ⟨hdigit, hblank⟩ := not_digit_of_isUnitChar hchars.1
    rw [readFrom?_append, readFrom?_numeral total h]
    simp only [Option.bind_some, readFrom?, step?, hdigit, hblank, hchars.1, Bool.false_eq_true,
      if_false, if_true, readFrom?_unit total n none hchars.2, List.reverse_cons]

/-! ### Adding up -/

/-- The nanoseconds of a unit. -/
def Scale.nanos (u : Scale) : Nat := u.length.1 * u.length.2

/-- The grid of a unit is the nanosecond or the second. -/
theorem Scale.grid_eq (u : Scale) : u.length.2 = 1 ∨ u.length.2 = nanosPerSecond := by
  cases u
  case nanosecond | microsecond | millisecond => exact .inl rfl
  all_goals exact .inr rfl

/-- Nanoseconds below a second are added without loss. -/
theorem add?_fine {total amount : Nat} (hsum : total + amount < wordSize * nanosPerSecond)
    (h : amount < nanosPerSecond) : add? total amount 1 = some (total + amount) := by
  have hbig : nanosPerSecond + nanosPerSecond ≤ wordSize := by decide
  have hmod := Nat.mod_lt total (show 0 < nanosPerSecond by decide)
  have hle := Nat.mod_le total nanosPerSecond
  have hpart : word? (total % nanosPerSecond + amount) = some (total % nanosPerSecond + amount) :=
    if_pos (by omega)
  have htotal : total - total % nanosPerSecond + (total % nanosPerSecond + amount) = total + amount := by
    omega
  simp only [add?, if_true, hpart, htotal, ofNanos?, dif_pos hsum, Option.bind_eq_bind,
    Option.bind_some, Option.pure_def]

/-- Seconds are added without loss. -/
theorem add?_coarse {total amount : Nat}
    (hsum : total + amount * nanosPerSecond < wordSize * nanosPerSecond) :
    add? total amount nanosPerSecond = some (total + amount * nanosPerSecond) := by
  have hone : ¬nanosPerSecond = 1 := by decide
  simp only [add?, if_neg hone, ofNanos?, dif_pos hsum, Option.bind_eq_bind, Option.bind_some,
    Option.pure_def]

/-- **A counted unit is added without loss** if the sum is in range. On the grid of nanoseconds the
count has to stay below a second. -/
theorem addUnit?_eq {total n : Nat} {u : Scale}
    (hsum : total + n * u.nanos < wordSize * nanosPerSecond)
    (hfine : u.length.2 = 1 → n * u.length.1 < nanosPerSecond) :
    addUnit? total n none u = some (total + n * u.nanos) := by
  have hnanos : n * u.nanos = n * u.length.1 * u.length.2 := (Nat.mul_assoc ..).symm
  have hgrid := u.grid_eq
  suffices h : word? (n * u.length.1) = some (n * u.length.1) ∧
      add? total (n * u.length.1) u.length.2 = some (total + n * u.nanos) by
    cases hlength : u.length with
    | mk size grid =>
      rw [hlength] at h
      simp only [addUnit?, hlength, h, Option.bind_eq_bind, Option.bind_some]
  rw [hnanos] at hsum ⊢
  rcases hgrid with hgrid | hgrid
  · have hbig : nanosPerSecond ≤ wordSize := by decide
    have hlt := hfine hgrid
    rw [hgrid, Nat.mul_one] at hsum ⊢
    exact ⟨if_pos (Nat.lt_of_lt_of_le hlt hbig), add?_fine hsum hlt⟩
  · rw [hgrid] at hsum ⊢
    refine ⟨if_pos ?_, add?_coarse hsum⟩
    exact Nat.lt_of_mul_lt_mul_right (Nat.lt_of_le_of_lt (Nat.le_add_left _ _) hsum)

/-! ### Parts -/

/-- The name of a counted unit as it is written. -/
def nameChars (p : Nat × String × Bool) : List Char :=
  p.2.1.toList ++ if p.2.2 ∧ 1 < p.1 then ['s'] else []

/-- The unit that a part counts. -/
def scaleOf (p : Nat × String × Bool) : Scale := (Scale.ofName? p.2.1.toList).getD .nanosecond

/-- The nanoseconds of a part. -/
def partNanos (p : Nat × String × Bool) : Nat := p.1 * (scaleOf p).nanos

/-- A part whose text is read as its count of its unit. -/
structure Legible (p : Nat × String × Bool) : Prop where
  count_lt : p.1 < wordSize
  named : Names (nameChars p) (scaleOf p)
  fine : (scaleOf p).length.2 = 1 → p.1 * (scaleOf p).length.1 < nanosPerSecond

theorem toList_countText (p : Nat × String × Bool) :
    (countText p).toList = numeral 10 p.1 ++ nameChars p := by
  obtain ⟨n, name, plural⟩ := p
  simp only [countText, decimal, nameChars, String.toList_append, String.toList_ofList,
    List.append_assoc]
  split <;> rfl

/-- **Parts with blanks between them are read one by one**: the last stands where its name ends, and
with it all the nanoseconds add up. -/
theorem readFrom?_parts {ps : List (Nat × String × Bool)} (hne : ps ≠ []) (h : ∀ p ∈ ps, Legible p)
    {total : Nat} (hsum : total + (ps.map partNanos).sum < wordSize * nanosPerSecond) :
    ∃ before n cs u,
      readFrom? total .start (joinWith [' '] (ps.map fun p => (countText p).toList)) =
        some (before, .unit n none cs.reverse) ∧
      Scale.ofName? cs = some u ∧ addUnit? before n none u = some (total + (ps.map partNanos).sum) := by
  induction ps generalizing total with
  | nil => exact absurd rfl hne
  | cons p ps ih =>
    rw [List.forall_mem_cons] at h
    simp only [List.map_cons, List.sum_cons] at hsum ih ⊢
    have hread := readFrom?_count total h.1.count_lt h.1.named
    have hadd : addUnit? total p.1 none (scaleOf p) = some (total + partNanos p) :=
      addUnit?_eq (by rw [partNanos] at hsum; omega) h.1.fine
    cases ps with
    | nil => exact ⟨total, p.1, _, _, by rw [← hread, ← toList_countText]; rfl, h.1.named.reads, hadd⟩
    | cons q ps =>
      have hlater : total + partNanos p + ((q :: ps).map partNanos).sum < wordSize * nanosPerSecond := by
        omega
      obtain ⟨before, n, cs, u, hrest, hname, hlast⟩ := ih (List.cons_ne_nil _ _) h.2 hlater
      refine ⟨before, n, cs, u, ?_, hname, by rw [hlast, Nat.add_assoc]⟩
      have hblank : step? total (.unit p.1 none (nameChars p).reverse) ' ' =
          some (total + partNanos p, .start) := by
        have hspace : decimalDigit? ' ' = none ∧ isBlank ' ' = true := by decide
        simp only [step?, hspace, if_true, List.reverse_reverse, h.1.named.reads, hadd,
          Option.bind_eq_bind, Option.bind_some, Option.pure_def]
      rw [List.map_cons, joinWith, readFrom?_append, readFrom?_append, toList_countText,
        hread]
      simp only [Option.bind_some, readFrom?, hblank]
      exact hrest

/-! ### The parts of a duration -/

/-- The units that a duration is written in, by their names. -/
def writtenUnits : List (String × Bool × Scale) :=
  [("year", true, .year), ("month", true, .month), ("day", true, .day), ("h", false, .hour),
    ("m", false, .minute), ("s", false, .second), ("ms", false, .millisecond),
    ("us", false, .microsecond), ("ns", false, .nanosecond)]

/-- Each of these names is read as its unit, with the plural where it takes one. -/
theorem names_of_mem_writtenUnits : ∀ e ∈ writtenUnits, Names e.1.toList e.2.2 ∧
    (e.2.1 = true → Names (e.1.toList ++ ['s']) e.2.2) := by
  decide

/-- A part counts the unit that it names. -/
theorem scaleOf_of_mem {e : String × Bool × Scale} (he : e ∈ writtenUnits) (n : Nat) :
    scaleOf (n, e.1, e.2.1) = e.2.2 := by
  rw [scaleOf, (names_of_mem_writtenUnits _ he).1.reads]
  rfl

/-- A count in range of one of these units is legible. -/
theorem legible_of_mem {n : Nat} {e : String × Bool × Scale} (he : e ∈ writtenUnits)
    (hn : n < wordSize) (hfine : e.2.2.length.2 = 1 → n * e.2.2.length.1 < nanosPerSecond) :
    Legible (n, e.1, e.2.1) := by
  obtain ⟨hsingular, hplural⟩ := names_of_mem_writtenUnits _ he
  refine ⟨hn, ?_, by rwa [scaleOf_of_mem he]⟩
  rw [scaleOf_of_mem he, nameChars]
  split
  next h => exact hplural h.1
  next => rwa [List.append_nil]

/-- The counts of a duration, each with its unit. -/
def unitCounts (d : Duration) : List (Nat × String × Bool × Scale) :=
  [d.secs / 31557600, d.secs % 31557600 / 2630016, d.secs % 31557600 % 2630016 / 86400,
    d.secs % 31557600 % 2630016 % 86400 / 3600, d.secs % 31557600 % 2630016 % 86400 % 3600 / 60,
    d.secs % 31557600 % 2630016 % 86400 % 60, d.subsecNanos / 1000000, d.subsecNanos / 1000 % 1000,
    d.subsecNanos % 1000].zip writtenUnits

theorem counts_eq (d : Duration) : d.counts = d.unitCounts.map fun e => (e.1, e.2.1, e.2.2.1) := rfl

theorem mem_writtenUnits {d : Duration} {e : Nat × String × Bool × Scale} (he : e ∈ d.unitCounts) :
    e.2 ∈ writtenUnits := (List.of_mem_zip he).2

/-- A count of seconds in units of which each divides the time left over by the one before. -/
theorem mixed_radix (n a b c d : Nat) {e k : Nat} (h : d = e * k) :
    n / a * a + (n % a / b * b + (n % a % b / c * c + (n % a % b % c / d * d +
      (n % a % b % c % d / e * e + n % a % b % c % e)))) = n := by
  rw [← Nat.mod_mod_of_dvd (n % a % b % c) ⟨k, h⟩]
  simp only [Nat.div_add_mod']

/-- A count of nanoseconds in milliseconds, microseconds and nanoseconds. -/
theorem thousands (n : Nat) : n / 1000000 * 1000000 + (n / 1000 % 1000 * 1000 + n % 1000) = n := by
  omega

/-- A sum over counts of all the units. -/
theorem sum_zip (size : Scale → Nat) (years months days hours minutes secs millis micros nanos : Nat) :
    (([years, months, days, hours, minutes, secs, millis, micros, nanos].zip writtenUnits).map
      fun e => e.1 * size e.2.2.2).sum =
    years * size .year + (months * size .month + (days * size .day + (hours * size .hour +
      (minutes * size .minute + (secs * size .second + (millis * size .millisecond +
        (micros * size .microsecond + nanos * size .nanosecond))))))) := rfl

/-- The parts of a duration add up to it. -/
theorem sum_counts (d : Duration) : (d.counts.map partNanos).sum = d.nanos := by
  have hunits : ∀ e ∈ d.unitCounts,
      (partNanos ∘ fun e => (e.1, e.2.1, e.2.2.1)) e = e.1 * e.2.2.2.nanos := fun e he => by
    rw [Function.comp_apply, partNanos, scaleOf_of_mem (mem_writtenUnits he)]
  have hnanos : d.nanos = d.secs * nanosPerSecond + d.subsecNanos := by
    rw [secs, subsecNanos, Nat.div_add_mod']
  rw [counts_eq, List.map_map, List.map_congr_left hunits, unitCounts, sum_zip Scale.nanos, hnanos]
  have hsecs := mixed_radix d.secs 31557600 2630016 86400 3600 (e := 60) (k := 60) rfl
  conv => rhs; rw [← hsecs, ← thousands d.subsecNanos]
  simp only [Scale.nanos, Scale.length]
  generalize nanosPerSecond = second
  simp only [Nat.add_mul, Nat.mul_assoc, Nat.mul_one, Nat.one_mul, Nat.add_assoc]

/-- Counts in range of units from the second on, and counts below a thousand of smaller ones, are
legible. -/
theorem legible_of_mem_zip {years months days hours minutes secs millis micros nanos : Nat}
    (hsecs : ∀ n ∈ [years, months, days, hours, minutes, secs], n < wordSize)
    (hnanos : ∀ n ∈ [millis, micros, nanos], n < 1000) :
    ∀ e ∈ [years, months, days, hours, minutes, secs, millis, micros, nanos].zip writtenUnits,
      Legible (e.1, e.2.1, e.2.2.1) := by
  intro e he
  have hunit := (List.of_mem_zip he).2
  have hcoarse : ∀ u, e.2.2.2 = u → e.1 < wordSize → u.length.2 ≠ 1 →
      Legible (e.1, e.2.1, e.2.2.1) := by
    rintro _ rfl hlt hgrid
    exact legible_of_mem hunit hlt fun h => absurd h hgrid
  have hfine : ∀ u, e.2.2.2 = u → e.1 < 1000 → u.length.1 ≤ 1000000 →
      Legible (e.1, e.2.1, e.2.2.1) := by
    rintro _ rfl hlt hsize
    refine legible_of_mem hunit (Nat.lt_trans hlt (by decide)) fun _ => ?_
    calc e.1 * e.2.2.2.length.1 ≤ e.1 * 1000000 := Nat.mul_le_mul_left _ hsize
      _ < 1000 * 1000000 := Nat.mul_lt_mul_of_pos_right hlt (by decide)
  simp only [List.mem_cons, List.not_mem_nil, or_false, forall_eq_or_imp, forall_eq] at hsecs hnanos
  simp only [writtenUnits, List.zip_cons_cons, List.zip_nil_left, List.mem_cons, List.not_mem_nil,
    or_false] at he
  obtain ⟨hyears, hmonths, hdays, hhours, hminutes, hsecs⟩ := hsecs
  obtain ⟨hmillis, hmicros, hnanos⟩ := hnanos
  rcases he with rfl | rfl | rfl | rfl | rfl | rfl | rfl | rfl | rfl
  · exact hcoarse .year rfl hyears (by decide)
  · exact hcoarse .month rfl hmonths (by decide)
  · exact hcoarse .day rfl hdays (by decide)
  · exact hcoarse .hour rfl hhours (by decide)
  · exact hcoarse .minute rfl hminutes (by decide)
  · exact hcoarse .second rfl hsecs (by decide)
  · exact hfine .millisecond rfl hmillis (by decide)
  · exact hfine .microsecond rfl hmicros (by decide)
  · exact hfine .nanosecond rfl hnanos (by decide)

/-- The parts of a duration are legible. -/
theorem legible_of_mem_counts {d : Duration} : ∀ p ∈ d.counts, Legible p := by
  have hlt : d.secs < wordSize := Nat.div_lt_of_lt_mul (Nat.mul_comm _ _ ▸ d.nanos_lt)
  have hsub : d.subsecNanos < 1000 * 1000000 := Nat.mod_lt _ (by decide)
  have hdiv : ∀ n k, n ≤ d.secs → n / k < wordSize := fun n k h =>
    Nat.lt_of_le_of_lt (Nat.div_le_self n k) (Nat.lt_of_le_of_lt h hlt)
  have hmod : ∀ n k, n ≤ d.secs → n % k ≤ d.secs := fun n k h => Nat.le_trans (Nat.mod_le n k) h
  rw [counts_eq, List.forall_mem_map]
  refine legible_of_mem_zip ?_ ?_
  · simp only [List.mem_cons, List.not_mem_nil, or_false, forall_eq_or_imp, forall_eq]
    have hyear := hmod d.secs 31557600 (Nat.le_refl _)
    have hmonth := hmod _ 2630016 hyear
    have hday := hmod _ 86400 hmonth
    exact ⟨hdiv _ _ (Nat.le_refl _), hdiv _ _ hyear, hdiv _ _ hmonth, hdiv _ _ hday,
      hdiv _ _ (hmod _ _ hday), Nat.lt_of_le_of_lt (hmod _ _ hday) hlt⟩
  · simp only [List.mem_cons, List.not_mem_nil, or_false, forall_eq_or_imp, forall_eq]
    exact ⟨Nat.div_lt_of_lt_mul (Nat.mul_comm _ _ ▸ hsub), Nat.mod_lt _ (by decide),
      Nat.mod_lt _ (by decide)⟩

/-- Parts that count nothing can be left out. -/
theorem sum_filter (ps : List (Nat × String × Bool)) :
    ((ps.filter fun p => p.1 ≠ 0).map partNanos).sum = (ps.map partNanos).sum := by
  induction ps with
  | nil => rfl
  | cons p ps ih =>
    rw [List.filter_cons]
    split
    · rw [List.map_cons, List.map_cons, List.sum_cons, List.sum_cons, ih]
    next h =>
      have hzero : p.1 = 0 := by simpa using h
      rw [ih, List.map_cons, List.sum_cons, partNanos, hzero, Nat.zero_mul, Nat.zero_add]

/-- Legible parts with blanks between them read as the duration that they add up to. -/
theorem ofChars?_parts {ps : List (Nat × String × Bool)} (hne : ps ≠ []) (h : ∀ p ∈ ps, Legible p)
    {d : Duration} (hsum : (ps.map partNanos).sum = d.nanos) :
    ofChars? (joinWith [' '] (ps.map fun p => (countText p).toList)) = some d := by
  have hrange : 0 + (ps.map partNanos).sum < wordSize * nanosPerSecond := by
    rw [Nat.zero_add, hsum]
    exact d.nanos_lt
  obtain ⟨before, n, cs, u, hread, hname, hadd⟩ := readFrom?_parts hne h hrange
  have hzero : joinWith [' '] (ps.map fun p => (countText p).toList) ≠ ['0'] := by
    intro heq
    have hlone : readFrom? 0 .start ['0'] = some (0, .whole 0) := rfl
    rw [heq, hlone] at hread
    cases hread
  have hnanos : ofNanos? d.nanos = some d := dif_pos d.nanos_lt
  rw [ofChars?, if_neg hzero, hread]
  simp only [List.reverse_reverse, hname, hadd, hsum, hnanos, Nat.zero_add, Option.bind_eq_bind,
    Option.bind_some]

theorem toList_intercalate_space (ps : List (Nat × String × Bool)) :
    (" ".intercalate (ps.map countText)).toList =
      joinWith [' '] (ps.map fun p => (countText p).toList) := by
  rw [String.toList_intercalate, List.map_map]
  change [' '].intercalate _ = _
  rw [joinWith_eq_intercalate]
  rfl

/-- **The written form of a duration reads back as that duration.** -/
theorem ofText?_text (d : Duration) : ofText? d.text = some d := by
  have hlegible : ∀ p ∈ d.counts.filter fun p => p.1 ≠ 0, Legible p :=
    fun p hp => legible_of_mem_counts p (List.mem_filter.mp hp).1
  have hsum : ((d.counts.filter fun p => p.1 ≠ 0).map partNanos).sum = d.nanos := by
    rw [sum_filter, sum_counts]
  rw [ofText?, text]
  generalize (d.counts.filter fun p => p.1 ≠ 0) = ps at hlegible hsum
  cases ps with
  | nil =>
    -- no time at all is written as a count of no seconds
    have hlone : Legible (0, "s", false) :=
      legible_of_mem (e := ("s", false, .second)) (by simp [writtenUnits]) (by decide) fun _ => by decide
    have hnone : ([(0, "s", false)].map partNanos).sum = d.nanos := hsum
    exact ofChars?_parts (List.cons_ne_nil _ _) (List.forall_mem_singleton.mpr hlone) hnone
  | cons p ps =>
    rw [if_neg (by simp), toList_intercalate_space]
    exact ofChars?_parts (List.cons_ne_nil _ _) hlegible hsum

/-- Durations with one written form are equal. -/
theorem text_injective {d d' : Duration} (h : d.text = d'.text) : d = d' :=
  Option.some.inj <| calc
    some d = ofText? d.text := (ofText?_text d).symm
    _ = ofText? d'.text := by rw [h]
    _ = some d' := ofText?_text d'

end Vigil.Duration
