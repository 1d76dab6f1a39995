import Vigil.Proofs.Address.Text
import Vigil.Url.Domain

/-!
# Domains in ASCII

What comes out of the reading of a domain, whatever goes in, are characters of ASCII that a domain
may hold (`asciiDomain?_allowed`). The one way in for other characters would be a label in marked
form, whose letters stand for insertions. But insertions only make characters beyond ASCII, which
leave again in marked form.

Conversely a domain of such characters is left as it is, apart from the case of its letters
(`asciiDomain?_of_ascii`), unless one of its labels bears the mark.

## Main results

* `asciiDomain?_allowed`: the characters of a domain that is read.
* `asciiDomain?_of_ascii`: the domain that a text in ASCII stands for.
-/

namespace Vigil.Unicode

open Vigil.Text

/-! ### Mapping and composition of ASCII -/

/-- In ASCII only letters are mapped, to lower case. -/
theorem mapHostChar?_of_lt {c : Char} (h : c.toNat < 0x80) : mapHostChar? c = some [c.toLower] := by
  rw [mapHostChar?, if_pos h]

/-- Characters below the combining marks are starters. -/
theorem combiningClass_of_lt {c : Char} (h : c.toNat < 0x80) : combiningClass c = 0 := by
  rw [combiningClass, if_pos (by omega)]

/-- Starters that combine with nothing before them stay where they are. -/
theorem composeFrom_of_lt (starter : Char) {cs : List Char} (h : ∀ c ∈ cs, c.toNat < 0x80) :
    composeFrom starter [] 0 cs = starter :: cs := by
  induction cs generalizing starter with
  | nil => rfl
  | cons c cs ih =>
      rw [List.forall_mem_cons] at h
      have hc : compose? starter c = none := by
        rw [compose?, if_pos (by omega)]
      rw [composeFrom, combiningClass_of_lt h.1, hc]
      simp [ih c h.2]

/-- Starters are not moved. -/
theorem orderMarks_of_lt {cs : List Char} (h : ∀ c ∈ cs, c.toNat < 0x80) : orderMarks [] cs = cs := by
  induction cs with
  | nil => rfl
  | cons c cs ih =>
      rw [List.forall_mem_cons] at h
      rw [orderMarks, if_pos (combiningClass_of_lt h.1), ih h.2]
      rfl

/-- A character of ASCII has no parts. -/
theorem decompose_of_lt (parts : Char → Option (List Char)) (depth : Nat) {c : Char}
    (h : c.toNat < 0x80) : decompose parts depth c = [c] := by
  cases depth with
  | zero => rfl
  | succ depth => rw [decompose, if_pos (by omega)]

/-- A text in ASCII is in composed form. -/
theorem composed_of_lt {cs : List Char} (h : ∀ c ∈ cs, c.toNat < 0x80) : composed cs = cs := by
  have hapart (parts : Char → Option (List Char)) (depth : Nat) :
      cs.flatMap (decompose parts depth) = cs := by
    induction cs with
    | nil => exact List.flatMap_nil
    | cons c cs ih =>
        rw [List.forall_mem_cons] at h
        rw [List.flatMap_cons, ih h.2, decompose_of_lt _ _ h.1, List.singleton_append]
  rw [composed, hapart, orderMarks_of_lt h]
  cases cs with
  | nil => rfl
  | cons c cs =>
      rw [List.forall_mem_cons] at h
      rw [composeAll, if_pos (combiningClass_of_lt h.1), composeFrom_of_lt c h.2]

/-! ### Directions -/

/-- The ranges that a text lists, in terms of its characters. -/
theorem spans_ofText {s : String} {cs : List Char} (h : s = String.ofList cs) :
    (Ranges.ofText s).spans =
      ((fields ' ' (cs.map fun c => if isBlank c then ' ' else c)).filter (!·.isEmpty)).filterMap
        Ranges.span? := by
  rw [Ranges.ofText, words, h, String.toList_ofList]

/-- Ranges that begin beyond ASCII hold none of its characters. -/
theorem Ranges.contains_of_lt {r : Ranges} (hr : r.spans.all (fun p => 0x80 ≤ p.1) = true) {c : Char}
    (h : c.toNat < 0x80) : r.contains c = false := by
  refine List.any_eq_false.mpr fun p hp => ?_
  have hlow := of_decide_eq_true (List.all_eq_true.mp hr p hp)
  simp only [Bool.and_eq_true, decide_eq_true_eq]
  omega

/-- No character of ASCII runs from right to left. -/
theorem rightToLeft_of_lt {c : Char} (h : c.toNat < 0x80) : rightToLeft.contains c = false := by
  refine Ranges.contains_of_lt ?_ h
  rw [rightToLeft, spans_ofText rfl]
  decide +kernel

/-- No character of ASCII is an Arabic digit. -/
theorem arabicNumber_of_lt {c : Char} (h : c.toNat < 0x80) : arabicNumber.contains c = false := by
  refine Ranges.contains_of_lt ?_ h
  rw [arabicNumber, spans_ofText rfl]
  decide +kernel

end Vigil.Unicode

namespace Vigil.Punycode

/-! ### Marked forms -/

/-- A digit of a marked form. -/
def IsDigit (c : Char) : Prop := ∃ d < 36, c = digitChar d

/-- What holds of all digits can be checked one after another. -/
theorem forall_isDigit {P : Char → Prop} (h : ∀ d ∈ List.range 36, P (digitChar d)) {c : Char}
    (hc : IsDigit c) : P c := by
  obtain ⟨d, hd, rfl⟩ := hc
  exact h d (List.mem_range.mpr hd)

/-- A number is written in digits. -/
theorem isDigit_of_mem_encodeNumber {bias k n : Nat} {c : Char} (h : c ∈ encodeNumber bias k n) :
    IsDigit c := by
  fun_induction encodeNumber bias k n with
  | case1 k n t ht =>
      have hle := threshold_le bias k
      obtain rfl := List.mem_singleton.mp h
      exact ⟨n, by omega, rfl⟩
  | case2 k n t ht ih =>
      have hle := threshold_le bias k
      have hlt : (n - t) % (36 - t) < 36 - t := Nat.mod_lt _ (by omega)
      rcases List.mem_cons.mp h with rfl | h
      · exact ⟨_, by omega, rfl⟩
      · exact ih h

/-- The insertions of a code point are written in digits. -/
theorem isDigit_of_mem_encodePoint {first point : Nat} {text : List Char} {cur : Cursor} {c : Char}
    (h : c ∈ (encodePoint first point text cur).1) : IsDigit c := by
  induction text generalizing cur with
  | nil => cases h
  | cons d text ih =>
      rw [encodePoint] at h
      split at h
      · exact ih h
      · split at h
        · rcases List.mem_append.mp h with h | h
          · exact isDigit_of_mem_encodeNumber h
          · exact ih h
        · exact ih h

/-- All insertions are written in digits. -/
theorem isDigit_of_mem_encodePoints {first start : Nat} {text : List Char} {points : List Nat}
    {cur : Cursor} {c : Char} (h : c ∈ encodePoints first text points start cur) : IsDigit c := by
  induction points generalizing start cur with
  | nil => cases h
  | cons p points ih =>
      rcases List.mem_append.mp h with h | h
      · exact isDigit_of_mem_encodePoint h
      · exact ih h

/-- A marked form holds the characters of ASCII of its label, hyphens and digits. -/
theorem mem_encode {text : List Char} {c : Char} (h : c ∈ encode text) :
    (c ∈ text ∧ c.toNat < 0x80) ∨ c = '-' ∨ IsDigit c := by
  rcases List.mem_append.mp h with h | h
  · rcases List.mem_append.mp h with h | h
    · obtain ⟨hmem, hlt⟩ := List.mem_filter.mp h
      exact .inl ⟨hmem, of_decide_eq_true hlt⟩
    · split at h
      · cases h
      · exact .inr (.inl (List.mem_singleton.mp h))
  · exact .inr (.inr (isDigit_of_mem_encodePoints h))

/-- An insertion makes no character of ASCII. -/
theorem le_of_char? {n : Nat} {c : Char} (hn : 0x80 ≤ n) (h : char? n = some c) : 0x80 ≤ c.toNat := by
  rw [char?] at h
  split at h
  next hvalid =>
    obtain rfl := Option.some.inj h
    have hchar : n.isValidChar := by
      rw [Nat.isValidChar]
      omega
    rw [Char.ofNat, dif_pos hchar]
    exact hn
  next => cases h

/-- Insertions leave the characters of ASCII as they are. -/
theorem mem_of_insertAll? {bias point position : Nat} {text cs out : List Char} (hpoint : 0x80 ≤ point)
    (h : insertAll? bias point position text cs = some out) {c : Char} (hc : c ∈ out)
    (hlt : c.toNat < 0x80) : c ∈ text := by
  fun_induction insertAll? bias point position text cs with
  | case1 => exact Option.some.inj h ▸ hc
  | case2 => cases h
  | case3 => cases h
  | case4 bias point position text d cs n rest hn count reached ch hch hrest ih =>
      have hnext : 0x80 ≤ point + reached / count := Nat.le_trans hpoint (Nat.le_add_right _ _)
      have hle := le_of_char? hnext hch
      have hmem := ih hnext h
      have hindex : reached % count ≤ text.length := Nat.le_of_lt_succ (Nat.mod_lt _ (Nat.succ_pos _))
      rcases (List.mem_insertIdx hindex).mp hmem with rfl | hmem
      · omega
      · exact hmem

/-- **A marked form brings in no character of ASCII that does not stand in it.** -/
theorem mem_of_decode? {cs out : List Char} (h : decode? cs = some out) {c : Char} (hc : c ∈ out)
    (hlt : c.toNat < 0x80) : c ∈ cs := by
  rw [decode?] at h
  split at h
  next basic extended hsplit =>
    split at h
    · have hmem := mem_of_insertAll? (Nat.le_refl _) h hc hlt
      rw [splitBasic] at hsplit
      split at hsplit
      · obtain ⟨rfl, -⟩ := Prod.mk.inj hsplit
        exact List.mem_of_mem_take hmem
      · obtain ⟨rfl, -⟩ := Prod.mk.inj hsplit
        cases hmem
    · cases h

end Vigil.Punycode

namespace Vigil.Url

open Vigil.Text Vigil.Unicode

/-! ### What a domain may hold -/

/-- A character that may stand in a domain as it is. -/
def IsAllowed (c : Char) : Prop := isAscii c = true ∧ isForbidden c = false

/-- The digits of marked forms may stand in a domain. -/
theorem isAllowed_of_isDigit {c : Char} (h : Punycode.IsDigit c) : IsAllowed c :=
  Punycode.forall_isDigit (P := fun c => isAscii c = true ∧ isForbidden c = false) (by decide) h

/-- The characters of ASCII of a label that is read stood in it before. -/
theorem mem_of_readLabel? {label out : List Char} (h : readLabel? label = some out) {c : Char}
    (hc : c ∈ out) (hascii : isAscii c = true) : c ∈ label := by
  rw [readLabel?] at h
  split at h
  · obtain ⟨u, hu, h⟩ := Option.bind_eq_some_iff.mp h
    split at h
    · obtain rfl := Option.some.inj h
      exact List.mem_of_mem_drop (Punycode.mem_of_decode? hu hc (of_decide_eq_true hascii))
    · cases h
  · split at h
    · exact Option.some.inj h ▸ hc
    · cases h

/-- The ASCII form of a label holds characters of ASCII of the label, the mark and digits. -/
theorem mem_asciiLabel {label : List Char} {c : Char} (h : c ∈ asciiLabel label) :
    (c ∈ label ∧ isAscii c = true) ∨ c ∈ marker ∨ Punycode.IsDigit c := by
  rw [asciiLabel] at h
  split at h
  next hall => exact .inl ⟨h, List.all_eq_true.mp hall c h⟩
  next =>
    rcases List.mem_append.mp h with hmark | h
    · exact .inr (.inl hmark)
    · rcases Punycode.mem_encode h with ⟨hmem, hlt⟩ | rfl | hdigit
      · exact .inl ⟨hmem, decide_eq_true hlt⟩
      · exact .inr (.inl (by decide))
      · exact .inr (.inr hdigit)

/-- It holds what may stand in a domain, if the characters of ASCII of the label do. -/
theorem isAllowed_of_mem_asciiLabel {label : List Char}
    (h : ∀ c ∈ label, isAscii c = true → isForbidden c = false) {c : Char}
    (hc : c ∈ asciiLabel label) :
    IsAllowed c := by
  rcases mem_asciiLabel hc with ⟨hmem, hascii⟩ | hmark | hdigit
  · exact ⟨hascii, h c hmem hascii⟩
  · exact forall_mem_of_all (P := fun c => isAscii c = true ∧ isForbidden c = false)
      (by decide) c hmark
  · exact isAllowed_of_isDigit hdigit

/-- **A domain that is read holds nothing but what may stand in one.** -/
theorem asciiDomain?_allowed {cs name : List Char} (h : asciiDomain? cs = some name) :
    ∀ c ∈ name, IsAllowed c := by
  obtain ⟨mapped, -, h⟩ := Option.bind_eq_some_iff.mp h
  dsimp only at h
  split at h
  · cases h
  next hforbidden =>
    obtain ⟨labels, hlabels, h⟩ := Option.bind_eq_some_iff.mp h
    split at h
    · cases h
    · obtain rfl := Option.some.inj h
      intro c hc
      rcases mem_joinWith hc with hdot | ⟨f, hf, hc⟩
      · obtain rfl := List.mem_singleton.mp hdot
        exact ⟨rfl, rfl⟩
      · obtain ⟨label, hlabel, rfl⟩ := List.mem_map.mp hf
        refine isAllowed_of_mem_asciiLabel (fun d hd hascii => ?_) hc
        obtain ⟨source, hsource, hread⟩ := (correspond_of_mapM hlabels).2 label hlabel
        have hd := mem_of_mem_fields hsource (mem_of_readLabel? hread hd hascii)
        have hnot := List.any_eq_false.mp (Bool.not_eq_true _ ▸ hforbidden) d hd
        simpa [hascii] using hnot

/-! ### Domains in ASCII -/

/-- Lower case leads nowhere out of ASCII. -/
theorem toNat_toLower_lt {c : Char} (h : isAscii c = true) : c.toLower.toNat < 0x80 :=
  forall_ascii (P := fun c => c.toLower.toNat < 0x80) (by decide +kernel) (of_decide_eq_true h)

/-- No letter changes twice. -/
theorem toLower_toLower {c : Char} (h : isAscii c = true) : c.toLower.toLower = c.toLower :=
  forall_ascii (P := fun c => c.toLower.toLower = c.toLower) (by decide +kernel)
    (of_decide_eq_true h)

/-- What mapping leaves of a character of ASCII is mapped. -/
theorem isMapped_toLower {c : Char} (h : isAscii c = true) : isMapped c.toLower = true := by
  rw [isMapped, mapHostChar?_of_lt (toNat_toLower_lt h), toLower_toLower h, beq_self_eq_true]

/-- A mapped label in ASCII without the mark reads as itself. -/
theorem readLabel?_of_ascii {label : List Char}
    (h : ∀ c ∈ label, isAscii c = true ∧ isMapped c = true)
    (hmark : marker.isPrefixOf label = false) : readLabel? label = some label := by
  have hvalid : labelValid label = true := by
    rw [labelValid, hmark, List.all_eq_true.mpr fun c hc => (h c hc).1,
      List.all_eq_true.mpr fun c hc => (h c hc).2]
    rfl
  rw [readLabel?, hmark, if_neg Bool.false_ne_true, if_pos hvalid]

/-- No label in ASCII runs from right to left. -/
theorem runsRightToLeft_of_ascii {labels : List (List Char)}
    (h : ∀ label ∈ labels, ∀ c ∈ label, isAscii c = true) : runsRightToLeft labels = false := by
  refine List.any_eq_false.mpr fun label hlabel => ?_
  rw [List.any_eq_true]
  rintro ⟨c, hc, hright⟩
  have hlt : c.toNat < 0x80 := of_decide_eq_true (h label hlabel c hc)
  rw [rightToLeft_of_lt hlt, arabicNumber_of_lt hlt] at hright
  cases hright

/-- **A domain in ASCII is left as it is**, apart from the case of its letters. -/
theorem asciiDomain?_of_ascii {cs : List Char} (hascii : ∀ c ∈ cs, isAscii c = true)
    (hforbidden : ∀ c ∈ cs, isForbidden c.toLower = false)
    (hmark : ∀ label ∈ fields '.' (cs.map Char.toLower), marker.isPrefixOf label = false) :
    asciiDomain? cs = some (cs.map Char.toLower) := by
  have hlower : ∀ c ∈ cs.map Char.toLower, c.toNat < 0x80 := by
    rintro c hc
    obtain ⟨d, hd, rfl⟩ := List.mem_map.mp hc
    exact toNat_toLower_lt (hascii d hd)
  have hmapped : cs.mapM mapHostChar? = some (cs.map fun c => [c.toLower]) :=
    mapM_eq_some_map fun c hc => mapHostChar?_of_lt (of_decide_eq_true (hascii c hc))
  have hflatten : (cs.map fun c => [c.toLower]).flatten = cs.map Char.toLower := by
    rw [← List.flatMap_def, ← List.map_eq_flatMap]
  have hallowed : ((cs.map Char.toLower).any fun c => isAscii c && isForbidden c) = false := by
    rw [List.any_map]
    exact List.any_eq_false.mpr fun c hc => by simp [hforbidden c hc]
  have hlabels : ∀ label ∈ fields '.' (cs.map Char.toLower), ∀ c ∈ label, isAscii c = true :=
    fun label hlabel c hc => decide_eq_true (hlower c (mem_of_mem_fields hlabel hc))
  have hisMapped : ∀ label ∈ fields '.' (cs.map Char.toLower), ∀ c ∈ label, isMapped c = true := by
    intro label hlabel c hc
    obtain ⟨d, hd, rfl⟩ := List.mem_map.mp (mem_of_mem_fields hlabel hc)
    exact isMapped_toLower (hascii d hd)
  have hread : (fields '.' (cs.map Char.toLower)).mapM readLabel? =
      some ((fields '.' (cs.map Char.toLower)).map id) :=
    mapM_eq_some_map fun label hlabel =>
      readLabel?_of_ascii (fun c hc => ⟨hlabels label hlabel c hc, hisMapped label hlabel c hc⟩)
        (hmark label hlabel)
  have hwritten : (fields '.' (cs.map Char.toLower)).map asciiLabel =
      (fields '.' (cs.map Char.toLower)).map id := by
    refine List.map_congr_left fun label hlabel => ?_
    rw [asciiLabel, if_pos (List.all_eq_true.mpr (hlabels label hlabel))]
    rfl
  rw [List.map_id] at hread hwritten
  rw [asciiDomain?, hmapped]
  simp only [Option.bind_eq_bind, Option.bind_some, hflatten, composed_of_lt hlower, hallowed, hread,
    runsRightToLeft_of_ascii hlabels, Bool.false_and, Bool.false_eq_true, if_false, hwritten,
    joinWith_fields]

end Vigil.Url
