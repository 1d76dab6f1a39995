import Vigil.Proofs.Url.Domain

/-!
# Marked Forms Read Back

Whoever writes a marked form goes through the label once for each code point beyond ASCII, in
ascending order, and counts the places that it passes. Whoever reads it keeps a place itself, a code
point and a position in the text as it has grown so far, and moves it on by every number. The two are
abreast: what the reader has and what the writer has counted since come to the place where the writer
is. Every insertion therefore falls where the writer stood, and at the end the text has grown to the
label.

## Main definitions

* `Punycode.below`: a label as far as the insertions have brought it.
* `Punycode.Abreast`: the place of the reader and the count of the writer.

## Main results

* `decodeNumber?_encodeNumber`: a number read back, with any text after it.
* `decode?_encode`: the label of the marked form of a label.
-/

namespace Vigil.Punycode

/-! ### Numbers -/

/-- **A number reads back**, whatever follows it. -/
theorem decodeNumber?_encodeNumber (bias k weight n : Nat) (rest : List Char) :
    decodeNumber? bias k weight (encodeNumber bias k n ++ rest) = some (n * weight, rest) := by
  fun_induction encodeNumber bias k n generalizing weight with
  | case1 k n t ht =>
      have hle := threshold_le bias k
      have hdigit := digit?_digitChar (d := n) (by omega)
      rw [List.singleton_append, decodeNumber?, hdigit]
      exact if_pos ht
  | case2 k n t ht ih =>
      have hle := threshold_le bias k
      have hlt : (n - t) % (36 - t) < 36 - t := Nat.mod_lt _ (by omega)
      have hdigit := digit?_digitChar (d := t + (n - t) % (36 - t)) (by omega)
      have hvalue : (t + (n - t) % (36 - t)) * weight + (n - t) / (36 - t) * (weight * (36 - t)) =
          n * weight := by
        have hdiv := Nat.mod_add_div' (n - t) (36 - t)
        calc
          _ = (t + ((n - t) % (36 - t) + (n - t) / (36 - t) * (36 - t))) * weight := by
            simp only [Nat.add_mul, Nat.mul_assoc, Nat.mul_comm weight, Nat.add_assoc]
          _ = n * weight := by rw [hdiv, Nat.add_sub_cancel' (Nat.le_of_not_lt ht)]
      rw [List.cons_append, decodeNumber?, hdigit]
      dsimp only
      rw [if_neg (Nat.not_lt.mpr (Nat.le_add_right _ _)), ih]
      exact congrArg (fun value => some (value, rest)) hvalue

/-! ### Code points in order -/

/-- The numbers of an ascending list with one more. -/
theorem mem_insertAscending {m n : Nat} {ns : List Nat} :
    m ∈ insertAscending n ns ↔ m = n ∨ m ∈ ns := by
  induction ns with
  | nil => rw [insertAscending, List.mem_singleton, or_iff_left List.not_mem_nil]
  | cons k ns ih => grind [insertAscending]

/-- It is still ascending. -/
theorem pairwise_insertAscending (n : Nat) {ns : List Nat} (h : ns.Pairwise (· < ·)) :
    (insertAscending n ns).Pairwise (· < ·) := by
  induction ns with
  | nil => exact List.pairwise_singleton _ _
  | cons k ns ih => grind [insertAscending, mem_insertAscending, List.pairwise_cons]

/-- The code points to be inserted are those beyond ASCII. -/
theorem mem_foreignPoints {text : List Char} {n : Nat} :
    n ∈ foreignPoints text ↔ ∃ c ∈ text, 0x80 ≤ c.toNat ∧ c.toNat = n := by
  have hfold (ns : List Nat) : n ∈ ns.foldr insertAscending [] ↔ n ∈ ns := by
    induction ns with
    | nil => rfl
    | cons m ns ih => rw [List.foldr_cons, mem_insertAscending, ih, List.mem_cons]
  rw [foreignPoints, hfold, List.mem_map]
  simp only [List.mem_filter, decide_eq_true_eq, and_assoc]

/-- They are inserted in ascending order. -/
theorem pairwise_foreignPoints (text : List Char) : (foreignPoints text).Pairwise (· < ·) := by
  rw [foreignPoints]
  generalize (text.filter fun c => 0x80 ≤ c.toNat).map Char.toNat = ns
  induction ns with
  | nil => exact .nil
  | cons m ns ih => exact pairwise_insertAscending m ih

/-! ### Insertions -/

/-- The characters of a text below a code point: what stands in place when all of them are
inserted. -/
def below (point : Nat) (text : List Char) : List Char := text.filter fun c => c.toNat < point

/-- A code point of a character is one. -/
theorem char?_toNat (c : Char) : char? c.toNat = some c := by
  have hvalid : c.toNat < 0xD800 ∨ (0xDFFF < c.toNat ∧ c.toNat < 0x110000) := c.valid
  rw [char?, if_pos hvalid, Char.ofNat_toNat]

/-- An insertion at the end of what stands in front. -/
theorem insertIdx_length_append (before after : List Char) (c : Char) :
    (before ++ after).insertIdx before.length c = before ++ c :: after := by
  induction before with
  | nil => rfl
  | cons d before ih =>
      rw [List.cons_append, List.length_cons, List.insertIdx_succ_cons, ih, List.cons_append]

/-- One number read, and its insertion made. -/
theorem insertAll?_of_number {bias point position n : Nat} {text cs rest : List Char} {c : Char}
    (hnumber : decodeNumber? bias 36 1 cs = some (n, rest))
    (hchar : char? (point + (position + n) / (text.length + 1)) = some c) :
    insertAll? bias point position text cs =
      insertAll? (adapt n (text.length + 1) (position == 0))
        (point + (position + n) / (text.length + 1)) ((position + n) % (text.length + 1) + 1)
        (text.insertIdx ((position + n) % (text.length + 1)) c) rest := by
  cases cs with
  | nil => cases hnumber
  | cons d cs =>
      rw [insertAll?]
      split
      next hnone => rw [hnumber] at hnone; cases hnone
      next n' rest' hsome =>
        obtain ⟨rfl, rfl⟩ := Prod.mk.inj (Option.some.inj (hnumber.symm.trans hsome))
        dsimp only
        split
        next hnone => rw [hchar] at hnone; cases hnone
        next c' hsome =>
          obtain rfl := Option.some.inj (hchar.symm.trans hsome)
          rfl

/-- The writer goes through the label for `point` and has passed as many characters in place. The
place of the reader, where the last insertion was made, is behind by the count of the writer. Before
the first insertion both know that it is the first. -/
structure Abreast (first point passed : Nat) (cur : Cursor) (last position : Nat) : Prop where
  le : last ≤ point
  distance : position + cur.delta = (point - last) * (cur.inPlace + 1) + passed
  isFirst : (position == 0) = (cur.inPlace == first)
  first_le : first ≤ cur.inPlace

section Abreast

variable {first point passed last position : Nat} {cur : Cursor}

/-- They stay abreast when the writer passes a character in place. -/
theorem Abreast.pass (h : Abreast first point passed cur last position) :
    Abreast first point (passed + 1) { cur with delta := cur.delta + 1 } last position :=
  ⟨h.le, by have := h.distance; dsimp only; omega, h.isFirst, h.first_le⟩

/-- After a code point they are abreast at the start of the label for the next one. -/
theorem Abreast.next (h : Abreast first point cur.inPlace cur last position) :
    Abreast first (point + 1) 0 { cur with delta := cur.delta + 1 } last position := by
  refine ⟨Nat.le_succ_of_le h.le, ?_, h.isFirst, h.first_le⟩
  have hdistance := h.distance
  dsimp only
  rw [Nat.succ_sub h.le, Nat.succ_mul]
  omega

/-- Code points that are left out count as many places as there are in the text. -/
theorem Abreast.skip (h : Abreast first point 0 cur last position) {next : Nat} (hle : point ≤ next) :
    Abreast first next 0 { cur with delta := cur.delta + (next - point) * (cur.inPlace + 1) } last
      position := by
  refine ⟨Nat.le_trans h.le hle, ?_, h.isFirst, h.first_le⟩
  have hdistance := h.distance
  have hsplit : next - last = (point - last) + (next - point) := by
    have hle' := h.le
    omega
  dsimp only
  rw [hsplit, Nat.add_mul]
  omega

/-- They stay abreast when the writer tells of an insertion and the reader makes it. -/
theorem Abreast.insert (h : Abreast first point passed cur last position) :
    Abreast first point (passed + 1)
      ⟨0, adapt cur.delta (cur.inPlace + 1) (cur.inPlace == first), cur.inPlace + 1⟩ point
      (passed + 1) := by
  have hfirst := h.first_le
  refine ⟨Nat.le_refl _, ?_, ?_, Nat.le_succ_of_le h.first_le⟩
  · dsimp only
    rw [Nat.sub_self, Nat.zero_mul, Nat.zero_add, Nat.add_zero]
  · rw [Bool.eq_iff_iff, beq_iff_eq, beq_iff_eq]
    dsimp only
    omega

/-- **The reader makes the insertion where the writer stands.** -/
theorem insertAll?_of_abreast {c : Char} {before after : List Char}
    (h : Abreast first c.toNat before.length cur last position)
    (hlength : before.length + after.length = cur.inPlace) (rest : List Char) :
    insertAll? cur.bias last position (before ++ after)
        (encodeNumber cur.bias 36 cur.delta ++ rest) =
      insertAll? (adapt cur.delta (cur.inPlace + 1) (cur.inPlace == first)) c.toNat
        (before.length + 1) (before ++ c :: after) rest := by
  have hcount : (before ++ after).length + 1 = cur.inPlace + 1 := by
    rw [List.length_append, hlength]
  have hlt : before.length < cur.inPlace + 1 := by omega
  have hnumber := decodeNumber?_encodeNumber cur.bias 36 1 cur.delta rest
  have hquotient : (position + cur.delta) / (cur.inPlace + 1) = c.toNat - last := by
    rw [h.distance, Nat.mul_comm, Nat.mul_add_div (Nat.succ_pos _), Nat.div_eq_of_lt hlt,
      Nat.add_zero]
  have hremainder : (position + cur.delta) % (cur.inPlace + 1) = before.length := by
    rw [h.distance, Nat.mul_comm, Nat.mul_add_mod, Nat.mod_eq_of_lt hlt]
  have hpoint : last + (c.toNat - last) = c.toNat := Nat.add_sub_cancel' h.le
  have hchar : char? (last + (position + cur.delta) / (cur.inPlace + 1)) = some c := by
    rw [hquotient, hpoint, char?_toNat]
  rw [Nat.mul_one] at hnumber
  rw [← hcount] at hchar
  rw [insertAll?_of_number hnumber hchar, hcount, hquotient, hremainder, hpoint, h.isFirst,
    insertIdx_length_append]

/-- The label with one more character in place. -/
theorem below_cons_of_lt {point : Nat} {c : Char} (h : c.toNat < point) (text : List Char) :
    below point (c :: text) = c :: below point text :=
  List.filter_cons_of_pos (decide_eq_true h)

/-- The label with one more character that is not yet in place. -/
theorem below_cons_of_le {point : Nat} {c : Char} (h : point ≤ c.toNat) (text : List Char) :
    below point (c :: text) = below point text :=
  List.filter_cons_of_neg (by simpa using h)

/-- **One code point**: while the writer goes through the rest of the label, the reader makes all
its insertions in that rest, and they are abreast at the end of it. -/
theorem insertAll?_encodePoint (before : List Char) {text digits : List Char} {after : Cursor}
    (hcode : encodePoint first point text cur = (digits, after))
    (h : Abreast first point before.length cur last position)
    (hlength : before.length + (below point text).length = cur.inPlace) :
    ∃ last' position', Abreast first point after.inPlace after last' position' ∧
      before.length + (below (point + 1) text).length = after.inPlace ∧
      ∀ rest, insertAll? cur.bias last position (before ++ below point text) (digits ++ rest) =
        insertAll? after.bias last' position' (before ++ below (point + 1) text) rest := by
  induction text generalizing before digits cur last position with
  | nil =>
      obtain ⟨rfl, rfl⟩ := Prod.mk.inj hcode
      exact ⟨last, position, hlength ▸ h, hlength, fun rest => rfl⟩
  | cons c text ih =>
      obtain ⟨front, hone, hsplit⟩ : ∃ front : List Char, front.length = before.length + 1 ∧
          ∀ rest, before ++ c :: rest = front ++ rest :=
        ⟨before ++ [c], List.length_append, fun _ => List.append_cons _ _ _⟩
      have hcount (n : Nat) : before.length + (n + 1) = front.length + n := by omega
      rw [encodePoint] at hcode
      split at hcode
      -- a character that is in place is passed, one of the code point is inserted, and one of a
      -- later code point does not yet count
      next hlt =>
        rw [below_cons_of_lt hlt, List.length_cons, hcount] at hlength
        rw [below_cons_of_lt hlt, below_cons_of_lt (Nat.lt_add_right 1 hlt), List.length_cons, hcount,
          hsplit, hsplit]
        have hread := ih front hcode (hone ▸ h.pass) hlength
        exact hread
      next =>
        split at hcode
        next heq =>
          subst heq
          obtain ⟨rfl, rfl⟩ := Prod.mk.inj hcode
          rw [below_cons_of_le (Nat.le_refl _)] at hlength ⊢
          rw [below_cons_of_lt (Nat.lt_add_one _), List.length_cons, hcount, hsplit]
          obtain ⟨last', position', habreast, hin, hread⟩ := ih front rfl
            (hone ▸ h.insert) (by rw [hone, Nat.add_right_comm, hlength])
          refine ⟨last', position', habreast, hin, fun rest => ?_⟩
          rw [List.append_assoc, insertAll?_of_abreast h hlength, hsplit, ← hone, ← hread]
        next hne =>
          have hlt : point < c.toNat := by omega
          rw [below_cons_of_le (Nat.le_of_lt hlt)] at hlength ⊢
          rw [below_cons_of_le hlt]
          exact ih before hcode h hlength

/-- Code points that do not stand in the label bring nothing into place. -/
theorem below_eq_of_gap {text : List Char} {low high : Nat} (hle : low ≤ high)
    (h : ∀ c ∈ text, low ≤ c.toNat → high ≤ c.toNat) : below low text = below high text := by
  refine List.filter_congr fun c hc => ?_
  have hc := h c hc
  rw [decide_eq_decide]
  omega

/-- **All code points**: whatever is left of the label is inserted. -/
theorem insertAll?_encodePoints {text : List Char} {points : List Nat} {start : Nat}
    (h : Abreast first start 0 cur last position) (hlength : (below start text).length = cur.inPlace)
    (hsorted : points.Pairwise (· < ·)) (hstart : ∀ p ∈ points, start ≤ p)
    (hpoints : ∀ c ∈ text, start ≤ c.toNat → c.toNat ∈ points) :
    insertAll? cur.bias last position (below start text) (encodePoints first text points start cur) =
      some text := by
  induction points generalizing start cur last position with
  | nil =>
      have hall : below start text = text :=
        List.filter_eq_self.mpr fun c hc => decide_eq_true
          (Nat.lt_of_not_le fun hle => List.not_mem_nil (hpoints c hc hle))
      rw [hall, encodePoints, insertAll?]
  | cons p points ih =>
      rw [List.pairwise_cons] at hsorted
      rw [List.forall_mem_cons] at hstart
      have hskipped : below start text = below p text := by
        refine below_eq_of_gap hstart.1 fun c hc hle => ?_
        rcases List.mem_cons.mp (hpoints c hc hle) with heq | hmem
        · exact Nat.le_of_eq heq.symm
        · exact Nat.le_of_lt (hsorted.1 _ hmem)
      rw [encodePoints]
      -- the code points in between are counted, then the label is gone through for this one
      cases hcode : encodePoint first p text
        { cur with delta := cur.delta + (p - start) * (cur.inPlace + 1) } with | _ digits after
      obtain ⟨last', position', habreast, hin, hread⟩ :=
        insertAll?_encodePoint [] hcode (h.skip hstart.1)
          (by rw [← hskipped, List.length_nil, Nat.zero_add, hlength])
      simp only [List.nil_append, List.length_nil, Nat.zero_add] at hin hread
      rw [hskipped, hread]
      refine ih habreast.next hin hsorted.2 hsorted.1 fun c hc hle => ?_
      have hle' : start ≤ c.toNat := by
        have := hstart.1
        omega
      rcases List.mem_cons.mp (hpoints c hc hle') with heq | hmem
      · omega
      · exact hmem

end Abreast

/-! ### Labels -/

/-- Digits end at the last hyphen. -/
theorem takeWhile_digits {digits : List Char} (h : ∀ c ∈ digits, IsDigit c) (cs : List Char) :
    (digits.reverse ++ cs).takeWhile (· ≠ '-') = digits.reverse ++ cs.takeWhile (· ≠ '-') :=
  List.takeWhile_append_of_pos fun c hc => decide_eq_true
    (forall_isDigit (P := (· ≠ '-')) (by decide) (h c (List.mem_reverse.mp hc)))

/-- Without a hyphen there are digits only. -/
theorem splitBasic_digits {digits : List Char} (h : ∀ c ∈ digits, IsDigit c) :
    splitBasic digits = ([], digits) := by
  have htail : digits.reverse.takeWhile (· ≠ '-') = digits.reverse := by
    have htake := takeWhile_digits h []
    rwa [List.takeWhile_nil, List.append_nil] at htake
  rw [splitBasic, htail, List.length_reverse]
  exact if_neg (by omega)

/-- The last hyphen separates, if it is not the first character. -/
theorem splitBasic_hyphen {basic digits : List Char} (hne : basic ≠ [])
    (h : ∀ c ∈ digits, IsDigit c) : splitBasic (basic ++ '-' :: digits) = (basic, digits) := by
  have htail : (basic ++ '-' :: digits).reverse.takeWhile (· ≠ '-') = digits.reverse := by
    rw [List.reverse_append, List.reverse_cons, List.append_assoc, takeWhile_digits h,
      List.singleton_append, List.takeWhile_cons_of_neg (by decide), List.append_nil]
  have hlength : (basic ++ '-' :: digits).length = basic.length + (digits.length + 1) :=
    List.length_append
  have hfront : (basic ++ '-' :: digits).length - digits.length - 1 = basic.length := by omega
  have hpos := List.length_pos_iff.mpr hne
  rw [splitBasic, htail, List.length_reverse, hfront, List.take_left, List.reverse_reverse]
  exact if_pos (by omega)

/-- The characters of ASCII and the digits are told apart again. -/
theorem splitBasic_append {basic digits : List Char} (h : ∀ c ∈ digits, IsDigit c) :
    splitBasic (basic ++ (if basic.isEmpty then [] else ['-']) ++ digits) = (basic, digits) := by
  cases basic with
  | nil => exact splitBasic_digits h
  | cons c basic =>
      rw [List.append_assoc]
      exact splitBasic_hyphen (List.cons_ne_nil _ _) h

/-- **The marked form of a label reads back as the label.** -/
theorem decode?_encode (text : List Char) : decode? (encode text) = some text := by
  have hdigits : ∀ c ∈ encodePoints (basicChars text).length text (foreignPoints text) 0x80
      ⟨0, 72, (basicChars text).length⟩, IsDigit c := fun c => isDigit_of_mem_encodePoints
  have hbasic : (basicChars text).all (fun c => c.toNat < 0x80) = true :=
    List.all_eq_true.mpr fun c hc => (List.mem_filter.mp hc).2
  have habreast : Abreast (basicChars text).length 0x80 0 ⟨0, 72, (basicChars text).length⟩ 0x80 0 :=
    ⟨Nat.le_refl _, by simp, by simp, Nat.le_refl _⟩
  rw [encode, decode?]
  dsimp only
  rw [splitBasic_append hdigits]
  dsimp only
  rw [if_pos hbasic]
  exact insertAll?_encodePoints habreast rfl (pairwise_foreignPoints text)
    (fun p hp => by
      obtain ⟨c, -, hle, rfl⟩ := mem_foreignPoints.mp hp
      exact hle)
    (fun c hc hle => mem_foreignPoints.mpr ⟨c, hc, hle, rfl⟩)

end Vigil.Punycode
