import Vigil.Proofs.Address.Reserved
import Vigil.Proofs.Url.Authority

/-!
# Spellings of an Address

An address of version four can be written as a host in more ways than its own text: as one number,
in decimal, hexadecimal or octal. And it can be written as the end of a mapped address of version
six, in brackets. The reader of hosts sees through all of these, wherever the host stands in a URL.

## Main definitions

* `Spelling`: the ways to write an address of version four as a host.

## Main results

* `Spelling.readsAs`: every spelling is read as the address.
* `Address.ofChars?_chars`: the canonical text of every address reads back.
* `Host.readsAs_chars`: the canonical text of an address of version six in brackets is read as such.
* `exists_ofText_host`: a host is read where it stands in a URL.
-/

namespace Vigil.Url

open Vigil.Text Vigil.Address

/-! ### Numbers in a host -/

/-- A decimal number is read as such: it has no leading zero unless it is zero. -/
theorem hostNumber?_decimal (n : Nat) : hostNumber? (numeral 10 n) = some n := by
  have hread := numeral?_numeral (by decide : 1 < 10) (by decide) n
  by_cases hn : n = 0
  · subst hn
    decide
  · have hhead := head?_numeral (Nat.pos_of_ne_zero hn)
    obtain ⟨c, cs, hcs⟩ := List.exists_cons_of_ne_nil (numeral_ne_nil 10 n)
    rw [hcs] at hhead hread ⊢
    have hc : c ≠ '0' := fun heq => hhead (congrArg some heq)
    rw [hostNumber?.eq_def]
    split
    next heq => cases heq
    next heq => exact absurd (List.cons.inj heq).1 hc
    next heq => exact absurd (List.cons.inj heq).1 hc
    next heq => exact absurd (List.cons.inj heq).1 hc
    next => exact hread

/-- After the mark of hexadecimal numbers the digits are read as such. -/
theorem hostNumber?_hexadecimal {digits : List Char} {n : Nat} (h : numeral? 16 digits = some n) :
    hostNumber? ('0' :: 'x' :: digits) = some n := by
  have hne : digits.isEmpty = false := by
    cases digits with
    | nil => cases h
    | cons => rfl
  rw [hostNumber?, hne]
  exact h

/-- After a zero the digits are read as octal, for none of them is a mark. -/
theorem hostNumber?_octal {digits : List Char} {n : Nat} (h : numeral? 8 digits = some n) :
    hostNumber? ('0' :: digits) = some n := by
  cases digits with
  | nil => cases h
  | cons c cs =>
      have hc := isSome_digit?_of_numeral? h c List.mem_cons_self
      rw [hostNumber?]
      · exact h
      · rintro rfl
        cases hc
      · rintro rfl
        cases hc

/-- The characters of numbers in a host. -/
def numberChars : List Char :=
  ['0', '1', '2', '3', '4', '5', '6', '7', '8', '9', 'a', 'b', 'c', 'd', 'e', 'f', 'A', 'B', 'C', 'D',
    'E', 'F', 'x', 'X']

/-- The digits of all bases that a number in a host may have. -/
theorem mem_numberChars_of_digit {base : Nat} (hbase : base ∈ [8, 10, 16]) {c : Char}
    (h : (digit? base c).isSome) : c ∈ numberChars := by
  have hall : ∀ c : Char, c.toNat < 128 →
      ∀ base ∈ [8, 10, 16], (digit? base c).isSome → c ∈ numberChars := fun c hc =>
    forall_ascii (P := fun c => ∀ base ∈ [8, 10, 16], (digit? base c).isSome → c ∈ numberChars)
      (by decide +kernel) hc
  exact hall c (toNat_lt_of_isSome_digit? h) base hbase h

/-- The value of a hexadecimal digit does not depend on its case. -/
theorem digit?_toLower {c : Char} (h : (digit? 16 c).isSome) : digit? 16 c.toLower = digit? 16 c :=
  forall_ascii (P := fun c => digit? 16 c.toLower = digit? 16 c) (by decide +kernel)
    (toNat_lt_of_isSome_digit? h)

/-- Nor does the value of a hexadecimal number. -/
theorem numeral?_toLower {digits : List Char} {n : Nat} (h : numeral? 16 digits = some n) :
    numeral? 16 (digits.map Char.toLower) = some n := by
  have hfold (acc : Nat) (cs : List Char) (hcs : ∀ c ∈ cs, (digit? 16 c).isSome) :
      foldDigits? 16 acc (cs.map Char.toLower) = foldDigits? 16 acc cs := by
    induction cs generalizing acc with
    | nil => rfl
    | cons c cs ih =>
        rw [List.forall_mem_cons] at hcs
        rw [List.map_cons, foldDigits?, foldDigits?, digit?_toLower hcs.1]
        split
        · exact ih _ hcs.2
        · rfl
  rw [← h, numeral?, numeral?, List.isEmpty_map, hfold 0 digits (isSome_digit?_of_numeral? h)]

/-- **A number is read as the address that it is**, in whatever case its letters are. -/
theorem Host.ofChars_number {cs : List Char} {a : BitVec 32} (hchars : ∀ c ∈ cs, c ∈ numberChars)
    (h : hostNumber? (cs.map Char.toLower) = some a.toNat) : Host.ofChars cs = .ok (.v4 a) := by
  have hall : ∀ c ∈ numberChars, isAscii c = true ∧ isForbidden c.toLower = false ∧ c ≠ '[' ∧
      c ≠ '%' ∧ c.toLower ≠ '.' ∧ c.toLower ≠ 'n' :=
    forall_mem_of_all (by decide)
  have hlower {d : Char} (hd : ∀ c ∈ numberChars, c.toLower ≠ d) : d ∉ cs.map Char.toLower := by
    intro hmem
    obtain ⟨c, hc, heq⟩ := List.mem_map.mp hmem
    exact hd c (hchars c hc) heq
  have hlabels : fields '.' (cs.map Char.toLower) = [cs.map Char.toLower] :=
    fields_of_notMem (hlower fun c hc => (hall c hc).2.2.2.2.1)
  have hne : cs.map Char.toLower ≠ [] := by
    intro hnil
    rw [hnil] at h
    cases h
  have hmark : ∀ label ∈ fields '.' (cs.map Char.toLower), marker.isPrefixOf label = false := by
    intro label hlabel
    rw [hlabels, List.mem_singleton] at hlabel
    subst hlabel
    refine Bool.eq_false_iff.mpr fun hmark => ?_
    have hn : 'n' ∈ cs.map Char.toLower := (List.isPrefixOf_iff_prefix.mp hmark).subset (by decide)
    exact hlower (fun c hc => (hall c hc).2.2.2.2.2) hn
  have hdomain := asciiDomain?_of_ascii (fun c hc => (hall c (hchars c hc)).1)
    (fun c hc => (hall c (hchars c hc)).2.1) hmark
  have hhostLabels : hostLabels (cs.map Char.toLower) = [cs.map Char.toLower] := by
    rw [hostLabels, hlabels]
    simp
  have hnumber : endsInNumber (cs.map Char.toLower) = true := by
    rw [endsInNumber, hhostLabels]
    simp [h]
  have hread : readIpv4? (cs.map Char.toLower) = some a := by
    have hlt : a.toNat < Nat.pow 256 4 := a.isLt
    rw [readIpv4?, hhostLabels]
    simp [h, packNumbers?, hlt, pack]
  have hplain : Host.ofChars cs = hostOfDomain cs := by
    refine Host.ofChars_of_plain ?_ ?_ ?_
    · rintro rfl
      exact hne rfl
    · exact fun hc => (hall _ (hchars _ hc)).2.2.1 rfl
    · exact fun hc => (hall _ (hchars _ hc)).2.2.2.1 rfl
  rw [hplain, hostOfDomain, hdomain]
  split
  next h => cases h
  next h => exact absurd (Option.some.inj h) hne
  next name _ h =>
    obtain rfl := Option.some.inj h
    rw [hnumber, if_pos rfl, hread]

/-! ### Spellings -/

/-- The ways to write an address of version four as a host. -/
inductive Spelling (a : BitVec 32) : List Char → Prop
  /-- Four decimal octets. -/
  | dotted : Spelling a (dotted a)
  /-- One decimal number. -/
  | decimal : Spelling a (numeral 10 a.toNat)
  /-- One hexadecimal number after its mark, in either case and with any number of zeros in front. -/
  | hexadecimal {mark : Char} (hmark : mark ∈ ['x', 'X']) {digits : List Char}
      (h : numeral? 16 digits = some a.toNat) : Spelling a ('0' :: mark :: digits)
  /-- One octal number after a zero, with any number of further ones. -/
  | octal {digits : List Char} (h : numeral? 8 digits = some a.toNat) : Spelling a ('0' :: digits)

/-- Digits that are no letters have no case. -/
theorem map_toLower_of_digit {base : Nat} (hbase : base ∈ [8, 10]) {digits : List Char}
    (h : ∀ c ∈ digits, (digit? base c).isSome) : digits.map Char.toLower = digits := by
  have hall : ∀ c : Char, c.toNat < 128 →
      ∀ base ∈ [8, 10], (digit? base c).isSome → c.toLower = c := fun c hc =>
    forall_ascii (P := fun c => ∀ base ∈ [8, 10], (digit? base c).isSome → c.toLower = c)
      (by decide +kernel) hc
  refine (List.map_congr_left fun c hc => ?_).trans (List.map_id _)
  exact hall c (toNat_lt_of_isSome_digit? (h c hc)) base hbase (h c hc)

/-- A number is written in characters of numbers. -/
theorem mem_numberChars_of_numeral? {base n : Nat} (hbase : base ∈ [8, 10, 16]) {digits : List Char}
    (h : numeral? base digits = some n) : ∀ c ∈ digits, c ∈ numberChars := fun c hc =>
  mem_numberChars_of_digit hbase (isSome_digit?_of_numeral? h c hc)

/-- **Every spelling of an address is read as the address**, wherever it stands. -/
theorem Spelling.readsAs {a : BitVec 32} {cs : List Char} (h : Spelling a cs) :
    (Host.domain (String.ofList cs)).ReadsAs (.v4 a) := by
  have hnumber {cs : List Char} (hchars : ∀ c ∈ cs, c ∈ numberChars)
      (hread : hostNumber? (cs.map Char.toLower) = some a.toNat) :
      (Host.domain (String.ofList cs)).ReadsAs (.v4 a) := by
    have hall : ∀ c ∈ numberChars, IsPlain c ∧ c ≠ '[' ∧ c ≠ ']' ∧ c ≠ ':' :=
      forall_mem_of_all (by decide)
    refine ⟨?_, ?_, ?_⟩ <;> rw [Host.chars, String.toList_ofList]
    · exact fun c hc => (hall c (hchars c hc)).1
    · exact fun rest hrest => splitHost_plain (fun c hc => (hall c (hchars c hc)).2) hrest
    · exact Host.ofChars_number hchars hread
  cases h with
  | dotted => exact (Host.readsAs_v4 a).of_chars_eq String.toList_ofList
  | decimal =>
      have hread := numeral?_numeral (by decide : 1 < 10) (by decide) a.toNat
      refine hnumber (mem_numberChars_of_numeral? (by decide) hread) ?_
      rw [map_toLower_of_digit (by decide) (isSome_digit?_of_numeral? hread), hostNumber?_decimal]
  | hexadecimal hmark hread =>
      have hmarks : ∀ c ∈ ['x', 'X'], c ∈ numberChars ∧ c.toLower = 'x' :=
        forall_mem_of_all (by decide)
      refine hnumber (List.forall_mem_cons.mpr ⟨by decide, List.forall_mem_cons.mpr ⟨?_, ?_⟩⟩) ?_
      · exact (hmarks _ hmark).1
      · exact mem_numberChars_of_numeral? (by decide) hread
      · rw [List.map_cons, List.map_cons, (hmarks _ hmark).2]
        exact hostNumber?_hexadecimal (numeral?_toLower hread)
  | octal hread =>
      refine hnumber (List.forall_mem_cons.mpr ⟨by decide, ?_⟩) ?_
      · exact mem_numberChars_of_numeral? (by decide) hread
      · rw [List.map_cons, map_toLower_of_digit (by decide) (isSome_digit?_of_numeral? hread)]
        exact hostNumber?_octal hread

end Vigil.Url

namespace Vigil.Address

open Vigil.Text

/-! ### Mapped addresses -/

/-- The text of an address of version four is no group. -/
theorem group?_dotted (m : BitVec 32) : group? (dotted m) = none := by
  have hdot : '.' ∈ dotted m := by
    refine Classical.byContradiction fun hdot => ?_
    have hfields := congrArg List.length (fields_dotted m)
    rw [fields_of_notMem hdot] at hfields
    cases hfields
  have hnumber : numeral? 16 (dotted m) = none := by
    refine Option.eq_none_iff_forall_ne_some.mpr fun n hn => ?_
    exact absurd (isSome_digit?_of_numeral? hn '.' hdot) (by decide)
  rw [group?, hnumber, ite_self]

/-- A zero in front does not count. -/
theorem pack_zero (base : Nat) (digits : List Nat) : pack base (0 :: digits) = pack base digits := by
  rw [pack, List.foldl_cons, Nat.zero_mul, Nat.zero_add, pack]

/-- The groups of a mapped address. -/
theorem ofGroups_mapped (m : BitVec 32) :
    ofGroups [0, 0, 0, 0, 0, 0xFFFF, m.toNat / 65536, m.toNat % 65536] = mapped m := by
  have hpack (a b c : Nat) : pack 65536 [a, b, c] = (a * 65536 + b) * 65536 + c := by
    simp only [pack, List.foldl, Nat.zero_mul, Nat.zero_add]
  rw [ofGroups, mapped, embed, pack_zero, pack_zero, pack_zero, pack_zero, pack_zero, hpack]
  refine congrArg (BitVec.ofNat 128) ?_
  omega

/-- **The text of a mapped address reads back**, with its last 32 bits as octets. -/
theorem readV6?_mapped (m : BitVec 32) : readV6? ("::ffff:".toList ++ dotted m) = some (mapped m) := by
  have hcolon : ':' ∉ dotted m := fun h => absurd (mem_dottedChars h) (by decide)
  have hgap : splitGap ("::ffff:".toList ++ dotted m) =
      some ([], "ffff".toList ++ ':' :: dotted m) := rfl
  have hfields : fields ':' ("ffff".toList ++ ':' :: dotted m) = ["ffff".toList, dotted m] := by
    rw [fields_append (by decide), fields_of_notMem hcolon]
  have hback : groupsOfText? ("ffff".toList ++ ':' :: dotted m) =
      some [0xFFFF, m.toNat / 65536, m.toNat % 65536] := by
    have hmark : group? "ffff".toList = some 0xFFFF := rfl
    rw [groupsOfText?, if_neg (by simp), hfields, groupsOfFields?, groupsOfFields?, hmark,
      group?_dotted, readV4?_dotted]
    · rfl
    · intro h
      cases h
  rw [readV6?, hgap]
  dsimp only
  rw [hback, ← ofGroups_mapped]
  rfl

/-! ### The canonical text -/

/-- The canonical text of an address of version six reads back. -/
theorem readV6?_chars (a : BitVec 128) : readV6? (Address.v6 a).chars = some a := by
  rw [chars]
  cases hmapped : mapped? a with
  | none => exact readV6?_compressed a
  | some m =>
      obtain rfl := eq_mapped_of_mapped? hmapped
      exact readV6?_mapped m

/-- **The canonical text of every address reads back.** -/
theorem ofChars?_chars (a : Address) : ofChars? a.chars = some a := by
  cases a with
  | v4 a => exact ofChars?_dotted a
  | v6 a =>
      have hnone : readV4? (Address.v6 a).chars = none := by
        refine Option.eq_none_iff_forall_ne_some.mpr fun b hb => ?_
        have hcolon := colon_mem_of_readV6? (readV6?_chars a)
        exact absurd (mem_dottedChars_of_readV4? hb hcolon) (by decide)
      rw [ofChars?, hnone, readV6?_chars]
      rfl

/-- The characters of a canonical text are digits, dots and colons. -/
theorem mem_chars {a : Address} {c : Char} (h : c ∈ a.chars) : c ∈ '.' :: colonChars := by
  have hdotted {m : BitVec 32} (h : c ∈ dotted m) : c ∈ '.' :: colonChars :=
    forall_mem_of_all (P := (· ∈ '.' :: colonChars)) (by decide) c (mem_dottedChars h)
  cases a with
  | v4 a => exact hdotted h
  | v6 a =>
      rw [chars] at h
      split at h
      · rcases List.mem_append.mp h with h | h
        · exact forall_mem_of_all (P := (· ∈ '.' :: colonChars)) (by decide) c h
        · exact hdotted h
      · exact List.mem_cons_of_mem _ (mem_colonChars h)

end Vigil.Address

namespace Vigil.Url

open Vigil.Text Vigil.Address

/-- **The canonical text of an address of version six in brackets is read as the address**, wherever
it stands. -/
theorem Host.readsAs_chars (a : BitVec 128) :
    (Host.domain (String.ofList (['['] ++ (Address.v6 a).chars ++ [']']))).ReadsAs (.v6 a) :=
  Host.readsAs_brackets String.toList_ofList (fun _ => mem_chars) (readV6?_chars a)

/-- A host alone is an authority. -/
theorem Host.ReadsAs.readAuthority {h read : Host} (hhost : h.ReadsAs read) (scheme : Scheme) :
    ∃ authority, Url.readAuthority scheme h.chars = .ok authority ∧ authority.host = read := by
  have hat : '@' ∉ h.chars := fun hc => (hhost.plain _ hc).2.2 rfl
  have hsplit := hhost.split [] nofun
  rw [List.append_nil] at hsplit
  refine ⟨⟨(readUserinfo []).1, (readUserinfo []).2, read, none⟩, ?_, rfl⟩
  rw [Url.readAuthority, splitLast?_of_notMem hat]
  dsimp only [Option.getD]
  rw [hsplit]
  dsimp only
  rw [hhost.reads]
  rfl

/-- **A host is read where it stands between the scheme and whatever may follow it.** -/
theorem exists_ofText_host {h read : Host} (hhost : h.ReadsAs read) (scheme : Scheme)
    {rest : List Char} (hrest : IsRest rest) :
    ∃ parsed, ofText (trim (String.ofList (scheme.text.toList ++ "://".toList ++ h.chars ++ rest))) =
        .ok parsed ∧ parsed.host = read := by
  obtain ⟨authority, hread, rfl⟩ := hhost.readAuthority scheme
  have hne : h.chars ≠ [] := by
    intro hnil
    have hreads := hhost.reads
    rw [hnil] at hreads
    cases hreads
  exact exists_ofText_append hne (fun c hc => ⟨(hhost.plain c hc).1, (hhost.plain c hc).2.1⟩) hrest hread

end Vigil.Url
