import Vigil.Proofs.Url.Domain
import Vigil.Url.Host

/-!
# Hosts Read Back

A host that was read stands in its URL in a text that reads as the same host. For addresses this is
a matter of their texts; that of version four has to pass for a domain first, whose last label is
then seen to be a number.

## Main results

* `Host.ofChars_wellFormed`: what is known of a host that was read.
* `Host.ofChars_v4`, `Host.ofChars_v6`: the text of an address as a host.
-/

namespace Vigil.Url

open Vigil.Text Vigil.Address

/-! ### Texts without escapes -/

/-- Without escapes the bytes of a text are those of its characters. -/
theorem percentDecode_of_notMem {cs : List Char} (h : '%' ∉ cs) :
    percentDecode cs = cs.flatMap String.utf8EncodeChar := by
  fun_induction percentDecode cs with
  | case1 => rfl
  | case2 => exact absurd List.mem_cons_self h
  | case3 => exact absurd List.mem_cons_self h
  | case4 c cs _ ih => rw [ih fun hc => h (List.mem_cons_of_mem _ hc), List.flatMap_cons]

/-- A text without escapes stands for itself. -/
theorem utf8Chars?_percentDecode {cs : List Char} (h : '%' ∉ cs) :
    utf8Chars? (percentDecode cs) = some cs := by
  have hbytes : ByteArray.mk (cs.flatMap String.utf8EncodeChar).toArray = cs.utf8Encode := by
    rw [List.utf8Encode]
    exact ByteArray.ext List.data_toByteArray.symm
  rw [utf8Chars?, percentDecode_of_notMem h, hbytes, List.utf8Decode?_utf8Encode]
  rfl

/-- A text without escapes and brackets is read as a domain. -/
theorem Host.ofChars_of_plain {cs : List Char} (hne : cs ≠ []) (hbracket : '[' ∉ cs)
    (hpercent : '%' ∉ cs) : Host.ofChars cs = hostOfDomain cs := by
  rw [Host.ofChars, utf8Chars?_percentDecode hpercent]
  · exact fun h => hne h
  · rintro rest rfl
    exact hbracket List.mem_cons_self

/-! ### Hosts that were read -/

/-- The text of a domain is one that the reader makes: it is not empty, holds nothing but what may
stand in a domain, and does not end in a number. -/
def Host.WellFormed : Host → Prop
  | .domain name =>
    name.toList ≠ [] ∧ (∀ c ∈ name.toList, IsAllowed c) ∧ endsInNumber name.toList = false
  | .v4 _ => True
  | .v6 _ => True

/-- A domain that is read is well formed. -/
theorem hostOfDomain_wellFormed {cs : List Char} {h : Host} (hread : hostOfDomain cs = .ok h) :
    h.WellFormed := by
  rw [hostOfDomain] at hread
  split at hread
  · cases hread
  · cases hread
  next name hne hname =>
    split at hread
    · split at hread
      · cases hread
        trivial
      · cases hread
    next hnumber =>
      cases hread
      refine ⟨?_, ?_, ?_⟩ <;> rw [String.toList_ofList]
      · rintro rfl
        exact hne rfl
      · exact asciiDomain?_allowed hname
      · exact Bool.eq_false_iff.mpr hnumber

/-- **A host that is read is well formed.** -/
theorem Host.ofChars_wellFormed {cs : List Char} {h : Host} (hread : Host.ofChars cs = .ok h) :
    h.WellFormed := by
  rw [Host.ofChars.eq_def] at hread
  split at hread
  · cases hread
  · split at hread
    · split at hread
      · cases hread
        trivial
      · cases hread
    · cases hread
  · split at hread
    · cases hread
    · exact hostOfDomain_wellFormed hread

/-! ### Addresses of version four -/

/-- The text of an address as a domain. -/
theorem asciiDomain?_dotted (a : BitVec 32) : asciiDomain? (dotted a) = some (dotted a) := by
  have hchars : ∀ c ∈ dottedChars,
      isAscii c = true ∧ isForbidden c.toLower = false ∧ c.toLower = c :=
    forall_mem_of_all (by decide)
  have hlower : (dotted a).map Char.toLower = dotted a :=
    (List.map_congr_left fun c hc => (hchars c (mem_dottedChars hc)).2.2).trans (List.map_id _)
  have hmark : ∀ label ∈ fields '.' (dotted a), marker.isPrefixOf label = false := by
    intro label hlabel
    refine Bool.eq_false_iff.mpr fun hmark => ?_
    have hx : 'x' ∈ label := (List.isPrefixOf_iff_prefix.mp hmark).subset List.mem_cons_self
    exact absurd (mem_dottedChars (mem_of_mem_fields hlabel hx)) (by decide)
  have hread := asciiDomain?_of_ascii (fun c hc => (hchars c (mem_dottedChars hc)).1)
    (fun c hc => (hchars c (mem_dottedChars hc)).2.1) (hlower ▸ hmark)
  rw [hread, hlower]

/-- The labels of the text of an address are the numerals of its octets. -/
theorem hostLabels_dotted (a : BitVec 32) : hostLabels (dotted a) = (octets a).map (numeral 10) := by
  rw [hostLabels, fields_dotted]
  refine if_neg ?_
  rintro ⟨-, hlast⟩
  exact numeral_ne_nil _ _ (Option.some.inj hlast)

/-- A written octet is a number of a domain. -/
theorem hostNumber?_numeral {n : Nat} (h : n < 256) : hostNumber? (numeral 10 n) = some n := by
  have hall : ∀ n ∈ List.range 256, hostNumber? (numeral 10 n) = some n := by
    decide +kernel
  exact hall n (List.mem_range.mpr h)

/-- The text of an address ends in a number. -/
theorem endsInNumber_dotted (a : BitVec 32) : endsInNumber (dotted a) = true := by
  have hlast : ((octets a).map (numeral 10)).getLast? = some (numeral 10 (a.toNat % 256)) := rfl
  rw [endsInNumber, hostLabels_dotted, hlast]
  dsimp only
  rw [hostNumber?_numeral (Nat.mod_lt _ (by decide)), Option.isSome_some, Bool.or_true]

/-- Four octets end in a number. -/
theorem endsInNumber_of_readV4? {cs : List Char} {a : BitVec 32} (h : Address.readV4? cs = some a) :
    endsInNumber cs = true := by
  obtain ⟨parts, hparts, -⟩ := Option.bind_eq_some_iff.mp h
  have hlast := List.getLast?_eq_some_getLast (fields_ne_nil '.' cs)
  obtain ⟨n, -, hn⟩ := (correspond_of_mapM hparts).1 _ (List.getLast_mem (fields_ne_nil '.' cs))
  have hnumber := Address.numeral?_of_octet? hn
  have hne : (fields '.' cs).getLast (fields_ne_nil '.' cs) ≠ [] := by
    intro hnil
    rw [hnil] at hnumber
    cases hnumber
  have hlabels : hostLabels cs = fields '.' cs := by
    rw [hostLabels]
    refine if_neg ?_
    rintro ⟨-, hempty⟩
    rw [hlast] at hempty
    exact hne (Option.some.inj hempty)
  have hdigit (c : Char) (hc : (digit? 10 c).isSome) : c.isDigit = true :=
    forall_ascii (P := fun c => (digit? 10 c).isSome → c.isDigit = true) (by decide +kernel)
      (toNat_lt_of_isSome_digit? hc) hc
  have hall : ((fields '.' cs).getLast (fields_ne_nil '.' cs)).all Char.isDigit = true :=
    List.all_eq_true.mpr fun c hc => hdigit c (isSome_digit?_of_numeral? hnumber c hc)
  rw [endsInNumber, hlabels, hlast]
  simp [hne, hall]

/-- The octets of an address make it up. -/
theorem packNumbers?_octets (a : BitVec 32) : packNumbers? (octets a) = some a := by
  have hpack := ofOctets_octets a
  have hlt := octets_lt a
  simp only [octets, List.forall_mem_cons] at hlt
  simp only [ofOctets, octets, pack, List.foldl_cons, List.foldl_nil, Nat.zero_mul, Nat.zero_add]
    at hpack
  simp [packNumbers?, octets, pack, hlt, hpack]

/-- The text of an address is read as one when it stands for a domain. -/
theorem readIpv4?_dotted (a : BitVec 32) : readIpv4? (dotted a) = some a := by
  rw [readIpv4?, hostLabels_dotted]
  simp only [List.length_map]
  rw [if_neg (by simp [octets]), mapM_map fun n hn => hostNumber?_numeral (octets_lt a n hn)]
  exact packNumbers?_octets a

/-- The text of an address is not empty. -/
theorem dotted_ne_nil (a : BitVec 32) : dotted a ≠ [] := by
  intro h
  have hfields := congrArg List.length (fields_dotted a)
  rw [h] at hfields
  cases hfields

/-- **The text of an address of version four is read as the address.** -/
theorem Host.ofChars_v4 (a : BitVec 32) : Host.ofChars (Host.v4 a).chars = .ok (.v4 a) := by
  rw [Host.chars, Host.ofChars_of_plain (dotted_ne_nil a)
    (fun h => absurd (mem_dottedChars h) (by decide))
    (fun h => absurd (mem_dottedChars h) (by decide)), hostOfDomain, asciiDomain?_dotted]
  split
  next h => cases h
  next h => exact absurd (Option.some.inj h) (dotted_ne_nil a)
  next name _ h =>
    obtain rfl := Option.some.inj h
    rw [endsInNumber_dotted, if_pos rfl, readIpv4?_dotted]

/-! ### Addresses of version six -/

/-- What reads as an address of version six is read as one in brackets. -/
theorem Host.ofChars_brackets {cs : List Char} {a : BitVec 128} (h : readV6? cs = some a) :
    Host.ofChars (['['] ++ cs ++ [']']) = .ok (.v6 a) := by
  rw [List.singleton_append, List.cons_append, Host.ofChars, List.getLast?_concat, if_pos rfl,
    List.dropLast_concat, h]

/-- **The text of an address of version six is read as the address.** -/
theorem Host.ofChars_v6 (a : BitVec 128) : Host.ofChars (Host.v6 a).chars = .ok (.v6 a) :=
  Host.ofChars_brackets (readV6?_compressed a)

end Vigil.Url
