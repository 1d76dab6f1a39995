import Vigil.Address.Text

/-!
# Addresses Read Back

The text in which an address stands in a URL reads back as the address. For version four this is a
matter of fields and numerals. For version six the text is that of the groups with one run of zeros
left out, and what has to be seen is that the reader puts the gap where the printer left it: the
first double colon of the text is the one of the gap, because no group is written as nothing.

## Main results

* `readV4?_dotted`, `readV6?_compressed`: both forms read back.
* `ofChars?_dotted`, `ofChars?_compressed`: neither form is mistaken for the other.
* `mem_dottedChars`, `mem_colonChars`: the characters of both forms.
-/

namespace Vigil.Text

/-- A property of all characters of ASCII can be checked one after another. -/
theorem forall_ascii {P : Char → Prop} (h : ∀ n ∈ List.range 128, P (Char.ofNat n)) {c : Char}
    (hc : c.toNat < 128) : P c := by
  have := h c.toNat (List.mem_range.mpr hc)
  rwa [Char.ofNat_toNat] at this

/-- What holds of all characters of a text can be checked one after another as well. -/
theorem forall_mem_of_all {P : Char → Prop} [DecidablePred P] {cs : List Char}
    (h : cs.all (fun c => decide (P c)) = true) : ∀ c ∈ cs, P c := fun c hc =>
  of_decide_eq_true (List.all_eq_true.mp h c hc)

/-- Digits lie in ASCII. -/
theorem toNat_lt_of_isSome_digit? {base : Nat} {c : Char} (h : (digit? base c).isSome) :
    c.toNat < 128 := by
  refine Nat.lt_of_not_le fun hc => ?_
  rw [digit?] at h
  simp only [show ¬(0x30 ≤ c.toNat ∧ c.toNat ≤ 0x39) by omega,
    show ¬(0x61 ≤ c.toNat ∧ c.toNat ≤ 0x7A) by omega,
    show ¬(0x41 ≤ c.toNat ∧ c.toNat ≤ 0x5A) by omega, if_false, Nat.lt_irrefl] at h
  cases h

/-- A list reads as the values that its items read as. -/
theorem mapM_eq_some_map {α β : Type} {read : α → Option β} {value : α → β} {xs : List α}
    (h : ∀ x ∈ xs, read x = some (value x)) : xs.mapM read = some (xs.map value) := by
  induction xs with
  | nil => rfl
  | cons x xs ih =>
      rw [List.forall_mem_cons] at h
      rw [List.mapM_cons, h.1, ih h.2]
      rfl

/-- A list whose items read back reads back. -/
theorem mapM_map {α β : Type} {write : α → β} {read : β → Option α} {xs : List α}
    (h : ∀ x ∈ xs, read (write x) = some x) : (xs.map write).mapM read = some xs := by
  rw [List.mapM_map]
  exact (mapM_eq_some_map h).trans (congrArg some (List.map_id' xs))

/-- If a list can be read, its items correspond to those of the result. -/
theorem correspond_of_mapM {α β : Type} {read : α → Option β} {xs : List α} {ys : List β}
    (h : xs.mapM read = some ys) :
    (∀ x ∈ xs, ∃ y ∈ ys, read x = some y) ∧ ∀ y ∈ ys, ∃ x ∈ xs, read x = some y := by
  induction xs generalizing ys with
  | nil =>
      obtain rfl := Option.some.inj h
      exact ⟨nofun, nofun⟩
  | cons x xs ih =>
      rw [List.mapM_cons] at h
      obtain ⟨y, hy, h⟩ := Option.bind_eq_some_iff.mp h
      obtain ⟨zs, hzs, h⟩ := Option.bind_eq_some_iff.mp h
      obtain rfl := Option.some.inj h
      obtain ⟨hxs, hys⟩ := ih hzs
      constructor
      · refine List.forall_mem_cons.mpr ⟨⟨y, List.mem_cons_self, hy⟩, fun x' hx => ?_⟩
        obtain ⟨y', hmem, hread⟩ := hxs x' hx
        exact ⟨y', List.mem_cons_of_mem _ hmem, hread⟩
      · refine List.forall_mem_cons.mpr ⟨⟨x, List.mem_cons_self, hy⟩, fun y' hy' => ?_⟩
        obtain ⟨x', hmem, hread⟩ := hys y' hy'
        exact ⟨x', List.mem_cons_of_mem _ hmem, hread⟩

end Vigil.Text

namespace Vigil.Address

open Vigil.Text

/-! ### Characters -/

/-- The characters of octets and of the dots between them. -/
def dottedChars : List Char := ['0', '1', '2', '3', '4', '5', '6', '7', '8', '9', '.']

/-- The characters of groups and of the colons between them. -/
def colonChars : List Char :=
  ['0', '1', '2', '3', '4', '5', '6', '7', '8', '9', 'a', 'b', 'c', 'd', 'e', 'f', 'A', 'B', 'C', 'D',
    'E', 'F', ':']

/-- The digits of base ten. -/
theorem mem_dottedChars_of_digit {c : Char} (h : (digit? 10 c).isSome) : c ∈ dottedChars :=
  forall_ascii (P := fun c => (digit? 10 c).isSome → c ∈ dottedChars) (by decide +kernel)
    (toNat_lt_of_isSome_digit? h) h

/-- The digits of base sixteen. -/
theorem mem_colonChars_of_digit {c : Char} (h : (digit? 16 c).isSome) : c ∈ colonChars :=
  forall_ascii (P := fun c => (digit? 16 c).isSome → c ∈ colonChars) (by decide +kernel)
    (toNat_lt_of_isSome_digit? h) h

/-! ### Version four -/

/-- Each octet is below 256. -/
theorem octets_lt (a : BitVec 32) : ∀ n ∈ octets a, n < 256 := by
  intro n hn
  simp only [octets, List.mem_cons, List.not_mem_nil, or_false] at hn
  omega

/-- A written octet reads back. -/
theorem octet?_numeral {n : Nat} (h : n < 256) : octet? (numeral 10 n) = some n := by
  have hall : ∀ n ∈ List.range 256, octet? (numeral 10 n) = some n := by
    decide +kernel
  exact hall n (List.mem_range.mpr h)

/-- No dot stands in a written number. -/
theorem dot_notMem_numeral (n : Nat) : '.' ∉ numeral 10 n := fun h =>
  absurd (isSome_digit?_of_mem_numeral (by decide) (by decide) h) (by decide)

/-- The fields of the text of an address are the numerals of its octets. -/
theorem fields_dotted (a : BitVec 32) : fields '.' (dotted a) = (octets a).map (numeral 10) := by
  refine fields_joinWith (by simp [octets]) fun f hf => ?_
  obtain ⟨n, -, rfl⟩ := List.mem_map.mp hf
  exact dot_notMem_numeral n

/-- **The text of an address of version four reads back.** -/
theorem readV4?_dotted (a : BitVec 32) : readV4? (dotted a) = some a := by
  rw [readV4?, fields_dotted, mapM_map fun n hn => octet?_numeral (octets_lt a n hn)]
  exact congrArg some (ofOctets_octets a)

/-- The characters of the text of an address. -/
theorem mem_dottedChars {a : BitVec 32} {c : Char} (h : c ∈ dotted a) : c ∈ dottedChars := by
  rcases mem_joinWith h with hdot | ⟨f, hf, hc⟩
  · obtain rfl := List.mem_singleton.mp hdot
    decide
  · obtain ⟨n, -, rfl⟩ := List.mem_map.mp hf
    exact mem_dottedChars_of_digit (isSome_digit?_of_mem_numeral (by decide) (by decide) hc)

/-- What reads as an octet is a number. -/
theorem numeral?_of_octet? {cs : List Char} {n : Nat} (h : octet? cs = some n) :
    numeral? 10 cs = some n := by
  rw [octet?] at h
  split at h
  · exact (Option.filter_eq_some_iff.mp h).1
  · cases h

/-- What reads as four octets holds nothing but digits and dots. -/
theorem mem_dottedChars_of_readV4? {cs : List Char} {a : BitVec 32} (h : readV4? cs = some a)
    {c : Char} (hc : c ∈ cs) : c ∈ dottedChars := by
  rw [← joinWith_fields '.' cs] at hc
  rcases mem_joinWith hc with hdot | ⟨f, hf, hc⟩
  · obtain rfl := List.mem_singleton.mp hdot
    decide
  · obtain ⟨parts, hparts, -⟩ := Option.bind_eq_some_iff.mp h
    obtain ⟨n, -, hn⟩ := (correspond_of_mapM hparts).1 f hf
    exact mem_dottedChars_of_digit (isSome_digit?_of_numeral? (numeral?_of_octet? hn) c hc)

/-! ### Version six -/

/-- Each group is below 65536. -/
theorem groups_lt (a : BitVec 128) : ∀ g ∈ groups a, g < 65536 := by
  intro g hg
  simp only [groups, List.mem_cons, List.not_mem_nil, or_false] at hg
  omega

/-- A written group reads back. -/
theorem group?_numeral {g : Nat} (h : g < 65536) : group? (numeral 16 g) = some g := by
  have hlen : (numeral 16 g).length ≤ 4 :=
    (Nat.length_toDigits_le_iff (by decide) (by decide)).mpr h
  rw [group?, if_pos hlen]
  exact numeral?_numeral (by decide) (by decide) g

/-- No colon stands in a written group. -/
theorem colon_notMem_numeral (g : Nat) : ':' ∉ numeral 16 g := fun h =>
  absurd (isSome_digit?_of_mem_numeral (by decide) (by decide) h) (by decide)

/-- The fields of written groups are their numerals. -/
theorem fields_colonGroups {gs : List Nat} (h : gs ≠ []) :
    fields ':' (colonGroups gs) = gs.map (numeral 16) := by
  refine fields_joinWith (by simpa using h) fun f hf => ?_
  obtain ⟨g, -, rfl⟩ := List.mem_map.mp hf
  exact colon_notMem_numeral g

/-- Written groups are no empty text. -/
theorem colonGroups_eq_nil_iff {gs : List Nat} : colonGroups gs = [] ↔ gs = [] := by
  refine ⟨fun h => ?_, fun h => h ▸ rfl⟩
  cases gs with
  | nil => rfl
  | cons g gs =>
      have hfields := fields_colonGroups (List.cons_ne_nil g gs)
      rw [h] at hfields
      exact absurd (List.cons.inj hfields).1.symm (numeral_ne_nil 16 g)

/-- Numerals of groups read back. -/
theorem groupsOfFields?_map {gs : List Nat} (h : ∀ g ∈ gs, g < 65536) :
    groupsOfFields? (gs.map (numeral 16)) = some gs := by
  induction gs with
  | nil => rfl
  | cons g gs ih =>
      rw [List.forall_mem_cons] at h
      cases gs with
      | nil =>
          simp [groupsOfFields?, group?_numeral h.1]
      | cons g' gs =>
          have hrest := ih h.2
          rw [List.map_cons] at hrest
          simp [groupsOfFields?, group?_numeral h.1, hrest]

/-- Written groups read back, if there are any. -/
theorem groupsOfText?_colonGroups {gs : List Nat} (h : ∀ g ∈ gs, g < 65536) :
    groupsOfText? (colonGroups gs) = some gs := by
  rw [groupsOfText?]
  split
  next hnil => rw [colonGroups_eq_nil_iff.mp (List.isEmpty_iff.mp hnil)]
  next hne =>
      have hgs : gs ≠ [] := fun hgs => hne (hgs ▸ rfl)
      rw [fields_colonGroups hgs, groupsOfFields?_map h]

/-! ### The gap -/

/-- The gap comes after a text without colons. -/
theorem splitGap_append {f : List Char} (h : ':' ∉ f) (cs : List Char) :
    splitGap (f ++ cs) = (splitGap cs).map fun (before, after) => (f ++ before, after) := by
  induction f with
  | nil => simp
  | cons c f ih =>
      rw [List.mem_cons, not_or] at h
      rw [List.cons_append, splitGap, ih h.2, Option.map_map]
      · rfl
      · rintro rest rfl
        exact absurd rfl h.1

/-- A single colon is no gap. -/
theorem splitGap_colon {c : Char} (h : c ≠ ':') (cs : List Char) :
    splitGap (':' :: c :: cs) =
      (splitGap (c :: cs)).map fun (before, after) => (':' :: before, after) := by
  rw [splitGap]
  rintro rest - hrest
  exact absurd (List.cons.inj hrest).1 h

/-- Written groups begin with a digit. -/
theorem exists_cons_colonGroups (g : Nat) (gs : List Nat) :
    ∃ c rest, colonGroups (g :: gs) = c :: rest ∧ c ≠ ':' := by
  obtain ⟨c, rest, hc⟩ := List.exists_cons_of_ne_nil (numeral_ne_nil 16 g)
  have hne : c ≠ ':' := by
    rintro rfl
    exact colon_notMem_numeral g (hc ▸ List.mem_cons_self)
  cases gs with
  | nil => exact ⟨c, rest, hc, hne⟩
  | cons g' gs =>
      refine ⟨c, rest ++ ':' :: colonGroups (g' :: gs), ?_, hne⟩
      rw [colonGroups, List.map_cons, List.map_cons, joinWith, hc]
      simp [colonGroups]

/-- The gap comes after any number of written groups. -/
theorem splitGap_colonGroups (gs : List Nat) (cs : List Char) :
    splitGap (colonGroups gs ++ cs) =
      (splitGap cs).map fun (before, after) => (colonGroups gs ++ before, after) := by
  induction gs with
  | nil => simp [colonGroups, joinWith]
  | cons g gs ih =>
      cases gs with
      | nil => exact splitGap_append (colon_notMem_numeral g) cs
      | cons g' gs =>
          obtain ⟨c, rest, hc, hne⟩ := exists_cons_colonGroups g' gs
          have hstep (cs : List Char) : colonGroups (g :: g' :: gs) ++ cs =
              numeral 16 g ++ ':' :: (colonGroups (g' :: gs) ++ cs) := by
            rw [colonGroups, List.map_cons, List.map_cons, joinWith]
            simp [colonGroups]
          rw [hstep, splitGap_append (colon_notMem_numeral g), hc, List.cons_append,
            splitGap_colon hne, ← List.cons_append, ← hc, ih, Option.map_map, Option.map_map]
          refine congrArg (Option.map · _) (funext fun p => ?_)
          exact congrArg (·, p.2) (hstep p.1).symm

/-- A list begins with as many zeros as it has leading zeros. -/
theorem eq_replicate_append (gs : List Nat) :
    gs = List.replicate (leadingZeros gs) 0 ++ gs.drop (leadingZeros gs) := by
  have htake : gs.take (leadingZeros gs) = List.replicate (leadingZeros gs) 0 := by
    rw [leadingZeros, ← List.prefix_iff_eq_take.mp (List.takeWhile_prefix _)]
    refine List.eq_replicate_iff.mpr ⟨rfl, fun g hg => ?_⟩
    simpa using List.all_eq_true.mp List.all_takeWhile g hg
  rw [← htake, List.take_append_drop]

/-- What is left out at the longest run of zeros are zeros. -/
theorem longestZeros_spec (gs : List Nat) :
    gs = gs.take (longestZeros gs).1 ++ List.replicate (longestZeros gs).2 0 ++
      gs.drop ((longestZeros gs).1 + (longestZeros gs).2) := by
  refine List.foldlRecOn (motive := fun (best : Nat × Nat) =>
    gs = gs.take best.1 ++ List.replicate best.2 0 ++ gs.drop (best.1 + best.2)) _ _ (by simp) fun best hbest start _ => ?_
  dsimp only
  split
  · rw [← List.drop_drop, List.append_assoc, ← eq_replicate_append, List.take_append_drop]
  · exact hbest

/-- The text with the gap reads back. -/
theorem readV6?_gap {front back : List Nat} {run : Nat} (hrun : 2 ≤ run)
    (hlen : front.length + run + back.length = 8) (hfront : ∀ g ∈ front, g < 65536)
    (hback : ∀ g ∈ back, g < 65536) :
    readV6? (colonGroups front ++ [':', ':'] ++ colonGroups back) =
      some (ofGroups (front ++ List.replicate run 0 ++ back)) := by
  have hgap : splitGap (colonGroups front ++ [':', ':'] ++ colonGroups back) =
      some (colonGroups front, colonGroups back) := by
    rw [List.append_assoc, splitGap_colonGroups]
    simp [splitGap]
  have hzeros : 8 - front.length - back.length = run := by omega
  have hcount : front.length + back.length ≤ 7 := by omega
  rw [readV6?, hgap]
  simp only [groupsOfText?_colonGroups hback]
  split
  next hnil =>
    obtain rfl := colonGroups_eq_nil_iff.mp (List.isEmpty_iff.mp hnil)
    simp only [Option.bind_eq_bind, Option.bind_some, hzeros]
    exact if_pos hcount
  next hne =>
    have hgs : front ≠ [] := fun hgs => hne (hgs ▸ rfl)
    rw [fields_colonGroups hgs, mapM_map fun g hg => group?_numeral (hfront g hg)]
    simp only [Option.bind_eq_bind, Option.bind_some, hzeros]
    exact if_pos hcount

/-- The text without a gap reads back. -/
theorem readV6?_colonGroups (a : BitVec 128) : readV6? (colonGroups (groups a)) = some a := by
  have hgap := splitGap_colonGroups (groups a) []
  rw [List.append_nil, splitGap, Option.map_none] at hgap
  have hfields : fields ':' (colonGroups (groups a)) = (groups a).map (numeral 16) :=
    fields_colonGroups (List.cons_ne_nil _ _)
  rw [readV6?, hgap]
  dsimp only
  rw [hfields, groupsOfFields?_map (groups_lt a)]
  exact congrArg some (ofGroups_groups a)

/-- **The text of an address of version six reads back.** -/
theorem readV6?_compressed (a : BitVec 128) : readV6? (compressed (groups a)) = some a := by
  have hspec := longestZeros_spec (groups a)
  have hlt := groups_lt a
  rw [compressed]
  split
  next start run heq =>
    rw [heq] at hspec
    split
    next hrun =>
      have hlen := congrArg List.length hspec
      rw [List.length_append, List.length_append, List.length_replicate] at hlen
      rw [readV6?_gap hrun hlen.symm (fun g hg => hlt g (List.mem_of_mem_take hg))
        fun g hg => hlt g (List.mem_of_mem_drop hg), ← hspec, ofGroups_groups]
    next => exact readV6?_colonGroups a

/-- A colon stands in the text of an address of version six. -/
theorem colon_mem_compressed (a : BitVec 128) : ':' ∈ compressed (groups a) := by
  rw [compressed]
  split
  split
  · exact List.mem_append_left _ (List.mem_append_right _ List.mem_cons_self)
  · refine List.mem_append_left _ (List.mem_append_right _ List.mem_cons_self)

/-- The characters of the text of an address of version six. -/
theorem mem_colonChars {a : BitVec 128} {c : Char} (h : c ∈ compressed (groups a)) :
    c ∈ colonChars := by
  have hgroups {gs : List Nat} (h : c ∈ colonGroups gs) : c ∈ colonChars := by
    rcases mem_joinWith h with hcolon | ⟨f, hf, hc⟩
    · obtain rfl := List.mem_singleton.mp hcolon
      decide
    · obtain ⟨g, -, rfl⟩ := List.mem_map.mp hf
      exact mem_colonChars_of_digit (isSome_digit?_of_mem_numeral (by decide) (by decide) hc)
  rw [compressed] at h
  split at h
  split at h
  · rcases List.mem_append.mp h with h | h
    · rcases List.mem_append.mp h with h | h
      · exact hgroups h
      · rcases List.mem_cons.mp h with rfl | h
        · decide
        · obtain rfl := List.mem_singleton.mp h
          decide
    · exact hgroups h
  · exact hgroups h

/-- An address of version six holds a colon. -/
theorem colon_mem_of_readV6? {cs : List Char} {a : BitVec 128} (h : readV6? cs = some a) :
    ':' ∈ cs := by
  refine Classical.byContradiction fun hcolon => ?_
  have hgap := splitGap_append hcolon []
  rw [List.append_nil, splitGap, Option.map_none] at hgap
  rw [readV6?, hgap] at h
  dsimp only at h
  rw [fields_of_notMem hcolon, groupsOfFields?] at h
  split at h
  · cases h
  · cases hv4 : readV4? cs with
    | none =>
        rw [hv4] at h
        cases h
    | some b =>
        rw [hv4] at h
        cases h

/-! ### Both versions -/

/-- The text of an address of version four is read as such. -/
theorem ofChars?_dotted (a : BitVec 32) : ofChars? (dotted a) = some (.v4 a) := by
  rw [ofChars?, readV4?_dotted]

/-- The text of an address of version six is read as such. -/
theorem ofChars?_compressed (a : BitVec 128) : ofChars? (compressed (groups a)) = some (.v6 a) := by
  have hnone : readV4? (compressed (groups a)) = none := by
    rw [Option.eq_none_iff_forall_not_mem]
    exact fun b hb => absurd (mem_dottedChars_of_readV4? hb (colon_mem_compressed a)) (by decide)
  rw [ofChars?, hnone, readV6?_compressed]
  rfl

end Vigil.Address
