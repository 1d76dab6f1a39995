import Mathlib.Algebra.Group.Nat.Defs
import Vigil.Address.Reserved

/-!
# The Reserved Ranges

Which addresses are reserved is decided by some twenty tests on octets and groups, with masks and
with overlaps. This module says what they come to: an address of version four is reserved exactly if
its number lies in one of fourteen intervals, and one of version six if its number lies in one of
eight, unless it is mapped, when the address decides that it stands for. An interval is given as the
registries give it, by its first address and the number of leading bits that its members share.

## Main definitions

* `Block`: an interval of addresses.
* `blocksV4`, `blocksV6`: the reserved ones.
* `embed`: addresses of version six that hold one of version four in their last bits.

## Main results

* `isReservedV4_iff`: the tests on octets as intervals.
* `isReservedGroups_iff`: the tests on groups as intervals.
* `reserved_ranges`: both versions together.
-/

namespace Vigil.Address

/-! ### Blocks -/

/-- A block of addresses of `w` bits: those that agree with the base, which is the first of them, in
the leading `length` bits. -/
structure Block (w : Nat) where
  base : Nat
  length : Nat

/-- The number of the last address of a block. -/
def Block.last {w : Nat} (b : Block w) : Nat := b.base + (2 ^ (w - b.length) - 1)

/-- A block is an interval of numbers. -/
def Block.Contains {w : Nat} (b : Block w) (x : BitVec w) : Prop := b.base ≤ x.toNat ∧ x.toNat ≤ b.last

instance {w : Nat} (b : Block w) (x : BitVec w) : Decidable (b.Contains x) :=
  inferInstanceAs (Decidable (_ ∧ _))

/-- The block of version four with the octets of its base. -/
def blockV4 (octets : List Nat) (length : Nat) : Block 32 := ⟨pack 256 octets, length⟩

/-- The block of version six with the first four groups of its base, after which there are zeros. -/
def blockV6 (groups : List Nat) (length : Nat) : Block 128 := ⟨pack 65536 groups * 2 ^ 64, length⟩

/-- The reserved blocks of version four. -/
def blocksV4 : List (Block 32) :=
  [blockV4 [0, 0, 0, 0] 8, blockV4 [10, 0, 0, 0] 8, blockV4 [100, 64, 0, 0] 10,
    blockV4 [127, 0, 0, 0] 8, blockV4 [169, 254, 0, 0] 16, blockV4 [172, 16, 0, 0] 12,
    blockV4 [192, 0, 0, 0] 24, blockV4 [192, 0, 2, 0] 24, blockV4 [192, 168, 0, 0] 16,
    blockV4 [198, 18, 0, 0] 15, blockV4 [198, 51, 100, 0] 24, blockV4 [203, 0, 113, 0] 24,
    blockV4 [224, 0, 0, 0] 4, blockV4 [240, 0, 0, 0] 4]

/-- The reserved blocks of version six. -/
def blocksV6 : List (Block 128) :=
  [blockV6 [0, 0, 0, 0] 8, blockV6 [0x100, 0, 0, 0] 64, blockV6 [0x2001, 0, 0, 0] 23,
    blockV6 [0x2001, 0xDB8, 0, 0] 32, blockV6 [0xFC00, 0, 0, 0] 7, blockV6 [0xFE80, 0, 0, 0] 10,
    blockV6 [0xFEC0, 0, 0, 0] 10, blockV6 [0xFF00, 0, 0, 0] 8]

/-- Four digits make up a number. -/
theorem pack_four (base a b c d : Nat) :
    pack base [a, b, c, d] = ((a * base + b) * base + c) * base + d := by
  simp only [pack, List.foldl, Nat.zero_mul, Nat.zero_add]

theorem contains_blockV4 (a b c d length : Nat) (x : BitVec 32) :
    (blockV4 [a, b, c, d] length).Contains x ↔
      ((a * 256 + b) * 256 + c) * 256 + d ≤ x.toNat ∧
        x.toNat ≤ ((a * 256 + b) * 256 + c) * 256 + d + (2 ^ (32 - length) - 1) := by
  simp only [blockV4, Block.Contains, Block.last, pack_four]

/-- Whether a number lies in an interval of whole steps shows in the number of steps. -/
theorem mem_steps_iff {step count : Nat} (hstep : 0 < step) (hcount : 0 < count) (first n : Nat) :
    (first * step ≤ n ∧ n ≤ first * step + (count * step - 1)) ↔
      first ≤ n / step ∧ n / step ≤ first + (count - 1) := by
  have hsize : 0 < count * step := Nat.mul_pos hcount hstep
  have hlast : n ≤ first * step + (count * step - 1) ↔ n < (first + count) * step := by
    rw [Nat.add_mul]
    omega
  rw [hlast, ← Nat.div_lt_iff_lt_mul hstep, Nat.le_div_iff_mul_le hstep]
  omega

theorem contains_blockV6 {length : Nat} (hlength : length ≤ 64) (a b c d : Nat) (x : BitVec 128) :
    (blockV6 [a, b, c, d] length).Contains x ↔
      ((a * 65536 + b) * 65536 + c) * 65536 + d ≤ x.toNat / 2 ^ 64 ∧
        x.toNat / 2 ^ 64 ≤ ((a * 65536 + b) * 65536 + c) * 65536 + d + (2 ^ (64 - length) - 1) := by
  have hsize : 2 ^ (128 - length) = 2 ^ (64 - length) * 2 ^ 64 := by
    rw [← Nat.pow_add]
    congr 1
    omega
  simp only [blockV6, Block.Contains, Block.last, pack_four, hsize]
  exact mem_steps_iff (Nat.two_pow_pos 64) (Nat.two_pow_pos _) _ _

/-! ### Masks -/

/-- A mask of leading bits cuts the trailing ones off. -/
theorem land_leading {w k x : Nat} (hk : k ≤ w) (h : x < 2 ^ w) :
    x &&& (2 ^ w - 2 ^ k) = x / 2 ^ k * 2 ^ k := by
  have hmask : 2 ^ w - 2 ^ k = (2 ^ (w - k) - 1) <<< k := by
    rw [Nat.shiftLeft_eq, Nat.sub_mul, ← Nat.pow_add, Nat.sub_add_cancel hk, Nat.one_mul]
  have hshift : x / 2 ^ k * 2 ^ k = (x >>> k) <<< k := by
    rw [Nat.shiftLeft_eq, Nat.shiftRight_eq_div_pow]
  rw [hmask, hshift]
  apply Nat.eq_of_testBit_eq
  intro i
  simp only [Nat.testBit_and, Nat.testBit_shiftLeft, Nat.testBit_two_pow_sub_one,
    Nat.testBit_shiftRight]
  by_cases hi : k ≤ i
  · have hbit : k + (i - k) = i := by omega
    by_cases hw : i < w
    · have hlt : i - k < w - k := by omega
      simp [hi, hbit, hlt]
    · have hpow : 2 ^ w ≤ 2 ^ i := Nat.pow_le_pow_right (by decide) (by omega)
      have hzero : x.testBit i = false := Nat.testBit_lt_two_pow (Nat.lt_of_lt_of_le h hpow)
      simp [hi, hbit, hzero]
  · simp [hi]

/-! ### Version four -/

section
variable {a b c d : Nat} {x : BitVec 32} (h : octets x = [a, b, c, d])
include h

/-- The number that octets make up. -/
theorem toNat_of_octets :
    x.toNat = ((a * 256 + b) * 256 + c) * 256 + d ∧ a < 256 ∧ b < 256 ∧ c < 256 ∧ d < 256 := by
  have hlt := x.isLt
  simp only [octets, List.cons.injEq] at h
  omega

theorem isPrivate_iff :
    isPrivate a b = true ↔
      (blockV4 [10, 0, 0, 0] 8).Contains x ∨ (blockV4 [172, 16, 0, 0] 12).Contains x ∨
        (blockV4 [192, 168, 0, 0] 16).Contains x := by
  obtain ⟨hx, ha, hb, hc, hd⟩ := toNat_of_octets h
  simp only [isPrivate, contains_blockV4, Bool.or_eq_true, Bool.and_eq_true, beq_iff_eq,
    decide_eq_true_eq]
  omega

theorem isDocumentation_iff :
    isDocumentation a b c = true ↔
      (blockV4 [192, 0, 2, 0] 24).Contains x ∨ (blockV4 [198, 51, 100, 0] 24).Contains x ∨
        (blockV4 [203, 0, 113, 0] 24).Contains x := by
  obtain ⟨hx, ha, hb, hc, hd⟩ := toNat_of_octets h
  simp only [isDocumentation, contains_blockV4, Bool.or_eq_true, Bool.and_eq_true, beq_iff_eq]
  omega

/-- **The tests on octets are the blocks of version four**, one after another but for that of the
broadcast address, which lies in the last block. -/
theorem isReservedOctets_iff :
    isReservedOctets a b c d = true ↔ ∃ block ∈ blocksV4, block.Contains x := by
  obtain ⟨hx, ha, hb, hc, hd⟩ := toNat_of_octets h
  have hten : b &&& 0xC0 = b / 64 * 64 := land_leading (w := 8) (k := 6) (by decide) hb
  have hfifteen : b &&& 0xFE = b / 2 * 2 := land_leading (w := 8) (k := 1) (by decide) hb
  obtain ⟨hloopback, hlinkLocal, hbroadcast, hmulticast, hthisNetwork, hshared, hprotocols,
      hbenchmarks, hlater⟩ :
      (a = 127 ↔ (blockV4 [127, 0, 0, 0] 8).Contains x) ∧
        (a = 169 ∧ b = 254 ↔ (blockV4 [169, 254, 0, 0] 16).Contains x) ∧
        (((a = 255 ∧ b = 255) ∧ c = 255) ∧ d = 255 → (blockV4 [240, 0, 0, 0] 4).Contains x) ∧
        (224 ≤ a ∧ a ≤ 239 ↔ (blockV4 [224, 0, 0, 0] 4).Contains x) ∧
        (a = 0 ↔ (blockV4 [0, 0, 0, 0] 8).Contains x) ∧
        (a = 100 ∧ b / 64 * 64 = 64 ↔ (blockV4 [100, 64, 0, 0] 10).Contains x) ∧
        ((a = 192 ∧ b = 0) ∧ c = 0 ↔ (blockV4 [192, 0, 0, 0] 24).Contains x) ∧
        (a = 198 ∧ b / 2 * 2 = 18 ↔ (blockV4 [198, 18, 0, 0] 15).Contains x) ∧
        (240 ≤ a ↔ (blockV4 [240, 0, 0, 0] 4).Contains x) := by
    simp only [contains_blockV4]
    refine ⟨?_, ?_, ?_, ?_, ?_, ?_, ?_, ?_, ?_⟩ <;> omega
  simp only [isReservedOctets, Bool.or_eq_true, Bool.and_eq_true, beq_iff_eq, decide_eq_true_eq, hten,
    hfifteen, isPrivate_iff h, isDocumentation_iff h, hloopback, hlinkLocal, hmulticast, hthisNetwork,
    hshared, hprotocols, hbenchmarks, hlater, blocksV4, List.mem_cons, exists_eq_or_imp,
    List.not_mem_nil, or_false]
  -- what is left are the same alternatives in another order, and the broadcast address
  grind

end

/-- **An address of version four is reserved if its number lies in one of the intervals**, and only
then. -/
theorem isReservedV4_iff (x : BitVec 32) :
    isReservedV4 x = true ↔ ∃ block ∈ blocksV4, block.Contains x := by
  rw [isReservedV4]
  split
  next a b c d h => exact isReservedOctets_iff h
  next h => exact absurd rfl (h _ _ _ _)

/-! ### Version six -/

/-- The number that the first four groups make up. -/
theorem lead_of_groups {a b c d : Nat} {rest : List Nat} {x : BitVec 128}
    (h : groups x = a :: b :: c :: d :: rest) :
    x.toNat / 2 ^ 64 = ((a * 65536 + b) * 65536 + c) * 65536 + d ∧
      a < 65536 ∧ b < 65536 ∧ c < 65536 ∧ d < 65536 := by
  have hlt := x.isLt
  simp only [groups, List.cons.injEq] at h
  omega

/-- **The tests on groups are the blocks of version six**, one after another but for that of local
translation, which lies in the first block. -/
theorem isReservedGroups_iff {a b c d : Nat} {rest : List Nat} {x : BitVec 128}
    (h : groups x = a :: b :: c :: d :: rest) :
    isReservedGroups a b c d = true ↔ ∃ block ∈ blocksV6, block.Contains x := by
  obtain ⟨hlead, ha, hb, hc, hd⟩ := lead_of_groups h
  have height : a &&& 0xFF00 = a / 256 * 256 := land_leading (w := 16) (k := 8) (by decide) ha
  have hseven : a &&& 0xFE00 = a / 512 * 512 := land_leading (w := 16) (k := 9) (by decide) ha
  have hten : a &&& 0xFFC0 = a / 64 * 64 := land_leading (w := 16) (k := 6) (by decide) ha
  obtain ⟨hmulticast, huniqueLocal, hlinkLocal, hsetAside, htranslation, hdiscard, hprotocols,
      hdocumentation, hsiteLocal⟩ :
      (a / 256 * 256 = 0xFF00 ↔ (blockV6 [0xFF00, 0, 0, 0] 8).Contains x) ∧
        (a / 512 * 512 = 0xFC00 ↔ (blockV6 [0xFC00, 0, 0, 0] 7).Contains x) ∧
        (a / 64 * 64 = 0xFE80 ↔ (blockV6 [0xFE80, 0, 0, 0] 10).Contains x) ∧
        (a / 256 * 256 = 0 ↔ (blockV6 [0, 0, 0, 0] 8).Contains x) ∧
        ((a = 0x64 ∧ b = 0xFF9B) ∧ c = 1 → (blockV6 [0, 0, 0, 0] 8).Contains x) ∧
        (((a = 0x100 ∧ b = 0) ∧ c = 0) ∧ d = 0 ↔ (blockV6 [0x100, 0, 0, 0] 64).Contains x) ∧
        (a = 0x2001 ∧ b < 0x200 ↔ (blockV6 [0x2001, 0, 0, 0] 23).Contains x) ∧
        (a = 0x2001 ∧ b = 0xDB8 ↔ (blockV6 [0x2001, 0xDB8, 0, 0] 32).Contains x) ∧
        (a / 64 * 64 = 0xFEC0 ↔ (blockV6 [0xFEC0, 0, 0, 0] 10).Contains x) := by
    simp (disch := decide) only [contains_blockV6, hlead]
    refine ⟨?_, ?_, ?_, ?_, ?_, ?_, ?_, ?_, ?_⟩ <;> omega
  simp only [isReservedGroups, Bool.or_eq_true, Bool.and_eq_true, beq_iff_eq, decide_eq_true_eq, height,
    hseven, hten, hmulticast, huniqueLocal, hlinkLocal, hsetAside, hdiscard, hprotocols,
    hdocumentation, hsiteLocal, blocksV6, List.mem_cons, exists_eq_or_imp, List.not_mem_nil, or_false]
  -- what is left are the same alternatives in another order, and the local translation
  grind

/-- The address of version six that begins with the 96 bits of a number and ends with an address of
version four. -/
def embed (front : Nat) (m : BitVec 32) : BitVec 128 := BitVec.ofNat 128 (front * 2 ^ 32 + m.toNat)

/-- The address `::ffff:a.b.c.d`. -/
def mapped (m : BitVec 32) : BitVec 128 := embed 0xFFFF m

/-- The number of an address that holds another. -/
theorem toNat_embed {front : Nat} (h : front < 2 ^ 96) (m : BitVec 32) :
    (embed front m).toNat = front * 2 ^ 32 + m.toNat := by
  have hm := m.isLt
  rw [embed, BitVec.toNat_ofNat, Nat.mod_eq_of_lt]
  omega

/-- A mapped address stands for the one that it holds. -/
theorem mapped?_mapped (m : BitVec 32) : mapped? (mapped m) = some m := by
  have hm := m.isLt
  have hnumber : (mapped m).toNat = 0xFFFF * 2 ^ 32 + m.toNat := toNat_embed (by decide) m
  have hfront : (mapped m).toNat / 0x100000000 = 0xFFFF := by omega
  rw [mapped?, if_pos hfront]
  refine congrArg some (BitVec.eq_of_toNat_eq ?_)
  rw [BitVec.toNat_ofNat]
  omega

/-- An address that stands for another is a mapped one. -/
theorem eq_mapped_of_mapped? {x : BitVec 128} {m : BitVec 32} (h : mapped? x = some m) :
    x = mapped m := by
  rw [mapped?] at h
  split at h
  next hfront =>
    obtain rfl := Option.some.inj h
    refine BitVec.eq_of_toNat_eq ?_
    rw [mapped, toNat_embed (by decide), BitVec.toNat_ofNat]
    omega
  next => cases h

/-- A mapped address is judged by the one that it stands for. -/
theorem isReservedV6_mapped (m : BitVec 32) : isReservedV6 (mapped m) = isReservedV4 m := by
  rw [isReservedV6, mapped?_mapped]

/-- **Any other address of version six is reserved if its number lies in one of the intervals**, and
only then. -/
theorem isReservedV6_iff {x : BitVec 128} (h : ∀ m, x ≠ mapped m) :
    isReservedV6 x = true ↔ ∃ block ∈ blocksV6, block.Contains x := by
  have hnone : mapped? x = none :=
    Option.eq_none_iff_forall_ne_some.mpr fun m hm => h m (eq_mapped_of_mapped? hm)
  have hfirst (hlow : x = 1 ∨ x = 0) : ∃ block ∈ blocksV6, block.Contains x := by
    refine ⟨blockV6 [0, 0, 0, 0] 8, List.mem_cons_self, ?_⟩
    rw [contains_blockV6 (by decide)]
    rcases hlow with rfl | rfl <;> decide
  rw [isReservedV6, hnone]
  dsimp only
  split
  next a b c d rest hgroups =>
    rw [Bool.or_eq_true, isReservedGroups_iff hgroups, Bool.or_eq_true, beq_iff_eq, beq_iff_eq]
    exact or_iff_right_of_imp hfirst
  next hgroups => exact absurd rfl (hgroups _ _ _ _ _)

/-! ### Both versions -/

/-- An address that begins with eight bits of zero and is not mapped is reserved. -/
theorem isReservedV6_embed {front : Nat} (hfront : front < 2 ^ 88) (hne : front ≠ 0xFFFF)
    (m : BitVec 32) : isReservedV6 (embed front m) = true := by
  have hm := m.isLt
  have hnumber := toNat_embed (Nat.lt_of_lt_of_le hfront (by decide)) m
  have hmapped : ∀ k, embed front m ≠ mapped k := by
    intro k heq
    have hk := k.isLt
    have hother : (mapped k).toNat = 0xFFFF * 2 ^ 32 + k.toNat := toNat_embed (by decide) k
    rw [heq, hother] at hnumber
    omega
  rw [isReservedV6_iff hmapped]
  refine ⟨blockV6 [0, 0, 0, 0] 8, List.mem_cons_self, ?_⟩
  rw [contains_blockV6 (by decide), hnumber]
  omega

/-- **The reserved addresses are exactly those of the blocks.** An address of version four is
reserved if and only if its number lies in one of the intervals of its version. A mapped address is
as reserved as the one that it stands for. Any other address of version six is reserved if and only
if its number lies in one of the intervals of that version; among these are all addresses that hold
one of version four after nothing but zeros, or after the prefix `64:ff9b::` of translation. -/
theorem reserved_ranges :
    (∀ x : BitVec 32, isReserved (.v4 x) = true ↔ ∃ block ∈ blocksV4, block.Contains x) ∧
      (∀ m : BitVec 32, isReserved (.v6 (mapped m)) = isReserved (.v4 m)) ∧
      (∀ x : BitVec 128, (∀ m, x ≠ mapped m) →
        (isReserved (.v6 x) = true ↔ ∃ block ∈ blocksV6, block.Contains x)) ∧
      ∀ m : BitVec 32, isReserved (.v6 (embed 0 m)) = true ∧
        isReserved (.v6 (embed (pack 65536 [0x64, 0xFF9B, 0, 0, 0, 0]) m)) = true := by
  refine ⟨isReservedV4_iff, isReservedV6_mapped, fun x h => isReservedV6_iff h, fun m => ⟨?_, ?_⟩⟩
  · exact isReservedV6_embed (by decide) (by decide) m
  · exact isReservedV6_embed (by decide) (by decide) m

/-- The edge of a range in each version: `172.31.255.255` and the address after it, and the last
address that begins with `2001:1ff:` and the one after it. -/
theorem reserved_ranges_edges :
    (∀ m, 0x200101FFFFFFFFFFFFFFFFFFFFFFFFFF#128 ≠ mapped m) ∧
      (∀ m, 0x20010200000000000000000000000000#128 ≠ mapped m) ∧
      isReserved (.v4 0xAC1FFFFF#32) = true ∧ isReserved (.v4 0xAC200000#32) = false ∧
      isReserved (.v6 0x200101FFFFFFFFFFFFFFFFFFFFFFFFFF#128) = true ∧
      isReserved (.v6 0x20010200000000000000000000000000#128) = false := by
  obtain ⟨hv4, -, hv6, -⟩ := reserved_ranges
  have hlast : ∀ m, 0x200101FFFFFFFFFFFFFFFFFFFFFFFFFF#128 ≠ mapped m := by
    intro m heq
    have hnone := mapped?_mapped m
    rw [← heq] at hnone
    cases hnone
  have hnext : ∀ m, 0x20010200000000000000000000000000#128 ≠ mapped m := by
    intro m heq
    have hnone := mapped?_mapped m
    rw [← heq] at hnone
    cases hnone
  refine ⟨hlast, hnext, (hv4 _).mpr ?_, Bool.eq_false_iff.mpr (mt (hv4 _).mp ?_),
    (hv6 _ hlast).mpr ?_, Bool.eq_false_iff.mpr (mt (hv6 _ hnext).mp ?_)⟩ <;> decide +kernel

end Vigil.Address
