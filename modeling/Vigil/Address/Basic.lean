/-!
# Internet Addresses

An address is a number of 32 or of 128 bits. Its octets and its groups of sixteen bits are views
of that number, most significant first.
-/

namespace Vigil

/-- An internet address of either version. -/
inductive Address
  | v4 (bits : BitVec 32)
  | v6 (bits : BitVec 128)
  deriving DecidableEq, Repr

namespace Address

/-- The four octets of an address of version four, most significant first. -/
def octets (a : BitVec 32) : List Nat :=
  let n := a.toNat
  [n / 0x1000000 % 256, n / 0x10000 % 256, n / 0x100 % 256, n % 256]

/-- The number whose digits in a base are `digits`, most significant first. -/
def pack (base : Nat) (digits : List Nat) : Nat := digits.foldl (fun n d => n * base + d) 0

/-- The address of version four with the given octets. -/
def ofOctets (octets : List Nat) : BitVec 32 := BitVec.ofNat 32 (pack 256 octets)

/-- The eight groups of an address of version six, most significant first. -/
def groups (a : BitVec 128) : List Nat :=
  let n := a.toNat
  [n / 0x10000000000000000000000000000 % 65536, n / 0x1000000000000000000000000 % 65536,
    n / 0x100000000000000000000 % 65536, n / 0x10000000000000000 % 65536,
    n / 0x1000000000000 % 65536, n / 0x100000000 % 65536, n / 0x10000 % 65536, n % 65536]

/-- The address of version six with the given groups. -/
def ofGroups (groups : List Nat) : BitVec 128 := BitVec.ofNat 128 (pack 65536 groups)

/-- The address of version four that an address of the form `::ffff:a.b.c.d` stands for. -/
def mapped? (a : BitVec 128) : Option (BitVec 32) :=
  if a.toNat / 0x100000000 = 0xFFFF then some (BitVec.ofNat 32 a.toNat) else none

theorem ofOctets_octets (a : BitVec 32) : ofOctets (octets a) = a := by
  apply BitVec.eq_of_toNat_eq
  have := a.isLt
  simp only [ofOctets, octets, pack, List.foldl, BitVec.toNat_ofNat]
  omega

theorem ofGroups_groups (a : BitVec 128) : ofGroups (groups a) = a := by
  apply BitVec.eq_of_toNat_eq
  have := a.isLt
  simp only [ofGroups, groups, pack, List.foldl, BitVec.toNat_ofNat]
  omega

end Address

end Vigil
