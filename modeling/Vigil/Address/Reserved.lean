import Vigil.Address.Basic

/-!
# Reserved Addresses

The addresses that a guarded target may not be: loopback, private, link-local, multicast,
documentation and others that are not publicly routable. Whether an address is one of them shows in
its leading octets or groups, and is decided by looking at these one after another.
-/

namespace Vigil.Address

/-! ### Version four -/

/-- Octets of private networks. -/
def isPrivate (a b : Nat) : Bool :=
  a == 10 || (a == 172 && 16 ≤ b && b ≤ 31) || (a == 192 && b == 168)

/-- Octets for use in documentation. -/
def isDocumentation (a b c : Nat) : Bool :=
  (a == 192 && b == 0 && c == 2) || (a == 198 && b == 51 && c == 100) ||
    (a == 203 && b == 0 && c == 113)

/-- Whether four octets are those of an address that is not publicly routable. -/
def isReservedOctets (a b c d : Nat) : Bool :=
  isPrivate a b ||
    -- loopback
    a == 127 ||
    -- link-local
    (a == 169 && b == 254) ||
    -- broadcast
    (a == 255 && b == 255 && c == 255 && d == 255) ||
    isDocumentation a b c ||
    -- multicast
    (224 ≤ a && a ≤ 239) ||
    -- this network
    a == 0 ||
    -- shared address space
    (a == 100 && (b &&& 0xC0) == 64) ||
    -- protocol assignments
    (a == 192 && b == 0 && c == 0) ||
    -- benchmarking
    (a == 198 && (b &&& 0xFE) == 18) ||
    -- set aside for later
    240 ≤ a

/-- Whether an address of version four is not publicly routable. -/
def isReservedV4 (addr : BitVec 32) : Bool :=
  match octets addr with
  | [a, b, c, d] => isReservedOctets a b c d
  | _ => false

/-! ### Version six -/

/-- Whether the first four of the groups of an address show that it is not publicly routable. -/
def isReservedGroups (a b c d : Nat) : Bool :=
  -- multicast
  (a &&& 0xFF00) == 0xFF00 ||
    -- unique local
    (a &&& 0xFE00) == 0xFC00 ||
    -- link-local
    (a &&& 0xFFC0) == 0xFE80 ||
    -- set aside, which takes in all addresses that stand for one of version four but the mapped ones
    (a &&& 0xFF00) == 0 ||
    -- translation for local use
    (a == 0x64 && b == 0xFF9B && c == 1) ||
    -- to be discarded
    (a == 0x100 && b == 0 && c == 0 && d == 0) ||
    -- protocol assignments
    (a == 0x2001 && b < 0x200) ||
    -- documentation
    (a == 0x2001 && b == 0xDB8) ||
    -- site-local
    (a &&& 0xFFC0) == 0xFEC0

/-- Whether an address of version six is not publicly routable. A mapped address is judged by the
address of version four that it stands for. -/
def isReservedV6 (addr : BitVec 128) : Bool :=
  match mapped? addr with
  | some m => isReservedV4 m
  | none =>
    -- loopback and the unspecified address
    addr == 1 || addr == 0 ||
      match groups addr with
      | a :: b :: c :: d :: _ => isReservedGroups a b c d
      | _ => false

/-- Whether an address is not publicly routable. -/
def isReserved : Address → Bool
  | .v4 addr => isReservedV4 addr
  | .v6 addr => isReservedV6 addr

end Vigil.Address
