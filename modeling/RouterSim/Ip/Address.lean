import RouterSim.Lib.Checks

/-! IPv6 addresses as 128-bit words, most significant octet first, and prefixes of
them. -/
namespace RouterSim.Ip

abbrev Ipv6 := BitVec 128

structure Ipv6Prefix where
  network : Ipv6 := 0#128
  length : BitVec 8 := 0#8
  deriving DecidableEq

/-- The first `length` bits of an address. -/
def mask (address : Ipv6) (length : Nat) : Ipv6 :=
  if 128 ≤ length then address else address &&& (BitVec.allOnes 128 <<< (128 - length))

def contains (p : Ipv6Prefix) (address : Ipv6) : Bool :=
  if 128#8 < p.length then false else mask address p.length.toNat == p.network

theorem getLsbD_mask (address : Ipv6) (length i : Nat) :
    (mask address length).getLsbD i = (decide (128 - length ≤ i) && address.getLsbD i) := by
  unfold mask
  split
  next hle =>
    have : 128 - length ≤ i := by omega
    simp [this]
  next hlt =>
    rw [BitVec.getLsbD_and, BitVec.getLsbD_shiftLeft, BitVec.getLsbD_allOnes]
    by_cases hi : i < 128
    · by_cases hle : 128 - length ≤ i
      · have : i - (128 - length) < 128 := by omega
        simp [hi, hle, this]
      · have : i < 128 - length := by omega
        simp [hle]
    · have := BitVec.getLsbD_of_ge address i (by omega)
      simp [this]

theorem mask_mask (address : Ipv6) {short long : Nat} (h : short ≤ long) :
    mask (mask address long) short = mask address short := by
  apply BitVec.eq_of_getLsbD_eq
  intro i _
  rw [getLsbD_mask, getLsbD_mask, getLsbD_mask]
  by_cases hi : 128 - short ≤ i
  · have : 128 - long ≤ i := by omega
    simp [this]
  · simp [hi]

section EitherFamily

inductive AddressFamily
  | ipv4 | ipv6
  deriving DecidableEq

/-- An IPv4 address takes the first 32 bits, and the others are zero. -/
structure IpAddress where
  family : AddressFamily := .ipv4
  bytes : Ipv6 := 0#128
  deriving DecidableEq

structure IpPrefix where
  network : IpAddress := {}
  length : BitVec 8 := 0#8
  deriving DecidableEq

def AddressFamily.bits : AddressFamily → Nat
  | .ipv4 => 32
  | .ipv6 => 128

def maskAddress (address : IpAddress) (length : BitVec 8) : IpAddress :=
  if address.family.bits ≤ length.toNat then address
  else { address with bytes := mask address.bytes length.toNat }

def containsAddress (p : IpPrefix) (address : IpAddress) : Bool :=
  p.network.family == address.family && decide (p.length.toNat ≤ address.family.bits) &&
    maskAddress address p.length == p.network

def ipv4Bytes (address : BitVec 32) : Ipv6 := address ++ 0#96

end EitherFamily

end RouterSim.Ip
