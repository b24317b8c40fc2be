import RouterSim.Dhcpv6.LeaseDisjoint

/-! A client without a binding is probed for: which of the values a pool can give are
reached before the probes run out. -/
namespace RouterSim.Dhcpv6

open List BitVec

open RouterSim.Ip (Ipv6)

variable {hmac : Digest → List (BitVec 8) → Digest} {r : LeaseRepository}
  {client : ClientIdentity} {pool : LeasePool} {poolIndex attempt : Nat} {now : Int}

def LeaseRepository.poolAt (r : LeaseRepository) (kind : LeaseKind) (poolIndex : Nat) :
    LeasePool := (r.poolsOf kind).getD poolIndex {}

/-- The prefix length a pool's values are given with. -/
def grantedLength (kind : LeaseKind) (pool : LeasePool) : BitVec 8 :=
  if kind == .delegated then pool.delegatedLength else 128#8

/-- The probe whose value may be given: neither reserved nor in use. -/
def LeaseRepository.admits (hmac : Digest → List (BitVec 8) → Digest) (r : LeaseRepository)
    (client : ClientIdentity) (pool : LeasePool) (attempt : Nat) : Bool :=
  let value := candidate hmac pool client attempt
  !((client.kind != .delegated && isReservedInterfaceIdentifier value) ||
    r.valueInUse client.kind value (grantedLength client.kind pool))

/-- Some value of the pool's allocation domain may be given. -/
def LeaseRepository.Vacant (hmac : Digest → List (BitVec 8) → Digest) (r : LeaseRepository)
    (client : ClientIdentity) (pool : LeasePool) : Prop :=
  ∃ attempt : BitVec 32, r.admits hmac client pool attempt.toNat = true

/-- Some value of the first probes, one more than there are slots, may be given. -/
def LeaseRepository.Reached (hmac : Digest → List (BitVec 8) → Digest) (r : LeaseRepository)
    (client : ClientIdentity) (pool : LeasePool) : Prop :=
  ∃ attempt, attempt ≤ r.leases.length ∧ r.admits hmac client pool attempt = true

/-! ## The probes made -/

theorem probe_none_iff {remaining : Nat} :
    r.probe hmac pool client (grantedLength client.kind pool) remaining attempt = none ↔
      ∀ i < remaining, r.admits hmac client pool (attempt + i) = false := by
  induction remaining generalizing attempt with
  | zero => simp [LeaseRepository.probe]
  | succ remaining ih =>
    rw [Nat.forall_lt_succ_left, LeaseRepository.probe]
    split
    next passed =>
      have refused : r.admits hmac client pool (attempt + 0) = false := by
        rw [LeaseRepository.admits, Nat.add_zero, passed]
        rfl
      simp only [ih, refused, true_and, Nat.add_assoc, Nat.add_comm 1]
    next free =>
      have given : r.admits hmac client pool (attempt + 0) = true := by
        rw [LeaseRepository.admits, Nat.add_zero, Bool.eq_false_iff.mpr free]
        rfl
      simp only [given, false_and, reduceCtorEq]

@[simp] theorem poolAt_expire (r : LeaseRepository) (now : Int) (kind : LeaseKind) (index : Nat) :
    (r.expire now).poolAt kind index = r.poolAt kind index := rfl

/-- What a pool without a value to give answers. -/
def exhausted (kind : LeaseKind) : LeaseStatus :=
  if kind == .delegated then .noPrefixesAvailable else .noAddressesAvailable

/-- The record a client is assigned a value with. -/
def granted (client : ClientIdentity) (pool : LeasePool) (poolIndex : Nat) (value : Ipv6)
    (now : Int) : Lease :=
  { client := client, value := value,
    preferredUntil := leaseDeadline now pool.preferredLifetimeSeconds
    validUntil := leaseDeadline now pool.validLifetimeSeconds, lastClientTransaction := now,
    poolIndex := poolIndex, prefixLength := grantedLength client.kind pool, occupied := true }

/-- The value the probes come to. -/
def LeaseRepository.probed (hmac : Digest → List (BitVec 8) → Digest) (r : LeaseRepository)
    (client : ClientIdentity) (pool : LeasePool) : Option Ipv6 :=
  r.probe hmac pool client (grantedLength client.kind pool) (r.leases.length + 1) 0

theorem probed_isSome_iff : (r.probed hmac client pool).isSome = true ↔
    r.Reached hmac client pool := by
  rw [LeaseRepository.probed, ← Option.ne_none_iff_isSome, ne_eq, probe_none_iff]
  simp [LeaseRepository.Reached, Nat.lt_succ_iff]

/-- A client without a binding gets the value the probes come to, in the first free slot. -/
theorem assign_unbound (hmac : Digest → List (BitVec 8) → Digest)
    (valid : validClient client = true) (configured : poolIndex < (r.poolsOf client.kind).length)
    (unbound : (r.expire now).find client = none) :
    ((r.expire now).available = none ∨
        (r.expire now).probed hmac client (r.poolAt client.kind poolIndex) = none) ∧
      r.assign hmac client poolIndex now = (r.expire now, { status := exhausted client.kind }) ∨
    ∃ slot value, (r.expire now).available = some slot ∧
      (r.expire now).probed hmac client (r.poolAt client.kind poolIndex) = some value ∧
      r.assign hmac client poolIndex now =
        ({ r.expire now with
            leases := (r.expire now).leases.set slot
              (granted client (r.poolAt client.kind poolIndex) poolIndex value now) },
          (r.expire now).result
            (granted client (r.poolAt client.kind poolIndex) poolIndex value now) now
            .assigned) := by
  have configured' : ¬ ((r.expire now).poolsOf client.kind).length ≤ poolIndex :=
    Nat.not_le.mpr configured
  simp only [LeaseRepository.assign, valid, if_neg configured', unbound]
  cases room : (r.expire now).available with
  | none => exact .inl ⟨.inl rfl, rfl⟩
  | some slot =>
    cases found : (r.expire now).probed hmac client (r.poolAt client.kind poolIndex) with
    | none =>
      left
      refine ⟨.inr rfl, ?_⟩
      unfold LeaseRepository.probed at found
      erw [found]
      rfl
    | some value =>
      right
      refine ⟨slot, value, rfl, rfl, ?_⟩
      unfold LeaseRepository.probed at found
      erw [found]
      rfl

theorem assigned_iff (valid : validClient client = true)
    (configured : poolIndex < (r.poolsOf client.kind).length)
    (unbound : (r.expire now).find client = none) :
    (r.assign hmac client poolIndex now).2.status = .assigned ↔
      (r.expire now).available ≠ none ∧
        (r.expire now).Reached hmac client (r.poolAt client.kind poolIndex) := by
  rw [← probed_isSome_iff, ← Option.ne_none_iff_isSome]
  obtain ⟨refused, outcome⟩ | ⟨slot, value, room, found, outcome⟩ :=
    assign_unbound hmac valid configured unbound
  · rw [outcome]
    constructor
    · intro assigned
      cases h : client.kind <;> rw [h] at assigned <;> cases assigned
    · rintro ⟨room, found⟩
      exact absurd refused (not_or.mpr ⟨room, found⟩)
  · rw [outcome, room, found]
    exact ⟨fun _ => ⟨nofun, nofun⟩, fun _ => rfl⟩

/-! ## When the probes reach a value that may be given -/

theorem admits_false (refused : r.admits hmac client pool attempt = false)
    (unreserved : client.kind ≠ .delegated →
      isReservedInterfaceIdentifier (candidate hmac pool client attempt) = false) :
    ∃ lease ∈ r.leases, lease.uses client.kind (candidate hmac pool client attempt)
      (grantedLength client.kind pool) = true := by
  rw [LeaseRepository.admits, Bool.not_eq_false', Bool.or_eq_true, Bool.and_eq_true,
    bne_iff_ne] at refused
  obtain ⟨kind, reserved⟩ | used := refused
  · rw [unreserved kind] at reserved
    cases reserved
  · exact any_eq_true.mp used

/-- Where no probe is reserved, every record keeps the client from one probe at most and no
two probes agree, one of them may be given. -/
theorem reached_of_distinct
    (unreserved : ∀ attempt ≤ r.leases.length, client.kind ≠ .delegated →
      isReservedInterfaceIdentifier (candidate hmac pool client attempt) = false)
    (single : ∀ lease ∈ r.leases, ∀ v w, lease.uses client.kind v
      (grantedLength client.kind pool) = true →
      lease.uses client.kind w (grantedLength client.kind pool) = true → v = w)
    (distinct : ∀ a b, a ≤ r.leases.length → b ≤ r.leases.length →
      candidate hmac pool client a = candidate hmac pool client b → a = b) :
    r.Reached hmac client pool := by
  apply Classical.byContradiction
  intro unreached
  let holder (attempt : Nat) : Nat := r.leases.findIdx fun lease =>
    lease.uses client.kind (candidate hmac pool client attempt) (grantedLength client.kind pool)
  -- every probe is kept from the client by a record of its own
  have held : ∀ a ≤ r.leases.length, ∃ bound : holder a < r.leases.length,
      r.leases[holder a].uses client.kind (candidate hmac pool client a)
        (grantedLength client.kind pool) = true := by
    intro a le
    have refused : r.admits hmac client pool a = false :=
      Bool.eq_false_iff.mpr fun given => unreached ⟨a, le, given⟩
    have bound : holder a < r.leases.length :=
      findIdx_lt_length.mpr (admits_false refused (unreserved a le))
    exact ⟨bound, findIdx_getElem (w := bound)⟩
  have nodup : ((List.range (r.leases.length + 1)).map holder).Nodup := by
    rw [nodup_iff_pairwise_ne, pairwise_map]
    apply Pairwise.imp_of_mem _ nodup_range
    intro a b mem_a mem_b ne same
    have le_a : a ≤ r.leases.length := Nat.le_of_lt_succ (mem_range.mp mem_a)
    have le_b : b ≤ r.leases.length := Nat.le_of_lt_succ (mem_range.mp mem_b)
    obtain ⟨bound, uses_a⟩ := held a le_a
    obtain ⟨_, uses_b⟩ := held b le_b
    simp only [← same] at uses_b
    exact ne (distinct a b le_a le_b (single _ (getElem_mem bound) _ _ uses_a uses_b))
  have within : (List.range (r.leases.length + 1)).map holder ⊆ List.range r.leases.length := by
    intro place mem
    obtain ⟨a, mem_a, rfl⟩ := mem_map.mp mem
    exact mem_range.mpr (held a (Nat.le_of_lt_succ (mem_range.mp mem_a))).1
  have length := nodup.length_le_of_subset within
  rw [length_map, length_range, length_range] at length
  exact Nat.not_succ_le_self _ length

/-- A record keeps an address from a client only when it holds that address. -/
theorem uses_address {lease : Lease} {kind : LeaseKind} {v : Ipv6} {length : BitVec 8}
    (address : kind ≠ .delegated) (uses : lease.uses kind v length = true) : lease.value = v := by
  unfold Lease.uses at uses
  split at uses
  · cases uses
  split at uses
  · simp [address] at uses
  · exact beq_iff_eq.mp uses

/-- The hash a client's probes start from. -/
def probeStart (hmac : Digest → List (BitVec 8) → Digest) (pool : LeasePool)
    (client : ClientIdentity) : BitVec 64 :=
  lowerU64 (hmac pool.allocationSecret
    (client.duid ++ client.linkIdentity ++ networkU32 client.iaid ++ [kindOctet client.kind]))

theorem candidate_identifier (address : client.kind ≠ .delegated)
    (wide : pool.aggregate.length.toNat ≤ 64) :
    (candidate hmac pool client attempt).setWidth 64 =
      probeStart hmac pool client + BitVec.ofNat 64 attempt := by
  have bits : ¬ 128 - pool.aggregate.length.toNat < 64 := by omega
  simp only [candidate, beq_eq_false_iff_ne.mpr address, writeSuffix, if_pos wide, cutOrdinal,
    if_neg bits, probeStart]
  apply eq_of_getLsbD_eq
  intro i low
  simp [low]

/-- A pool of whole interface identifiers reaches a value that may be given, if none of the
first probes is reserved. -/
theorem reached_of_unreserved (address : client.kind ≠ .delegated)
    (wide : pool.aggregate.length.toNat ≤ 64) (slots : r.leases.length < 0x10000000000000000)
    (unreserved : ∀ attempt ≤ r.leases.length,
      isReservedInterfaceIdentifier (candidate hmac pool client attempt) = false) :
    r.Reached hmac client pool := by
  apply reached_of_distinct
  · exact fun attempt le _ => unreserved attempt le
  · intro lease _ v w uses_v uses_w
    exact (uses_address address uses_v).symm.trans (uses_address address uses_w)
  · intro a b le_a le_b same
    have identifiers := congrArg (BitVec.setWidth 64) same
    rw [candidate_identifier address wide, candidate_identifier address wide,
      BitVec.add_right_inj] at identifiers
    have values := congrArg BitVec.toNat identifiers
    rwa [toNat_ofNat, toNat_ofNat, Nat.mod_eq_of_lt (by omega),
      Nat.mod_eq_of_lt (by omega)] at values

theorem toNat_cutOrdinal {ordinal : BitVec 64} {bits : Nat} (short : bits < 64) :
    (cutOrdinal ordinal bits).toNat = ordinal.toNat % Nat.pow 2 bits := by
  have power : (1#64 <<< bits).toNat = Nat.pow 2 bits := by
    rw [toNat_shiftLeft, Nat.shiftLeft_eq, toNat_ofNat, Nat.one_mod_two_pow_eq_one.mpr
      (by decide), Nat.one_mul, Nat.mod_eq_of_lt (Nat.pow_lt_pow_right (by decide) short)]
    rfl
  have mask : ((1#64 <<< bits) - 1#64).toNat = Nat.pow 2 bits - 1 := by
    have positive : 1#64 ≤ 1#64 <<< bits := by
      rw [le_def, power]
      exact Nat.two_pow_pos bits
    rw [toNat_sub_of_le positive, power]
    rfl
  rw [cutOrdinal, if_pos short, toNat_and, mask]
  exact Nat.and_two_pow_sub_one_eq_mod ..

/-! ## Completeness -/

def interfacePool : LeasePool :=
  { aggregate := { network := 0x20010db8000000000000000000000000#128, length := 64#8 }
    allocationSecret := 1#8 :: List.replicate 31 0#8, validLifetimeSeconds := 600#32 }

def sampleClient : ClientIdentity := { duid := [0#8, 3#8, 1#8], linkIdentity := List.replicate 32 0#8 }

/-- A digest that ends in these octets. -/
def digestEnding (octets : List (BitVec 8)) : Digest :=
  List.replicate (32 - octets.length) 0#8 ++ octets

/-- The hash of a client whose probes start with a reserved block of 2^24 identifiers. -/
def blockHash : Digest → List (BitVec 8) → Digest :=
  fun _ _ => digestEnding [0x02#8, 0x00#8, 0x5e#8, 0xff#8, 0xfe#8, 0x00#8, 0x00#8, 0x00#8]

def unassigned : LeaseRepository :=
  step blockHash (.empty leasesPerServer) (.configure [interfacePool] [] 0)

def halfPool : LeasePool :=
  { aggregate := { network := 0x20010db8000000000000000000000000#128, length := 32#8 }
    allocationSecret := 1#8 :: List.replicate 31 0#8, validLifetimeSeconds := 600#32,
    delegatedLength := 33#8 }

/-- Smaller prefixes of the same aggregate. -/
def sitePool : LeasePool := { halfPool with delegatedLength := 64#8 }

def halfClient : ClientIdentity := { sampleClient with kind := .delegated }

def siteClient : ClientIdentity := { halfClient with iaid := 1#32 }

/-- A client holds half of the aggregate. -/
def halfDelegated : LeaseRepository :=
  Runs.run (step fun _ _ => digestEnding []) (.empty leasesPerServer)
    [.configure [] [halfPool, sitePool] 0, .assign halfClient 0 0]

end RouterSim.Dhcpv6
