import RouterSim.Dhcpv6.LeaseProbing

/-! An Advertise previews the value that a Reply assigns: two copies of the probing, of which
only the second looks for a free slot. -/
namespace RouterSim.Dhcpv6

open List

open RouterSim.Ip (Ipv6)

variable {hmac : Digest → List (BitVec 8) → Digest} {r : LeaseRepository}
  {client : ClientIdentity} {pool : LeasePool} {poolIndex : Nat} {now : Int}

namespace LeaseRepository

/-- What an assignment would give, without a record of it. -/
def preview (hmac : Digest → List (BitVec 8) → Digest) (start : LeaseRepository)
    (client : ClientIdentity) (poolIndex : Nat) (now : Int) : LeaseRepository × LeaseResult :=
  if !validClient client then (start, { status := .invalidClient })
  else
    let r := start.expire now
    if (r.poolsOf client.kind).length ≤ poolIndex then (r, { status := .invalidPool })
    else match r.find client with
      | some slot => (r, r.result (r.leases.getD slot {}) now .renewed)
      | none =>
        let pool := (r.poolsOf client.kind).getD poolIndex {}
        let prefixLength := if client.kind == .delegated then pool.delegatedLength else 128#8
        match r.probe hmac pool client prefixLength (r.leases.length + 1) 0 with
        | none =>
          (r, { status := if client.kind == .delegated then .noPrefixesAvailable
                  else .noAddressesAvailable })
        | some value =>
          (r, { status := .assigned, value := value,
                preferredLifetimeSeconds := pool.preferredLifetimeSeconds
                validLifetimeSeconds := pool.validLifetimeSeconds, t1Seconds := pool.t1Seconds,
                t2Seconds := pool.t2Seconds, prefixLength := prefixLength })

/-- An assignment right after a preview gives what was previewed, or the same status. -/
def Agrees (hmac : Digest → List (BitVec 8) → Digest) (r : LeaseRepository)
    (client : ClientIdentity) (poolIndex : Nat) (now : Int) : Prop :=
  let previewed := r.preview hmac client poolIndex now
  let assigned := (previewed.1.assign hmac client poolIndex now).2
  assigned.status = previewed.2.status ∧
    (previewed.2.status = .assigned → assigned = previewed.2) ∧
    (previewed.2.status = .renewed → assigned.value = previewed.2.value)

end LeaseRepository

/-- A finite lifetime that ends at the time that stands for never. -/
def endsNever (now : Int) (lifetime : BitVec 32) : Bool :=
  lifetime != BitVec.allOnes 32 && now + lifetime.toNat * second == timeMax

/-! ## Lifetimes -/

theorem remainingSeconds_leaseDeadline {lifetime : BitVec 32} :
    LeaseRepository.remainingSeconds (leaseDeadline now lifetime) now = lifetime ↔
      endsNever now lifetime = false := by
  unfold leaseDeadline endsNever LeaseRepository.remainingSeconds
  split
  next infinite =>
    rw [beq_iff_eq] at infinite
    simp [infinite]
  next finite =>
    rw [beq_iff_eq] at finite
    simp only [bne_iff_ne.mpr finite, settled, asserted]
    split
    next never =>
      exact ⟨fun same => absurd same.symm finite, fun ends => by simp [never] at ends⟩
    next ends =>
      have left : (now + (lifetime.toNat : Int) * second - now) / second = lifetime.toNat := by
        rw [Int.add_comm, Int.add_sub_cancel, Int.mul_ediv_cancel _ (by decide)]
      have small : ¬ (0xffffffff : Int) < lifetime.toNat := by omega
      simp only [beq_eq_false_iff_ne.mpr ends, iff_true, left, BitVec.ofInt_natCast,
        BitVec.ofNat_toNat]
      split
      next zero =>
        have nothing : lifetime.toNat = 0 := by
          unfold second at zero
          omega
        exact (BitVec.eq_of_toNat_eq nothing).symm
      next => rfl

theorem expire_expire (r : LeaseRepository) (now : Int) :
    (r.expire now).expire now = r.expire now := by
  unfold LeaseRepository.expire
  simp only [map_map]
  congr 1
  apply map_congr_left
  intro lease _
  rw [Function.comp_apply]
  split
  next => rfl
  next => rfl

/-! ## A client without a binding -/

theorem preview_state (valid : validClient client = true) :
    (r.preview hmac client poolIndex now).1 = r.expire now := by
  unfold LeaseRepository.preview
  rw [valid]
  simp only [settled]
  split
  · rfl
  split
  · rfl
  · split <;> rfl

/-- What a client without a binding is shown of the value the probes come to. -/
def advertised (client : ClientIdentity) (pool : LeasePool) (value : Ipv6) : LeaseResult :=
  { status := .assigned, value := value, preferredLifetimeSeconds := pool.preferredLifetimeSeconds,
    validLifetimeSeconds := pool.validLifetimeSeconds, t1Seconds := pool.t1Seconds,
    t2Seconds := pool.t2Seconds, prefixLength := grantedLength client.kind pool }

theorem preview_unbound (valid : validClient client = true)
    (configured : poolIndex < (r.poolsOf client.kind).length)
    (unbound : (r.expire now).find client = none) :
    r.preview hmac client poolIndex now =
      (r.expire now, (((r.expire now).probed hmac client (r.poolAt client.kind poolIndex)).map
        (advertised client (r.poolAt client.kind poolIndex))).getD
          { status := exhausted client.kind }) := by
  have configured' : ¬ ((r.expire now).poolsOf client.kind).length ≤ poolIndex :=
    Nat.not_le.mpr configured
  simp only [LeaseRepository.preview, valid, if_neg configured', unbound]
  cases found : (r.expire now).probed hmac client (r.poolAt client.kind poolIndex) with
  | none =>
    rw [LeaseRepository.probed, LeaseRepository.poolAt] at found
    erw [found]
    rfl
  | some value =>
    rw [LeaseRepository.probed, LeaseRepository.poolAt] at found
    erw [found]
    rfl

theorem result_granted (value : Ipv6) :
    (r.expire now).result (granted client (r.poolAt client.kind poolIndex) poolIndex value now) now
        .assigned = advertised client (r.poolAt client.kind poolIndex) value ↔
      endsNever now (r.poolAt client.kind poolIndex).preferredLifetimeSeconds = false ∧
        endsNever now (r.poolAt client.kind poolIndex).validLifetimeSeconds = false := by
  rw [← remainingSeconds_leaseDeadline, ← remainingSeconds_leaseDeadline]
  simp only [LeaseRepository.result, granted, advertised, LeaseResult.mk.injEq, true_and]
  exact ⟨fun ⟨preferred, valid, _⟩ => ⟨preferred, valid⟩,
    fun ⟨preferred, valid⟩ => ⟨preferred, valid, rfl, rfl, trivial⟩⟩

theorem agrees_unbound (valid : validClient client = true)
    (configured : poolIndex < (r.poolsOf client.kind).length)
    (unbound : (r.expire now).find client = none) :
    r.Agrees hmac client poolIndex now ↔
      ((r.expire now).Reached hmac client (r.poolAt client.kind poolIndex) →
        (r.expire now).available ≠ none ∧
          endsNever now (r.poolAt client.kind poolIndex).preferredLifetimeSeconds = false ∧
          endsNever now (r.poolAt client.kind poolIndex).validLifetimeSeconds = false) := by
  have again : ((r.expire now).expire now).find client = none := by
    rw [expire_expire, unbound]
  rw [LeaseRepository.Agrees, preview_unbound valid configured unbound, ← probed_isSome_iff]
  obtain ⟨refused, outcome⟩ | ⟨slot, value, room, found, outcome⟩ :=
    assign_unbound (r := r.expire now) hmac valid configured again
  · simp only [expire_expire, poolAt_expire] at refused outcome
    simp only [outcome]
    cases found : (r.expire now).probed hmac client (r.poolAt client.kind poolIndex) with
    | none => simp
    | some value =>
      have full : (r.expire now).available = none := by
        rw [found] at refused
        simpa using refused
      simp only [Option.isSome_some, full, ne_eq, settled, forall_const, iff_false, not_and]
      intro same
      cases kind : client.kind <;> rw [kind] at same <;> cases same
  · simp only [expire_expire, poolAt_expire] at room found outcome
    simp only [outcome, found, room, Option.isSome_some, forall_const, ne_eq, reduceCtorEq, settled,
      ← result_granted value]
    exact ⟨fun agrees => agrees.2.1 rfl, fun same => ⟨rfl, fun _ => same,
      fun renewed => LeaseStatus.noConfusion renewed⟩⟩

theorem agrees_bound {slot : Nat} (valid : validClient client = true)
    (configured : poolIndex < (r.poolsOf client.kind).length)
    (bound : (r.expire now).find client = some slot) : r.Agrees hmac client poolIndex now := by
  have configured' : ¬ ((r.expire now).poolsOf client.kind).length ≤ poolIndex :=
    Nat.not_le.mpr configured
  have shown : r.preview hmac client poolIndex now = (r.expire now,
      (r.expire now).result ((r.expire now).leases.getD slot {}) now .renewed) := by
    simp only [LeaseRepository.preview, valid, settled, if_neg configured', bound]
  rw [LeaseRepository.Agrees, shown]
  simp only [LeaseRepository.assign, valid, expire_expire, if_neg configured', bound]
  exact ⟨rfl, by simp [LeaseRepository.result], fun _ => rfl⟩

theorem agrees_refused
    (refused : ¬ (validClient client = true ∧ poolIndex < (r.poolsOf client.kind).length)) :
    r.Agrees hmac client poolIndex now := by
  cases valid : validClient client with
  | false =>
    simp only [LeaseRepository.Agrees, LeaseRepository.preview, LeaseRepository.assign, valid]
    exact ⟨rfl, by simp, by simp⟩
  | true =>
    have outside : ((r.expire now).poolsOf client.kind).length ≤ poolIndex :=
      Nat.not_lt.mp fun inside => refused ⟨valid, inside⟩
    simp only [LeaseRepository.Agrees, LeaseRepository.preview, LeaseRepository.assign, valid,
      Bool.not_true, Bool.false_eq_true, if_false, expire_expire, if_pos outside]
    exact ⟨trivial, by simp, by simp⟩

/-! ## Agreement -/

/-- In every state, a preview and the assignment after it agree if and only if there is a free
slot whenever a client without a binding can be shown a value, and no lifetime of the pool
then ends at the time that stands for never. -/
theorem preview_agrees_iff (hmac : Digest → List (BitVec 8) → Digest) (r : LeaseRepository)
    (client : ClientIdentity) (poolIndex : Nat) (now : Int) :
    r.Agrees hmac client poolIndex now ↔
      (validClient client = true → poolIndex < (r.poolsOf client.kind).length →
        (r.expire now).find client = none →
        (r.expire now).Reached hmac client (r.poolAt client.kind poolIndex) →
        (r.expire now).available ≠ none ∧
          endsNever now (r.poolAt client.kind poolIndex).preferredLifetimeSeconds = false ∧
          endsNever now (r.poolAt client.kind poolIndex).validLifetimeSeconds = false) := by
  by_cases served : validClient client = true ∧ poolIndex < (r.poolsOf client.kind).length
  · obtain ⟨valid, configured⟩ := served
    cases bound : (r.expire now).find client with
    | none =>
      rw [agrees_unbound valid configured bound]
      exact ⟨fun agrees _ _ _ => agrees, fun agrees => agrees valid configured rfl⟩
    | some slot =>
      exact ⟨fun _ _ _ unbound => absurd unbound (Option.some_ne_none slot),
        fun _ => agrees_bound valid configured bound⟩
  · exact ⟨fun _ valid configured => absurd ⟨valid, configured⟩ served,
      fun _ => agrees_refused served⟩

/-! ## A full table -/

def sampleHash : Digest → List (BitVec 8) → Digest := fun _ _ => digestEnding [1#8]

/-- A client of its own for every number. -/
def numbered (n : Nat) : ClientIdentity := { sampleClient with iaid := BitVec.ofNat 32 n }

/-- So many clients, each with an address of the pool. -/
structure Filled (r : LeaseRepository) (n : Nat) : Prop where
  pools : r.addressPools = [interfacePool]
  slots : r.leases.length = leasesPerServer
  occupied : r.leases.countP (·.occupied) = n
  rows : ∀ lease ∈ r.leases, lease.occupied = true →
    lease.declined = false ∧ 0 < lease.validUntil ∧ ∃ k < n, lease.client = numbered k

theorem Filled.expire {n : Nat} (h : Filled r n) : r.expire 0 = r := by
  unfold LeaseRepository.expire
  have kept : r.leases.map (fun lease => if lease.occupied && ((lease.declined &&
      decide (lease.declinedUntil ≤ 0)) || (!lease.declined && decide (lease.validUntil ≤ 0))) then
      {} else lease) = r.leases.map id := by
    apply map_congr_left
    intro lease mem
    cases occupied : lease.occupied with
    | false => rfl
    | true =>
      obtain ⟨live, lasts, _⟩ := h.rows lease mem occupied
      simp [live, Int.not_le.mpr lasts]
  rw [kept, map_id]

theorem Filled.unbound {n : Nat} (h : Filled r n) (few : n ≤ leasesPerServer) :
    r.find (numbered n) = none := by
  apply findIdx?_eq_none_iff.mpr
  intro lease mem
  apply Bool.eq_false_iff.mpr
  intro found
  simp only [asserted, sameClient_iff] at found
  obtain ⟨_, _, k, less, client⟩ := h.rows lease mem found.1.1
  have same := congrArg (fun client => client.iaid.toNat) (client.symm.trans found.2)
  simp only [numbered, BitVec.toNat_ofNat] at same
  unfold leasesPerServer at few
  omega

/-- The probes start after the anycast identifier and stay below the reserved blocks. -/
theorem Filled.reached {n : Nat} (h : Filled r n) (k : Nat) :
    r.Reached sampleHash (numbered k) interfacePool := by
  have wide : interfacePool.aggregate.length.toNat ≤ 64 := by decide
  have slots : r.leases.length = 1024 := h.slots
  have address : (numbered k).kind ≠ .delegated := LeaseKind.noConfusion
  apply reached_of_unreserved address wide (by rw [slots]; decide)
  intro attempt le
  have start : probeStart sampleHash interfacePool (numbered k) = 1#64 := rfl
  have identifier : ((candidate sampleHash interfacePool (numbered k) attempt).setWidth 64).toNat =
      attempt + 1 := by
    rw [candidate_identifier address wide, start, BitVec.toNat_add, BitVec.toNat_ofNat,
      BitVec.toNat_ofNat]
    omega
  simp only [isReservedInterfaceIdentifier, refuted, BitVec.le_def, ne_eq, ← BitVec.toNat_inj,
    BitVec.toNat_ofNat]
  omega

theorem Filled.available {n : Nat} (h : Filled r n) : r.available = none ↔ n = leasesPerServer := by
  rw [LeaseRepository.available, findIdx?_eq_none_iff, ← h.slots, ← h.occupied, countP_eq_length]
  simp

theorem Filled.configured {n : Nat} (h : Filled r n) (k : Nat) :
    0 < (r.poolsOf (numbered k).kind).length := by
  have pools : r.poolsOf (numbered k).kind = [interfacePool] := h.pools
  rw [pools]
  exact Nat.zero_lt_one

theorem Filled.poolAt {n : Nat} (h : Filled r n) (k : Nat) :
    r.poolAt (numbered k).kind 0 = interfacePool := by
  have pools : r.poolsOf (numbered k).kind = [interfacePool] := h.pools
  rw [LeaseRepository.poolAt, pools]
  rfl

theorem Filled.assign {n : Nat} (h : Filled r n) (few : n < leasesPerServer) :
    Filled (r.assign sampleHash (numbered n) 0 0).1 (n + 1) := by
  have unbound : (r.expire 0).find (numbered n) = none := by
    rw [h.expire]
    exact h.unbound (Nat.le_of_lt few)
  obtain ⟨refused, _⟩ | ⟨slot, value, room, _, outcome⟩ :=
    assign_unbound sampleHash rfl (h.configured n) unbound
  · rw [h.expire, h.poolAt, h.available, ← Option.not_isSome_iff_eq_none, probed_isSome_iff]
      at refused
    obtain full | unreached := refused
    · omega
    · exact absurd (h.reached n) unreached
  · rw [h.expire] at room outcome
    rw [outcome, h.poolAt]
    obtain ⟨inside, free, _⟩ := findIdx?_eq_some_iff_getElem.mp room
    have free : r.leases[slot].occupied = false := by simpa using free
    constructor
    · exact h.pools
    · exact length_set.trans h.slots
    · show (r.leases.set slot (granted ..)).countP (·.occupied) = n + 1
      rw [countP_set inside, free, h.occupied]
      rfl
    · intro lease mem occupied
      obtain old | rfl := mem_or_eq_of_mem_set mem
      · obtain ⟨live, lasts, k, less, client⟩ := h.rows lease old occupied
        exact ⟨live, lasts, k, Nat.lt_succ_of_lt less, client⟩
      · have lasts : 0 < leaseDeadline 0 interfacePool.validLifetimeSeconds := by decide
        exact ⟨rfl, lasts, n, Nat.lt_succ_self n, rfl⟩

/-- An address for every slot. -/
def fillingOps (n : Nat) : List Operation :=
  .configure [interfacePool] [] 0 :: (range n).map fun k => .assign (numbered k) 0 0

theorem filled_run (n : Nat) (few : n ≤ leasesPerServer) :
    Filled (Runs.run (step sampleHash) (.empty leasesPerServer) (fillingOps n)) n := by
  induction n with
  | zero =>
    have leases : (Runs.run (step sampleHash) (.empty leasesPerServer) (fillingOps 0)).leases =
        replicate leasesPerServer {} := by decide +kernel
    constructor
    · decide
    · rw [leases, length_replicate]
    · rw [leases, countP_replicate]
      rfl
    · rw [leases]
      intro lease mem occupied
      rw [eq_of_mem_replicate mem] at occupied
      cases occupied
  | succ n ih =>
    have last : fillingOps (n + 1) = fillingOps n ++ [.assign (numbered n) 0 0] := by
      simp [fillingOps, range_succ]
    rw [last, Runs.run_append]
    exact (ih (Nat.le_of_succ_le few)).assign few

/-- In a full table the preview shows an address and the assignment has none to give. -/
theorem full_table_previewed :
    ((Runs.run (step sampleHash) (.empty leasesPerServer) (fillingOps leasesPerServer)).preview
        sampleHash (numbered leasesPerServer) 0 0).2.status = .assigned ∧
      (((Runs.run (step sampleHash) (.empty leasesPerServer) (fillingOps leasesPerServer)).preview
        sampleHash (numbered leasesPerServer) 0 0).1.assign sampleHash (numbered leasesPerServer) 0
          0).2.status = .noAddressesAvailable := by
  have full := filled_run leasesPerServer (Nat.le_refl _)
  generalize Runs.run (step sampleHash) (.empty leasesPerServer) (fillingOps leasesPerServer) = r
    at full ⊢
  have unbound : (r.expire 0).find (numbered leasesPerServer) = none := by
    rw [full.expire]
    exact full.unbound (Nat.le_refl _)
  constructor
  · have shown := probed_isSome_iff.mpr (full.reached leasesPerServer)
    obtain ⟨value, found⟩ := Option.isSome_iff_exists.mp shown
    rw [preview_unbound rfl (full.configured _) unbound, full.expire, full.poolAt, found]
    rfl
  · rw [preview_state rfl, full.expire]
    obtain ⟨_, outcome⟩ | ⟨slot, _, room, _⟩ :=
      assign_unbound sampleHash rfl (full.configured leasesPerServer) unbound
    · rw [outcome]
      rfl
    · rw [full.expire, full.available.mpr rfl] at room
      cases room

end RouterSim.Dhcpv6
