import RouterSim.Dhcpv6.LeaseCheckpoint

/-! Checkpoints of every repository that its own clients and timers reach, restored. -/
namespace RouterSim.Dhcpv6

open List

open Table
open RouterSim.Ip (Ipv6 mask getLsbD_mask)

variable {hmac : Digest → List (BitVec 8) → Digest} {r : LeaseRepository}
  {client : ClientIdentity} {pool : LeasePool} {poolIndex attempt : Nat} {now : Int}

/-! ## Values stay in their pool -/

theorem getLsbD_cutOrdinal (ordinal : BitVec 64) {bits i : Nat} (outside : bits ≤ i) :
    (cutOrdinal ordinal bits).getLsbD i = false := by
  by_cases short : bits < 64
  · rw [← BitVec.testBit_toNat, toNat_cutOrdinal short]
    exact Nat.testBit_lt_two_pow (Nat.lt_of_lt_of_le (Nat.mod_lt _ (Nat.two_pow_pos _))
      (Nat.pow_le_pow_right (by decide) outside))
  · exact BitVec.getLsbD_of_ge _ _ (by omega)

/-- A value that agrees with a canonical network in its first bits is inside. -/
theorem contains_of_agrees {value : Ipv6} (bound : pool.aggregate.length ≤ 128#8)
    (canonical : mask pool.aggregate.network pool.aggregate.length.toNat = pool.aggregate.network)
    (agrees : ∀ i, 128 - pool.aggregate.length.toNat ≤ i → i < 128 →
      value.getLsbD i = pool.aggregate.network.getLsbD i) :
    Ip.contains pool.aggregate value = true := by
  rw [Ip.contains, if_neg (BitVec.not_lt.mpr bound), beq_iff_eq, ← canonical]
  apply BitVec.eq_of_getLsbD_eq
  intro i inside
  rw [getLsbD_mask, getLsbD_mask]
  by_cases first : 128 - pool.aggregate.length.toNat ≤ i
  · rw [agrees i first inside]
  · simp [first]

theorem candidate_inside (hmac : Digest → List (BitVec 8) → Digest)
    (valid : validPool pool (client.kind == .delegated) = true) :
    Ip.contains pool.aggregate (candidate hmac pool client attempt) = true := by
  simp only [validPool, asserted] at valid
  obtain ⟨⟨⟨⟨bound, canonical⟩, _⟩, shape⟩, _⟩ := valid
  apply contains_of_agrees bound canonical
  intro i first inside
  unfold candidate
  split
  next delegated =>
    rw [beq_iff_eq] at delegated
    simp only [delegated, if_true, asserted] at shape
    have short : pool.delegatedLength.toNat ≤ 128 := shape.1.2
    have above : pool.delegatedLength.toNat - pool.aggregate.length.toNat ≤
        i - (128 - pool.delegatedLength.toNat) := by omega
    rw [writeDelegatedIndex, BitVec.getLsbD_or, BitVec.getLsbD_shiftLeft, BitVec.getLsbD_setWidth,
      getLsbD_cutOrdinal _ above]
    simp
  next address =>
    unfold writeSuffix
    split
    next wide =>
      have high : ¬ i < 64 := by omega
      have place : i - 64 < 128 := by omega
      rw [BitVec.getLsbD_or, BitVec.getLsbD_and, BitVec.getLsbD_shiftLeft, BitVec.getLsbD_allOnes,
        BitVec.getLsbD_setWidth, getLsbD_cutOrdinal _ first]
      simp [inside, high, place]
    next =>
      rw [BitVec.getLsbD_or, BitVec.getLsbD_setWidth, getLsbD_cutOrdinal _ first]
      simp

/-! ## The invariant -/

/-- An occupied record against the pools it comes from. -/
structure Standing (r : LeaseRepository) (lease : Lease) : Prop where
  client : validClient lease.client = true
  pool : lease.poolIndex < (r.poolsOf lease.client.kind).length
  length : lease.prefixLength =
    grantedLength lease.client.kind (r.poolAt lease.client.kind lease.poolIndex)
  inside : Ip.contains (r.poolAt lease.client.kind lease.poolIndex).aggregate lease.value = true
  ordered : lease.declined = false → lease.validUntil ≠ timeMax →
    lease.preferredUntil ≤ lease.validUntil

structure Sound (r : LeaseRepository) : Prop where
  inv : Inv r
  pools : ∀ kind, ∀ pool ∈ r.poolsOf kind, validPool pool (kind == .delegated) = true
  rows : ∀ lease ∈ r.leases, lease.occupied = true → Standing r lease

/-- The operations of clients, of the operator and of time: all but a partner's updates. -/
def Operation.isLocal : Operation → Bool
  | .partnerUpdates .. => false
  | _ => true

section

variable (h : Sound r)
include h

theorem Sound.keep {leases : List Lease} (inv : Inv { r with leases := leases })
    (kept : ∀ lease ∈ leases, lease ∈ r.leases ∨ lease = {}) : Sound { r with leases := leases } := by
  refine ⟨inv, h.pools, fun lease mem occupied => ?_⟩
  obtain old | rfl := kept lease mem
  · obtain ⟨client, pool, length, inside, ordered⟩ := h.rows lease old occupied
    exact ⟨client, pool, length, inside, ordered⟩
  · cases occupied

theorem Sound.put {slot : Nat} {x : Lease} (inv : Inv { r with leases := r.leases.set slot x })
    (standing : Standing r x) : Sound { r with leases := r.leases.set slot x } := by
  refine ⟨inv, h.pools, fun lease mem occupied => ?_⟩
  obtain old | rfl := mem_or_eq_of_mem_set mem
  · obtain ⟨client, pool, length, inside, ordered⟩ := h.rows lease old occupied
    exact ⟨client, pool, length, inside, ordered⟩
  · exact ⟨standing.client, standing.pool, standing.length, standing.inside, standing.ordered⟩

omit h in
theorem map_keeps {leases : List Lease} {drops : Lease → Bool} {lease : Lease}
    (mem : lease ∈ leases.map fun lease => if drops lease then {} else lease) :
    lease ∈ leases ∨ lease = {} := by
  obtain ⟨old, old_mem, rfl⟩ := mem_map.mp mem
  split
  · exact .inr rfl
  · exact .inl old_mem

theorem Sound.expire (now : Int) : Sound (r.expire now) :=
  h.keep (h.inv.expire now) fun _ mem => map_keeps mem

theorem Sound.clear (filter : LeaseClearFilter) (now : Int) : Sound (r.clear filter now).1 := by
  have inv := h.inv.clear filter now
  unfold LeaseRepository.clear at inv ⊢
  split
  next => exact h
  rename_i small
  rw [if_neg small] at inv
  exact (h.expire now).keep inv fun _ mem => map_keeps mem

theorem Sound.release (client : ClientIdentity) : Sound (r.release client).1 := by
  have inv := h.inv.release client
  unfold LeaseRepository.release at inv ⊢
  split
  next => exact h
  rename_i valid
  rw [if_neg valid] at inv
  split
  next => exact h
  rename_i slot found
  rw [found] at inv
  exact h.keep inv fun _ mem => mem_or_eq_of_mem_set mem

theorem Sound.decline (client : ClientIdentity) (now : Int) : Sound (r.decline client now).1 := by
  have inv := h.inv.decline client now
  unfold LeaseRepository.decline at inv ⊢
  split
  next => exact h
  rename_i valid
  rw [if_neg valid] at inv
  split
  next => exact h
  rename_i slot found
  rw [found] at inv
  refine ⟨inv, h.pools, fun lease mem occupied => ?_⟩
  obtain ⟨place, row⟩ := mem_iff_getElem?.mp mem
  obtain ⟨_, old, old_row, rfl⟩ | ⟨_, old_row⟩ := modify_row row
  · obtain ⟨client, pool, length, inside, _⟩ := h.rows old (mem_of_getElem? old_row) occupied
    exact ⟨client, pool, length, inside, nofun⟩
  · obtain ⟨client, pool, length, inside, ordered⟩ :=
      h.rows lease (mem_of_getElem? old_row) occupied
    exact ⟨client, pool, length, inside, ordered⟩

omit h in
/-- The preferred lifetime of a pool ends no later than the valid one. -/
theorem deadlines_ordered {delegating : Bool} (valid : validPool pool delegating = true)
    (finite : leaseDeadline now pool.validLifetimeSeconds ≠ timeMax) :
    leaseDeadline now pool.preferredLifetimeSeconds ≤
      leaseDeadline now pool.validLifetimeSeconds := by
  simp only [validPool, asserted] at valid
  have le : pool.preferredLifetimeSeconds.toNat ≤ pool.validLifetimeSeconds.toNat :=
    valid.1.1.2.1.1.1
  unfold leaseDeadline second at *
  split at finite
  next => exact absurd rfl finite
  rename_i ends
  rw [if_neg ends]
  rw [beq_iff_eq, ← BitVec.toNat_inj] at ends
  have bound := pool.validLifetimeSeconds.isLt
  split
  next infinite =>
    have most : (BitVec.allOnes 32).toNat = 4294967295 := rfl
    rw [beq_iff_eq] at infinite
    rw [infinite] at le
    omega
  next => omega

omit h in
theorem poolAt_mem (configured : poolIndex < (r.poolsOf client.kind).length) :
    r.poolAt client.kind poolIndex ∈ r.poolsOf client.kind := by
  rw [LeaseRepository.poolAt, getD_eq_getElem?_getD, List.getElem?_eq_getElem configured]
  exact getElem_mem configured

/-- The record of a client that assigns again. -/
def renewed (lease : Lease) (pool : LeasePool) (now : Int) : Lease :=
  { lease with
    preferredUntil := leaseDeadline now pool.preferredLifetimeSeconds
    validUntil := leaseDeadline now pool.validLifetimeSeconds, lastClientTransaction := now }

omit h in
theorem assign_cases (hmac : Digest → List (BitVec 8) → Digest) (r : LeaseRepository)
    (client : ClientIdentity) (poolIndex : Nat) (now : Int) :
    (r.assign hmac client poolIndex now).1 = r ∨
    (r.assign hmac client poolIndex now).1 = r.expire now ∨
    (∃ slot lease, (r.expire now).leases[slot]? = some lease ∧ lease.occupied = true ∧
      lease.client = client ∧ (r.assign hmac client poolIndex now).1 =
        { r.expire now with
          leases := (r.expire now).leases.set slot
            (renewed lease (r.poolAt client.kind lease.poolIndex) now) }) ∨
    ∃ slot attempt, validClient client = true ∧ poolIndex < (r.poolsOf client.kind).length ∧
      (r.assign hmac client poolIndex now).1 =
        { r.expire now with
          leases := (r.expire now).leases.set slot
            (granted client (r.poolAt client.kind poolIndex) poolIndex
              (candidate hmac (r.poolAt client.kind poolIndex) client attempt) now) } := by
  cases valid : validClient client with
  | false => exact .inl (by rw [LeaseRepository.assign, valid]; rfl)
  | true =>
    right
    by_cases configured : poolIndex < (r.poolsOf client.kind).length
    · cases bound : (r.expire now).find client with
      | none =>
        obtain ⟨_, outcome⟩ | ⟨slot, value, _, probed, outcome⟩ :=
          assign_unbound hmac valid configured bound
        · exact .inl (congrArg Prod.fst outcome)
        · obtain ⟨_, attempt, rfl⟩ := probe_some probed
          exact .inr (.inr ⟨slot, attempt, rfl, configured, congrArg Prod.fst outcome⟩)
      | some slot =>
        obtain ⟨lease, row, occupied, own⟩ := find_some bound
        have existing : (r.expire now).leases.getD slot {} = lease := by
          rw [getD_eq_getElem?_getD, row]
          rfl
        have configured' : ¬ ((r.expire now).poolsOf client.kind).length ≤ poolIndex :=
          Nat.not_le.mpr configured
        refine .inr (.inl ⟨slot, lease, row, occupied, own, ?_⟩)
        simp only [LeaseRepository.assign, valid, settled, if_neg configured', bound, existing]
        rfl
    · left
      have outside : ((r.expire now).poolsOf client.kind).length ≤ poolIndex :=
        Nat.not_lt.mp configured
      simp only [LeaseRepository.assign, valid, settled, if_pos outside]

theorem Sound.assign (client : ClientIdentity) (poolIndex : Nat) (now : Int) :
    Sound (r.assign hmac client poolIndex now).1 := by
  have inv : Inv (r.assign hmac client poolIndex now).1 := h.inv.assign client poolIndex now
  have expired := h.expire now
  obtain same | lapsed | ⟨slot, lease, row, occupied, own, outcome⟩ |
    ⟨slot, attempt, valid, configured, outcome⟩ := assign_cases hmac r client poolIndex now
  · rwa [same]
  · rwa [lapsed]
  · rw [outcome] at inv ⊢
    obtain ⟨client, pool, length, inside, _⟩ := expired.rows lease (mem_of_getElem? row) occupied
    subst own
    exact expired.put inv ⟨client, pool, length, inside, fun _ finite =>
      deadlines_ordered (h.pools _ _ (poolAt_mem pool)) finite⟩
  · rw [outcome] at inv ⊢
    have pool := h.pools _ _ (poolAt_mem configured)
    exact expired.put inv ⟨valid, configured, rfl, candidate_inside hmac pool, fun _ finite =>
      deadlines_ordered pool finite⟩

theorem Sound.renew (client : ClientIdentity) (now : Int) : Sound (r.renew hmac client now).1 := by
  unfold LeaseRepository.renew
  split
  next => exact h
  dsimp only
  split
  next => exact h.expire now
  next => exact (h.expire now).assign client _ now

theorem Sound.configure {addressPools prefixPools : List LeasePool} {hold : Int} :
    Sound ((r.configure addressPools prefixPools hold).getD r) := by
  have inv : Inv ((r.configure addressPools prefixPools hold).getD r) := h.inv.configure
  unfold LeaseRepository.configure at inv ⊢
  split
  next => exact h
  rename_i few
  rw [if_neg few] at inv
  split
  next => exact h
  rename_i valid
  rw [if_neg valid] at inv
  simp only [asserted, not_or, any_eq_true, not_exists, not_and, refuted] at valid
  refine ⟨inv, ?_, ?_⟩
  · intro kind pool mem
    cases kind with
    | nonTemporary | temporary => exact valid.1 pool mem
    | delegated => exact valid.2 pool mem
  · intro lease mem occupied
    rw [Option.getD_some, mem_replicate] at mem
    rw [mem.2] at occupied
    cases occupied

omit h in
theorem sound_empty (slots : Nat) : Sound (.empty slots) := by
  refine ⟨inv_replicate [] [] slots _ 0 nofun, ?_, ?_⟩
  · intro kind pool mem
    cases kind <;> cases mem
  · intro lease mem occupied
    rw [eq_of_mem_replicate mem] at occupied
    cases occupied

theorem step_sound {op : Operation} (ours : op.isLocal = true) : Sound (step hmac r op) := by
  cases op with
  | configure addressPools prefixPools declineHoldTime => exact h.configure
  | assign client poolIndex now => exact h.assign client poolIndex now
  | renew client now => exact h.renew client now
  | release client => exact h.release client
  | decline client now => exact h.decline client now
  | expire now => exact h.expire now
  | clear filter now => exact h.clear filter now
  | partnerUpdates => cases ours

/-! ## Restoring a checkpoint -/

/-- A saved record passes its checks if and only if it is well timed. -/
theorem malformed_checkpoint {lease : Lease} (mem : lease ∈ r.leases)
    (occupied : lease.occupied = true) (now : Int) :
    r.malformed (lease.checkpoint now) = (lease.checkpoint now).mistimed := by
  obtain ⟨client, pool, length, inside, _⟩ := h.rows lease mem occupied
  have served : decide ((r.poolsOf lease.client.kind).length ≤ lease.poolIndex) = false :=
    decide_eq_false (Nat.not_le.mpr pool)
  have lengths : (lease.prefixLength != grantedLength lease.client.kind
      (r.poolAt lease.client.kind lease.poolIndex)) = false := bne_eq_false_iff_eq.mpr length
  have value : (if lease.client.kind == .delegated then
      !Ip.contains (r.poolAt .delegated lease.poolIndex).aggregate lease.value ||
        mask lease.value lease.prefixLength.toNat != lease.value
      else !Ip.contains (r.poolAt lease.client.kind lease.poolIndex).aggregate lease.value) =
      false := by
    split
    next delegated =>
      rw [beq_iff_eq] at delegated
      rw [delegated] at inside
      rw [inside, (h.inv.rows lease mem occupied delegated).value, bne_self_eq_false]
      rfl
    next => rw [inside]; rfl
  have checks : r.malformed (lease.checkpoint now) =
      (!validClient lease.client || decide ((r.poolsOf lease.client.kind).length ≤ lease.poolIndex) ||
        lease.prefixLength != grantedLength lease.client.kind
          (r.poolAt lease.client.kind lease.poolIndex) ||
        (if lease.client.kind == .delegated then
          !Ip.contains (r.poolAt .delegated lease.poolIndex).aggregate lease.value ||
            mask lease.value lease.prefixLength.toNat != lease.value
        else !Ip.contains (r.poolAt lease.client.kind lease.poolIndex).aggregate lease.value) ||
        (lease.checkpoint now).mistimed) := rfl
  rw [checks, client, served, lengths, value]
  rfl

end

theorem masked_of_contains {a : Lease} {value : Ipv6}
    (holds : Ip.contains { network := a.value, length := a.prefixLength } value = true)
    (canonical : Canonical a) :
    mask value a.prefixLength.toNat = mask a.value a.prefixLength.toNat := by
  rw [Ip.contains, if_neg (BitVec.not_lt.mpr canonical.length), beq_iff_eq] at holds
  rw [holds, canonical.value]

theorem checkpoint_apart {a b : Lease} (apart : Apart a b) (a_occupied : a.occupied = true)
    (b_occupied : b.occupied = true) (a_canonical : a.client.kind = .delegated → Canonical a)
    (b_canonical : b.client.kind = .delegated → Canonical b) (now : Int) :
    (b.checkpoint now).clashes (a.checkpoint now) = false := by
  obtain ⟨prefixes, addresses, clients⟩ := apart a_occupied b_occupied
  apply Bool.eq_false_iff.mpr
  intro clash
  simp only [LeaseCheckpoint.clashes, asserted, sameClient_iff] at clash
  obtain (⟨⟨b_live, a_live⟩, same⟩ | ⟨⟨b_kind, a_kind⟩, holds⟩) | ⟨⟨b_kind, a_kind⟩, same⟩ := clash
  · exact clients a_live b_live same.symm
  · apply prefixes a_kind b_kind
    obtain holds | holds := holds
    · exact ⟨a.value, rfl, masked_of_contains holds (b_canonical b_kind)⟩
    · exact ⟨b.value, masked_of_contains holds (a_canonical a_kind), rfl⟩
  · exact addresses a_kind b_kind same.symm

/-- What is saved, is accepted, and what is restored saves the same. -/
def LeaseRepository.Restorable (r : LeaseRepository) (now : Int) : Prop :=
  r.validateCheckpoint (r.checkpoint now) = true ∧
    ∃ restored, r.restore (r.checkpoint now) now = some restored ∧
      restored.checkpoint now = r.checkpoint now

theorem Sound.validates_iff (h : Sound r) (now : Int) :
    r.validateCheckpoint (r.checkpoint now) = true ↔
      ∀ lease ∈ r.leases, lease.occupied = true → (lease.checkpoint now).mistimed = false := by
  have pairs : (r.checkpoint now).Pairwise fun other saved => saved.clashes other = false := by
    rw [LeaseRepository.checkpoint, pairwise_map]
    have apart := ((each_iff_pairwise Apart.symm).mp h.inv.pairs).filter (·.occupied)
    apply apart.imp_of_mem
    intro a b mem_a mem_b apart
    obtain ⟨mem_a, a_occupied⟩ := mem_filter.mp mem_a
    obtain ⟨mem_b, b_occupied⟩ := mem_filter.mp mem_b
    exact checkpoint_apart apart a_occupied b_occupied (h.inv.rows a mem_a a_occupied)
      (h.inv.rows b mem_b b_occupied) now
  rw [LeaseRepository.validateCheckpoint, Bool.and_eq_true, decide_eq_true_eq, acceptsRecords_iff]
  simp only [checkpoint_length_le, pairs, not_mem_nil, false_implies, implies_true, settled]
  constructor
  · intro rows lease mem occupied
    rw [← malformed_checkpoint h mem occupied]
    exact rows _ (mem_map_of_mem (mem_filter.mpr ⟨mem, occupied⟩))
  · intro timed saved mem
    obtain ⟨lease, kept, rfl⟩ := mem_map.mp mem
    obtain ⟨mem, occupied⟩ := mem_filter.mp kept
    rw [malformed_checkpoint h mem occupied]
    exact timed lease mem occupied

/-- What is accepted, saves the same once restored, if each of its records does. -/
theorem restored_same_iff (accepted : r.validateCheckpoint (r.checkpoint now) = true) :
    (∃ restored, r.restore (r.checkpoint now) now = some restored ∧
        restored.checkpoint now = r.checkpoint now) ↔
      ∀ lease ∈ r.leases, lease.occupied = true →
        ((lease.checkpoint now).lease now).checkpoint now = lease.checkpoint now := by
  obtain ⟨restored, done⟩ : ∃ restored, r.restore (r.checkpoint now) now = some restored :=
    ⟨_, if_pos accepted⟩
  have saved := checkpoint_restored done
  rw [done]
  simp only [Option.some.injEq, exists_eq_left', saved]
  rw [LeaseRepository.checkpoint, map_map, map_inj_left]
  simp

theorem Sound.restorable_iff (h : Sound r) (now : Int) :
    r.Restorable now ↔ ∀ lease ∈ r.leases, lease.occupied = true → lease.restorable now = true := by
  constructor
  · rintro ⟨accepted, restored⟩ lease mem occupied
    exact (row_restorable (h.rows lease mem occupied).ordered).mp
      ⟨(h.validates_iff now).mp accepted lease mem occupied,
        (restored_same_iff accepted).mp restored lease mem occupied⟩
  · intro rows
    have each := fun lease mem occupied =>
      (row_restorable (h.rows lease mem occupied).ordered).mpr (rows lease mem occupied)
    have accepted := (h.validates_iff now).mpr fun lease mem occupied => (each lease mem occupied).1
    exact ⟨accepted, (restored_same_iff accepted).mpr fun lease mem occupied =>
      (each lease mem occupied).2⟩

/-- In every run without partner updates and at every time, the checkpoint can be restored if
and only if every occupied record can. -/
theorem image_restorable (hmac : Digest → List (BitVec 8) → Digest) (slots : Nat)
    (ops : List Operation) (ours : ∀ op ∈ ops, op.isLocal = true) (now : Int) :
    (Runs.run (step hmac) (.empty slots) ops).Restorable now ↔
      ∀ lease ∈ (Runs.run (step hmac) (.empty slots) ops).leases, lease.occupied = true →
        lease.restorable now = true := by
  have kept : ∀ r op, Sound r → op.isLocal = true → Sound (step hmac r op) :=
    fun _ _ h isLocal => step_sound h isLocal
  have reached : Sound (Runs.run (step hmac) (.empty slots) ops) :=
    Runs.invariant_of_forall (P := Sound) kept (sound_empty slots) ours
  exact reached.restorable_iff now

theorem image_restorable_renewed :
    (Runs.run (step fun _ _ => digestEnding [1#8]) (.empty leasesPerServer)
      [.configure [interfacePool] [] 0, .assign sampleClient 0 0,
        .renew sampleClient second]).Restorable (5 * second) :=
  (image_restorable (fun _ _ => digestEnding [1#8]) leasesPerServer _ (by decide) _).mpr
    (by decide +kernel)

/-- The only address is leased for ten minutes and saved when they are over. -/
theorem lapsed_not_restorable :
    ¬ (Runs.run (step fun _ _ => digestEnding [1#8]) (.empty leasesPerServer)
      [.configure [interfacePool] [] 0, .assign sampleClient 0 0]).Restorable (600 * second) := by
  intro restorable
  have refused : (Runs.run (step fun _ _ => digestEnding [1#8]) (.empty leasesPerServer)
      [.configure [interfacePool] [] 0, .assign sampleClient 0 0]).validateCheckpoint
        ((Runs.run (step fun _ _ => digestEnding [1#8]) (.empty leasesPerServer)
          [.configure [interfacePool] [] 0, .assign sampleClient 0 0]).checkpoint
            (600 * second)) = false := by
    decide +kernel
  rw [restorable.1] at refused
  cases refused

end RouterSim.Dhcpv6
