import RouterSim.Dhcpv4.LeaseRuns

/-! When a checkpoint can be restored. `restore` refuses more shapes than the operations
avoid; the conditions below name, operation by operation, those that lead to one. -/
namespace RouterSim.Dhcpv4

open List Bool BitVec

open Table

/-! ## Operations that keep the repository restorable -/

/-- A hardware tuple that `restore` takes. -/
def ClientHardwareIdentity.restorable (hardware : ClientHardwareIdentity) : Bool :=
  hardware.length == 0#8 || (hardware.hardwareType != 0#8 && decide (hardware.length ≤ 16#8))

/-- Pools of one scope do not overlap, be they enabled or not. -/
def poolsDisjoint : List Pool → Bool
  | [] => true
  | pool :: rest =>
    rest.all (fun other => !(sameScope pool.scope other.scope && overlaps pool other)) &&
      poolsDisjoint rest

/-- Another client's record keeps the client from the address. -/
def blockedByOther (r : LeaseRepository) (scope : AllocationScope) (address : Ipv4)
    (client : ClientKey) (now : Int) : Bool :=
  r.leases.any fun lease => sameScope lease.scope scope && lease.address == address &&
    !equalClientKey lease.client client && lease.blocks now

/-- The record at a place satisfies a predicate; so it does if there is none. -/
def ownRecord (r : LeaseRepository) (place : Option Nat) (p : Lease → Bool) : Bool :=
  (place.bind (r.leases[·]?)).all p

/-- An offer is not to a client whose address was declined, and not of a reserved
address that is taken. -/
def offerRestorable (r : LeaseRepository) (demand : Demand) : Bool :=
  demand.hardware.restorable &&
    ownRecord r (r.binding demand.scope demand.client) (·.state != .declined) &&
    (r.reservation demand.scope demand.client).all fun fixed =>
      !blockedByOther r demand.scope fixed.address demand.client demand.now

/-- A decline is of an address the client still holds, or nobody does. -/
def declineRestorable (r : LeaseRepository) (scope : AllocationScope) (client : ClientKey)
    (value : Ipv4) (now : Int) : Bool :=
  r.nextDeclineSequence != allOnes 64 &&
    (ownRecord r (r.binding scope client) (·.blocks now) ||
      !blockedByOther r scope value client now)

/-- The update makes its record hold the address. -/
def updateBlocks (update : Failover.BindingUpdateView) (absoluteNow : BitVec 32) : Bool :=
  update.status == .abandoned ||
    (update.status == .active && update.leaseExpirationTime.any fun time => decide (absoluteNow < time))

/-- No row but the one at `place` satisfies a predicate. -/
def noOther (leases : List Lease) (place : Option Nat) (p : Lease → Bool) : Bool :=
  leases.zipIdx.all fun row => some row.2 == place || !p row.1

/-- An update says when its state started, leaves no record without a client, none whose
address was declined, no client with two records and no address with two holders. -/
def updateRestorable (r : LeaseRepository) (update : Failover.BindingUpdateView)
    (absoluteNow : BitVec 32) (now : Int) : Bool :=
  match r.pools.filter (fun pool => contains pool update.address), updateIdentity update with
  | [pool], some identity =>
    let place := r.recordAt pool.scope update.address
    let other := noOther r.leases place
    update.startTimeOfState != some 0#32 && identity.2.restorable &&
      (!identity.1.bytes.isEmpty || place.isSome) && ownRecord r place (·.state != .declined) &&
      (identity.1.bytes.isEmpty || other fun lease =>
        sameScope lease.scope pool.scope && equalClientKey lease.client identity.1) &&
      (!updateBlocks update absoluteNow || other fun lease =>
        sameScope lease.scope pool.scope && lease.address == update.address && lease.blocks now)
  | _, _ => true

/-- Each update in the state the ones before it leave. -/
def updatesRestorable (absoluteNow : BitVec 32) (now : Int) :
    LeaseRepository → List Failover.BindingUpdateView → Bool
  | _, [] => true
  | staged, update :: rest =>
    updateRestorable staged update absoluteNow now &&
      updatesRestorable absoluteNow now (staged.applyPartnerUpdate update absoluteNow now).1 rest

def RestorableStep (s : Served) : Operation → Prop
  | .configure pools _ _ _ _ => poolsDisjoint pools = true
  | .offer demand _ => offerRestorable s.repository demand = true
  | .commit demand _ => demand.hardware.restorable = true
  | .decline scope client value now => declineRestorable s.repository scope client value now = true
  | .partnerUpdates updates absoluteNow now =>
    updatesRestorable absoluteNow now s.repository updates = true
  | .release .. | .expire .. | .clear .. => True

instance (s : Served) (op : Operation) : Decidable (RestorableStep s op) :=
  match op with
  | .configure .. | .offer .. | .commit .. | .decline .. | .partnerUpdates .. =>
    inferInstanceAs (Decidable (_ = true))
  | .release .. | .expire .. | .clear .. => isTrue trivial

/-- Once there are leases, the pools stay. -/
def PoolsStay (s : Served) : Operation → Prop
  | .configure pools _ _ _ _ => s.repository.leases = [] ∨ pools.Perm s.repository.pools
  | _ => True

instance (s : Served) (op : Operation) : Decidable (PoolsStay s op) :=
  match op with
  | .configure .. => inferInstanceAs (Decidable (_ ∨ _))
  | .offer .. | .commit .. | .release .. | .decline .. | .expire .. | .clear ..
  | .partnerUpdates .. => isTrue trivial

/-! ## The invariant -/

/-- What `restore` asks of a record by itself, its stamp apart. -/
structure Row (pools : List Pool) (nextDecline : BitVec 64) (clock : Int) (lease : Lease) :
    Prop where
  named : lease.client.bytes ≠ []
  hardware : lease.hardware.restorable = true
  relay : lease.relayAgentInformationOctets.toNat ≤ relayAgentInformationSize
  heard : lease.lastClientTransaction ≤ clock
  managed : lease.failoverManaged = true → lease.failoverStateStartedAbsolute ≠ 0#32
  placed : pools.countP (fun pool => sameScope pool.scope lease.scope &&
    contains pool lease.address) = 1
  declined : lease.state = .declined →
    lease.declineSequence ≠ 0#64 ∧ lease.declineSequence < nextDecline ∧ lease.activeUntil = timeMax
  undeclined : lease.state ≠ .declined → lease.declineSequence = 0#64

structure Stamped (next : BitVec 64) (clock : Int) (lease : Lease) : Prop where
  changed : lease.lastStateChange ≤ clock
  revised : lease.revision ≠ 0#64
  before : next ≠ allOnes 64 → lease.revision < next

/-- What `restore` asks of two records. -/
def Compatible (now : Int) (a b : Lease) : Prop :=
  a.scope = b.scope → a.client ≠ b.client ∧
    (a.address = b.address → ¬ (a.blocks now = true ∧ b.blocks now = true))

structure Inv (r : LeaseRepository) (clock : Int) : Prop where
  configured : (({} : LeaseRepository).configure r.pools r.reservations r.offerHold r.declineHold
    r.exclusions).isSome = true
  disjoint : poolsDisjoint r.pools = true
  size : r.leases.length ≤ leasesPerServer
  nextDecline : r.nextDeclineSequence ≠ 0#64
  nextRevision : r.nextRevision ≠ 0#64
  rows : ∀ lease ∈ r.leases, Row r.pools r.nextDeclineSequence clock lease
  stamps : ∀ lease ∈ r.leases, Stamped r.nextRevision clock lease
  pairs : Each (Compatible clock) r.leases

variable {r : LeaseRepository} {now : Int}

theorem Compatible.symm (a b : Lease) (h : Compatible now a b) : Compatible now b a := by
  intro hs
  obtain ⟨hc, hb⟩ := h hs.symm
  exact ⟨Ne.symm hc, fun ha hl => hb ha.symm ⟨hl.2, hl.1⟩⟩

/-! ## Time passes -/

variable {lease lease' : Lease} {pools : List Pool} {place : Nat} {demand : Demand} {value : Ipv4}
   {client : ClientKey} {scope : AllocationScope}

theorem blocks_earlier {later : Int} (hle : now ≤ later)
    (h : lease.blocks later = true) : lease.blocks now = true := by
  simp only [Lease.blocks, asserted] at h ⊢
  obtain (⟨hs, ht⟩ | ⟨hs, ht⟩) | ⟨hs, ht⟩ := h
  · exact .inl (.inl ⟨hs, by omega⟩)
  · exact .inl (.inr ⟨hs, by omega⟩)
  · exact .inr ⟨hs, by omega⟩

theorem Inv.later {later : Int} (h : Inv r now) (hle : now ≤ later) : Inv r later := by
  constructor
  · exact h.configured
  · exact h.disjoint
  · exact h.size
  · exact h.nextDecline
  · exact h.nextRevision
  · intro lease hl
    have row := h.rows lease hl
    exact { row with heard := Int.le_trans row.heard hle }
  · intro lease hl
    have stamp := h.stamps lease hl
    exact { stamp with changed := Int.le_trans stamp.changed hle }
  · intro i j a b hne ha hb hs
    obtain ⟨hc, hblock⟩ := h.pairs i j a b hne ha hb hs
    exact ⟨hc, fun haddr hl => hblock haddr ⟨blocks_earlier hle hl.1, blocks_earlier hle hl.2⟩⟩

/-! ## A record is stamped -/

theorem toNat_next {next : BitVec 64} (h : next ≠ allOnes 64) :
    (next + 1#64).toNat = next.toNat + 1 := by
  have last : allOnes 64 = 0xffffffffffffffff#64 := by decide
  bv_omega

theorem Stamped.next {next : BitVec 64} (h : Stamped next now lease) :
    Stamped (nextRevisionAfter next) now lease := by
  refine ⟨h.changed, h.revised, ?_⟩
  unfold nextRevisionAfter
  by_cases hmax : next = allOnes 64
  · rw [if_neg (by simpa using hmax)]
    exact h.before
  · rw [if_pos (by simpa using hmax)]
    intro _
    have := h.before hmax
    rw [lt_def, toNat_next hmax]
    exact Nat.lt_succ_of_lt this

theorem nextRevisionAfter_ne {next : BitVec 64} (h : next ≠ 0#64) :
    nextRevisionAfter next ≠ 0#64 := by
  unfold nextRevisionAfter
  by_cases hmax : next = BitVec.allOnes 64
  · rw [if_neg (by simpa using hmax)]
    exact h
  · rw [if_pos (by simpa using hmax)]
    intro hzero
    have := congrArg BitVec.toNat hzero
    rw [toNat_next hmax] at this
    cases this

theorem stamped_recordChange {next : BitVec 64} (h : next ≠ 0#64) (lease : Lease) :
    Stamped (nextRevisionAfter next) now (lease.recordChange next now) := by
  refine ⟨Int.le_refl _, h, ?_⟩
  unfold nextRevisionAfter
  by_cases hmax : next = allOnes 64
  · rw [if_neg (by simpa using hmax)]
    exact fun hne => absurd hmax hne
  · rw [if_pos (by simpa using hmax)]
    intro _
    rw [lt_def, toNat_next hmax]
    exact Nat.lt_succ_self _

theorem Row.recordChange {nextDecline next : BitVec 64} (h : Row pools nextDecline now lease) :
    Row pools nextDecline now (lease.recordChange next now) :=
  ⟨h.named, h.hardware, h.relay, h.heard, h.managed, h.placed, h.declined, h.undeclined⟩

theorem Compatible.recordChange {a b : Lease} {next : BitVec 64} (h : Compatible now a b) :
    Compatible now (a.recordChange next now) b := h

/-! ## A record is changed or added -/

/-- What a changed or new record has to satisfy beside the rest. -/
structure Fits (r : LeaseRepository) (now : Int) (place : Nat) (lease : Lease) : Prop where
  row : Row r.pools r.nextDeclineSequence now lease
  pairs : ∀ (j : Nat) (b : Lease), j ≠ place → r.leases[j]? = some b → Compatible now lease b

theorem Inv.change (h : Inv r now) {f : Lease → Lease}
    (fits : ∀ lease, r.leases[place]? = some lease → Fits r now place (f lease)) :
    Inv (r.change place f now) now := by
  have rows : ∀ lease' ∈ (r.change place f now).leases,
      lease' ∈ r.leases ∨ ∃ lease, r.leases[place]? = some lease ∧
        lease' = (f lease).recordChange r.nextRevision now := by
    intro lease' hl
    obtain ⟨j, hj⟩ := mem_iff_getElem?.mp hl
    obtain ⟨rfl, lease, hx, heq⟩ | ⟨_, hj⟩ := modify_row hj
    · exact .inr ⟨lease, hx, heq⟩
    · exact .inl (mem_of_getElem? hj)
  constructor
  · exact h.configured
  · exact h.disjoint
  · show (r.leases.modify place _).length ≤ leasesPerServer
    rw [length_modify]
    exact h.size
  · exact h.nextDecline
  · exact nextRevisionAfter_ne h.nextRevision
  · intro lease' hl
    obtain hold | ⟨lease, hx, rfl⟩ := rows lease' hl
    · exact h.rows lease' hold
    · exact (fits lease hx).row.recordChange
  · intro lease' hl
    obtain hold | ⟨lease, hx, rfl⟩ := rows lease' hl
    · exact (h.stamps lease' hold).next
    · exact stamped_recordChange h.nextRevision _
  · apply Each.modify Compatible.symm h.pairs
    intro j a b hne ha hb
    exact ((fits a ha).pairs j b hne hb).recordChange

theorem Inv.added (h : Inv r now) (room : r.leases.length ≠ leasesPerServer)
    (fits : Fits r now r.leases.length lease) : Inv (r.added lease now) now := by
  have rows : ∀ lease' ∈ (r.added lease now).leases,
      lease' ∈ r.leases ∨ lease' = lease.recordChange r.nextRevision now := by
    intro lease' hl
    obtain hold | hnew := mem_append.mp hl
    · exact .inl hold
    · exact .inr (mem_singleton.mp hnew)
  constructor
  · exact h.configured
  · exact h.disjoint
  · show (r.leases ++ [_]).length ≤ leasesPerServer
    have := h.size
    rw [length_append, length_singleton]
    omega
  · exact h.nextDecline
  · exact nextRevisionAfter_ne h.nextRevision
  · intro lease' hl
    obtain hold | rfl := rows lease' hl
    · exact h.rows lease' hold
    · exact fits.row.recordChange
  · intro lease' hl
    obtain hold | rfl := rows lease' hl
    · exact (h.stamps lease' hold).next
    · exact stamped_recordChange h.nextRevision _
  · apply Each.append Compatible.symm h.pairs
    intro b hb
    obtain ⟨j, hj⟩ := mem_iff_getElem?.mp hb
    obtain ⟨hlt, _⟩ := List.getElem?_eq_some_iff.mp hj
    exact (fits.pairs j b (by omega) hj).recordChange

/-- A record that stays with its client at its address and blocks only if it did. -/
theorem Inv.fits_kept (h : Inv r now)
    (hl : r.leases[place]? = some lease) (row : Row r.pools r.nextDeclineSequence now lease')
    (scope : lease'.scope = lease.scope) (client : lease'.client = lease.client)
    (address : lease'.address = lease.address)
    (blocks : lease'.blocks now = true → lease.blocks now = true) : Fits r now place lease' := by
  refine ⟨row, ?_⟩
  intro j b hne hb hs
  rw [scope] at hs
  rw [client, address]
  obtain ⟨hc, hblock⟩ := h.pairs place j lease b (Ne.symm hne) hl hb hs
  exact ⟨hc, fun haddr hboth => hblock haddr ⟨blocks hboth.1, hboth.2⟩⟩

/-! ## Expiry -/

theorem expireLeases_stamps (leases : List Lease) (next : BitVec 64) (hnext : next ≠ 0#64)
    (h : ∀ lease ∈ leases, Stamped next now lease) :
    (expireLeases now leases next).2 ≠ 0#64 ∧
      (∀ lease, Stamped next now lease → Stamped (expireLeases now leases next).2 now lease) ∧
      ∀ lease ∈ (expireLeases now leases next).1,
        Stamped (expireLeases now leases next).2 now lease := by
  induction leases generalizing next with
  | nil => exact ⟨hnext, fun _ hs => hs, fun _ hl => by cases hl⟩
  | cons head rest ih =>
    have hrest : ∀ lease ∈ rest, Stamped next now lease :=
      fun lease hl => h lease (mem_cons_of_mem _ hl)
    unfold expireLeases
    by_cases hl : head.lapsed now = true
    · simp only [hl]
      obtain ⟨hne, carries, rows⟩ := ih (nextRevisionAfter next) (nextRevisionAfter_ne hnext)
        fun lease hr => (hrest lease hr).next
      refine ⟨hne, fun lease hs => carries lease hs.next, ?_⟩
      intro lease hmem
      obtain rfl | hmem := mem_cons.mp hmem
      · exact carries _ (stamped_recordChange hnext _)
      · exact rows lease hmem
    · simp only [hl]
      obtain ⟨hne, carries, rows⟩ := ih next hnext hrest
      refine ⟨hne, carries, ?_⟩
      intro lease hmem
      obtain rfl | hmem := mem_cons.mp hmem
      · exact carries _ (h _ mem_cons_self)
      · exact rows lease hmem

theorem Expired.blocks (h : Expired now lease lease') :
    lease'.blocks now = true → lease.blocks now = true := by
  cases h with
  | kept => exact id
  | lapsed next hl =>
    intro hb
    simp [Lease.blocks, Lease.recordChange] at hb

theorem Expired.row (h : Expired now lease lease')
    {nextDecline : BitVec 64} (row : Row pools nextDecline now lease) :
    Row pools nextDecline now lease' := by
  cases h with
  | kept => exact row
  | lapsed next hl =>
    apply Row.recordChange
    have undeclined : lease.state ≠ .declined := by
      intro hs
      simp [Lease.lapsed, hs] at hl
    exact { row with
      declined := fun hs => by cases hs
      undeclined := fun _ => row.undeclined undeclined }

theorem Inv.expire (h : Inv r now) : Inv (r.expire now) now := by
  obtain ⟨hne, _, stamps⟩ := expireLeases_stamps r.leases r.nextRevision h.nextRevision h.stamps
  constructor
  · exact h.configured
  · exact h.disjoint
  · rw [expire_length]
    exact h.size
  · exact h.nextDecline
  · exact hne
  · intro lease' hl
    obtain ⟨i, hi⟩ := mem_iff_getElem?.mp hl
    obtain ⟨lease, hx, hexp⟩ := expire_rows i lease' hi
    exact hexp.row (h.rows lease (mem_of_getElem? hx))
  · exact stamps
  · refine Each.pointwise h.pairs expire_rows ?_
    intro a a' b b' ha hb hc hs
    have ka := ha.same
    have kb := hb.same
    rw [ka.1, kb.1] at hs
    rw [ka.2.1, kb.2.1, ka.2.2, kb.2.2]
    obtain ⟨hclient, hblock⟩ := hc hs
    exact ⟨hclient, fun haddr hboth => hblock haddr ⟨ha.blocks hboth.1, hb.blocks hboth.2⟩⟩

/-! ## Commit, release, clear -/

theorem blocks_of_mayCommit (hl : (r.expire demand.now).leases[place]? = some lease)
    (hmay : lease.mayCommit demand value = true) : lease.blocks demand.now = true := by
  obtain ⟨_, _, hexp⟩ := expire_rows place lease hl
  have hlapsed := hexp.not_lapsed
  simp only [Lease.mayCommit, asserted] at hmay
  simp only [Lease.blocks, asserted]
  obtain ⟨_, hactive | ⟨⟨hpending, _⟩, htime⟩⟩ := hmay
  · simp [Lease.lapsed, hactive] at hlapsed
    exact .inl (.inr ⟨hactive, by simpa using hlapsed⟩)
  · exact .inl (.inl ⟨hpending, htime⟩)

theorem Row.hear {nextDecline : BitVec 64}
    (row : Row pools nextDecline demand.now lease) (hardware : demand.hardware.restorable = true)
    (relay : demand.relayAgentInformation.length ≤ relayAgentInformationSize) :
    Row pools nextDecline demand.now (lease.hear demand) := by
  refine ⟨row.named, ?_, ?_, Int.le_refl _, row.managed, row.placed, row.declined, row.undeclined⟩
  · show ClientHardwareIdentity.restorable (if _ then _ else _) = true
    split
    next => exact hardware
    next => exact row.hardware
  · show (BitVec.ofNat 16 demand.relayAgentInformation.length).toNat ≤ relayAgentInformationSize
    exact Nat.le_trans (Nat.mod_le _ _) relay

theorem Inv.commit (h : Inv r demand.now) (value : Ipv4)
    (hardware : demand.hardware.restorable = true) : Inv (r.commit demand value).1 demand.now := by
  obtain heq | ⟨place, pool, lease, hl, hmay, hrelay, heq⟩ := commit_cases r demand value
  · rw [heq]
    exact h.expire
  rw [heq]
  apply h.expire.change
  intro lease' hl'
  rw [hl] at hl'
  cases hl'
  have row := h.expire.rows lease (mem_of_getElem? hl)
  have undeclined : lease.state ≠ .declined := by
    intro hs
    simp [Lease.mayCommit, hs] at hmay
  refine h.expire.fits_kept hl ?_ rfl rfl rfl fun _ => blocks_of_mayCommit hl hmay
  exact { row.hear hardware hrelay with
    declined := fun hs => by cases hs
    undeclined := fun _ => row.undeclined undeclined }

theorem Inv.release (h : Inv r now) (scope : AllocationScope) (client : ClientKey)
    (value : Ipv4) : Inv (r.release scope client value now).1 now := by
  obtain heq | ⟨place, lease, hl, hactive, heq⟩ := release_cases r scope client value now
  · rw [heq]
    exact h
  rw [heq]
  apply h.change
  intro lease' hl'
  rw [hl] at hl'
  cases hl'
  have row := h.rows lease (mem_of_getElem? hl)
  refine h.fits_kept hl ?_ rfl rfl rfl ?_
  · exact { row with
      heard := Int.le_refl _, declined := fun hs => by cases hs
      undeclined := fun _ => row.undeclined (by rw [hactive]; decide) }
  · intro hb
    simp [Lease.blocks] at hb

theorem Inv.clear (h : Inv r now) (filter : LeaseClearFilter) : Inv (r.clear filter now).1 now := by
  have expired := h.expire
  obtain heq | heq := clear_cases r filter now
  · rw [heq]
    exact expired
  rw [heq]
  constructor
  · exact expired.configured
  · exact expired.disjoint
  · exact Nat.le_trans (length_filter_le _ _) expired.size
  · exact expired.nextDecline
  · exact expired.nextRevision
  · exact fun lease hl => expired.rows lease (mem_filter.mp hl).1
  · exact fun lease hl => expired.stamps lease (mem_filter.mp hl).1
  · exact Each.filter Compatible.symm expired.pairs _

/-! ## Decline -/

theorem ownRecord_some {p : Lease → Bool}
    (hl : r.leases[place]? = some lease) (h : ownRecord r (some place) p = true) :
    p lease = true := by
  simpa [ownRecord, hl] using h

theorem not_blockedByOther {address : Ipv4} (h : blockedByOther r scope address client now = false)
    (hl : lease ∈ r.leases) (hs : lease.scope = scope) (ha : lease.address = address)
    (hc : lease.client ≠ client) : lease.blocks now = false := by
  rw [blockedByOther, any_eq_false] at h
  have held := h lease hl
  rw [← not_eq_true]
  intro hb
  apply held
  simp only [asserted, sameScope_iff, ← not_eq_true, equalClientKey_iff]
  exact ⟨⟨⟨hs, ha⟩, hc⟩, hb⟩

theorem Inv.giveBack (h : Inv r now) (hl : r.leases[place]? = some lease) :
    Inv (r.change place (Lease.giveBackWith now) now) now := by
  apply h.change
  intro lease' hl'
  rw [hl] at hl'
  cases hl'
  have row := h.rows lease (mem_of_getElem? hl)
  refine h.fits_kept hl ?_ rfl rfl rfl ?_
  · exact { row with
      declined := fun hs => by cases hs
      undeclined := fun _ => rfl }
  · intro hb
    simp [Lease.blocks, Lease.giveBackWith] at hb

theorem Inv.countDecline (h : Inv r now) (room : r.nextDeclineSequence ≠ BitVec.allOnes 64) :
    Inv { r with nextDeclineSequence := r.nextDeclineSequence + 1#64 } now := by
  have grown := toNat_next room
  constructor
  · exact h.configured
  · exact h.disjoint
  · exact h.size
  · intro hzero
    have := congrArg BitVec.toNat hzero
    rw [grown] at this
    cases this
  · exact h.nextRevision
  · intro lease hl
    have row := h.rows lease hl
    refine { row with declined := fun hs => ?_ }
    obtain ⟨hne, hlt, huntil⟩ := row.declined hs
    refine ⟨hne, ?_, huntil⟩
    rw [lt_def] at hlt ⊢
    rw [grown]
    omega
  · exact h.stamps
  · exact h.pairs

theorem binding_inj (h : Inv r now) (hb : r.binding scope client = some place) {i : Nat}
    (hl : r.leases[i]? = some lease) (hs : lease.scope = scope) (hc : lease.client = client) :
    i = place := by
  obtain ⟨found, hf, hfs, hfc⟩ := binding_some hb
  apply Classical.byContradiction
  intro hne
  obtain ⟨different, _⟩ := h.pairs i place lease found hne hl hf (hs.trans hfs.symm)
  exact different (hc.trans hfc.symm)

theorem Inv.decline (h : Inv r now) (ok : declineRestorable r scope client value now = true) :
    Inv (r.decline scope client value now).1 now := by
  obtain heq | ⟨place, lease, excess, hb, hl, hs, hc, ha, heq⟩ :=
    decline_cases r scope client value now
  · rw [heq]
    exact h
  rw [heq]
  simp only [declineRestorable, hb, asserted] at ok
  obtain ⟨room, vacant⟩ := ok
  apply giveBack_induction (P := fun r => Inv r now)
  · exact fun r place lease hr hl _ => hr.giveBack hl
  · have counted := h.countDecline room
    apply Inv.change (r := { r with nextDeclineSequence := r.nextDeclineSequence + 1#64 }) counted
    intro lease' hl'
    rw [hl] at hl'
    cases hl'
    have row := counted.rows lease (mem_of_getElem? hl)
    constructor
    · refine { row with heard := Int.le_refl _, declined := fun _ => ⟨h.nextDecline, ?_, rfl⟩, undeclined := fun hne => absurd rfl hne }
      rw [lt_def, toNat_next room]
      exact Nat.lt_succ_self _
    · intro j b hne hj hscope
      have pair := h.pairs place j lease b (Ne.symm hne) hl hj hscope
      refine ⟨pair.1, fun haddr hboth => ?_⟩
      obtain own | free := vacant
      · exact pair.2 haddr ⟨ownRecord_some hl own, hboth.2⟩
      · have unblocked := not_blockedByOther free (mem_of_getElem? hj)
          (hscope.symm.trans hs) (haddr.symm.trans ha) (fun heq => pair.1 (hc.trans heq.symm))
        rw [unblocked] at hboth
        cases hboth.2

/-! ## Offer -/

theorem overlaps_of_contains {p q : Pool} (hp : contains p value = true)
    (hq : contains q value = true) : overlaps p q = true := by
  simp only [contains, overlaps, asserted] at hp hq ⊢
  exact ⟨Nat.le_trans hp.1 hq.2, Nat.le_trans hq.1 hp.2⟩

/-- In disjoint pools an address is in one pool of a scope only. -/
theorem countP_of_disjoint (h : poolsDisjoint pools = true) {pool : Pool}
    (hm : pool ∈ pools) (hs : pool.scope = scope) (hv : contains pool value = true) :
    pools.countP (fun p => sameScope p.scope scope && contains p value) = 1 := by
  induction pools with
  | nil => cases hm
  | cons head rest ih =>
    simp only [poolsDisjoint, asserted, all_eq_true, refuted] at h
    have apart : ∀ p q : Pool, p.scope = scope → q.scope = scope → contains p value = true →
        contains q value = true → ¬ (sameScope p.scope q.scope = false ∨ overlaps p q = false) := by
      intro p q hp hq hpv hqv hor
      obtain hne | hov := hor
      · rw [sameScope_iff.mpr (hp.trans hq.symm)] at hne
        cases hne
      · rw [overlaps_of_contains hpv hqv] at hov
        cases hov
    obtain rfl | hm := mem_cons.mp hm
    · have none : rest.countP (fun p => sameScope p.scope scope && contains p value) = 0 := by
        rw [countP_eq_zero]
        intro p hp hboth
        simp only [asserted, sameScope_iff] at hboth
        exact apart pool p hs hboth.1 hv hboth.2 (h.1 p hp)
      rw [countP_cons, none, sameScope_iff.mpr hs, hv]
      rfl
    · have out : (sameScope head.scope scope && contains head value) = false := by
        rw [← not_eq_true]
        intro hboth
        simp only [asserted, sameScope_iff] at hboth
        exact apart head pool hboth.1 hs hboth.2 hv (h.1 pool hm)
      rw [countP_cons, ih h.2 hm, out]
      rfl

/-- A selected address is in one pool of the scope, and no other client's record blocks
it. -/
structure Selected (r : LeaseRepository) (demand : Demand) (selected : Ipv4 × Pool) : Prop where
  placed : r.pools.countP (fun pool => sameScope pool.scope demand.scope &&
    contains pool selected.1) = 1
  unblocked : ∀ lease ∈ r.leases, lease.scope = demand.scope → lease.address = selected.1 →
    lease.client ≠ demand.client → lease.blocks demand.now = false

theorem Free.selected (h : Inv r now) {selected : Ipv4 × Pool}
    (hf : Free r demand.scope demand.client demand.now selected) : Selected r demand selected := by
  have available := hf.available
  simp only [LeaseRepository.addressAvailable, asserted, all_eq_true] at available
  obtain ⟨⟨⟨hcontains, _⟩, _⟩, hleases⟩ := available
  refine ⟨countP_of_disjoint h.disjoint hf.mem hf.scope hcontains, ?_⟩
  intro lease hl hs ha hc
  have unblocked := hleases lease hl
  have hkey : equalClientKey lease.client demand.client = false := by
    rw [← not_eq_true, equalClientKey_iff]
    exact hc
  rw [sameScope_iff.mpr (hs.trans hf.scope.symm), hkey, ha] at unblocked
  simpa using unblocked

theorem selected_of_select (h : Inv r demand.now)
    (ok : offerRestorable r demand = true) {requested : Option Ipv4} {selected : Ipv4 × Pool}
    (hsel : (r.expire demand.now).select demand.scope demand.client demand.now requested =
      some selected) : Selected (r.expire demand.now) demand selected := by
  obtain ⟨fixed, hr, haddr, hpool⟩ | ⟨_, hfree⟩ := select_cases hsel
  · obtain ⟨hm, _, hs, hcontains⟩ := poolFor_some hpool
    refine ⟨countP_of_disjoint h.disjoint hm hs hcontains, ?_⟩
    intro lease hl hscope ha hc
    rw [expire_reservation] at hr
    simp only [offerRestorable, hr, asserted, Option.all_some] at ok
    obtain ⟨i, hi⟩ := mem_iff_getElem?.mp hl
    obtain ⟨before, hb, hexp⟩ := expire_rows i lease hi
    obtain ⟨kscope, kclient, kaddress⟩ := hexp.same
    have free := not_blockedByOther ok.2 (mem_of_getElem? hb) (kscope ▸ hscope)
      (kaddress.symm.trans (ha.trans haddr.symm)) (kclient ▸ hc)
    rw [← not_eq_true]
    intro hblocks
    rw [hexp.blocks hblocks] at free
    cases free
  · exact hfree.selected h.expire

theorem row_offerWith {nextDecline : BitVec 64}
    {selected : Ipv4 × Pool} {hold : Int} (named : lease.client.bytes ≠ [])
    (kept : lease.hardware.restorable = true) (hardware : demand.hardware.restorable = true)
    (relay : demand.relayAgentInformation.length ≤ relayAgentInformationSize)
    (managed : lease.failoverManaged = true → lease.failoverStateStartedAbsolute ≠ 0#32)
    (placed : pools.countP (fun pool => sameScope pool.scope lease.scope &&
      contains pool selected.1) = 1) (undeclined : lease.declineSequence = 0#64) :
    Row pools nextDecline demand.now (Lease.offerWith demand selected hold lease) := by
  refine ⟨named, ?_, ?_, Int.le_refl _, managed, placed, (fun hs => by cases hs),
    fun _ => undeclined⟩
  · show ClientHardwareIdentity.restorable (if _ then _ else _) = true
    split
    next => exact hardware
    next => exact kept
  · show (BitVec.ofNat 16 demand.relayAgentInformation.length).toNat ≤ relayAgentInformationSize
    exact Nat.le_trans (Nat.mod_le _ _) relay

theorem Selected.compatible {selected : Ipv4 × Pool}
    (h : Selected r demand selected) {a b : Lease} (hs : a.scope = demand.scope)
    (hc : a.client = demand.client) (hb : b ∈ r.leases)
    (different : b.scope = demand.scope → b.client ≠ demand.client) (hold : Int) :
    Compatible demand.now (Lease.offerWith demand selected hold a) b := by
  intro hscope
  have hbs : b.scope = demand.scope := hscope.symm.trans hs
  have hne := different hbs
  refine ⟨fun heq => hne (heq.symm.trans hc), fun haddr hboth => ?_⟩
  rw [h.unblocked b hb hbs haddr.symm hne] at hboth
  cases hboth.2

theorem Inv.offer (h : Inv r demand.now) (requested : Option Ipv4)
    (ok : offerRestorable r demand = true) : Inv (r.offer demand requested).1 demand.now := by
  obtain heq | ⟨selected, hsel, named, relay, made⟩ := offer_cases r demand requested
  · rw [heq]
    exact h.expire
  have hselected := selected_of_select h ok hsel
  simp only [offerRestorable, asserted] at ok
  obtain ⟨⟨hardware, undeclined⟩, _⟩ := ok
  obtain ⟨place, hb, heq⟩ | ⟨hb, room, heq⟩ := made
  · rw [heq]
    apply h.expire.change
    intro lease hl
    obtain ⟨lease', hl', hs, hc⟩ := binding_some hb
    rw [hl] at hl'
    cases hl'
    have row := h.expire.rows lease (mem_of_getElem? hl)
    -- the record was not declined before the expiry, and is not after it
    obtain ⟨before, hbefore, hexp⟩ := expire_rows place lease hl
    obtain ⟨kscope, kclient, _⟩ := hexp.same
    have same : r.binding demand.scope demand.client = some place := by
      cases hr : r.binding demand.scope demand.client with
      | none => exact absurd hr (binding_expire hb)
      | some place' => rw [binding_inj h hr hbefore (kscope ▸ hs) (kclient ▸ hc)]
    rw [same] at undeclined
    have notDeclined : before.state ≠ .declined := by simpa using ownRecord_some hbefore undeclined
    have fresh : lease.declineSequence = 0#64 := by
      have := (h.rows before (mem_of_getElem? hbefore)).undeclined notDeclined
      cases hexp <;> exact this
    constructor
    · apply row_offerWith (by rwa [hc]) row.hardware hardware relay row.managed _ fresh
      rw [hs]
      exact hselected.placed
    · intro j b hne hj
      apply hselected.compatible hs hc (mem_of_getElem? hj)
      intro hbs hbc
      exact hne (binding_inj h.expire hb hj hbs hbc)
  · rw [heq]
    apply h.expire.added room
    constructor
    · apply row_offerWith named rfl hardware relay (fun hm => by cases hm) _ rfl
      exact hselected.placed
    · intro j b _ hj
      exact hselected.compatible rfl rfl (mem_of_getElem? hj)
        (binding_none hb (mem_of_getElem? hj)) _

/-! ## Configure -/

theorem configure_isSome {reservations : List Reservation}
    {offerHold declineHold : Int} {exclusions : List ExcludedRange} {r' : LeaseRepository}
    (h : r.configure pools reservations offerHold declineHold exclusions = some r') :
    (({} : LeaseRepository).configure pools reservations offerHold declineHold
      exclusions).isSome = true := by
  unfold LeaseRepository.configure at h ⊢
  split at h
  next => cases h
  rename_i hsize
  rw [if_neg hsize]
  split at h
  next => cases h
  rename_i hok
  rw [if_neg hok]
  rfl

theorem Inv.configure (h : Inv r now) {reservations : List Reservation}
    {offerHold declineHold : Int} {exclusions : List ExcludedRange} {r' : LeaseRepository}
    (hc : r.configure pools reservations offerHold declineHold exclusions = some r')
    (disjoint : poolsDisjoint pools = true) (stay : r.leases = [] ∨ pools.Perm r.pools) :
    Inv r' now := by
  have accepted := configure_isSome hc
  rw [configure_some hc]
  constructor
  · exact accepted
  · exact disjoint
  · exact h.size
  · exact h.nextDecline
  · exact h.nextRevision
  · intro lease hl
    obtain empty | perm := stay
    · have hl' : lease ∈ r.leases := hl
      rw [empty] at hl'
      cases hl'
    · have row := h.rows lease hl
      exact { row with placed := (perm.countP_eq _).trans row.placed }
  · exact h.stamps
  · exact h.pairs

end RouterSim.Dhcpv4
