import RouterSim.Dhcpv4.LeaseCheckpoint
import RouterSim.Dhcpv4.LeaseInvariant

/-! Checkpoints of every reachable repository, restored. -/
namespace RouterSim.Dhcpv4

open List Runs

open Table
open Failover (BindingUpdateView)

variable {r : LeaseRepository} {now : Int}

/-! ## Partner updates -/

/-- An update changes nothing, or describes the record at its address, an old one or a
new one. -/
theorem applyPartnerUpdate_cases (r : LeaseRepository) (update : BindingUpdateView)
    (absoluteNow : BitVec 32) (now : Int) : (r.applyPartnerUpdate update absoluteNow now).1 = r ∨
    ∃ pool started identity, r.pools.filter (fun pool => contains pool update.address) = [pool] ∧
      update.startTimeOfState = some started ∧ updateIdentity update = some identity ∧
      ((∃ place, r.recordAt pool.scope update.address = some place ∧
        (r.applyPartnerUpdate update absoluteNow now).1 =
          r.change place (Lease.learn update identity started absoluteNow now) now) ∨
      (r.recordAt pool.scope update.address = none ∧ r.leases.length ≠ leasesPerServer ∧
        (r.applyPartnerUpdate update absoluteNow now).1 =
          r.added (Lease.learn update identity started absoluteNow now
            { scope := pool.scope, client := identity.1, address := update.address }) now)) := by
  unfold LeaseRepository.applyPartnerUpdate
  split
  next => exact .inl rfl
  next => exact .inl rfl
  rename_i pool hpool
  split
  next => exact .inl rfl
  rename_i started hstarted
  split
  next => exact .inl rfl
  split
  next => exact .inl rfl
  rename_i identity hidentity
  split
  next => exact .inl rfl
  split
  next place hplace =>
    split
    next => exact .inl rfl
    next => exact .inr ⟨pool, started, identity, hpool, hstarted, hidentity,
        .inl ⟨place, hplace, rfl⟩⟩
  next hplace =>
    split
    next => exact .inl rfl
    rename_i hroom
    refine .inr ⟨pool, started, identity, hpool, hstarted, hidentity,
      .inr ⟨hplace, by simpa using hroom, ?_⟩⟩
    exact change_fresh _ _ _ _

theorem recordAt_some {scope : AllocationScope} {address : Ipv4} {place : Nat}
    (h : r.recordAt scope address = some place) :
    ∃ lease, r.leases[place]? = some lease ∧ lease.address = address ∧ lease.scope = scope := by
  obtain ⟨hlt, hp, _⟩ := findIdx?_eq_some_iff_getElem.mp h
  simp only [asserted, sameScope_iff] at hp
  exact ⟨_, getElem?_eq_getElem hlt, hp⟩

theorem noOther_row {leases : List Lease} {place : Option Nat} {p : Lease → Bool}
    (h : noOther leases place p = true) {j : Nat} {b : Lease} (hj : leases[j]? = some b)
    (hne : place ≠ some j) : p b = false := by
  rw [noOther, all_eq_true] at h
  have row := h (b, j) (mem_zipIdx_iff_getElem?.mpr hj)
  simp only [asserted] at row
  obtain heq | hp := row
  · exact absurd heq.symm hne
  · exact hp

section Learn

variable {update : BindingUpdateView} {identity : ClientKey × ClientHardwareIdentity}
  {started absoluteNow : BitVec 32} {lease : Lease}

/-- What an update leaves of the record, and what it never makes of it. -/
theorem learn_fields (update : BindingUpdateView)
    (identity : ClientKey × ClientHardwareIdentity) (started absoluteNow : BitVec 32) (now : Int)
    (lease : Lease) :
    (Lease.learn update identity started absoluteNow now lease).scope = lease.scope ∧
    (Lease.learn update identity started absoluteNow now lease).client =
      (if !identity.1.bytes.isEmpty then identity.1 else lease.client) ∧
    (Lease.learn update identity started absoluteNow now lease).hardware =
      (if identity.2.length != 0#8 then identity.2 else lease.hardware) ∧
    (Lease.learn update identity started absoluteNow now lease).address = update.address ∧
    (Lease.learn update identity started absoluteNow now lease).relayAgentInformationOctets =
      lease.relayAgentInformationOctets ∧
    (Lease.learn update identity started absoluteNow now lease).failoverStateStartedAbsolute =
      started ∧
    (Lease.learn update identity started absoluteNow now lease).declineSequence =
      lease.declineSequence ∧
    (Lease.learn update identity started absoluteNow now lease).state ≠ .declined := by
  unfold Lease.learn
  cases update.status <;> exact ⟨rfl, rfl, rfl, rfl, rfl, rfl, rfl, fun hs => by cases hs⟩

theorem learn_heard :
    (Lease.learn update identity started absoluteNow now lease).lastClientTransaction ≤ now := by
  have heard : lastTransaction absoluteNow now update.clientLastTransactionTime ≤ now := by
    unfold lastTransaction
    split
    next time _ =>
      split
      next =>
        unfold second
        omega
      next => exact Int.le_refl _
    next => exact Int.le_refl _
  unfold Lease.learn
  cases update.status <;> exact heard

/-- Only an update that makes its record hold the address makes it block. -/
theorem learn_blocks
    (h : (Lease.learn update identity started absoluteNow now lease).blocks now = true) :
    updateBlocks update absoluteNow = true := by
  unfold updateBlocks
  unfold Lease.learn at h
  cases hs : update.status with
  | abandoned => rfl
  | active =>
    rw [hs] at h
    cases ht : update.leaseExpirationTime with
    | none => simp [Lease.blocks, localDeadline, ht] at h
    | some time =>
      by_cases hle : time ≤ absoluteNow
      · simp [Lease.blocks, localDeadline, ht, hle] at h
      · have : absoluteNow < time := BitVec.not_le.mp hle
        simp [this]
  | free | expired | released | reset | backup =>
    rw [hs] at h
    simp [Lease.blocks] at h

theorem row_learn {pools : List Pool} {nextDecline : BitVec 64}
    (named : (if !identity.1.bytes.isEmpty then identity.1 else lease.client).bytes ≠ [])
    (hardware : identity.2.restorable = true) (kept : lease.hardware.restorable = true)
    (relay : lease.relayAgentInformationOctets.toNat ≤ relayAgentInformationSize)
    (placed : pools.countP (fun pool => sameScope pool.scope lease.scope &&
      contains pool update.address) = 1)
    (hstarted : started ≠ 0#32) (undeclined : lease.declineSequence = 0#64) :
    Row pools nextDecline now (Lease.learn update identity started absoluteNow now lease) := by
  obtain ⟨hscope, hclient, hhardware, haddress, hrelay, hstart, hdecline, hstate⟩ :=
    learn_fields update identity started absoluteNow now lease
  constructor
  · rwa [hclient]
  · rw [hhardware]
    split
    next => exact hardware
    next => exact kept
  · rwa [hrelay]
  · exact learn_heard
  · intro _
    rwa [hstart]
  · rw [hscope, haddress]
    exact placed
  · exact fun hs => absurd hs hstate
  · intro _
    rwa [hdecline]

end Learn

/-- The clients of the other records differ and those that block are elsewhere. -/
theorem learn_compatible {update : BindingUpdateView}
    {identity : ClientKey × ClientHardwareIdentity} {started absoluteNow : BitVec 32}
    {lease b : Lease} {pool : Pool} (hs : lease.scope = pool.scope)
    (same : identity.1.bytes = [] → lease.scope = b.scope → lease.client ≠ b.client)
    (other : identity.1.bytes ≠ [] →
      (sameScope b.scope pool.scope && equalClientKey b.client identity.1) = false)
    (unblocked : updateBlocks update absoluteNow = true →
      (sameScope b.scope pool.scope && b.address == update.address && b.blocks now) = false) :
    Compatible now (Lease.learn update identity started absoluteNow now lease) b := by
  obtain ⟨hscope, hclient, _, haddress, _⟩ :=
    learn_fields update identity started absoluteNow now lease
  intro heq
  rw [hscope] at heq
  have hbs : sameScope b.scope pool.scope = true := sameScope_iff.mpr (heq.symm.trans hs)
  constructor
  · rw [hclient]
    by_cases hempty : identity.1.bytes = []
    · rw [hempty]
      exact same hempty heq
    · have hcond : (!identity.1.bytes.isEmpty) = true := by simpa using hempty
      rw [if_pos hcond]
      intro hsame
      have := other hempty
      rw [hbs, equalClientKey_iff.mpr hsame.symm] at this
      cases this
  · intro haddr hboth
    have := unblocked (learn_blocks hboth.1)
    rw [haddress] at haddr
    rw [hbs, haddr, hboth.2] at this
    simp at this

theorem Inv.partnerUpdate (h : Inv r now) {update : BindingUpdateView} {absoluteNow : BitVec 32}
    (ok : updateRestorable r update absoluteNow now = true) :
    Inv (r.applyPartnerUpdate update absoluteNow now).1 now := by
  obtain heq | ⟨pool, started, identity, hpool, hstarted, hidentity, made⟩ :=
    applyPartnerUpdate_cases r update absoluteNow now
  · rw [heq]
    exact h
  have hmem : pool ∈ r.pools.filter (fun pool => contains pool update.address) := by
    rw [hpool]
    exact mem_singleton.mpr rfl
  obtain ⟨hin, hcontains⟩ := mem_filter.mp hmem
  have placed := countP_of_disjoint h.disjoint hin rfl hcontains
  simp only [updateRestorable, hpool, hidentity, hstarted, asserted, ne_eq, Option.some.injEq] at ok
  obtain ⟨⟨⟨⟨⟨hzero, hardware⟩, hnamed⟩, hdeclined⟩, hclient⟩, hblocked⟩ := ok
  have distinct : ∀ j b, r.leases[j]? = some b →
      r.recordAt pool.scope update.address ≠ some j → identity.1.bytes ≠ [] →
      (sameScope b.scope pool.scope && equalClientKey b.client identity.1) = false := by
    intro j b hj hne hbytes
    obtain hempty | hother := hclient
    · exact absurd (List.isEmpty_iff.mp hempty) hbytes
    · exact noOther_row hother hj hne
  have vacant : ∀ j b, r.leases[j]? = some b →
      r.recordAt pool.scope update.address ≠ some j → updateBlocks update absoluteNow = true →
      (sameScope b.scope pool.scope && b.address == update.address && b.blocks now) = false := by
    intro j b hj hne hblocks
    obtain hno | hother := hblocked
    · rw [hblocks] at hno
      cases hno
    · exact noOther_row hother hj hne
  obtain ⟨place, hplace, heq⟩ | ⟨hplace, room, heq⟩ := made
  · rw [heq]
    obtain ⟨lease, hl, haddr, hscope⟩ := recordAt_some hplace
    rw [hplace] at hdeclined
    have notDeclined : lease.state ≠ .declined := by simpa using ownRecord_some hl hdeclined
    have row := h.rows lease (mem_of_getElem? hl)
    apply h.change
    intro lease' hl'
    rw [hl] at hl'
    cases hl'
    constructor
    · apply row_learn _ hardware row.hardware row.relay _ hzero (row.undeclined notDeclined)
      · split
        next hbytes => simpa using hbytes
        next => exact row.named
      · rw [hscope]
        exact placed
    · intro j b hne hj
      have elsewhere : r.recordAt pool.scope update.address ≠ some j := by
        rw [hplace]
        intro hsame
        exact hne (Option.some.inj hsame).symm
      apply learn_compatible hscope
      · exact fun _ hs => (h.pairs place j lease b (Ne.symm hne) hl hj hs).1
      · exact distinct j b hj elsewhere
      · exact vacant j b hj elsewhere
  · rw [heq]
    have hbytes : identity.1.bytes ≠ [] := by
      obtain hbytes | hsome := hnamed
      · simpa using hbytes
      · rw [hplace] at hsome
        cases hsome
    have elsewhere : ∀ j, r.recordAt pool.scope update.address ≠ some j := by
      intro j
      rw [hplace]
      exact fun hsame => by cases hsame
    apply h.added room
    constructor
    · apply row_learn _ hardware rfl (Nat.zero_le _) placed hzero rfl
      split
      next => exact hbytes
      next => exact hbytes
    · intro j b _ hj
      apply learn_compatible rfl
      · exact fun hempty => absurd hempty hbytes
      · exact distinct j b hj (elsewhere j)
      · exact vacant j b hj (elsewhere j)

theorem Inv.stageUpdates {absoluteNow : BitVec 32} {updates : List BindingUpdateView}
    (h : Inv r now) (ok : updatesRestorable absoluteNow now r updates = true)
    {aggregate : PartnerUpdateStatus} {result : LeaseRepository × PartnerUpdateStatus}
    (hs : LeaseRepository.stageUpdates absoluteNow now r aggregate updates = .ok result) :
    Inv result.1 now := by
  induction updates generalizing r aggregate with
  | nil =>
    cases hs
    exact h
  | cons update rest ih =>
    simp only [updatesRestorable, asserted] at ok
    have one := h.partnerUpdate ok.1
    unfold LeaseRepository.stageUpdates at hs
    split at hs
    next staged heq =>
      rw [heq] at ok one
      exact ih one ok.2 hs
    next staged heq =>
      rw [heq] at ok one
      exact ih one ok.2 hs
    next => cases hs

theorem Inv.partnerUpdates {absoluteNow : BitVec 32} {updates : List BindingUpdateView}
    (h : Inv r now) (ok : updatesRestorable absoluteNow now r updates = true) :
    Inv (r.applyPartnerUpdates updates absoluteNow now).1 now := by
  unfold LeaseRepository.applyPartnerUpdates
  split
  next => exact h
  split
  next result hs => exact h.stageUpdates ok hs
  next => exact h

/-! ## Runs -/

theorem inv_empty (start : Int) : Inv {} start := by
  constructor
  · decide
  · rfl
  · decide
  · decide
  · decide
  · exact fun _ hl => by cases hl
  · exact fun _ hl => by cases hl
  · exact Each.nil

theorem step_inv {s : Served} {op : Operation} (h : Inv s.repository s.clock)
    (timely : Timely s op) (stay : PoolsStay s op) (ok : RestorableStep s op) :
    Inv (step s op).repository (step s op).clock := by
  cases op with
  | configure pools reservations offerHold declineHold exclusions =>
    show Inv ((s.repository.configure pools reservations offerHold declineHold
      exclusions).getD s.repository) s.clock
    cases hc : s.repository.configure pools reservations offerHold declineHold exclusions with
    | none => exact h
    | some r' => exact h.configure hc ok stay
  | offer demand requested => exact (h.later timely).offer requested ok
  | commit demand value => exact (h.later timely).commit value ok
  | release scope client value now => exact (h.later timely).release scope client value
  | decline scope client value now => exact (h.later timely).decline ok
  | expire now => exact (h.later timely).expire
  | clear filter now => exact (h.later timely).clear filter
  | partnerUpdates updates absoluteNow now => exact (h.later timely).partnerUpdates ok

/-! ## Restore -/

/-- No deadline has passed that `expire` has not seen yet. -/
def NoneLapsed (r : LeaseRepository) (now : Int) : Prop :=
  ∀ lease ∈ r.leases, lease.lapsed now = false

instance (r : LeaseRepository) (now : Int) : Decidable (NoneLapsed r now) :=
  inferInstanceAs (Decidable (∀ lease ∈ r.leases, _))

theorem remaining_nonneg (deadline now : Int) : 0 ≤ remainingNanoseconds deadline now :=
  Int.le_max_left _ _

theorem remaining_ne_zero {deadline : Int} (h : now < deadline) :
    remainingNanoseconds deadline now ≠ 0 := by
  unfold remainingNanoseconds
  omega

theorem remaining_restored (deadline now : Int) :
    remainingNanoseconds (now + remainingNanoseconds deadline now) now =
      remainingNanoseconds deadline now := by
  unfold remainingNanoseconds
  omega

/-- A record that has not lapsed and holds its address keeps others from it. -/
theorem blocks_of_holds {lease : Lease} (current : lease.lapsed now = false)
    (declined : lease.state = .declined → lease.activeUntil = timeMax) (before : now < timeMax)
    (h : lease.state.holds = true) : lease.blocks now = true := by
  unfold Lease.blocks
  unfold Lease.lapsed at current
  cases hs : lease.state with
  | declined => simp [declined hs, before]
  | pendingOffer | active | conflict =>
    rw [hs] at current
    simpa using current
  | expired | released | reserved =>
    rw [hs] at h
    cases h

theorem checkpoint_wellFormed {pools : List Pool} {nextDecline nextRevision : BitVec 64}
    {lease : Lease} (row : Row pools nextDecline now lease)
    (stamp : Stamped nextRevision now lease) (unsaturated : nextRevision ≠ BitVec.allOnes 64)
    (current : lease.lapsed now = false) :
    (lease.checkpoint now).malformed pools nextRevision nextDecline = false := by
  have hardware := row.hardware
  simp only [ClientHardwareIdentity.restorable, asserted] at hardware
  simp only [LeaseCheckpoint.malformed, Lease.checkpoint, Bool.or_eq_false_iff, and_assoc]
  refine ⟨?_, ?_, ?_, ?_, ?_, ?_, ?_, ?_, ?_, ?_, ?_, ?_, ?_, ?_, ?_, ?_, ?_⟩
  · simpa using row.named
  · exact decide_eq_false (Nat.not_lt.mpr lease.client.fits)
  · apply decide_eq_false
    obtain hzero | ⟨_, hle⟩ := hardware
    · rw [hzero]
      decide
    · exact BitVec.not_lt.mpr hle
  · exact decide_eq_false (Nat.not_lt.mpr row.relay)
  · obtain hzero | ⟨htype, _⟩ := hardware
    · simp [hzero]
    · simp [htype]
  · exact decide_eq_false (Int.not_lt.mpr (remaining_nonneg _ _))
  · apply decide_eq_false
    split
    next => decide
    next => exact Int.not_lt.mpr (remaining_nonneg _ _)
  · have := row.heard
    exact decide_eq_false (by omega)
  · have := stamp.changed
    exact decide_eq_false (by omega)
  · simpa using stamp.revised
  · exact decide_eq_false (BitVec.not_le.mpr (stamp.before unsaturated))
  · cases hm : lease.failoverManaged with
    | false => rfl
    | true => simpa using row.managed hm
  · simp [row.placed]
  · by_cases hs : lease.state = .declined
    · obtain ⟨hne, hlt, _⟩ := row.declined hs
      simp only [hs, beq_self_eq_true, settled, Bool.or_eq_false_iff]
      exact ⟨by simpa using hne, decide_eq_false (BitVec.not_le.mpr hlt)⟩
    · simp [hs]
  · by_cases hs : lease.state = .declined
    · simp [hs]
    · simp [row.undeclined hs]
  · by_cases hs : lease.state = .pendingOffer
    · simp [Lease.lapsed, hs] at current
      have hlt : now < lease.offeredUntil := by simpa using current
      simp [remaining_ne_zero hlt]
    · simp [hs]
  · by_cases hs : lease.state = .active ∨ lease.state = .conflict
    · have hne : lease.state ≠ .declined := by
        obtain hs | hs := hs <;> (rw [hs]; decide)
      have hlt : now < lease.activeUntil := by
        unfold Lease.lapsed at current
        obtain hs | hs := hs <;> (rw [hs] at current; simpa using current)
      simp [hne, remaining_ne_zero hlt]
    · rw [not_or] at hs
      simp [hs.1, hs.2]

theorem checkpoint_clashes {a b : Lease} (compatible : Compatible now a b)
    (ha : a.state.holds = true → a.blocks now = true)
    (hb : b.state.holds = true → b.blocks now = true) :
    (a.checkpoint now).clashes (b.checkpoint now) = false := by
  rw [← Bool.not_eq_true]
  intro hclash
  simp only [LeaseCheckpoint.clashes, asserted, sameScope_iff, equalClientKey_iff] at hclash
  obtain ⟨hs, hclient | ⟨haddr, ha', hb'⟩⟩ := hclash
  · exact (compatible hs).1 hclient
  · exact (compatible hs).2 haddr ⟨ha ha', hb hb'⟩

/-- Records that pass the checks one by one and pairwise are all restored. -/
theorem restoreLeases_eq {state : LeaseRepositoryCheckpoint} {now : Int}
    {prior rest : List LeaseCheckpoint}
    (wellFormed : ∀ saved ∈ rest,
      saved.malformed state.pools state.nextRevision state.nextDeclineSequence = false)
    (pairs : ∀ (i j : Nat) (a b : LeaseCheckpoint), j < i → (prior ++ rest)[i]? = some a →
      (prior ++ rest)[j]? = some b → a.clashes b = false) :
    restoreLeases state now prior rest = some (rest.map (·.lease now)) := by
  induction rest generalizing prior with
  | nil => rfl
  | cons saved rest ih =>
    have apart : prior.any (fun other => saved.clashes other) = false := by
      rw [any_eq_false]
      intro other hother hclash
      obtain ⟨j, hj⟩ := mem_iff_getElem?.mp hother
      obtain ⟨hlt, _⟩ := List.getElem?_eq_some_iff.mp hj
      have hpair := pairs prior.length j saved other hlt (by simp)
        (by rw [List.getElem?_append_left hlt]; exact hj)
      rw [hpair] at hclash
      cases hclash
    unfold restoreLeases
    rw [wellFormed saved mem_cons_self, apart, ih]
    · rfl
    · exact fun other hother => wellFormed other (mem_cons_of_mem _ hother)
    · intro i j a b hlt ha hb
      rw [append_assoc] at ha hb
      exact pairs i j a b hlt ha hb

theorem checkpoint_lease (lease : Lease) (now : Int) :
    ((lease.checkpoint now).lease now).checkpoint now = lease.checkpoint now := by
  have elapsed : ∀ time : Int, now - (now - (now - time)) = now - time := by
    intro time
    omega
  unfold LeaseCheckpoint.lease Lease.checkpoint
  by_cases hs : lease.state = .declined
  · simp [hs, remaining_restored, elapsed]
  · have hbeq : (lease.state == .declined) = false := by simpa using hs
    simp [hbeq, remaining_restored, elapsed]

theorem restore_checkpoint {clock : Int} (h : Inv r clock) (later : clock ≤ now)
    (current : NoneLapsed r now) (before : now < timeMax)
    (unsaturated : r.nextRevision ≠ BitVec.allOnes 64) :
    ∃ r', LeaseRepository.restore (r.checkpoint now) now = some r' ∧
      r'.checkpoint now = r.checkpoint now := by
  have inv := h.later later
  obtain ⟨staged, hstaged⟩ := Option.isSome_iff_exists.mp h.configured
  have positive : 0 < r.offerHold ∧ 0 ≤ r.declineHold := by
    unfold LeaseRepository.configure at hstaged
    split at hstaged
    next => cases hstaged
    rename_i hsize
    simp only [asserted] at hsize
    omega
  have blocks : ∀ lease ∈ r.leases, lease.state.holds = true → lease.blocks now = true :=
    fun lease hl => blocks_of_holds (current lease hl)
      (fun hs => ((inv.rows lease hl).declined hs).2.2) before
  have restored : restoreLeases (r.checkpoint now) now [] (r.checkpoint now).leases =
      some ((r.leases.map (·.checkpoint now)).map (·.lease now)) := by
    apply restoreLeases_eq
    · intro saved hsaved
      obtain ⟨lease, hl, rfl⟩ := mem_map.mp hsaved
      exact checkpoint_wellFormed (inv.rows lease hl) (inv.stamps lease hl) unsaturated
        (current lease hl)
    · intro i j a b hlt ha hb
      obtain ⟨la, hla, rfl⟩ := Option.map_eq_some_iff.mp (getElem?_map.symm.trans ha)
      obtain ⟨lb, hlb, rfl⟩ := Option.map_eq_some_iff.mp (getElem?_map.symm.trans hb)
      exact checkpoint_clashes (inv.pairs i j la lb (by omega) hla hlb)
        (blocks la (mem_of_getElem? hla)) (blocks lb (mem_of_getElem? hlb))
  refine ⟨{ staged with
    leases := (r.leases.map (·.checkpoint now)).map (·.lease now)
    nextDeclineSequence := r.nextDeclineSequence, nextRevision := r.nextRevision }, ?_, ?_⟩
  · unfold LeaseRepository.restore
    rw [restored]
    have hold : (r.checkpoint now).offerHoldNanoseconds.tdiv second = r.offerHold :=
      Int.mul_tdiv_cancel _ (by decide)
    have hold' : (r.checkpoint now).declineHoldNanoseconds.tdiv second = r.declineHold :=
      Int.mul_tdiv_cancel _ (by decide)
    have checks : ((r.checkpoint now).offerHoldNanoseconds ≤ 0 ||
        (r.checkpoint now).declineHoldNanoseconds < 0 ||
        (r.checkpoint now).nextDeclineSequence == 0#64 || (r.checkpoint now).nextRevision == 0#64 ||
        leasesPerServer < (r.checkpoint now).leases.length) = false := by
      have length : (r.checkpoint now).leases.length = r.leases.length := length_map _
      have size := inv.size
      simp only [refuted]
      refine ⟨⟨⟨⟨?_, ?_⟩, inv.nextDecline⟩, inv.nextRevision⟩, by omega⟩
      · show ¬ r.offerHold * second ≤ 0
        unfold second
        omega
      · show ¬ r.declineHold * second < 0
        unfold second
        omega
    have accepted : ({} : LeaseRepository).configure (r.checkpoint now).pools
        (r.checkpoint now).reservations ((r.checkpoint now).offerHoldNanoseconds.tdiv second)
        ((r.checkpoint now).declineHoldNanoseconds.tdiv second) (r.checkpoint now).exclusions =
        some staged := by
      rw [hold, hold']
      exact hstaged
    rw [checks, accepted]
    rfl
  · rw [configure_some hstaged]
    have records : ((r.leases.map (·.checkpoint now)).map (·.lease now)).map (·.checkpoint now) =
        r.leases.map (·.checkpoint now) := by
      rw [map_map, map_map]
      exact map_congr_left fun lease _ => checkpoint_lease lease now
    unfold LeaseRepository.checkpoint
    simp only [records]

/-- In every run with times that never go back and pools that stay, whose operations all
keep the repository restorable: a checkpoint at any later time that finds no lapsed record
can be restored, and the restored repository has the same checkpoint. -/
theorem checkpoint_restorable (start : Int) (ops : List Operation)
    (timely : Runs.Along step Timely { clock := start } ops)
    (stay : Runs.Along step PoolsStay { clock := start } ops)
    (ok : Runs.Along step RestorableStep { clock := start } ops) (now : Int)
    (later : (run step { clock := start } ops).clock ≤ now)
    (current : NoneLapsed (run step { clock := start } ops).repository now) (before : now < timeMax)
    (unsaturated : (run step { clock := start } ops).repository.nextRevision ≠ BitVec.allOnes 64) :
    ∃ r', LeaseRepository.restore
        ((run step { clock := start } ops).repository.checkpoint now) now = some r' ∧
      r'.checkpoint now = (run step { clock := start } ops).repository.checkpoint now := by
  have along : Runs.Along step
      (fun s op => Timely s op ∧ PoolsStay s op ∧ RestorableStep s op) { clock := start } ops :=
    timely.and (stay.and ok)
  have reached := invariant_along (P := fun s : Served => Inv s.repository s.clock)
    (fun s op h ok => step_inv h ok.1 ok.2.1 ok.2.2) (inv_empty start) along
  exact restore_checkpoint reached later current before unsaturated

/-! ## A declined client that asks again -/

/-- A client that takes an address and then renews it. -/
def renewedOnce : List Operation :=
  [.configure [samplePool] [] 60 60 [],
    .offer { scope := sampleScope, client := firstClient } none,
    .commit { scope := sampleScope, client := firstClient } 0x0a000001#32,
    .commit { scope := sampleScope, client := firstClient, now := 5 } 0x0a000001#32]

theorem checkpoint_restorable_renewed :
    ∃ r', LeaseRepository.restore
        ((run step {} renewedOnce).repository.checkpoint 10) 10 = some r' ∧
      r'.checkpoint 10 = (run step {} renewedOnce).repository.checkpoint 10 :=
  checkpoint_restorable 0 renewedOnce (by decide) (by decide) (by decide) 10 (by decide)
    (by decide) (by decide) (by decide)

/-- A client that declines the address it is offered and asks for another. -/
def declinedThenOffered : List Operation :=
  [.configure [samplePool] [] 60 60 [],
    .offer { scope := sampleScope, client := firstClient } none,
    .decline sampleScope firstClient 0x0a000001#32 1,
    .offer { scope := sampleScope, client := firstClient, now := 2 } none]

theorem declined_client_not_restorable :
    Runs.Along step Timely {} declinedThenOffered ∧
      Runs.Along step PoolsStay {} declinedThenOffered ∧
      (run step {} declinedThenOffered).clock ≤ 3 ∧
      LeaseRepository.restore
        ((run step {} declinedThenOffered).repository.checkpoint 3) 3 = none := by
  refine ⟨by decide, by decide, by decide, by decide⟩

end RouterSim.Dhcpv4
