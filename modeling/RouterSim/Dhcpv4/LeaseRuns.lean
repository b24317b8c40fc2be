import RouterSim.Lib.Runs
import RouterSim.Lib.Table
import RouterSim.Dhcpv4.LeaseFailover

/-! The lease repository as a machine, and what each of its operations can do. -/
namespace RouterSim.Dhcpv4

open List Option

inductive Operation
  | configure (pools : List Pool) (reservations : List Reservation) (offerHold declineHold : Int)
      (exclusions : List ExcludedRange)
  | offer (demand : Demand) (requestedAddress : Option Ipv4)
  | commit (demand : Demand) (value : Ipv4)
  | release (scope : AllocationScope) (client : ClientKey) (value : Ipv4) (now : Int)
  | decline (scope : AllocationScope) (client : ClientKey) (value : Ipv4) (now : Int)
  | expire (now : Int)
  | clear (filter : LeaseClearFilter) (now : Int)
  | partnerUpdates (updates : List Failover.BindingUpdateView) (absoluteNow : BitVec 32) (now : Int)

/-- When the operation is made; configuration reads no clock. -/
def Operation.time : Operation → Option Int
  | .configure .. => none
  | .offer demand _ => some demand.now
  | .commit demand _ => some demand.now
  | .release _ _ _ now => some now
  | .decline _ _ _ now => some now
  | .expire now => some now
  | .clear _ now => some now
  | .partnerUpdates _ _ now => some now

/-- A repository and the time of its last operation. -/
structure Served where
  repository : LeaseRepository := {}
  clock : Int := 0

def Operation.apply (r : LeaseRepository) : Operation → LeaseRepository
  | .configure pools reservations offerHold declineHold exclusions =>
    (r.configure pools reservations offerHold declineHold exclusions).getD r
  | .offer demand requestedAddress => (r.offer demand requestedAddress).1
  | .commit demand value => (r.commit demand value).1
  | .release scope client value now => (r.release scope client value now).1
  | .decline scope client value now => (r.decline scope client value now).1
  | .expire now => r.expire now
  | .clear filter now => (r.clear filter now).1
  | .partnerUpdates updates absoluteNow now => (r.applyPartnerUpdates updates absoluteNow now).1

def step (s : Served) (op : Operation) : Served :=
  { repository := op.apply s.repository, clock := op.time.getD s.clock }

/-- Times never go back. -/
def Timely (s : Served) (op : Operation) : Prop := s.clock ≤ op.time.getD s.clock

instance (s : Served) (op : Operation) : Decidable (Timely s op) :=
  inferInstanceAs (Decidable (_ ≤ _))

/-! ## Keys -/

@[simp] theorem sameScope_iff {a b : AllocationScope} : sameScope a b = true ↔ a = b := by
  cases a
  cases b
  simp [sameScope, and_assoc]

@[simp] theorem equalClientKey_iff {a b : ClientKey} : equalClientKey a b = true ↔ a = b := by
  cases a
  cases b
  simp [equalClientKey, and_comm]

/-! ## Lookup -/

variable {r : LeaseRepository} {scope : AllocationScope} {client : ClientKey} {value : Ipv4}
  {now : Int}

theorem binding_some {place : Nat} (h : r.binding scope client = some place) :
    ∃ lease, r.leases[place]? = some lease ∧ lease.scope = scope ∧ lease.client = client := by
  obtain ⟨hlt, hp, _⟩ := findIdx?_eq_some_iff_getElem.mp h
  simp only [asserted, sameScope_iff, equalClientKey_iff] at hp
  exact ⟨_, getElem?_eq_getElem hlt, hp⟩

theorem binding_none (h : r.binding scope client = none) {lease : Lease}
    (hl : lease ∈ r.leases) : lease.scope = scope → lease.client ≠ client := by
  intro hs hc
  have different := findIdx?_eq_none_iff.mp h lease hl
  have equal : (sameScope lease.scope scope && equalClientKey lease.client client) = true := by
    rw [Bool.and_eq_true, sameScope_iff, equalClientKey_iff]
    exact ⟨hs, hc⟩
  rw [equal] at different
  cases different

theorem poolFor_some {pool : Pool} (h : r.poolFor scope value = some pool) :
    pool ∈ r.pools ∧ pool.enabled = true ∧ pool.scope = scope ∧ contains pool value = true := by
  unfold LeaseRepository.poolFor at h
  split at h
  next only hf =>
    cases h
    have hm : pool ∈ r.pools.filter (fun pool => pool.enabled && sameScope pool.scope scope &&
        contains pool value) := by
      rw [hf]
      exact mem_singleton.mpr rfl
    simp only [mem_filter, asserted, sameScope_iff] at hm
    exact ⟨hm.1, hm.2.1.1, hm.2.1.2, hm.2.2⟩
  next => cases h

/-- What address a selection may give, the reserved ones apart. -/
structure Free (r : LeaseRepository) (scope : AllocationScope) (client : ClientKey) (now : Int)
    (selected : Ipv4 × Pool) : Prop where
  mem : selected.2 ∈ r.pools
  scope : selected.2.scope = scope
  available : r.addressAvailable selected.2 selected.1 client now = true

variable {selected : Ipv4 × Pool}

theorem selectExisting_free (h : r.selectExisting scope client now value = some selected) :
    Free r scope client now selected := by
  unfold LeaseRepository.selectExisting at h
  split at h
  next pool hp =>
    split at h
    next ha =>
      cases h
      obtain ⟨hm, _, hs, _⟩ := poolFor_some hp
      exact ⟨hm, hs, ha⟩
    next => cases h
  next => cases h

theorem availableFrom_some {pool : Pool} {fuel : Nat} {current : Ipv4}
    (h : r.availableFrom pool client now fuel current = some value) :
    r.addressAvailable pool value client now = true := by
  induction fuel generalizing current with
  | zero => cases h
  | succ fuel ih =>
    unfold LeaseRepository.availableFrom at h
    split at h
    next ha =>
      cases h
      exact ha
    next =>
      split at h
      next => cases h
      next => exact ih h

theorem nextPool_some {nextId : Nat} {pool : Pool} (h : r.nextPool scope nextId = some pool) :
    pool ∈ r.pools ∧ pool.scope = scope := by
  have loop : ∀ (rest : List Pool) (candidate : Option Pool),
      (∀ best, candidate = some best → best ∈ r.pools ∧ best.scope = scope) →
      (∀ best ∈ rest, best ∈ r.pools) →
      ∀ best, rest.foldl (fun candidate pool =>
        if !pool.enabled || !sameScope pool.scope scope || decide (pool.id.toNat < nextId) ||
            candidate.any (fun best => decide (best.id ≤ pool.id)) then candidate
        else some pool) candidate = some best → best ∈ r.pools ∧ best.scope = scope := by
    intro rest
    induction rest with
    | nil =>
      intro candidate hc _ best hb
      exact hc best hb
    | cons first rest ih =>
      intro candidate hc hrest
      rw [foldl_cons]
      apply ih
      · intro best hb
        split at hb
        next => exact hc best hb
        rename_i hn
        cases hb
        simp only [asserted, not_or] at hn
        have hs : sameScope first.scope scope = true := by simpa using hn.1.1.2
        exact ⟨hrest first mem_cons_self, sameScope_iff.mp hs⟩
      · exact fun best hb => hrest best (mem_cons_of_mem _ hb)
  exact loop r.pools none (fun _ hb => by cases hb) (fun _ hb => hb) pool h

theorem selectFromPools_free {fuel nextId : Nat}
    (h : r.selectFromPools scope client now fuel nextId = some selected) :
    Free r scope client now selected := by
  induction fuel generalizing nextId with
  | zero => cases h
  | succ fuel ih =>
    unfold LeaseRepository.selectFromPools at h
    split at h
    next => cases h
    split at h
    next => cases h
    rename_i pool hp
    split at h
    next address ha =>
      cases h
      obtain ⟨hm, hs⟩ := nextPool_some hp
      exact ⟨hm, hs, availableFrom_some ha⟩
    next => exact ih h

/-- A selection is the client's reservation or a free address. -/
theorem select_cases {requested : Option Ipv4}
    (h : r.select scope client now requested = some selected) :
    (∃ fixed, r.reservation scope client = some fixed ∧ fixed.address = selected.1 ∧
      r.poolFor scope selected.1 = some selected.2) ∨
    r.reservation scope client = none ∧ Free r scope client now selected := by
  unfold LeaseRepository.select at h
  split at h
  next fixed hr =>
    obtain ⟨pool, hp, rfl⟩ := map_eq_some_iff.mp h
    exact .inl ⟨fixed, hr, rfl, hp⟩
  next hr =>
    right
    refine ⟨hr, ?_⟩
    have keep : ∀ wanted : Lease → Bool,
        ((r.leaseFor scope client).bind fun lease =>
          if wanted lease then r.selectExisting scope client now lease.address else none) =
            some selected → Free r scope client now selected := by
      intro wanted hk
      obtain ⟨lease, _, hl⟩ := bind_eq_some_iff.mp hk
      split at hl
      next => exact selectExisting_free hl
      next => cases hl
    simp only [or_eq_some_iff] at h
    obtain h | ⟨_, h | ⟨_, h | ⟨_, h⟩⟩⟩ := h
    · exact keep _ h
    · exact keep _ h
    · obtain ⟨address, _, ha⟩ := bind_eq_some_iff.mp h
      exact selectExisting_free ha
    · exact selectFromPools_free h

/-! ## What the operations do -/

/-- What `expire` makes of a record. -/
inductive Expired (now : Int) (lease : Lease) : Lease → Prop where
  | kept : lease.lapsed now = false → Expired now lease lease
  | lapsed (next : BitVec 64) : lease.lapsed now = true →
      Expired now lease (Lease.recordChange { lease with state := .expired } next now)

theorem expireLeases_rows (leases : List Lease) (next : BitVec 64) (i : Nat) (lease' : Lease)
    (h : (expireLeases now leases next).1[i]? = some lease') :
    ∃ lease, leases[i]? = some lease ∧ Expired now lease lease' := by
  induction leases generalizing next i with
  | nil => cases h
  | cons first rest ih =>
    unfold expireLeases at h
    by_cases hl : first.lapsed now = true
    · rw [if_pos hl] at h
      cases i with
      | zero =>
        cases h
        exact ⟨first, rfl, .lapsed next hl⟩
      | succ i => exact ih _ i h
    · rw [if_neg hl] at h
      rw [Bool.not_eq_true] at hl
      cases i with
      | zero =>
        cases h
        exact ⟨_, rfl, .kept hl⟩
      | succ i => exact ih _ i h

theorem expire_rows (i : Nat) (lease' : Lease) (h : (r.expire now).leases[i]? = some lease') :
    ∃ lease, r.leases[i]? = some lease ∧ Expired now lease lease' :=
  expireLeases_rows r.leases r.nextRevision i lease' h

@[simp] theorem expire_reservation (r : LeaseRepository) (now : Int) (scope : AllocationScope)
    (client : ClientKey) : (r.expire now).reservation scope client = r.reservation scope client :=
  rfl

theorem Expired.not_lapsed {lease lease' : Lease} (h : Expired now lease lease') :
    lease'.lapsed now = false := by
  cases h with
  | kept hl => exact hl
  | lapsed next hl => simp [Lease.lapsed, Lease.recordChange]

theorem expire_length (r : LeaseRepository) (now : Int) :
    (r.expire now).leases.length = r.leases.length := by
  have lengths : ∀ (leases : List Lease) (next : BitVec 64),
      (expireLeases now leases next).1.length = leases.length := by
    intro leases
    induction leases with
    | nil => exact fun _ => rfl
    | cons first rest ih =>
      intro next
      unfold expireLeases
      split <;> exact congrArg (· + 1) (ih _)
  exact lengths r.leases r.nextRevision

theorem Expired.same {lease lease' : Lease} (h : Expired now lease lease') :
    lease'.scope = lease.scope ∧ lease'.client = lease.client ∧ lease'.address = lease.address := by
  cases h <;> exact ⟨rfl, rfl, rfl⟩

theorem binding_expire {scope : AllocationScope} {client : ClientKey} {place : Nat}
    (h : (r.expire now).binding scope client = some place) : r.binding scope client ≠ none := by
  intro hnone
  obtain ⟨lease, hl, hs, hc⟩ := binding_some h
  obtain ⟨before, hb, hexp⟩ := expire_rows place lease hl
  obtain ⟨kscope, kclient, _⟩ := hexp.same
  exact binding_none hnone (mem_of_getElem? hb) (kscope ▸ hs) (kclient ▸ hc)

/-- A repository with a record added at the end. -/
def LeaseRepository.added (r : LeaseRepository) (lease : Lease) (now : Int) : LeaseRepository :=
  { r with
    leases := r.leases ++ [lease.recordChange r.nextRevision now]
    nextRevision := nextRevisionAfter r.nextRevision }

theorem change_fresh (r : LeaseRepository) (fresh : Lease) (f : Lease → Lease) (now : Int) :
    ({ r with leases := r.leases ++ [fresh] } : LeaseRepository).change r.leases.length f now =
      r.added (f fresh) now := by
  have : ∀ (l : List Lease) (g : Lease → Lease), (l ++ [fresh]).modify l.length g =
      l ++ [g fresh] := by
    intro l g
    induction l with
    | nil => rfl
    | cons first rest ih => exact congrArg (first :: ·) ih
  unfold LeaseRepository.change LeaseRepository.added
  rw [this]

section

variable (start : LeaseRepository)

/-- An offer expires what has lapsed and may then put an address on offer in the client's
record, an old one or a new one. -/
theorem offer_cases (demand : Demand) (requested : Option Ipv4) :
    (start.offer demand requested).1 = start.expire demand.now ∨
    ∃ selected, (start.expire demand.now).select demand.scope demand.client demand.now requested =
        some selected ∧ demand.client.bytes ≠ [] ∧
      demand.relayAgentInformation.length ≤ relayAgentInformationSize ∧
      ((∃ place, (start.expire demand.now).binding demand.scope demand.client = some place ∧
        (start.offer demand requested).1 = (start.expire demand.now).change place
          (Lease.offerWith demand selected start.offerHold) demand.now) ∨
      ((start.expire demand.now).binding demand.scope demand.client = none ∧
        (start.expire demand.now).leases.length ≠ leasesPerServer ∧
        (start.offer demand requested).1 = (start.expire demand.now).added
          (Lease.offerWith demand selected start.offerHold
            { scope := demand.scope, client := demand.client }) demand.now)) := by
  unfold LeaseRepository.offer
  simp only
  split
  next => exact .inl rfl
  split
  next => exact .inl rfl
  rename_i hreq
  simp only [asserted, not_or, List.isEmpty_iff, Nat.not_lt] at hreq
  split
  next => exact .inl rfl
  rename_i selected hs
  split
  next place hb => exact .inr ⟨selected, hs, hreq.1, hreq.2, .inl ⟨place, hb, rfl⟩⟩
  rename_i hb
  split
  next => exact .inl rfl
  rename_i hfull
  refine .inr ⟨selected, hs, hreq.1, hreq.2, .inr ⟨hb, by simpa using hfull, ?_⟩⟩
  exact change_fresh _ _ _ _

/-- A commit is refused, or makes the client's record active, which already holds the
address. -/
theorem commit_outcome (demand : Demand) (value : Ipv4) :
    start.commit demand value = (start.expire demand.now, false) ∨
    ∃ place pool lease, (start.expire demand.now).binding demand.scope demand.client = some place ∧
      (start.expire demand.now).leases[place]? = some lease ∧ lease.mayCommit demand value = true ∧
      demand.relayAgentInformation.length ≤ relayAgentInformationSize ∧
      start.commit demand value = ((start.expire demand.now).change place
        (Lease.commitWith demand pool) demand.now, true) := by
  unfold LeaseRepository.commit
  simp only
  split
  next => exact .inl rfl
  split
  next place pool hb hp =>
    split
    next hany =>
      obtain ⟨lease, hl, hm⟩ := (any_eq_true _ _).mp hany
      exact .inr ⟨place, pool, lease, hb, hl, hm, by omega, rfl⟩
    next => exact .inl rfl
  next => exact .inl rfl

/-- A commit expires what has lapsed and may then make the client's record active. -/
theorem commit_cases (demand : Demand) (value : Ipv4) :
    (start.commit demand value).1 = start.expire demand.now ∨
    ∃ place pool lease, (start.expire demand.now).leases[place]? = some lease ∧
      lease.mayCommit demand value = true ∧
      demand.relayAgentInformation.length ≤ relayAgentInformationSize ∧
      (start.commit demand value).1 = (start.expire demand.now).change place
        (Lease.commitWith demand pool) demand.now := by
  obtain heq | ⟨place, pool, lease, _, hl, hm, hrelay, heq⟩ := commit_outcome start demand value
  · exact .inl (by rw [heq])
  · exact .inr ⟨place, pool, lease, hl, hm, hrelay, by rw [heq]⟩

theorem release_cases (r : LeaseRepository) (scope : AllocationScope) (client : ClientKey)
    (value : Ipv4) (now : Int) : (r.release scope client value now).1 = r ∨
    ∃ place lease, r.leases[place]? = some lease ∧ lease.state = .active ∧
      (r.release scope client value now).1 = r.change place (fun lease =>
        { lease with
          state := .released, activeUntil := now, lastClientTransaction := now }) now := by
  unfold LeaseRepository.release
  split
  next place hb =>
    split
    next hany =>
      obtain ⟨lease, hl, hm⟩ := (any_eq_true _ _).mp hany
      simp only [asserted] at hm
      exact .inr ⟨place, lease, hl, hm.2, rfl⟩
    next => exact .inl rfl
  next => exact .inl rfl

/-- The record as a decline leaves it. -/
def Lease.declineWith (sequence : BitVec 64) (now : Int) (lease : Lease) : Lease :=
  { lease with
    state := .declined, activeUntil := timeMax, declineSequence := sequence, sticky := false,
    lastClientTransaction := now }

/-- The record as giving it back leaves it. -/
def Lease.giveBackWith (now : Int) (lease : Lease) : Lease :=
  { lease with
    state := .expired, activeUntil := now, declineSequence := 0#64 }

/-- A property that giving back one declined record keeps is kept by giving back many. -/
theorem giveBack_induction {P : LeaseRepository → Prop}
    (one : ∀ (r : LeaseRepository) (place : Nat) (lease : Lease), P r →
      r.leases[place]? = some lease → lease.state = .declined →
      P (r.change place (Lease.giveBackWith now) now)) (excess : Nat) (hr : P r) :
    P (LeaseRepository.giveBack scope now excess r) := by
  induction excess generalizing r with
  | zero => exact hr
  | succ excess ih =>
    unfold LeaseRepository.giveBack
    split
    next => exact hr
    rename_i place _
    split
    next hany =>
      obtain ⟨lease, hl, hm⟩ := (any_eq_true _ _).mp hany
      exact ih (one r place lease hr hl (by simpa using hm))
    next => exact hr

/-- A decline is refused, or marks the client's record, whatever its state, and may give
others back. -/
theorem decline_outcome (r : LeaseRepository) (scope : AllocationScope) (client : ClientKey)
    (value : Ipv4) (now : Int) : r.decline scope client value now = (r, false) ∨
    ∃ place lease excess, r.binding scope client = some place ∧
      r.leases[place]? = some lease ∧ lease.address = value ∧
      r.decline scope client value now = (LeaseRepository.giveBack scope now excess
        { r.change place (Lease.declineWith r.nextDeclineSequence now) now with
          nextDeclineSequence := r.nextDeclineSequence + 1#64 }, true) := by
  unfold LeaseRepository.decline
  split
  next place pool hb hp =>
    split
    next hany =>
      obtain ⟨lease, hl, hm⟩ := (any_eq_true _ _).mp hany
      exact .inr ⟨place, lease, _, hb, hl, by simpa using hm, rfl⟩
    next => exact .inl rfl
  next => exact .inl rfl

theorem decline_cases (r : LeaseRepository) (scope : AllocationScope) (client : ClientKey)
    (value : Ipv4) (now : Int) : (r.decline scope client value now).1 = r ∨
    ∃ place lease excess, r.binding scope client = some place ∧
      r.leases[place]? = some lease ∧ lease.scope = scope ∧ lease.client = client ∧
      lease.address = value ∧
      (r.decline scope client value now).1 = LeaseRepository.giveBack scope now excess
        { r.change place (Lease.declineWith r.nextDeclineSequence now) now with
          nextDeclineSequence := r.nextDeclineSequence + 1#64 } := by
  obtain heq | ⟨place, lease, excess, hb, hl, ha, heq⟩ := decline_outcome r scope client value now
  · exact .inl (by rw [heq])
  · obtain ⟨lease', hl', hs, hc⟩ := binding_some hb
    rw [hl] at hl'
    cases hl'
    exact .inr ⟨place, lease, excess, hb, hl, hs, hc, ha, by rw [heq]⟩

theorem clear_cases (filter : LeaseClearFilter) (now : Int) :
    (start.clear filter now).1 = start.expire now ∨
    (start.clear filter now).1 = { start.expire now with
      leases := (start.expire now).leases.filter fun lease => !filter.selects lease } := by
  unfold LeaseRepository.clear
  split
  next => exact .inl rfl
  next => exact .inr rfl

end

theorem configure_some {r' : LeaseRepository} {pools : List Pool}
    {reservations : List Reservation} {offerHold declineHold : Int}
    {exclusions : List ExcludedRange}
    (h : r.configure pools reservations offerHold declineHold exclusions = some r') :
    r' = { r with
      pools := pools, reservations := reservations, exclusions := exclusions, offerHold := offerHold
      declineHold := declineHold } := by
  unfold LeaseRepository.configure at h
  split at h
  next => cases h
  split at h
  next => cases h
  next => exact (some.inj h).symm

/-! ## A small server -/

def sampleScope : AllocationScope := { serverInstance := 1#32 }

def samplePool : Pool :=
  { id := 1#16, scope := sampleScope, first := 0x0a000001#32, last := 0x0a000002#32,
    leaseSeconds := 600#32, enabled := true }

def firstClient : ClientKey := { bytes := [1#8] }
def secondClient : ClientKey := { bytes := [2#8] }

end RouterSim.Dhcpv4
