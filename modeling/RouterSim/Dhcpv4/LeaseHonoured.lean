import RouterSim.Dhcpv4.LeaseHold

/-! An acknowledged address stays with its client until the lease ends, as long as no offer
of the client itself and no reservation of another one comes in between. -/
namespace RouterSim.Dhcpv4

open List Runs

variable {r : LeaseRepository} {s : Served} {scope : AllocationScope} {client : ClientKey}
  {address : Ipv4} {place : Nat} {lease : Lease} {now : Int}

section Conditions

/-- The end of the lease the client was last acknowledged. -/
def leaseEnd (r : LeaseRepository) (scope : AllocationScope) (client : ClientKey) : Int :=
  ((r.leaseFor scope client).map (·.activeUntil)).getD 0

/-- Offers, commits and expiry. -/
def Operation.acquires : Operation → Bool
  | .offer .. | .commit .. | .expire .. => true
  | .configure .. | .release .. | .decline .. | .clear .. | .partnerUpdates .. => false

/-- The operation is made before the client's lease ends. -/
def beforeEnd (scope : AllocationScope) (client : ClientKey) (s : Served) (op : Operation) : Bool :=
  op.time.all fun now => decide (now < leaseEnd s.repository scope client)

/-- An offer that leaves the lease alone: the client itself is offered the same address for at
least as long, and the address is not the reserved one of another client. -/
def sparesLease (scope : AllocationScope) (client : ClientKey) (address : Ipv4) (s : Served) :
    Operation → Bool
  | .offer demand requested =>
    !sameScope demand.scope scope || offerRefused s.repository demand ||
      if equalClientKey demand.client client then
        ((s.repository.expire demand.now).select demand.scope demand.client demand.now
          requested).all fun selected => selected.1 == address &&
            decide (leaseEnd s.repository scope client ≤
              demand.now + effectiveOfferHold selected.2 s.repository.offerHold * second)
      else !reservedFor s.repository demand address
  | _ => true

end Conditions

section Invariant

/-- The record keeps its address from others until its lease ends. -/
def Lease.lasting (lease : Lease) : Prop :=
  lease.state = .active ∨ lease.state = .pendingOffer ∧ lease.activeUntil ≤ lease.offeredUntil

theorem Lease.lasting.standing (h : lease.lasting) (early : now < lease.activeUntil) :
    lease.lapsed now = false ∧ lease.blocks now = true := by
  obtain state | ⟨state, longer⟩ := h
  · simp [Lease.lapsed, Lease.blocks, state, early]
  · have pending : now < lease.offeredUntil := by omega
    simp [Lease.lapsed, Lease.blocks, state, pending]

/-- No other client of the scope is live at the address. -/
def Alone (r : LeaseRepository) (scope : AllocationScope) (client : ClientKey) (address : Ipv4)
    (now : Int) : Prop :=
  ∀ lease ∈ r.leases, lease.scope = scope → lease.client ≠ client → lease.address = address →
    lease.live now = false

instance : Decidable (Alone r scope client address now) :=
  inferInstanceAs (Decidable (∀ lease ∈ r.leases, lease.scope = scope → lease.client ≠ client →
    lease.address = address → lease.live now = false))

/-- The client holds the address alone. -/
structure HoldsAlone (s : Served) (scope : AllocationScope) (client : ClientKey)
    (address : Ipv4) (place : Nat) (lease : Lease) : Prop
    extends Found s.repository scope client place lease where
  there : lease.address = address
  lasting : lease.lasting
  alone : Alone s.repository scope client address s.clock

theorem HoldsAlone.leaseEnd (h : HoldsAlone s scope client address place lease) :
    leaseEnd s.repository scope client = lease.activeUntil := by
  rw [RouterSim.Dhcpv4.leaseEnd, h.toFound.leaseFor]
  rfl

theorem Alone.expire {later : Int} (h : Alone r scope client address now) (le : now ≤ later) :
    Alone (r.expire later) scope client address later := by
  intro lease mem hs hc ha
  obtain ⟨i, row⟩ := mem_iff_getElem?.mp mem
  obtain ⟨before, at_i, expired⟩ := expire_rows i lease row
  have kept := expired.keeps
  have dead := h before (mem_of_getElem? at_i) (kept.scope ▸ hs) (kept.client ▸ hc)
    (kept.address ▸ ha)
  rw [← Bool.not_eq_true] at dead ⊢
  exact fun live => dead (live_earlier le (kept.live live))

theorem HoldsAlone.expire (h : HoldsAlone s scope client address place lease)
    (timely : s.clock ≤ now) (early : now < lease.activeUntil) :
    HoldsAlone ⟨s.repository.expire now, now⟩ scope client address place lease := by
  obtain ⟨lease', found, expired⟩ := h.toFound.expire now
  cases expired with
  | kept => exact ⟨found, h.there, h.lasting, h.alone.expire timely⟩
  | lapsed _ lapsed =>
    rw [(h.lasting.standing early).1] at lapsed
    cases lapsed

variable {f : Lease → Lease}

theorem Alone.change (h : Alone r scope client address now)
    (harmless : ∀ lease, r.leases[place]? = some lease → (f lease).scope = scope →
      (f lease).client ≠ client → (f lease).address = address → (f lease).live now = false) :
    Alone (r.change place f now) scope client address now := by
  intro lease mem hs hc ha
  obtain ⟨i, row⟩ := mem_iff_getElem?.mp mem
  obtain ⟨rfl, before, at_i, rfl⟩ | ⟨_, at_i⟩ := Table.modify_row row
  · exact harmless before at_i hs hc ha
  · exact h lease (mem_of_getElem? at_i) hs hc ha

theorem HoldsAlone.change_other
    (h : HoldsAlone ⟨r, now⟩ scope client address place lease) {other : Nat}
    (keeps : ∀ lease, (f lease).owner = lease.owner) (ne : other ≠ place)
    (harmless : ∀ lease, r.leases[other]? = some lease → (f lease).scope = scope →
      (f lease).client ≠ client → (f lease).address = address → (f lease).live now = false) :
    HoldsAlone ⟨r.change other f now, now⟩ scope client address place lease :=
  ⟨h.toFound.change_other keeps ne, h.there, h.lasting, h.alone.change harmless⟩

theorem HoldsAlone.change_own (h : HoldsAlone ⟨r, now⟩ scope client address place lease)
    (keeps : ∀ lease, (f lease).owner = lease.owner) (there : (f lease).address = address)
    (lasting : (f lease).lasting) :
    HoldsAlone ⟨r.change place f now, now⟩ scope client address place
      ((f lease).recordChange r.nextRevision now) := by
  refine ⟨h.toFound.change_own keeps, there, lasting, h.alone.change ?_⟩
  intro row at_place hs hc
  obtain rfl := Option.some.inj (h.toFound.row.symm.trans at_place)
  obtain ⟨_, same⟩ := Prod.mk.inj ((keeps lease).trans h.toFound.owner)
  exact absurd same hc

end Invariant

section Steps

variable {demand : Demand} {value : Ipv4}

/-- What an offer selects is not the address the client holds, unless it is for the client
itself. -/
theorem select_elsewhere {requested : Option Ipv4} {selected : Ipv4 × Pool}
    (h : HoldsAlone ⟨r.expire demand.now, demand.now⟩ scope client address place lease)
    (early : demand.now < lease.activeUntil)
    (chosen : (r.expire demand.now).select demand.scope demand.client demand.now requested =
      some selected)
    (unreserved : reservedFor r demand address = false) (here : demand.scope = scope)
    (other : demand.client ≠ client) : selected.1 ≠ address := by
  rintro rfl
  subst here
  obtain ⟨hs, hc⟩ := Prod.mk.inj h.toFound.owner
  obtain ⟨fixed, reserved, same, _⟩ | ⟨_, free⟩ := select_cases chosen
  · rw [expire_reservation] at reserved
    simp [reservedFor, reserved, same] at unreserved
  · have unblocked := free.unblocked h.toFound.mem hs
      (fun same => other (same.symm.trans hc)) h.there
    rw [(h.lasting.standing early).2] at unblocked
    cases unblocked

theorem made_of_place (relay : demand.relayAgentInformation.length ≤ relayAgentInformationSize)
    (room : r.binding demand.scope demand.client ≠ none ∨ r.leases.length ≠ leasesPerServer) :
    offerRefused r demand = false := by
  have short : ¬ relayAgentInformationSize < demand.relayAgentInformation.length := by omega
  obtain known | room := room
  · simp [offerRefused, short, known]
  · simp [offerRefused, short, room]

theorem offer_holdsAlone {requested : Option Ipv4}
    (h : HoldsAlone s scope client address place lease) (timely : s.clock ≤ demand.now)
    (early : demand.now < lease.activeUntil)
    (spared : sparesLease scope client address s (.offer demand requested) = true) :
    ∃ lease', HoldsAlone ⟨(s.repository.offer demand requested).1, demand.now⟩ scope client
      address place lease' := by
  have expired := h.expire timely early
  obtain same | ⟨selected, chosen, _, relay, made⟩ := offer_cases s.repository demand requested
  · rw [same]
    exact ⟨lease, expired⟩
  have unrefused : offerRefused s.repository demand = false := by
    apply made_of_place relay
    obtain ⟨_, bound, _⟩ | ⟨_, room, _⟩ := made
    · exact .inl (binding_expire bound)
    · exact .inr (expire_length s.repository demand.now ▸ room)
  simp only [sparesLease, unrefused, chosen, Option.all_some] at spared
  -- another client of the scope is given another address
  have elsewhere : demand.scope = scope → demand.client ≠ client → selected.1 ≠ address := by
    intro here other
    have inScope : sameScope demand.scope scope = true := sameScope_iff.mpr here
    have differs : ¬ equalClientKey demand.client client = true :=
      fun same => other (equalClientKey_iff.mp same)
    rw [inScope, if_neg differs] at spared
    exact select_elsewhere expired early chosen (by simpa using spared) here other
  obtain ⟨other, bound, changed⟩ | ⟨_, _, added⟩ := made
  · rw [changed]
    obtain ⟨row, at_other, hs, hc⟩ := binding_some bound
    have found : Found (s.repository.expire demand.now) demand.scope demand.client other row :=
      ⟨bound, at_other⟩
    by_cases own : (demand.scope, demand.client) = (scope, client)
    · obtain ⟨rfl, rfl⟩ := Prod.mk.inj own
      obtain rfl := Option.some.inj (found.bound.symm.trans expired.toFound.bound)
      have inScope : sameScope demand.scope demand.scope = true := sameScope_iff.mpr rfl
      have same : equalClientKey demand.client demand.client = true := equalClientKey_iff.mpr rfl
      simp only [inScope, same, settled, asserted, h.leaseEnd] at spared
      refine ⟨_, expired.change_own ?_ spared.1 (.inr ⟨rfl, spared.2⟩)⟩
      exact fun _ => rfl
    · refine ⟨lease, expired.change_other ?_ (expired.toFound.elsewhere found own) ?_⟩
      · exact fun _ => rfl
      intro row' at_other' hs' hc' ha
      obtain rfl := Option.some.inj (at_other.symm.trans at_other')
      exact absurd ha (elsewhere (hs.symm.trans hs') fun same => hc' (hc.trans same))
  · rw [added]
    refine ⟨lease, ?_⟩
    refine ⟨expired.toFound.added _ _, expired.there, expired.lasting, ?_⟩
    intro row mem hs hc ha
    obtain old | new := mem_append.mp mem
    · exact expired.alone row old hs hc ha
    · obtain rfl := mem_singleton.mp new
      exact absurd ha (elsewhere hs hc)

theorem live_of_mayCommit (row : (r.expire demand.now).leases[place]? = some lease)
    (may : lease.mayCommit demand value = true) : lease.live demand.now = true := by
  obtain ⟨before, _, expired⟩ := expire_rows place lease row
  have lapsed := expired.not_lapsed
  simp only [Lease.mayCommit, asserted] at may
  obtain ⟨_, active | ⟨⟨pending, _⟩, early⟩⟩ := may
  · simp [Lease.lapsed] at lapsed
    simpa [Lease.live, active] using lapsed
  · simp [Lease.live, pending, early]

theorem mayCommit_address (may : lease.mayCommit demand value = true) : lease.address = value := by
  simp only [Lease.mayCommit, asserted] at may
  exact may.1

theorem commit_holdsAlone
    (h : HoldsAlone s scope client address place lease) (timely : s.clock ≤ demand.now)
    (early : demand.now < lease.activeUntil) :
    ∃ lease', HoldsAlone ⟨(s.repository.commit demand value).1, demand.now⟩ scope client
      address place lease' := by
  have expired := h.expire timely early
  obtain refused | ⟨other, pool, row, bound, at_other, may, _, changed⟩ :=
    commit_outcome s.repository demand value
  · rw [refused]
    exact ⟨lease, expired⟩
  rw [changed]
  by_cases own : other = place
  · subst own
    refine ⟨_, expired.change_own ?_ expired.there (.inl rfl)⟩
    exact fun _ => rfl
  · refine ⟨lease, expired.change_other ?_ own ?_⟩
    · exact fun _ => rfl
    -- the other client's record would have been live at the address before
    intro row' at_other' hs hc ha
    obtain rfl := Option.some.inj (at_other.symm.trans at_other')
    have dead := expired.alone row (mem_of_getElem? at_other) hs hc ha
    rw [live_of_mayCommit at_other may] at dead
    cases dead

theorem step_holdsAlone {op : Operation} (h : HoldsAlone s scope client address place lease)
    (acquires : op.acquires = true) (timely : Timely s op)
    (before : beforeEnd scope client s op = true)
    (spared : sparesLease scope client address s op = true) :
    ∃ lease', HoldsAlone (step s op) scope client address place lease' := by
  rw [beforeEnd, h.leaseEnd] at before
  cases op with
  | offer demand requested =>
    exact offer_holdsAlone h timely (by simpa [Operation.time] using before) spared
  | commit demand value =>
    exact commit_holdsAlone h timely (by simpa [Operation.time] using before)
  | expire now => exact ⟨lease, h.expire timely (by simpa [Operation.time] using before)⟩
  | configure | release | decline | clear | partnerUpdates => cases acquires

theorem grants_elsewhere {op : Operation} (h : HoldsAlone s scope client address place lease)
    (timely : Timely s op) (before : beforeEnd scope client s op = true)
    (spared : sparesLease scope client address s op = true)
    {given : AllocationScope × ClientKey × Ipv4}
    (granted : op.grants s.repository = some given) (here : given.1 = scope)
    (other : given.2.1 ≠ client) : given.2.2 ≠ address := by
  rw [beforeEnd, h.leaseEnd] at before
  cases op with
  | offer demand requested =>
    have early : demand.now < lease.activeUntil := by simpa [Operation.time] using before
    obtain ⟨selected, chosen, rfl, made⟩ := offer_grants granted
    have inScope : sameScope demand.scope scope = true := sameScope_iff.mpr here
    have differs : ¬ equalClientKey demand.client client = true :=
      fun same => other (equalClientKey_iff.mp same)
    simp only [sparesLease, inScope, made, if_neg differs] at spared
    exact select_elsewhere (h.expire timely early) early chosen (by simpa using spared) here other
  | commit demand value =>
    have early : demand.now < lease.activeUntil := by simpa [Operation.time] using before
    obtain ⟨place, row, found, may, rfl⟩ := commit_grants granted
    rintro rfl
    obtain ⟨hs, hc⟩ := Prod.mk.inj found.owner
    have dead : row.live demand.now = false := (h.expire timely early).alone row found.mem
      (hs.trans here) (fun same => other (hc.symm.trans same)) (mayCommit_address may)
    rw [live_of_mayCommit found.row may] at dead
    cases dead
  | configure | release | decline | expire | clear | partnerUpdates => cases granted

/-- A commit gives the address to its client alone, if no other client of the scope is live
there. -/
theorem holdsAlone_of_commit (committed : (s.repository.commit demand value).2 = true)
    (alone : Alone s.repository demand.scope demand.client value demand.now) :
    ∃ place lease, HoldsAlone (step s (.commit demand value)) demand.scope demand.client value
      place lease := by
  obtain refused | ⟨place, pool, lease, bound, row, may, _, granted⟩ :=
    commit_outcome s.repository demand value
  · rw [refused] at committed
    cases committed
  have found : Found (s.repository.expire demand.now) demand.scope demand.client place lease :=
    ⟨bound, row⟩
  have changed : Found ((s.repository.expire demand.now).change place
      (Lease.commitWith demand pool) demand.now) demand.scope demand.client place _ :=
    found.change_own fun _ => rfl
  have repository : (step s (.commit demand value)).repository =
      (s.repository.expire demand.now).change place (Lease.commitWith demand pool) demand.now :=
    congrArg Prod.fst granted
  have there : lease.address = value := mayCommit_address may
  refine ⟨place, (lease.commitWith demand pool).recordChange
    (s.repository.expire demand.now).nextRevision demand.now, ⟨?_, there, .inl rfl, ?_⟩⟩
  · rw [repository]
    exact changed
  · rw [repository]
    apply (alone.expire (Int.le_refl _)).change
    intro other at_place hs hc
    obtain rfl := Option.some.inj (row.symm.trans at_place)
    obtain ⟨_, same⟩ := Prod.mk.inj found.owner
    exact absurd same hc

end Steps

section Runs

/-- The first client commits what it is offered, for ten minutes. -/
def firstCommit : Demand := { scope := sampleScope, client := firstClient }

/-- Another client asks five minutes later. -/
def laterDemand : Demand := { scope := sampleScope, client := secondClient, now := 300000000000 }

end Runs

end RouterSim.Dhcpv4
