import RouterSim.Dhcpv4.LeaseExclusivity

/-! What one client's record does for its address while others ask: the quarantine of a
declined address and the lease of an acknowledged one. -/
namespace RouterSim.Dhcpv4

variable {r : LeaseRepository} {scope : AllocationScope} {client : ClientKey} {address : Ipv4}
  {place : Nat} {lease : Lease} {now : Int}

variable {f : Lease → Lease} {scope' : AllocationScope} {demand : Demand}
   {given : AllocationScope × ClientKey × Ipv4} {requested : Option Ipv4} {value : Ipv4}

section Place

/-- The client's record, at its place. -/
structure Found (r : LeaseRepository) (scope : AllocationScope) (client : ClientKey)
    (place : Nat) (lease : Lease) : Prop where
  bound : r.binding scope client = some place
  row : r.leases[place]? = some lease

def Lease.owner (lease : Lease) : AllocationScope × ClientKey := (lease.scope, lease.client)

theorem binding_owner : r.binding scope client = (r.leases.map Lease.owner).findIdx?
    fun owner => sameScope owner.1 scope && equalClientKey owner.2 client := by
  rw [List.findIdx?_map]
  rfl

theorem Found.owner (h : Found r scope client place lease) : lease.owner = (scope, client) := by
  obtain ⟨other, row, hs, hc⟩ := binding_some h.bound
  rw [h.row] at row
  obtain rfl := Option.some.inj row
  exact Prod.ext hs hc

theorem Found.mem (h : Found r scope client place lease) : lease ∈ r.leases :=
  List.mem_of_getElem? h.row

theorem Found.leaseFor (h : Found r scope client place lease) :
    r.leaseFor scope client = some lease := by
  obtain ⟨inside, matching, first⟩ := List.findIdx?_eq_some_iff_getElem.mp h.bound
  unfold LeaseRepository.leaseFor
  rw [List.find?_eq_some_iff_getElem]
  refine ⟨?_, place, inside, ?_, fun j earlier => ?_⟩
  · obtain ⟨hs, hc⟩ := Prod.mk.inj h.owner
    rw [Bool.and_eq_true, sameScope_iff, equalClientKey_iff]
    exact ⟨hs, hc⟩
  · exact (List.getElem?_eq_some_iff.mp h.row).choose_spec
  · rw [Bool.not_eq_true', Bool.eq_false_iff]
    exact first j earlier

/-- Only the owners of the records decide who is found where. -/
theorem Found.move {r' : LeaseRepository} {lease' : Lease} (h : Found r scope client place lease)
    (owners : r'.leases.map Lease.owner = r.leases.map Lease.owner)
    (row : r'.leases[place]? = some lease') : Found r' scope client place lease' := by
  refine ⟨?_, row⟩
  rw [binding_owner, owners, ← binding_owner]
  exact h.bound

theorem owners_expire (r : LeaseRepository) (now : Int) :
    (r.expire now).leases.map Lease.owner = r.leases.map Lease.owner := by
  apply List.ext_getElem?
  intro i
  rw [List.getElem?_map, List.getElem?_map]
  cases after : (r.expire now).leases[i]? with
  | none =>
    have outside := List.getElem?_eq_none_iff.mp after
    rw [expire_length] at outside
    rw [List.getElem?_eq_none outside]
  | some lease' =>
    obtain ⟨lease, before, expired⟩ := expire_rows i lease' after
    obtain ⟨hs, hc, _⟩ := expired.same
    rw [before, Option.map_some, Option.map_some, Lease.owner, Lease.owner, hs, hc]

theorem owners_change (keeps : ∀ lease, (f lease).owner = lease.owner) :
    (r.change place f now).leases.map Lease.owner = r.leases.map Lease.owner :=
  Table.map_modify fun lease _ => keeps lease

variable (h : Found r scope client place lease)
include h

theorem Found.expire (now : Int) :
    ∃ lease', Found (r.expire now) scope client place lease' ∧ Expired now lease lease' := by
  obtain ⟨inside, _⟩ := List.getElem?_eq_some_iff.mp h.row
  have still : place < (r.expire now).leases.length := by
    rw [expire_length]
    exact inside
  have row := List.getElem?_eq_getElem still
  obtain ⟨before, at_place, expired⟩ := expire_rows place _ row
  rw [h.row] at at_place
  obtain rfl := Option.some.inj at_place
  exact ⟨_, h.move (owners_expire r now) row, expired⟩

theorem Found.change_own (keeps : ∀ lease, (f lease).owner = lease.owner) :
    Found (r.change place f now) scope client place
      ((f lease).recordChange r.nextRevision now) := by
  apply h.move (owners_change keeps)
  show (r.leases.modify place _)[place]? = _
  rw [List.getElem?_modify, h.row]
  simp

theorem Found.change_other {other : Nat} (keeps : ∀ lease, (f lease).owner = lease.owner)
    (ne : other ≠ place) : Found (r.change other f now) scope client place lease := by
  apply h.move (owners_change keeps)
  show (r.leases.modify other _)[place]? = _
  rw [List.getElem?_modify, h.row]
  simp [ne]

theorem Found.added (fresh : Lease) (now : Int) :
    Found (r.added fresh now) scope client place lease := by
  obtain ⟨inside, _⟩ := List.getElem?_eq_some_iff.mp h.row
  refine ⟨?_, ?_⟩
  · show (r.leases ++ _).findIdx? _ = _
    rw [List.findIdx?_append]
    have bound := h.bound
    unfold LeaseRepository.binding at bound
    rw [bound]
    rfl
  · show (r.leases ++ _)[place]? = _
    rw [List.getElem?_append_left inside]
    exact h.row

theorem Found.elsewhere {other : Nat} {row : Lease} {client' : ClientKey}
    (found : Found r scope' client' other row) (differ : (scope', client') ≠ (scope, client)) :
    other ≠ place := by
  rintro rfl
  obtain rfl := Option.some.inj (h.row.symm.trans found.row)
  exact differ (found.owner.symm.trans h.owner)

end Place

section Grants

/-- The address an operation gives to a client of a scope. -/
def Operation.grants (r : LeaseRepository) : Operation → Option (AllocationScope × ClientKey × Ipv4)
  | .offer demand requested =>
    let offered := (r.offer demand requested).2
    if offered.status == .offered then some (demand.scope, demand.client, offered.address)
    else none
  | .commit demand value =>
    if (r.commit demand value).2 then some (demand.scope, demand.client, value) else none
  | _ => none

/-- An offer that carries too much relay information, or of a client without a record when
the table is full, gives nothing. -/
def offerRefused (r : LeaseRepository) (demand : Demand) : Bool :=
  decide (relayAgentInformationSize < demand.relayAgentInformation.length) ||
    (r.binding demand.scope demand.client == none && r.leases.length == leasesPerServer)

/-- Whether the address is the reserved one of a client. -/
def reservedFor (r : LeaseRepository) (demand : Demand) (address : Ipv4) : Bool :=
  (r.reservation demand.scope demand.client).any (·.address == address)

theorem offer_offered (h : (r.offer demand requested).2.status = .offered) :
    ∃ selected, (r.expire demand.now).select demand.scope demand.client demand.now requested =
        some selected ∧ (r.offer demand requested).2.address = selected.1 ∧
      offerRefused r demand = false := by
  have bound : (r.expire demand.now).binding demand.scope demand.client =
      r.binding demand.scope demand.client := by
    rw [binding_owner, owners_expire, ← binding_owner]
  revert h
  simp only [LeaseRepository.offer, offerRefused, ← bound, ← expire_length r demand.now]
  split
  next => exact nofun
  split
  next => exact nofun
  rename_i fits
  simp only [asserted, not_or] at fits
  split
  next => exact nofun
  rename_i selected chosen
  split
  next place bound =>
    exact fun _ => ⟨selected, chosen, rfl, by simp [bound, fits.2]⟩
  next bound =>
    split
    next => exact nofun
    next room => exact fun _ => ⟨selected, chosen, rfl, by simp [room, fits.2]⟩

theorem offer_grants (h : Operation.grants r (.offer demand requested) = some given) :
    ∃ selected, (r.expire demand.now).select demand.scope demand.client demand.now requested =
        some selected ∧ given = (demand.scope, demand.client, selected.1) ∧
      offerRefused r demand = false := by
  simp only [Operation.grants] at h
  split at h
  next offered =>
    obtain rfl := Option.some.inj h
    obtain ⟨selected, chosen, address, made⟩ := offer_offered (by simpa using offered)
    exact ⟨selected, chosen, by rw [address], made⟩
  next => cases h

theorem commit_grants (h : Operation.grants r (.commit demand value) = some given) :
    ∃ place lease, Found (r.expire demand.now) demand.scope demand.client place lease ∧
      lease.mayCommit demand value = true ∧ given = (demand.scope, demand.client, value) := by
  obtain refused | ⟨place, _, lease, bound, row, may, _, granted⟩ := commit_outcome r demand value
  · simp [Operation.grants, refused] at h
  · simp [Operation.grants, granted] at h
    exact ⟨place, lease, ⟨bound, row⟩, may, h.symm⟩

/-- A free address is blocked by no record of another client. -/
theorem Free.unblocked {selected : Ipv4 × Pool} (h : Free r scope client now selected)
    (mem : lease ∈ r.leases) (hs : lease.scope = scope) (hc : lease.client ≠ client)
    (ha : lease.address = selected.1) : lease.blocks now = false := by
  have available := h.available
  simp only [LeaseRepository.addressAvailable, asserted, List.all_eq_true] at available
  have unblocked := available.2 lease mem
  have other : equalClientKey lease.client client = false := by
    rw [← Bool.not_eq_true, equalClientKey_iff]
    exact hc
  rw [sameScope_iff.mpr (hs.trans h.scope.symm), other, ha] at unblocked
  simpa using unblocked

/-- An offer to another client gives a blocked address only where it is reserved. -/
theorem offer_reserved (h : Operation.grants r (.offer demand requested) = some given)
    (mem : lease ∈ (r.expire demand.now).leases) (hs : lease.scope = demand.scope)
    (hc : lease.client ≠ demand.client) (blocks : lease.blocks demand.now = true)
    (ha : lease.address = given.2.2) :
    offerRefused r demand = false ∧ reservedFor r demand given.2.2 = true := by
  obtain ⟨selected, chosen, rfl, made⟩ := offer_grants h
  refine ⟨made, ?_⟩
  obtain ⟨fixed, reserved, same, _⟩ | ⟨_, free⟩ := select_cases chosen
  · rw [expire_reservation] at reserved
    simp [reservedFor, reserved, same]
  · have unblocked := free.unblocked mem hs hc ha
    rw [blocks] at unblocked
    cases unblocked

end Grants

section Quarantine

/-- The client's record says that it declined the address. -/
def quarantined (r : LeaseRepository) (scope : AllocationScope) (client : ClientKey)
    (address : Ipv4) : Bool :=
  (r.leaseFor scope client).any fun lease => lease.state == .declined && lease.address == address

/-- A decline gives the quarantined address back only to keep to `maximumDeclined`: then the
client's record says no more that it declined the address. -/
def Unevicted (scope : AllocationScope) (client : ClientKey) (address : Ipv4) (s : Served) :
    Operation → Prop
  | .decline scope' client' value now =>
    quarantined (step s (.decline scope' client' value now)).repository scope client address = true
  | _ => True

instance (s : Served) (op : Operation) : Decidable (Unevicted scope client address s op) :=
  match op with
  | .decline .. => inferInstanceAs (Decidable (_ = true))
  | .offer .. | .configure .. | .commit .. | .release .. | .expire .. | .clear ..
  | .partnerUpdates .. => isTrue trivial

/-- The operations of the allocation itself. -/
def Operation.allocates : Operation → Bool
  | .offer .. | .commit .. | .release .. | .decline .. | .expire .. => true
  | .configure .. | .clear .. | .partnerUpdates .. => false

/-- An offer in the scope that leaves the quarantine alone: it selects nothing for the client
itself, and the address is not the reserved one of another client. -/
def sparesQuarantine (scope : AllocationScope) (client : ClientKey) (address : Ipv4)
    (s : Served) : Operation → Bool
  | .offer demand requested =>
    !sameScope demand.scope scope || offerRefused s.repository demand ||
      decide (demand.now < timeMax) &&
        if equalClientKey demand.client client then
          ((s.repository.expire demand.now).select demand.scope demand.client demand.now
            requested).isNone
        else !reservedFor s.repository demand address
  | _ => true

/-- The client's record holds the address back for good, or no more. -/
structure Declining (r : LeaseRepository) (scope : AllocationScope) (client : ClientKey)
    (address : Ipv4) (place : Nat) (lease : Lease) : Prop extends Found r scope client place lease
    where
  address : lease.address = address
  forGood : lease.state = .declined → lease.activeUntil = timeMax

/-- The client's record holds the address back. -/
def HeldBack (r : LeaseRepository) (scope : AllocationScope) (client : ClientKey)
    (address : Ipv4) : Prop :=
  ∃ place lease, Declining r scope client address place lease ∧ lease.state = .declined

theorem Declining.heldBack (h : Declining r scope client address place lease)
    (held : quarantined r scope client address = true) : HeldBack r scope client address := by
  refine ⟨place, lease, h, ?_⟩
  rw [quarantined, h.leaseFor, Option.any_some, Bool.and_eq_true, beq_iff_eq] at held
  exact held.1

theorem HeldBack.expire (h : HeldBack r scope client address) (now : Int) :
    HeldBack (r.expire now) scope client address := by
  obtain ⟨place, lease, declining, state⟩ := h
  obtain ⟨lease', found, expired⟩ := declining.toFound.expire now
  cases expired with
  | kept => exact ⟨place, lease, ⟨found, declining.address, declining.forGood⟩, state⟩
  | lapsed _ lapsed =>
    rw [Lease.lapsed, state] at lapsed
    cases lapsed

/-- A change at another place, or of a record that is not declined. -/
theorem HeldBack.change (h : HeldBack r scope client address) {other : Nat}
    (keeps : ∀ lease, (f lease).owner = lease.owner)
    (elsewhere : ∀ lease, Found r scope client other lease → lease.state ≠ .declined) :
    HeldBack (r.change other f now) scope client address := by
  obtain ⟨place, lease, declining, state⟩ := h
  have ne : other ≠ place := by
    rintro rfl
    exact elsewhere lease declining.toFound state
  exact ⟨place, lease, ⟨declining.toFound.change_other keeps ne, declining.address,
    declining.forGood⟩, state⟩

theorem Declining.giveBack (h : Declining r scope client address place lease) (excess : Nat) :
    ∃ lease', Declining (LeaseRepository.giveBack scope' now excess r) scope client address place
      lease' := by
  apply giveBack_induction (P := fun r => ∃ lease', Declining r scope client address place lease')
    _ excess ⟨lease, h⟩
  rintro r other row ⟨lease, declining⟩ at_other _
  by_cases same : other = place
  · subst same
    refine ⟨_, declining.toFound.change_own fun _ => rfl, declining.address, fun state => ?_⟩
    cases state
  · exact ⟨lease, declining.toFound.change_other (fun _ => rfl) same, declining.address,
      declining.forGood⟩

theorem Found.declined (h : Found r scope client place lease) (there : lease.address = address)
    (next : BitVec 64) :
    Declining
      { r.change place (Lease.declineWith r.nextDeclineSequence now) now with
        nextDeclineSequence := next } scope client address place
      ((lease.declineWith r.nextDeclineSequence now).recordChange r.nextRevision now) := by
  have changed : Found (r.change place (Lease.declineWith r.nextDeclineSequence now) now) scope
      client place _ := h.change_own fun _ => rfl
  exact ⟨⟨changed.bound, changed.row⟩, there, fun _ => rfl⟩

/-- A decline by anyone leaves the client's record at its address. -/
theorem Declining.decline (h : Declining r scope client address place lease)
    (scope' : AllocationScope) (client' : ClientKey) (value : Ipv4) (now : Int) :
    ∃ lease', Declining (r.decline scope' client' value now).1 scope client address place
      lease' := by
  obtain refused | ⟨other, row, excess, _, at_other, _, done⟩ :=
    decline_outcome r scope' client' value now
  · rw [refused]
    exact ⟨lease, h⟩
  · rw [done]
    by_cases same : other = place
    · subst same
      exact (h.toFound.declined h.address _).giveBack excess
    · have changed : Found (r.change other (Lease.declineWith r.nextDeclineSequence now) now)
          scope client place lease := h.toFound.change_other (fun _ => rfl) same
      have still : Declining
          { r.change other (Lease.declineWith r.nextDeclineSequence now) now with
            nextDeclineSequence := r.nextDeclineSequence + 1#64 }
          scope client address place lease :=
        ⟨⟨changed.bound, changed.row⟩, h.address, h.forGood⟩
      exact still.giveBack excess

/-- The declining client's record is at the address it declined. -/
theorem declining_of_decline (done : (r.decline scope client address now).2 = true) :
    ∃ place lease, Declining (r.decline scope client address now).1 scope client address place
      lease := by
  obtain refused | ⟨place, lease, excess, bound, row, there, declined⟩ :=
    decline_outcome r scope client address now
  · rw [refused] at done
    cases done
  · rw [declined]
    have found : Found r scope client place lease := ⟨bound, row⟩
    exact ⟨place, (found.declined there _).giveBack excess⟩

variable {s : Served}

theorem offer_heldBack (h : HeldBack s.repository scope client address)
    (spared : sparesQuarantine scope client address s (.offer demand requested) = true) :
    HeldBack (s.repository.offer demand requested).1 scope client address := by
  have expired := h.expire demand.now
  obtain same | ⟨selected, chosen, _, relay, made⟩ := offer_cases s.repository demand requested
  · rw [same]
    exact expired
  obtain ⟨place, bound, changed⟩ | ⟨_, _, added⟩ := made
  · rw [changed]
    refine expired.change ?_ ?_
    · exact fun _ => rfl
    intro lease own state
    -- an offer made to the client itself selects something
    have here : demand.scope = scope ∧ demand.client = client := by
      obtain ⟨row, at_place, hs, hc⟩ := binding_some bound
      obtain rfl := Option.some.inj (own.row.symm.trans at_place)
      obtain ⟨hs', hc'⟩ := Prod.mk.inj own.owner
      exact ⟨hs.symm.trans hs', hc.symm.trans hc'⟩
    obtain ⟨rfl, rfl⟩ := here
    have known : s.repository.binding demand.scope demand.client ≠ none := binding_expire bound
    have inScope : sameScope demand.scope demand.scope = true := sameScope_iff.mpr rfl
    have short : ¬ relayAgentInformationSize < demand.relayAgentInformation.length := by omega
    simp [sparesQuarantine, offerRefused, inScope, chosen, known, short] at spared
  · rw [added]
    obtain ⟨place, lease, declining, state⟩ := expired
    exact ⟨place, lease, ⟨declining.toFound.added _ _, declining.address, declining.forGood⟩, state⟩

theorem commit_heldBack (h : HeldBack r scope client address) :
    HeldBack (r.commit demand value).1 scope client address := by
  obtain refused | ⟨place, pool, lease, _, row, may, _, changed⟩ := commit_outcome r demand value
  · rw [refused]
    exact h.expire demand.now
  · rw [changed]
    refine (h.expire demand.now).change ?_ ?_
    · exact fun _ => rfl
    intro other own state
    obtain rfl := Option.some.inj (own.row.symm.trans row)
    simp [Lease.mayCommit, state] at may

theorem release_heldBack {client' : ClientKey} (h : HeldBack r scope client address) :
    HeldBack (r.release scope' client' value now).1 scope client address := by
  obtain refused | ⟨place, lease, row, active, changed⟩ := release_cases r scope' client' value now
  · rw [refused]
    exact h
  · rw [changed]
    refine h.change ?_ ?_
    · exact fun _ => rfl
    intro other own state
    obtain rfl := Option.some.inj (own.row.symm.trans row)
    rw [active] at state
    cases state

theorem step_heldBack {op : Operation} (h : HeldBack s.repository scope client address)
    (allocates : op.allocates = true) (unevicted : Unevicted scope client address s op)
    (spared : sparesQuarantine scope client address s op = true) :
    HeldBack (step s op).repository scope client address := by
  cases op with
  | offer demand requested => exact offer_heldBack h spared
  | commit demand value => exact commit_heldBack h
  | release scope' client' value now => exact release_heldBack h
  | decline scope' client' value now =>
    obtain ⟨place, lease, declining, _⟩ := h
    obtain ⟨lease', still⟩ := declining.decline scope' client' value now
    exact still.heldBack unevicted
  | expire now => exact h.expire now
  | configure | clear | partnerUpdates => cases allocates

/-- While the client's record holds the address back, no offer gives it. -/
theorem offer_avoids (h : HeldBack s.repository scope client address)
    (spared : sparesQuarantine scope client address s (.offer demand requested) = true)
    (granted : Operation.grants s.repository (.offer demand requested) = some given)
    (here : given.1 = scope) : given.2.2 ≠ address := by
  rintro rfl
  obtain ⟨selected, chosen, rfl, made⟩ := offer_grants granted
  obtain rfl : demand.scope = scope := here
  obtain ⟨place, lease, declining, state⟩ := h.expire demand.now
  have inScope : sameScope demand.scope demand.scope = true := sameScope_iff.mpr rfl
  simp only [sparesQuarantine, inScope, made, chosen, settled, asserted] at spared
  obtain ⟨early, spared⟩ := spared
  split at spared
  next => simp at spared
  rename_i other
  have blocks : lease.blocks demand.now = true := by
    simp [Lease.blocks, state, declining.forGood state, early]
  obtain ⟨hs, hc⟩ := Prod.mk.inj declining.toFound.owner
  have reserved := (offer_reserved granted declining.toFound.mem hs
    (fun same => other (equalClientKey_iff.mpr (same.symm.trans hc))) blocks declining.address).2
  simp [reserved] at spared

/-- From a decline on, as long as the number of declined addresses does not evict it, no offer
of a run that spares the quarantine gives the declined address. -/
theorem quarantine_respected (s : Served) (scope : AllocationScope) (client : ClientKey)
    (address : Ipv4) (now : Int)
    (declined : (s.repository.decline scope client address now).2 = true)
    (ops : List Operation) (demand : Demand) (requested : Option Ipv4)
    (allocates : ∀ op ∈ ops, op.allocates = true)
    (unevicted : Runs.Along step (Unevicted scope client address) s
      (.decline scope client address now :: ops))
    (spared : Runs.Along step (fun s op => sparesQuarantine scope client address s op = true)
      (step s (.decline scope client address now)) (ops ++ [.offer demand requested]))
    (given : AllocationScope × ClientKey × Ipv4)
    (granted : Operation.grants
      (Runs.run step s (.decline scope client address now :: ops)).repository
      (.offer demand requested) = some given) (here : given.1 = scope) : given.2.2 ≠ address := by
  obtain ⟨before, last⟩ := Runs.along_append.mp spared
  obtain ⟨place, lease, declining⟩ := declining_of_decline declined
  have start : HeldBack (step s (.decline scope client address now)).repository scope client
      address := declining.heldBack unevicted.1
  have along := ((Runs.along_of_forall allocates).and unevicted.2).and before
  have reached := Runs.invariant_along
    (P := fun s : Served => HeldBack s.repository scope client address)
    (fun s op h ok => step_heldBack h ok.1.1 ok.1.2 ok.2) start along
  exact offer_avoids reached last.1 granted here

/-- One pool of two addresses; the first client is offered the first of them. -/
def firstOffered : Served :=
  Runs.run step {} [.configure [samplePool] [] 60 60 [],
    .offer { scope := sampleScope, client := firstClient } none]

/-- Once the first client has declined it, the second one is offered the other address. -/
theorem declined_address_kept_back :
    Operation.grants
        (Runs.run step firstOffered [.decline sampleScope firstClient 0x0a000001#32 1]).repository
        (.offer { scope := sampleScope, client := secondClient, now := 2 } none) =
      some (sampleScope, secondClient, 0x0a000002#32) ∧ (0x0a000002#32 : Ipv4) ≠ 0x0a000001#32 :=
  ⟨by decide, quarantine_respected firstOffered sampleScope firstClient 0x0a000001#32 1
    (by decide) [] { scope := sampleScope, client := secondClient, now := 2 } none (by decide)
    (by decide) (by decide) (sampleScope, secondClient, 0x0a000002#32) (by decide) rfl⟩

/-- The client that declined the address is offered it again. -/
theorem declined_address_offered_again :
    (firstOffered.repository.decline sampleScope firstClient 0x0a000001#32 1).2 = true ∧
      Runs.Along step (Unevicted sampleScope firstClient 0x0a000001#32) firstOffered
        [.decline sampleScope firstClient 0x0a000001#32 1] ∧
      Operation.grants
          (Runs.run step firstOffered [.decline sampleScope firstClient 0x0a000001#32 1]).repository
          (.offer { scope := sampleScope, client := firstClient, now := 2 } none) =
        some (sampleScope, firstClient, 0x0a000001#32) := by
  decide

end Quarantine

end RouterSim.Dhcpv4
