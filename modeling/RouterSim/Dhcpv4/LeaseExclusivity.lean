import RouterSim.Dhcpv4.LeaseRuns

/-! No address is held by two clients of one scope at once. Every path of an offer asks
whether the address is available, except that of a reservation. -/
namespace RouterSim.Dhcpv4

open Bool

open Table

/-- On offer or active at a time. -/
def Lease.live (lease : Lease) (now : Int) : Bool :=
  (lease.state == .pendingOffer && decide (now < lease.offeredUntil)) ||
    (lease.state == .active && decide (now < lease.activeUntil))

def Apart (now : Int) (a b : Lease) : Prop :=
  a.scope = b.scope → a.client ≠ b.client → a.address = b.address →
    ¬ (a.live now = true ∧ b.live now = true)

/-- No two records of different clients in one scope hold one address while both are
live. -/
def Exclusive (r : LeaseRepository) (now : Int) : Prop := Each (Apart now) r.leases

def Operation.isLocal : Operation → Bool
  | .partnerUpdates .. => false
  | _ => true

/-- A client's reserved address is held by another client that is live. -/
def reservedHeld (r : LeaseRepository) (demand : Demand) : Bool :=
  (r.reservation demand.scope demand.client).any fun fixed =>
    r.leases.any fun lease => sameScope lease.scope demand.scope &&
      lease.address == fixed.address && !equalClientKey lease.client demand.client &&
      lease.live demand.now

/-- No offer is made of a reserved address that another client holds. An offer that finds
no room for a record, or that carries too much relay information, is not made. -/
def ReservedFree (s : Served) : Operation → Prop
  | .offer demand _ =>
    reservedHeld s.repository demand = true →
      relayAgentInformationSize < demand.relayAgentInformation.length ∨
      (s.repository.binding demand.scope demand.client = none ∧
        s.repository.leases.length = leasesPerServer)
  | _ => True

instance (s : Served) (op : Operation) : Decidable (ReservedFree s op) :=
  match op with
  | .offer _ _ => inferInstanceAs (Decidable (_ → _ ∨ _ ∧ _))
  | .configure .. | .commit .. | .release .. | .decline .. | .expire .. | .clear ..
  | .partnerUpdates .. => isTrue trivial

/-! ## Records that keep their address -/

theorem Apart.symm {now : Int} (a b : Lease) (h : Apart now a b) : Apart now b a := by
  intro hs hc ha hl
  exact h hs.symm (Ne.symm hc) ha.symm ⟨hl.2, hl.1⟩

/-- The record stays with its client at its address and is live only if it was. -/
structure Keeps (now : Int) (lease lease' : Lease) : Prop where
  scope : lease'.scope = lease.scope
  client : lease'.client = lease.client
  address : lease'.address = lease.address
  live : lease'.live now = true → lease.live now = true

theorem Keeps.refl (now : Int) (lease : Lease) : Keeps now lease lease := ⟨rfl, rfl, rfl, id⟩

theorem Keeps.apart {now : Int} {a a' b b' : Lease} (ha : Keeps now a a') (hb : Keeps now b b')
    (h : Apart now a b) : Apart now a' b' := by
  intro hs hc haddr hl
  rw [ha.scope, hb.scope] at hs
  rw [ha.client, hb.client] at hc
  rw [ha.address, hb.address] at haddr
  exact h hs hc haddr ⟨ha.live hl.1, hb.live hl.2⟩

variable {r : LeaseRepository} {now : Int}

theorem Expired.keeps {lease lease' : Lease} (h : Expired now lease lease') :
    Keeps now lease lease' := by
  cases h with
  | kept => exact Keeps.refl now lease
  | lapsed next hl =>
    refine ⟨rfl, rfl, rfl, ?_⟩
    intro hlive
    simp [Lease.live, Lease.recordChange] at hlive

theorem Exclusive.expire (h : Exclusive r now) : Exclusive (r.expire now) now :=
  Each.pointwise h expire_rows fun _ _ _ _ ha hb => ha.keeps.apart hb.keeps

theorem live_earlier {lease : Lease} {later : Int} (hle : now ≤ later)
    (h : lease.live later = true) : lease.live now = true := by
  simp only [Lease.live, asserted] at h ⊢
  obtain ⟨hs, ht⟩ | ⟨hs, ht⟩ := h
  · exact .inl ⟨hs, by omega⟩
  · exact .inr ⟨hs, by omega⟩

theorem Exclusive.later {later : Int} (h : Exclusive r now) (hle : now ≤ later) :
    Exclusive r later := by
  intro i j a b hne ha hb hs hc haddr hl
  exact h i j a b hne ha hb hs hc haddr ⟨live_earlier hle hl.1, live_earlier hle hl.2⟩

theorem Exclusive.change (h : Exclusive r now) {place : Nat} {f : Lease → Lease}
    (kept : ∀ lease, r.leases[place]? = some lease → Keeps now lease (f lease)) :
    Exclusive (r.change place f now) now := by
  apply Each.modify Apart.symm h
  intro j a b hne ha hb
  have hk := kept a ha
  have changed : Keeps now a ((f a).recordChange r.nextRevision now) :=
    ⟨hk.scope, hk.client, hk.address, hk.live⟩
  exact changed.apart (Keeps.refl now b) (h place j a b (Ne.symm hne) ha hb)

/-! ## The operations -/

variable {demand : Demand}

theorem commit_exclusive (h : Exclusive r demand.now) (value : Ipv4) :
    Exclusive (r.commit demand value).1 demand.now := by
  obtain heq | ⟨place, pool, lease, hl, hmay, _, heq⟩ := commit_cases r demand value
  · rw [heq]
    exact h.expire
  · rw [heq]
    apply h.expire.change
    intro lease' hl'
    rw [hl] at hl'
    cases hl'
    refine ⟨rfl, rfl, rfl, fun _ => ?_⟩
    -- what may be committed is on offer, or active and not lapsed
    obtain ⟨before, _, hexp⟩ := expire_rows place lease hl
    have hlapsed := hexp.not_lapsed
    simp only [Lease.mayCommit, asserted] at hmay
    simp only [Lease.live, asserted]
    obtain ⟨_, hactive | ⟨⟨hpending, _⟩, htime⟩⟩ := hmay
    · simp [Lease.lapsed, hactive] at hlapsed
      exact .inr ⟨hactive, by simpa using hlapsed⟩
    · exact .inl ⟨hpending, htime⟩

theorem release_exclusive (h : Exclusive r now) (scope : AllocationScope) (client : ClientKey)
    (value : Ipv4) : Exclusive (r.release scope client value now).1 now := by
  obtain heq | ⟨place, lease, _, _, heq⟩ := release_cases r scope client value now
  · rw [heq]
    exact h
  · rw [heq]
    apply h.change
    intro lease' _
    refine ⟨rfl, rfl, rfl, fun hlive => ?_⟩
    simp [Lease.live] at hlive

theorem decline_exclusive (h : Exclusive r now) (scope : AllocationScope) (client : ClientKey)
    (value : Ipv4) : Exclusive (r.decline scope client value now).1 now := by
  obtain heq | ⟨place, lease, excess, _, _, _, _, _, heq⟩ := decline_cases r scope client value now
  · rw [heq]
    exact h
  · rw [heq]
    apply giveBack_induction (P := fun r => Exclusive r now)
    · intro r place lease hr _ _
      apply hr.change
      intro lease' _
      refine ⟨rfl, rfl, rfl, fun hlive => ?_⟩
      simp [Lease.live, Lease.giveBackWith] at hlive
    · apply h.change
      intro lease' _
      refine ⟨rfl, rfl, rfl, fun hlive => ?_⟩
      simp [Lease.live, Lease.declineWith] at hlive

/-- No other client of the scope is live at the address. -/
def Vacant (r : LeaseRepository) (demand : Demand) (address : Ipv4) : Prop :=
  ∀ lease ∈ r.leases, lease.scope = demand.scope → lease.client ≠ demand.client →
    lease.address = address → lease.live demand.now = false

theorem Free.vacant {selected : Ipv4 × Pool}
    (h : Free r demand.scope demand.client demand.now selected) : Vacant r demand selected.1 := by
  intro lease hl hs hc ha
  have available := h.available
  simp only [LeaseRepository.addressAvailable, asserted, List.all_eq_true] at available
  have unblocked := available.2 lease hl
  have hkey : equalClientKey lease.client demand.client = false := by
    rw [← Bool.not_eq_true, equalClientKey_iff]
    exact hc
  rw [sameScope_iff.mpr (hs.trans h.scope.symm), hkey, ha] at unblocked
  simp only [beq_self_eq_true, settled] at unblocked
  simp only [Lease.blocks, Bool.or_eq_false_iff] at unblocked
  rw [Lease.live, Bool.or_eq_false_iff]
  exact unblocked.1

theorem vacant_of_reserved {fixed : Reservation}
    (hr : r.reservation demand.scope demand.client = some fixed)
    (free : reservedHeld r demand = false) : Vacant (r.expire demand.now) demand fixed.address := by
  intro lease hl hs hc ha
  obtain ⟨i, hi⟩ := List.mem_iff_getElem?.mp hl
  obtain ⟨before, hb, hexp⟩ := expire_rows i lease hi
  have kept := hexp.keeps
  rw [reservedHeld, hr, Option.any_some, List.any_eq_false] at free
  have held := free before (List.mem_of_getElem? hb)
  rw [← not_eq_true]
  intro hlive
  apply held
  simp only [asserted, sameScope_iff, ← not_eq_true, equalClientKey_iff]
  exact ⟨⟨⟨kept.scope ▸ hs, kept.address ▸ ha⟩, kept.client ▸ hc⟩, kept.live hlive⟩

theorem Vacant.apart {selected : Ipv4 × Pool} (h : Vacant r demand selected.1)
    {a b : Lease} (hb : b ∈ r.leases) (hold : Int) (next : BitVec 64)
    (hs : a.scope = demand.scope) (hc : a.client = demand.client) :
    Apart demand.now ((Lease.offerWith demand selected hold a).recordChange next demand.now) b := by
  intro hscope hclient haddr hl
  have : b.live demand.now = false :=
    h b hb (hscope.symm.trans hs) (fun heq => hclient (hc.trans heq.symm)) haddr.symm
  rw [this] at hl
  cases hl.2

theorem offer_exclusive (h : Exclusive r demand.now) (requested : Option Ipv4)
    {clock : Int} (free : ReservedFree ⟨r, clock⟩ (.offer demand requested)) :
    Exclusive (r.offer demand requested).1 demand.now := by
  obtain heq | ⟨selected, hsel, _, hrelay, made⟩ := offer_cases r demand requested
  · rw [heq]
    exact h.expire
  have vacant : Vacant (r.expire demand.now) demand selected.1 := by
    obtain ⟨fixed, hr, haddr, _⟩ | ⟨_, hfree⟩ := select_cases hsel
    · rw [expire_reservation] at hr
      rw [← haddr]
      apply vacant_of_reserved hr
      rw [← not_eq_true]
      intro held
      obtain hlong | ⟨hnone, hfull⟩ := free held
      · omega
      · obtain ⟨place, hb, _⟩ | ⟨_, hroom, _⟩ := made
        · exact binding_expire hb hnone
        · exact hroom ((expire_length r demand.now).trans hfull)
    · exact hfree.vacant
  obtain ⟨place, hb, heq⟩ | ⟨_, _, heq⟩ := made
  · rw [heq]
    apply Each.modify Apart.symm h.expire
    intro j a b _ ha hj
    obtain ⟨lease, hl, hs, hc⟩ := binding_some hb
    rw [ha] at hl
    cases hl
    exact vacant.apart (List.mem_of_getElem? hj) _ _ hs hc
  · rw [heq]
    apply Each.append Apart.symm h.expire
    intro b hb
    exact vacant.apart hb _ _ rfl rfl

/-! ## Runs -/

theorem step_exclusive {s : Served} {op : Operation} (h : Exclusive s.repository s.clock)
    (isLocal : op.isLocal = true) (timely : Timely s op) (free : ReservedFree s op) :
    Exclusive (step s op).repository (step s op).clock := by
  cases op with
  | configure pools reservations offerHold declineHold exclusions =>
    show Exclusive ((s.repository.configure pools reservations offerHold declineHold
      exclusions).getD s.repository) s.clock
    cases hc : s.repository.configure pools reservations offerHold declineHold exclusions with
    | none => exact h
    | some r' =>
      rw [configure_some hc]
      exact h
  | offer demand requested => exact offer_exclusive (h.later timely) requested free
  | commit demand value => exact commit_exclusive (h.later timely) value
  | release scope client value now => exact release_exclusive (h.later timely) scope client value
  | decline scope client value now => exact decline_exclusive (h.later timely) scope client value
  | expire now => exact (h.later timely).expire
  | clear filter now =>
    show Exclusive (s.repository.clear filter now).1 now
    have expired := (h.later timely).expire
    obtain heq | heq := clear_cases s.repository filter now
    · rw [heq]
      exact expired
    · rw [heq]
      exact Each.filter Apart.symm expired _
  | partnerUpdates updates absoluteNow now => cases isLocal

/-- In every run of local operations with times that never go back and no offer of a
reserved address that another client holds, no address is ever held twice. -/
theorem address_exclusive (start : Int) (ops : List Operation)
    (isLocal : ∀ op ∈ ops, op.isLocal = true)
    (timely : Runs.Along step Timely { clock := start } ops)
    (free : Runs.Along step ReservedFree { clock := start } ops) (now : Int)
    (later : (Runs.run step { clock := start } ops).clock ≤ now) :
    Exclusive (Runs.run step { clock := start } ops).repository now := by
  have along : Runs.Along step
      (fun s op => op.isLocal = true ∧ Timely s op ∧ ReservedFree s op) { clock := start } ops :=
    (Runs.along_of_forall isLocal).and (timely.and free)
  have fresh : Exclusive ({ clock := start } : Served).repository start := Each.nil
  have reached := Runs.invariant_along (P := fun s : Served => Exclusive s.repository s.clock)
    (fun s op h ok => step_exclusive h ok.1 ok.2.1 ok.2.2) fresh along
  exact reached.later later

/-! ## A reservation made while the address is in use -/

/-- The first client holds an address when it is reserved for the second, which then
asks for one. -/
def reservedInUse : List Operation :=
  [.configure [samplePool] [] 60 60 [],
    .offer { scope := sampleScope, client := firstClient } none,
    .commit { scope := sampleScope, client := firstClient } 0x0a000001#32,
    .configure [samplePool]
      [{ scope := sampleScope, client := secondClient, address := 0x0a000001#32 }] 60 60 [],
    .offer { scope := sampleScope, client := secondClient } none]

/-- The same, with the reservation made before. -/
def reservedBefore : List Operation :=
  [.configure [samplePool]
      [{ scope := sampleScope, client := secondClient, address := 0x0a000001#32 }] 60 60 [],
    .offer { scope := sampleScope, client := firstClient } none,
    .offer { scope := sampleScope, client := secondClient, now := 1 } none]

theorem address_exclusive_reserved_before :
    (Runs.run step {} reservedBefore).repository.leases.map (·.address) =
        [0x0a000002#32, 0x0a000001#32] ∧
      Exclusive (Runs.run step {} reservedBefore).repository 1 :=
  ⟨by decide, address_exclusive 0 reservedBefore (by decide) (by decide) (by decide) 1 (by decide)⟩

theorem reserved_address_offered_twice :
    (∀ op ∈ reservedInUse, op.isLocal = true) ∧ Runs.Along step Timely {} reservedInUse ∧
      ¬ Exclusive (Runs.run step {} reservedInUse).repository
        (Runs.run step {} reservedInUse).clock := by
  refine ⟨by decide, by decide, ?_⟩
  intro h
  have apart := h 0 1 _ _ (by decide) (List.getElem?_eq_getElem (by decide))
    (List.getElem?_eq_getElem (by decide))
  exact apart (by decide) (by decide) (by decide) (by decide)

end RouterSim.Dhcpv4
