import RouterSim.Dhcpv4.LeaseRuns

/-! What a repository has learned from its failover partner does not depend on how the
partner's updates were delivered. -/
namespace RouterSim.Dhcpv4

open Failover (BindingUpdateView)
open List

section Spec

/-- When the state an update reports began. -/
def startOf (update : BindingUpdateView) : BitVec 32 := update.startTimeOfState.getD 0#32

/-- The client an update names; a client without octets is nobody. -/
def clientOf (update : BindingUpdateView) : ClientKey :=
  ((updateIdentity update).map Prod.fst).getD default

/-- An update that is accepted wherever there is room. -/
def updateValid (pools : List Pool) (update : BindingUpdateView) : Bool :=
  (pools.filter fun pool => contains pool update.address).length == 1 &&
    update.startTimeOfState.isSome &&
    !(update.status == .active && (update.leaseExpirationTime.isNone ||
      update.potentialExpirationTime.isNone || update.clientLastTransactionTime.isNone)) &&
    (updateIdentity update).any fun identity =>
      !((update.status == .active || update.status == .expired || update.status == .released) &&
        identity.1.bytes.isEmpty)

/-- The updates of one message, and when it comes in. -/
structure Message where
  updates : List BindingUpdateView
  absoluteNow : BitVec 32
  now : Int

def deliver (r : LeaseRepository) (message : Message) : LeaseRepository :=
  (r.applyPartnerUpdates message.updates message.absoluteNow message.now).1

/-- The record carries what the update says of the binding. -/
structure Describes (update : BindingUpdateView) (lease : Lease) : Prop where
  address : lease.address = update.address
  status : lease.failoverStatus = update.status
  started : lease.failoverStateStartedAbsolute = startOf update
  expiration : lease.failoverPartnerExpirationAbsolute = update.potentialExpirationTime.getD 0#32
  managed : lease.failoverManaged = true

/-- No update of the history about the address reports a later state. -/
def Newest (history : List BindingUpdateView) (update : BindingUpdateView) : Prop :=
  ∀ other ∈ history, other.address = update.address → startOf other ≤ startOf update

instance {history : List BindingUpdateView} {update : BindingUpdateView} :
    Decidable (Newest history update) :=
  inferInstanceAs (Decidable (∀ other ∈ history, other.address = update.address →
    startOf other ≤ startOf update))

end Spec

section Reflection

variable {r : LeaseRepository} {history : List BindingUpdateView} {update : BindingUpdateView}
  {lease : Lease} {absoluteNow : BitVec 32} {now : Int}

/-- A record made of the updates of a history alone: it describes a newest one, and its client
is the one that update names, or one that some update about the address names. -/
structure Latest (pools : List Pool) (history : List BindingUpdateView) (lease : Lease) : Prop
    where
  inPool : ∃ pool, pools.filter (fun pool => contains pool lease.address) = [pool] ∧
    lease.scope = pool.scope
  newest : ∃ update ∈ history, Describes update lease ∧ Newest history update ∧
    ((clientOf update).bytes ≠ [] → lease.client = clientOf update)
  client : ∃ update ∈ history, update.address = lease.address ∧ lease.client = clientOf update

/-- The repository holds exactly the records of a history, one for each address. -/
structure Reflects (r : LeaseRepository) (history : List BindingUpdateView) : Prop where
  nodup : (r.leases.map (·.address)).Nodup
  latest : ∀ lease ∈ r.leases, Latest r.pools history lease
  known : ∀ update ∈ history, update.address ∈ r.leases.map (·.address)

theorem startOf_le_iff {update : BindingUpdateView} {started : BitVec 32}
    (h : update.startTimeOfState = some started) : startOf update = started := by
  rw [startOf, h]
  rfl

variable {pools : List Pool} {identity : ClientKey × ClientHardwareIdentity} {pool : Pool}

/-- A further update about another address, or one that reports no later state. -/
theorem Latest.extend (h : Latest pools history lease)
    (older : update.address = lease.address → startOf update ≤ lease.failoverStateStartedAbsolute) :
    Latest pools (history ++ [update]) lease := by
  obtain ⟨inPool, ⟨top, top_mem, describes, newest, named⟩, other, other_mem, there, same⟩ := h
  refine ⟨inPool, ⟨top, mem_append_left _ top_mem, describes, ?_, named⟩,
    other, mem_append_left _ other_mem, there, same⟩
  intro later mem about
  obtain old | new := mem_append.mp mem
  · exact newest later old about
  · obtain rfl := mem_singleton.mp new
    exact describes.started ▸ older (about.trans describes.address.symm)

theorem valid_cases (valid : updateValid pools update = true) :
    ∃ pool identity started,
      pools.filter (fun pool => contains pool update.address) = [pool] ∧
      update.startTimeOfState = some started ∧
      (update.status == .active && (update.leaseExpirationTime.isNone ||
        update.potentialExpirationTime.isNone || update.clientLastTransactionTime.isNone)) = false ∧
      updateIdentity update = some identity ∧
      ((update.status == .active || update.status == .expired || update.status == .released) &&
        identity.1.bytes.isEmpty) = false := by
  simp only [updateValid, asserted] at valid
  obtain ⟨⟨⟨one, started⟩, complete⟩, identified⟩ := valid
  obtain ⟨pool, only⟩ := length_eq_one_iff.mp one
  obtain ⟨started, hstarted⟩ := Option.isSome_iff_exists.mp started
  obtain ⟨identity, named, allowed⟩ := (Option.any_eq_true _ _).mp identified
  refine ⟨pool, identity, started, only, hstarted, complete, named, ?_⟩
  rwa [Bool.not_eq_true'] at allowed

/-- A valid update is too old, changes the record of its address, or adds one. -/
theorem applyPartnerUpdate_outcome (valid : updateValid r.pools update = true)
    (absoluteNow : BitVec 32) (now : Int) :
    ∃ pool identity, r.pools.filter (fun pool => contains pool update.address) = [pool] ∧
      updateIdentity update = some identity ∧
      ((∃ place lease, r.recordAt pool.scope update.address = some place ∧
          r.leases[place]? = some lease ∧
          (lease.failoverManaged = true ∧ startOf update ≤ lease.failoverStateStartedAbsolute ∧
              r.applyPartnerUpdate update absoluteNow now = (r, .duplicate) ∨
            (lease.failoverManaged = true → lease.failoverStateStartedAbsolute < startOf update) ∧
              r.applyPartnerUpdate update absoluteNow now =
                (r.change place (Lease.learn update identity (startOf update) absoluteNow now) now,
                  .applied))) ∨
        r.recordAt pool.scope update.address = none ∧
          (r.leases.length = leasesPerServer ∧
              r.applyPartnerUpdate update absoluteNow now = (r, .resourceExhausted) ∨
            r.leases.length ≠ leasesPerServer ∧
              r.applyPartnerUpdate update absoluteNow now =
                (r.added (Lease.learn update identity (startOf update) absoluteNow now
                  { scope := pool.scope, client := identity.1,
                    address := update.address }) now, .applied))) := by
  obtain ⟨pool, identity, started, only, hstarted, complete, named, allowed⟩ := valid_cases valid
  have start : startOf update = started := startOf_le_iff hstarted
  refine ⟨pool, identity, only, named, ?_⟩
  simp only [LeaseRepository.applyPartnerUpdate, only, hstarted, complete, named, allowed, start,
    settled]
  cases record : r.recordAt pool.scope update.address with
  | none =>
    refine .inr ⟨rfl, ?_⟩
    by_cases full : r.leases.length = leasesPerServer
    · exact .inl ⟨full, by simp [full]⟩
    · refine .inr ⟨full, ?_⟩
      simp only [asserted, full, settled]
      rw [change_fresh]
  | some place =>
    obtain ⟨inside, _, _⟩ := findIdx?_eq_some_iff_getElem.mp record
    refine .inl ⟨place, r.leases[place], rfl, getElem?_eq_getElem inside, ?_⟩
    dsimp only
    rw [getElem?_eq_getElem inside, Option.any_some]
    by_cases old : (r.leases[place].failoverManaged &&
        decide (started ≤ r.leases[place].failoverStateStartedAbsolute)) = true
    · obtain ⟨managed, late⟩ := Bool.and_eq_true_iff.mp old
      exact .inl ⟨managed, by simpa using late, by rw [if_pos old]⟩
    · refine .inr ⟨fun managed => ?_, by rw [if_neg old]⟩
      rw [managed, Bool.true_and, decide_eq_true_eq, BitVec.not_le] at old
      exact old

theorem learn_describes (update : BindingUpdateView)
    (identity : ClientKey × ClientHardwareIdentity) (absoluteNow : BitVec 32) (now : Int) (lease : Lease) :
    Describes update (lease.learn update identity (startOf update) absoluteNow now) ∧
      (lease.learn update identity (startOf update) absoluteNow now).scope = lease.scope ∧
      (lease.learn update identity (startOf update) absoluteNow now).client =
        if !identity.1.bytes.isEmpty then identity.1 else lease.client := by
  unfold Lease.learn
  dsimp only
  split <;> exact ⟨⟨rfl, rfl, rfl, rfl, rfl⟩, rfl, rfl⟩

theorem clientOf_some
    (named : updateIdentity update = some identity) : clientOf update = identity.1 := by
  rw [clientOf, named]
  rfl

theorem Latest.scope_eq (h : Latest pools history lease)
    (only : pools.filter (fun pool => contains pool lease.address) = [pool]) :
    lease.scope = pool.scope := by
  obtain ⟨⟨other, only', scope⟩, _, _⟩ := h
  rw [only] at only'
  rw [scope, (cons.inj only').1]

/-- The record of the address of a later update, once it has learned it. -/
theorem Latest.learn (h : Latest pools history lease) (there : lease.address = update.address)
    (named : updateIdentity update = some identity)
    (later : lease.failoverStateStartedAbsolute < startOf update) (revision : BitVec 64) :
    Latest pools (history ++ [update])
      ((lease.learn update identity (startOf update) absoluteNow now).recordChange revision
        now) := by
  obtain ⟨⟨pool, only, scope⟩, ⟨top, _, described, newest, _⟩, before, before_mem, about, same⟩ := h
  obtain ⟨describes, scope', client⟩ := learn_describes update identity absoluteNow now lease
  have own : clientOf update = identity.1 := clientOf_some named
  have mine : update ∈ history ++ [update] := mem_append_right _ (mem_singleton.mpr rfl)
  refine ⟨⟨pool, ?_, scope'.trans scope⟩, ⟨update, mine,
    ⟨describes.address, describes.status, describes.started, describes.expiration,
      describes.managed⟩, ?_, ?_⟩, ?_⟩
  · show pools.filter (fun pool => contains pool (lease.learn ..).address) = [pool]
    rw [describes.address, ← there]
    exact only
  · intro other mem same_address
    obtain old | new := mem_append.mp mem
    · have le := newest other old (same_address.trans (there.symm.trans described.address))
      rw [← described.started] at le
      exact BitVec.le_trans le (BitVec.le_of_lt later)
    · obtain rfl := mem_singleton.mp new
      exact BitVec.le_refl _
  · intro names
    show (lease.learn ..).client = _
    rw [client, own] at *
    simp [names]
  · show ∃ other ∈ history ++ [update], other.address = (lease.learn ..).address ∧
      (lease.learn ..).client = clientOf other
    rw [client, describes.address]
    split
    · exact ⟨update, mine, rfl, own.symm⟩
    · exact ⟨before, mem_append_left _ before_mem, about.trans there, same⟩

theorem Latest.managed (h : Latest pools history lease) : lease.failoverManaged = true := by
  obtain ⟨_, ⟨_, _, describes, _⟩, _⟩ := h
  exact describes.managed

variable (h : Reflects r history)
include h

theorem Reflects.unique {a b : Lease} (ha : a ∈ r.leases) (hb : b ∈ r.leases)
    (same : a.address = b.address) : a = b := by
  have first := Table.lookup_of_mem h.nodup ha
  have second := Table.lookup_of_mem h.nodup hb
  rw [same, second] at first
  exact (Option.some.inj first).symm

theorem Reflects.recordAt
    (only : r.pools.filter (fun pool => contains pool update.address) = [pool]) :
    (∃ place lease, r.recordAt pool.scope update.address = some place ∧
        r.leases[place]? = some lease ∧ lease.address = update.address) ∨
      r.recordAt pool.scope update.address = none ∧ update.address ∉ r.leases.map (·.address) := by
  cases record : r.recordAt pool.scope update.address with
  | some place =>
    obtain ⟨inside, matching, _⟩ := findIdx?_eq_some_iff_getElem.mp record
    simp only [asserted] at matching
    exact .inl ⟨place, r.leases[place], rfl, getElem?_eq_getElem inside, matching.1⟩
  | none =>
    refine .inr ⟨rfl, fun mem => ?_⟩
    obtain ⟨lease, row, there⟩ := mem_map.mp mem
    have scope := (h.latest lease row).scope_eq (there.symm ▸ only)
    have missed := findIdx?_eq_none_iff.mp record lease row
    rw [there, scope, sameScope_iff.mpr rfl, beq_self_eq_true] at missed
    cases missed

/-- An update that the record of its address is ahead of. -/
theorem Reflects.skip (mem : lease ∈ r.leases) (there : lease.address = update.address)
    (old : startOf update ≤ lease.failoverStateStartedAbsolute) :
    Reflects r (history ++ [update]) := by
  refine ⟨h.nodup, fun other other_mem => ?_, fun other other_mem => ?_⟩
  · apply (h.latest other other_mem).extend
    intro same
    obtain rfl := h.unique mem other_mem (there.trans same)
    exact old
  · obtain before | new := mem_append.mp other_mem
    · exact h.known other before
    · obtain rfl := mem_singleton.mp new
      exact mem_map.mpr ⟨lease, mem, there⟩

theorem Reflects.change {place : Nat} (row : r.leases[place]? = some lease)
    (there : lease.address = update.address) (named : updateIdentity update = some identity)
    (later : lease.failoverStateStartedAbsolute < startOf update) :
    Reflects
      (r.change place (Lease.learn update identity (startOf update) absoluteNow now) now)
      (history ++ [update]) := by
  have addresses : (r.change place (Lease.learn update identity (startOf update) absoluteNow
      now) now).leases.map (·.address) = r.leases.map (·.address) := by
    apply Table.map_modify
    intro row' at_place
    obtain rfl := Option.some.inj (row.symm.trans at_place)
    exact (learn_describes update identity absoluteNow now lease).1.address.trans there.symm
  have mem := mem_of_getElem? row
  refine ⟨addresses ▸ h.nodup, fun other other_mem => ?_, fun other other_mem => ?_⟩
  · obtain ⟨i, at_i⟩ := mem_iff_getElem?.mp other_mem
    obtain ⟨rfl, before, at_place, rfl⟩ | ⟨ne, at_i⟩ := Table.modify_row at_i
    · obtain rfl := Option.some.inj (row.symm.trans at_place)
      exact (h.latest lease mem).learn there named later r.nextRevision
    · apply (h.latest other (mem_of_getElem? at_i)).extend
      intro same
      obtain rfl := h.unique mem (mem_of_getElem? at_i) (there.trans same)
      obtain ⟨inside, _⟩ := List.getElem?_eq_some_iff.mp row
      have twice : (r.leases.map (·.address))[place]? = (r.leases.map (·.address))[i]? := by
        rw [List.getElem?_map, List.getElem?_map, row, at_i]
      exact absurd ((List.getElem?_inj (by simpa using inside) h.nodup).mp twice) ne
  · rw [addresses]
    obtain before | new := mem_append.mp other_mem
    · exact h.known other before
    · obtain rfl := mem_singleton.mp new
      exact mem_map.mpr ⟨lease, mem, there⟩

omit h in
/-- The record an update makes for an address nothing is known of. -/
theorem latest_fresh (only : pools.filter (fun pool => contains pool update.address) = [pool])
    (named : updateIdentity update = some identity)
    (unknown : ∀ other ∈ history, other.address ≠ update.address) (revision : BitVec 64) :
    Latest pools (history ++ [update])
      ((Lease.learn update identity (startOf update) absoluteNow now
        { scope := pool.scope, client := identity.1,
          address := update.address }).recordChange revision now) := by
  obtain ⟨describes, scope, client⟩ := learn_describes update identity absoluteNow now
    { scope := pool.scope, client := identity.1, address := update.address }
  have own : clientOf update = identity.1 := clientOf_some named
  have mine : update ∈ history ++ [update] := mem_append_right _ (mem_singleton.mpr rfl)
  have is : (Lease.learn update identity (startOf update) absoluteNow now
      { scope := pool.scope, client := identity.1, address := update.address }).client =
      clientOf update := by
    rw [client, own, ite_self]
  refine ⟨⟨pool, ?_, scope⟩, ⟨update, mine, ⟨describes.address, describes.status,
    describes.started, describes.expiration, describes.managed⟩, ?_, fun _ => is⟩,
    update, mine, describes.address.symm, is⟩
  · show pools.filter (fun pool => contains pool (Lease.learn ..).address) = [pool]
    rw [describes.address]
    exact only
  · intro other mem about
    obtain old | new := mem_append.mp mem
    · exact absurd about (unknown other old)
    · obtain rfl := mem_singleton.mp new
      exact BitVec.le_refl _

theorem Reflects.add (only : r.pools.filter (fun pool => contains pool update.address) = [pool])
    (named : updateIdentity update = some identity)
    (unknown : update.address ∉ r.leases.map (·.address)) :
    Reflects
      (r.added (Lease.learn update identity (startOf update) absoluteNow now
        { scope := pool.scope, client := identity.1,
          address := update.address }) now) (history ++ [update]) := by
  have addresses : (r.added (Lease.learn update identity (startOf update) absoluteNow now
      { scope := pool.scope, client := identity.1, address := update.address }) now).leases.map
        (·.address) = r.leases.map (·.address) ++ [update.address] := by
    rw [LeaseRepository.added, map_append, map_singleton]
    exact congrArg (fun address => r.leases.map (·.address) ++ [address])
      (learn_describes update identity absoluteNow now _).1.address
  refine ⟨?_, fun other other_mem => ?_, fun other other_mem => ?_⟩
  · rw [addresses, nodup_append]
    refine ⟨h.nodup, pairwise_singleton .., fun a ha b hb same => ?_⟩
    rw [same, mem_singleton.mp hb] at ha
    exact unknown ha
  · obtain old | new := mem_append.mp other_mem
    · apply (h.latest other old).extend
      intro same
      exact absurd (mem_map.mpr ⟨other, old, same.symm⟩) unknown
    · obtain rfl := mem_singleton.mp new
      exact latest_fresh only named (fun other mem same => unknown (same ▸ h.known other mem))
        r.nextRevision
  · rw [addresses]
    obtain old | new := mem_append.mp other_mem
    · exact mem_append_left _ (h.known other old)
    · obtain rfl := mem_singleton.mp new
      exact mem_append_right _ (mem_singleton.mpr rfl)

theorem Reflects.apply (valid : updateValid r.pools update = true)
    (room : update.address ∈ r.leases.map (·.address) ∨ r.leases.length ≠ leasesPerServer)
    (absoluteNow : BitVec 32) (now : Int) :
    ∃ r' status, r.applyPartnerUpdate update absoluteNow now = (r', status) ∧
      (status = .applied ∨ status = .duplicate) ∧ r'.pools = r.pools ∧
      Reflects r' (history ++ [update]) := by
  obtain ⟨pool, identity, only, named, known | ⟨absent, outcome⟩⟩ :=
    applyPartnerUpdate_outcome valid absoluteNow now
  · obtain ⟨place, lease, record, row, outcome⟩ := known
    have there : lease.address = update.address := by
      obtain ⟨place', lease', record', row', there⟩ | ⟨absent, _⟩ := h.recordAt only
      · obtain rfl := Option.some.inj (record.symm.trans record')
        obtain rfl := Option.some.inj (row.symm.trans row')
        exact there
      · rw [record] at absent
        cases absent
    have mem := mem_of_getElem? row
    obtain ⟨_, old, done⟩ | ⟨newer, done⟩ := outcome
    · exact ⟨r, .duplicate, done, .inr rfl, rfl, h.skip mem there old⟩
    · exact ⟨_, .applied, done, .inl rfl, rfl,
        h.change row there named (newer (h.latest lease mem).managed)⟩
  · obtain ⟨_, _, record, _⟩ | ⟨_, unknown⟩ := h.recordAt only
    · rw [absent] at record
      cases record
    obtain ⟨full, _⟩ | ⟨_, done⟩ := outcome
    · obtain addressed | room := room
      · exact absurd addressed unknown
      · exact absurd full room
    · exact ⟨_, .applied, done, .inl rfl, rfl, h.add only named unknown⟩

end Reflection

section Delivery

variable {r : LeaseRepository} {history updates : List BindingUpdateView}
  {update : BindingUpdateView} {message : Message} {absoluteNow : BitVec 32} {now : Int}

/-- There is room as long as the history is about few enough addresses. -/
theorem Reflects.room (h : Reflects r history) {addresses : List Ipv4}
    (few : addresses.length ≤ leasesPerServer) (old : ∀ other ∈ history, other.address ∈ addresses)
    (new : update.address ∈ addresses) :
    update.address ∈ r.leases.map (·.address) ∨ r.leases.length ≠ leasesPerServer := by
  by_cases known : update.address ∈ r.leases.map (·.address)
  · exact .inl known
  · refine .inr fun full => ?_
    have within : ∀ address ∈ update.address :: r.leases.map (·.address), address ∈ addresses := by
      intro address mem
      obtain rfl | mem := mem_cons.mp mem
      · exact new
      · obtain ⟨lease, row, rfl⟩ := mem_map.mp mem
        obtain ⟨_, ⟨top, top_mem, describes, _⟩, _⟩ := h.latest lease row
        exact describes.address ▸ old top top_mem
    have length := Nodup.length_le_of_subset (nodup_cons.mpr ⟨known, h.nodup⟩) within
    rw [length_cons, length_map] at length
    omega

theorem Reflects.stage (h : Reflects r history)
    (valid : ∀ update ∈ updates, updateValid r.pools update = true) {addresses : List Ipv4}
    (few : addresses.length ≤ leasesPerServer)
    (about : ∀ other ∈ history ++ updates, other.address ∈ addresses)
    (aggregate : PartnerUpdateStatus) (absoluteNow : BitVec 32) (now : Int) :
    ∃ r' status, LeaseRepository.stageUpdates absoluteNow now r aggregate updates =
        .ok (r', status) ∧ r'.pools = r.pools ∧ Reflects r' (history ++ updates) := by
  induction updates generalizing r history aggregate with
  | nil => exact ⟨r, aggregate, rfl, rfl, by rwa [append_nil]⟩
  | cons update rest ih =>
    have room := h.room few (fun other mem => about other (mem_append_left _ mem))
      (about update (mem_append_right _ mem_cons_self))
    obtain ⟨r', status, applied, outcome, pools, reflects⟩ :=
      h.apply (valid update mem_cons_self) room absoluteNow now
    have rest_about : ∀ other ∈ (history ++ [update]) ++ rest, other.address ∈ addresses := by
      rw [append_assoc]
      exact about
    have rest_valid : ∀ other ∈ rest, updateValid r'.pools other = true := by
      rw [pools]
      exact fun other mem => valid other (mem_cons_of_mem _ mem)
    obtain rfl | rfl := outcome
    · obtain ⟨last, status, staged, same, done⟩ := ih reflects rest_valid rest_about .applied
      refine ⟨last, status, ?_, same.trans pools, by rwa [append_assoc] at done⟩
      rw [LeaseRepository.stageUpdates, applied]
      exact staged
    · obtain ⟨last, status, staged, same, done⟩ := ih reflects rest_valid rest_about aggregate
      refine ⟨last, status, ?_, same.trans pools, by rwa [append_assoc] at done⟩
      rw [LeaseRepository.stageUpdates, applied]
      exact staged

/-- A message of valid updates that is of an admitted size. -/
def Admitted (pools : List Pool) (message : Message) : Prop :=
  message.updates ≠ [] ∧ message.updates.length ≤ failoverUpdatesInFlight ∧
    ∀ update ∈ message.updates, updateValid pools update = true

instance {pools : List Pool} : Decidable (Admitted pools message) :=
  inferInstanceAs (Decidable (_ ∧ _ ∧ _))

theorem Reflects.deliver (h : Reflects r history) (admitted : Admitted r.pools message)
    {addresses : List Ipv4} (few : addresses.length ≤ leasesPerServer)
    (about : ∀ other ∈ history ++ message.updates, other.address ∈ addresses) :
    (RouterSim.Dhcpv4.deliver r message).pools = r.pools ∧
      Reflects (RouterSim.Dhcpv4.deliver r message) (history ++ message.updates) := by
  obtain ⟨some, size, valid⟩ := admitted
  obtain ⟨r', status, staged, pools, done⟩ := h.stage valid few about .duplicate
    message.absoluteNow message.now
  have proceeds : ¬ (message.updates.isEmpty || decide (failoverUpdatesInFlight <
      message.updates.length)) = true := by
    simp only [asserted, List.isEmpty_iff, not_or]
    exact ⟨some, by omega⟩
  have result : RouterSim.Dhcpv4.deliver r message = r' := by
    rw [RouterSim.Dhcpv4.deliver, LeaseRepository.applyPartnerUpdates, if_neg proceeds, staged]
  rw [result]
  exact ⟨pools, done⟩

/-- Every update of a list of messages, in the order of delivery. -/
def updatesOf (messages : List Message) : List BindingUpdateView := messages.flatMap (·.updates)

theorem Reflects.run (h : Reflects r history) {messages : List Message}
    (admitted : ∀ message ∈ messages, Admitted r.pools message) {addresses : List Ipv4}
    (few : addresses.length ≤ leasesPerServer)
    (about : ∀ other ∈ history ++ updatesOf messages, other.address ∈ addresses) :
    (Runs.run RouterSim.Dhcpv4.deliver r messages).pools = r.pools ∧
      Reflects (Runs.run RouterSim.Dhcpv4.deliver r messages) (history ++ updatesOf messages) := by
  induction messages generalizing r history with
  | nil => exact ⟨rfl, by rwa [updatesOf, flatMap_nil, append_nil]⟩
  | cons message rest ih =>
    rw [updatesOf, flatMap_cons, ← append_assoc] at about ⊢
    obtain ⟨pools, reflects⟩ := h.deliver (admitted message mem_cons_self) few
      fun other mem => about other (mem_append_left _ mem)
    obtain ⟨same, done⟩ := ih reflects
      (fun other mem => by rw [pools]; exact admitted other (mem_cons_of_mem _ mem)) about
    exact ⟨same.trans pools, done⟩

/-- Some update of the message fails in the state that the ones before it leave. -/
def Fails (r : LeaseRepository) (message : Message) : Prop :=
  ∃ before update after staged aggregate, message.updates = before ++ update :: after ∧
    LeaseRepository.stageUpdates message.absoluteNow message.now r .duplicate before =
      .ok (staged, aggregate) ∧
    (staged.applyPartnerUpdate update message.absoluteNow message.now).2 ≠ .applied ∧
    (staged.applyPartnerUpdate update message.absoluteNow message.now).2 ≠ .duplicate

theorem stageUpdates_append {before after : List BindingUpdateView} {staged : LeaseRepository}
    {aggregate aggregate' : PartnerUpdateStatus}
    (h : LeaseRepository.stageUpdates absoluteNow now r aggregate before =
      .ok (staged, aggregate')) :
    LeaseRepository.stageUpdates absoluteNow now r aggregate (before ++ after) =
      LeaseRepository.stageUpdates absoluteNow now staged aggregate' after := by
  induction before generalizing r aggregate with
  | nil =>
    obtain ⟨rfl, rfl⟩ := Prod.mk.inj (Except.ok.inj h)
    rfl
  | cons update before ih =>
    rw [LeaseRepository.stageUpdates] at h
    rw [cons_append, LeaseRepository.stageUpdates]
    split at h
    · exact ih h
    · exact ih h
    · cases h

/-- A message with an update that fails changes nothing. -/
theorem Fails.unchanged (h : Fails r message) : deliver r message = r := by
  obtain ⟨before, update, after, staged, aggregate, split_at, ok, not_applied, not_duplicate⟩ := h
  have stopped : ∃ failure, LeaseRepository.stageUpdates message.absoluteNow message.now r
      .duplicate message.updates = .error failure := by
    rw [split_at, stageUpdates_append ok, LeaseRepository.stageUpdates]
    split
    next heq => exact absurd (congrArg Prod.snd heq) not_applied
    next heq => exact absurd (congrArg Prod.snd heq) not_duplicate
    next => exact ⟨_, rfl⟩
  obtain ⟨failure, stopped⟩ := stopped
  unfold deliver LeaseRepository.applyPartnerUpdates
  split
  · rfl
  · rw [stopped]

/-- The record at the address of an update that is newest in a history. -/
theorem Reflects.final (h : Reflects r history)
    (distinct : ∀ u ∈ history, ∀ v ∈ history, u.address = v.address → startOf u = startOf v → u = v)
    (mem : update ∈ history) (newest : Newest history update) :
    ∃ lease ∈ r.leases, Describes update lease ∧
      (∀ other ∈ r.leases, other.address = update.address → other = lease) ∧
      ((clientOf update).bytes ≠ [] → lease.client = clientOf update) ∧
      ∃ named ∈ history, named.address = update.address ∧ lease.client = clientOf named := by
  obtain ⟨lease, row, there⟩ := mem_map.mp (h.known update mem)
  obtain ⟨_, ⟨top, top_mem, describes, top_newest, named⟩, other, other_mem, about, same⟩ :=
    h.latest lease row
  have address : top.address = update.address := describes.address.symm.trans there
  have start : startOf top = startOf update :=
    BitVec.le_antisymm (newest top top_mem address) (top_newest update mem address.symm)
  obtain rfl := distinct top top_mem update mem address start
  exact ⟨lease, row, describes, fun another listed same =>
    h.unique listed row (same.trans there.symm), named, other, other_mem, about.trans there, same⟩

/-- However the valid updates of a partner are delivered, each address ends with one record that
describes its newest update; its client is the one that update names, and if it names none, one
that some update about the address names. A message with an update that fails changes nothing. -/
theorem partner_updates_converge (r : LeaseRepository) (empty : r.leases = [])
    (messages : List Message) (admitted : ∀ message ∈ messages, Admitted r.pools message)
    (capacity : ((updatesOf messages).map (·.address)).eraseDups.length ≤ leasesPerServer)
    (distinct : ∀ u ∈ updatesOf messages, ∀ v ∈ updatesOf messages, u.address = v.address →
      startOf u = startOf v → u = v) :
    (∀ update ∈ updatesOf messages, Newest (updatesOf messages) update →
      ∃ lease ∈ (Runs.run deliver r messages).leases, Describes update lease ∧
        (∀ other ∈ (Runs.run deliver r messages).leases, other.address = update.address →
          other = lease) ∧ ((clientOf update).bytes ≠ [] → lease.client = clientOf update) ∧
        ∃ named ∈ updatesOf messages, named.address = update.address ∧
          lease.client = clientOf named) ∧
      (∀ lease ∈ (Runs.run deliver r messages).leases,
        ∃ update ∈ updatesOf messages, update.address = lease.address) ∧
      ∀ (start : LeaseRepository) (message : Message), Fails start message →
        deliver start message = start := by
  have start : Reflects r [] := by
    refine ⟨?_, ?_, fun _ mem => absurd mem not_mem_nil⟩
    · rw [empty]
      exact nodup_nil
    · rw [empty]
      exact fun _ mem => absurd mem not_mem_nil
  have about : ∀ other ∈ [] ++ updatesOf messages,
      other.address ∈ ((updatesOf messages).map (·.address)).eraseDups := by
    intro other mem
    rw [mem_eraseDups]
    exact mem_map.mpr ⟨other, mem, rfl⟩
  obtain ⟨_, reflects⟩ := start.run admitted capacity about
  refine ⟨fun update mem newest => reflects.final distinct mem newest, fun lease row => ?_,
    fun _ _ fails => fails.unchanged⟩
  obtain ⟨_, ⟨top, mem, describes, _⟩, _⟩ := reflects.latest lease row
  exact ⟨top, mem, describes.address.symm⟩

/-- A repository with one pool of two addresses, and two updates about the first of them: it is
active for a client, and then free for nobody. -/
def onePool : LeaseRepository := { pools := [samplePool] }

def madeActive : BindingUpdateView :=
  { address := 0x0a000001#32, status := .active, clientIdentifier := [7#8],
    leaseExpirationTime := some 900#32, potentialExpirationTime := some 1000#32,
    clientLastTransactionTime := some 100#32, startTimeOfState := some 100#32 }

def madeFree : BindingUpdateView :=
  { address := 0x0a000001#32, startTimeOfState := some 200#32 }

def messageOf (updates : List BindingUpdateView) : Message :=
  { updates, absoluteNow := 300#32, now := 0 }

/-- The free state stands, whatever comes after it. -/
theorem free_state_stands :
    ∃ lease ∈ (Runs.run deliver onePool [messageOf [madeFree, madeActive],
      messageOf [madeActive]]).leases, Describes madeFree lease := by
  have converged := (partner_updates_converge onePool rfl
    [messageOf [madeFree, madeActive], messageOf [madeActive]] (by decide) (by decide)
    (by decide)).1 madeFree (by decide) (by decide)
  obtain ⟨lease, row, describes, _⟩ := converged
  exact ⟨lease, row, describes⟩

/-- The same two updates leave the client of the record at hand in one order, and no client in
the other. -/
theorem client_depends_on_order :
    (Runs.run deliver onePool [messageOf [madeActive], messageOf [madeFree]]).leases.map
        (fun lease => (lease.failoverStatus, lease.client)) =
      [(.free, { bytes := [7#8], option61 := true })] ∧
    (Runs.run deliver onePool [messageOf [madeFree], messageOf [madeActive]]).leases.map
        (fun lease => (lease.failoverStatus, lease.client)) =
      [(.free, clientOf madeFree)] ∧ clientOf madeFree ≠ { bytes := [7#8], option61 := true } := by
  decide

end Delivery

end RouterSim.Dhcpv4
