import RouterSim.Lib.Runs
import RouterSim.Lib.Table
import RouterSim.Dhcpv6.LeaseFailover

/-! No two bindings hold overlapping values and no client has two. A value is probed
before it is assigned; an update from the partner is written as it comes. -/
namespace RouterSim.Dhcpv6

open List

open Table
open RouterSim.Ip (Ipv6 mask mask_mask getLsbD_mask)
open Failover (BindingUpdateView)

inductive Operation
  | configure (addressPools prefixPools : List LeasePool) (declineHoldTime : Int)
  | assign (client : ClientIdentity) (poolIndex : Nat) (now : Int)
  | renew (client : ClientIdentity) (now : Int)
  | release (client : ClientIdentity)
  | decline (client : ClientIdentity) (now : Int)
  | expire (now : Int)
  | clear (filter : LeaseClearFilter) (now : Int)
  | partnerUpdates (updates : List BindingUpdateView) (absoluteNow : BitVec 32) (now : Int)

def step (hmac : Digest → List (BitVec 8) → Digest) (r : LeaseRepository) :
    Operation → LeaseRepository
  | .configure addressPools prefixPools declineHoldTime =>
    (r.configure addressPools prefixPools declineHoldTime).getD r
  | .assign client poolIndex now => (r.assign hmac client poolIndex now).1
  | .renew client now => (r.renew hmac client now).1
  | .release client => (r.release client).1
  | .decline client now => (r.decline client now).1
  | .expire now => r.expire now
  | .clear filter now => (r.clear filter now).1
  | .partnerUpdates updates absoluteNow now => (r.applyPartnerUpdates updates absoluteNow now).1

/-! ## Records that do not collide -/

/-- Some address is in both prefixes. -/
def Overlap (a b : Lease) : Prop :=
  ∃ address, mask address a.prefixLength.toNat = mask a.value a.prefixLength.toNat ∧
    mask address b.prefixLength.toNat = mask b.value b.prefixLength.toNat

/-- Two occupied records hold different addresses or prefixes that do not overlap, and
are not both live records of one client. -/
def Apart (a b : Lease) : Prop :=
  a.occupied = true → b.occupied = true →
    (a.client.kind = .delegated → b.client.kind = .delegated → ¬ Overlap a b) ∧
    (a.client.kind ≠ .delegated → b.client.kind ≠ .delegated → a.value ≠ b.value) ∧
    (a.declined = false → b.declined = false → a.client ≠ b.client)

/-- Delegated values of partner updates have no bits after their length. -/
def Operation.canonical : Operation → Bool
  | .partnerUpdates updates _ _ => updates.all fun update =>
    !updateDelegated update || mask update.value update.prefixLength.toNat == update.value
  | _ => true

/-- No slot but the one at `slot` satisfies a predicate. -/
def noOther (leases : List Lease) (slot : Option Nat) (p : Lease → Bool) : Bool :=
  leases.zipIdx.all fun row => some row.2 == slot || !p row.1

/-- An update not older than what is known of its value. -/
def updateNews (r : LeaseRepository) (update : BindingUpdateView) : Bool :=
  !((r.cursorOf update).bind (r.failoverBindings[·]?)).any fun binding =>
    decide (update.startTimeOfState ≤ binding.stateStartedAbsolute)

/-- An active or abandoned binding that is news meets no other record that uses its
value and, when active, no other record of its client. -/
def updateApart (r : LeaseRepository) (update : BindingUpdateView) : Bool :=
  match r.updatePools update with
  | [(pool, _)] =>
    !updateNews r update || !(update.status == .active || update.status == .abandoned) ||
      (noOther r.leases (r.recordOf update)
          (·.uses (updateKind update) update.value update.prefixLength) &&
        (update.status != .active || noOther r.leases (r.recordOf update) fun lease =>
          lease.occupied && !lease.declined && sameClient lease.client (updateIdentity update pool)))
  | _ => true

/-- Each update in the state the ones before it leave. -/
def updatesApart (absoluteNow : BitVec 32) (now : Int) :
    LeaseRepository → List BindingUpdateView → Bool
  | _, [] => true
  | staged, update :: rest =>
    updateApart staged update &&
      match staged.applyPartnerUpdate update absoluteNow now with
      | .error _ => true
      | .ok none => updatesApart absoluteNow now staged rest
      | .ok (some next) => updatesApart absoluteNow now next rest

def PartnerApart (r : LeaseRepository) : Operation → Prop
  | .partnerUpdates updates absoluteNow now => updatesApart absoluteNow now r updates = true
  | _ => True

instance (r : LeaseRepository) (op : Operation) : Decidable (PartnerApart r op) :=
  match op with
  | .partnerUpdates .. => inferInstanceAs (Decidable (_ = true))
  | .configure .. | .assign .. | .renew .. | .release .. | .decline .. | .expire .. | .clear .. =>
    isTrue trivial

/-! ## The invariant -/

structure Canonical (lease : Lease) : Prop where
  length : lease.prefixLength ≤ 128#8
  value : mask lease.value lease.prefixLength.toNat = lease.value

structure Inv (r : LeaseRepository) : Prop where
  pools : ∀ pool ∈ r.prefixPools, validPool pool true = true
  rows : ∀ lease ∈ r.leases, lease.occupied = true → lease.client.kind = .delegated →
    Canonical lease
  pairs : Each Apart r.leases

variable {hmac : Digest → List (BitVec 8) → Digest} {r : LeaseRepository} {now : Int}

@[simp] theorem sameClient_iff {a b : ClientIdentity} : sameClient a b = true ↔ a = b := by
  cases a
  cases b
  simp [sameClient, and_comm]

theorem Apart.symm (a b : Lease) (h : Apart a b) : Apart b a := by
  intro hb ha
  obtain ⟨prefixes, addresses, clients⟩ := h ha hb
  refine ⟨fun kb ka => ?_, fun kb ka => Ne.symm (addresses ka kb),
    fun db da => Ne.symm (clients da db)⟩
  rintro ⟨address, hmb, hma⟩
  exact prefixes ka kb ⟨address, hma, hmb⟩

/-- A record that keeps its client and value, or whose slot is freed. -/
structure Keeps (a a' : Lease) : Prop where
  occupied : a'.occupied = true → a.occupied = true ∧ a'.client = a.client ∧ a'.value = a.value ∧
    a'.prefixLength = a.prefixLength ∧ (a'.declined = false → a.declined = false)

theorem Keeps.refl (a : Lease) : Keeps a a := ⟨fun h => ⟨h, rfl, rfl, rfl, id⟩⟩

theorem keeps_free (a : Lease) : Keeps a {} := ⟨fun h => by cases h⟩

variable {a b x : Lease} {leases : List Lease} {slot : Nat} {client : ClientIdentity}
   {pool : LeasePool} {update : BindingUpdateView} {absoluteNow : BitVec 32}

theorem Keeps.apart {a' b' : Lease} (ha : Keeps a a') (hb : Keeps b b') (h : Apart a b) :
    Apart a' b' := by
  intro oa ob
  obtain ⟨oa, ca, va, la, da⟩ := ha.occupied oa
  obtain ⟨ob, cb, vb, lb, db⟩ := hb.occupied ob
  obtain ⟨prefixes, addresses, clients⟩ := h oa ob
  unfold Overlap at prefixes ⊢
  rw [ca, cb, va, vb, la, lb]
  exact ⟨prefixes, addresses, fun na nb => clients (da na) (db nb)⟩

theorem Keeps.canonical {a' : Lease} (h : Keeps a a')
    (row : a.occupied = true → a.client.kind = .delegated → Canonical a) :
    a'.occupied = true → a'.client.kind = .delegated → Canonical a' := by
  intro occupied kind
  obtain ⟨occupied, hc, hv, hl, _⟩ := h.occupied occupied
  rw [hc] at kind
  have canonical := row occupied kind
  constructor
  · rw [hl]
    exact canonical.length
  · rw [hl, hv]
    exact canonical.value

section

variable (h : Inv r)
include h

theorem Inv.pointwise (rows : ∀ (i : Nat) (a' : Lease), leases[i]? = some a' →
      ∃ a, r.leases[i]? = some a ∧ Keeps a a') : Inv { r with leases := leases } := by
  constructor
  · exact h.pools
  · intro a' ha'
    obtain ⟨i, hi⟩ := mem_iff_getElem?.mp ha'
    obtain ⟨a, ha, kept⟩ := rows i a' hi
    exact kept.canonical (h.rows a (mem_of_getElem? ha))
  · exact Each.pointwise h.pairs rows fun _ _ _ _ ha hb => ha.apart hb

theorem Inv.map {f : Lease → Lease} (kept : ∀ a, Keeps a (f a)) : Inv { r with leases := r.leases.map f } := by
  apply h.pointwise
  intro i a' ha'
  rw [getElem?_map] at ha'
  obtain ⟨a, ha, rfl⟩ := Option.map_eq_some_iff.mp ha'
  exact ⟨a, ha, kept a⟩

theorem Inv.set (kept : ∀ a, r.leases[slot]? = some a → Keeps a x) : Inv { r with leases := r.leases.set slot x } := by
  apply h.pointwise
  intro i a' ha'
  obtain ⟨rfl, rfl⟩ | ⟨_, ra⟩ := set_row ha'
  · have hlt : slot < r.leases.length := by
      have := (List.getElem?_eq_some_iff.mp ha').1
      rwa [length_set] at this
    exact ⟨_, getElem?_eq_getElem hlt, kept _ (getElem?_eq_getElem hlt)⟩
  · exact ⟨a', ra, Keeps.refl a'⟩

theorem Inv.put (row : x.client.kind = .delegated → Canonical x)
    (pairs : ∀ (j : Nat) (b : Lease), j ≠ slot → r.leases[j]? = some b → Apart x b) :
    Inv { r with leases := r.leases.set slot x } := by
  constructor
  · exact h.pools
  · intro a ha occupied kind
    obtain ⟨i, hi⟩ := mem_iff_getElem?.mp ha
    obtain ⟨_, rfl⟩ | ⟨_, ra⟩ := set_row hi
    · exact row kind
    · exact h.rows a (mem_of_getElem? ra) occupied kind
  · exact Each.set Apart.symm h.pairs pairs

/-! ## The operations that free or keep -/

theorem Inv.expire (now : Int) : Inv (r.expire now) := by
  apply h.map
  intro a
  split
  next => exact keeps_free a
  next => exact Keeps.refl a

theorem Inv.clear (filter : LeaseClearFilter) (now : Int) : Inv (r.clear filter now).1 := by
  unfold LeaseRepository.clear
  split
  next => exact h
  apply (h.expire now).map
  intro a
  split
  next => exact keeps_free a
  next => exact Keeps.refl a

theorem Inv.release (client : ClientIdentity) : Inv (r.release client).1 := by
  unfold LeaseRepository.release
  split
  next => exact h
  split
  next => exact h
  next slot _ => exact h.set fun a _ => keeps_free a

theorem Inv.decline (client : ClientIdentity) (now : Int) : Inv (r.decline client now).1 := by
  unfold LeaseRepository.decline
  split
  next => exact h
  split
  next => exact h
  apply h.pointwise
  intro i a' ha'
  obtain ⟨rfl, a, ha, rfl⟩ | ⟨_, ra⟩ := modify_row ha'
  · exact ⟨a, ha, ⟨fun occupied => ⟨occupied, rfl, rfl, rfl, fun hd => by cases hd⟩⟩⟩
  · exact ⟨a', ra, Keeps.refl a'⟩

omit h in
theorem inv_replicate (addressPools prefixPools : List LeasePool) (slots : Nat)
    (bindings : List FailoverBinding) (hold : Int)
    (pools : ∀ pool ∈ prefixPools, validPool pool true = true) :
    Inv ⟨addressPools, prefixPools, replicate slots {}, bindings, hold⟩ := by
  constructor
  · exact pools
  · intro a ha occupied
    rw [eq_of_mem_replicate ha] at occupied
    cases occupied
  · intro i j a b _ ha _ occupied
    rw [eq_of_mem_replicate (mem_of_getElem? ha)] at occupied
    cases occupied

theorem Inv.configure {addressPools prefixPools : List LeasePool} {hold : Int} :
    Inv ((r.configure addressPools prefixPools hold).getD r) := by
  unfold LeaseRepository.configure
  split
  next => exact h
  split
  next => exact h
  rename_i hok
  apply inv_replicate
  intro pool hp
  simp only [asserted, not_or, any_eq_true, not_exists, not_and] at hok
  simpa using hok.2 pool hp

end

/-! ## Values -/

/-- Overlapping canonical prefixes contain one the other's network. -/
theorem contains_of_overlap (ha : Canonical a) (hb : Canonical b) (h : Overlap a b) :
    Ip.contains { network := a.value, length := a.prefixLength } b.value = true ∨
      Ip.contains { network := b.value, length := b.prefixLength } a.value = true := by
  have within : ∀ {c d : Lease}, Canonical c → Canonical d → Overlap c d →
      c.prefixLength.toNat ≤ d.prefixLength.toNat →
      Ip.contains { network := c.value, length := c.prefixLength } d.value = true := by
    rintro c d hc hd ⟨address, hac, had⟩ hle
    rw [hc.value] at hac
    rw [hd.value] at had
    rw [Ip.contains, if_neg (BitVec.not_lt.mpr hc.length), beq_iff_eq, ← hac, ← had,
      mask_mask address hle]
  by_cases hle : a.prefixLength.toNat ≤ b.prefixLength.toNat
  · exact .inl (within ha hb h hle)
  · right
    obtain ⟨address, hma, hmb⟩ := h
    exact within hb ha ⟨address, hmb, hma⟩ (by omega)

theorem apart_of_unused (hx : x.client.kind = .delegated → Canonical x)
    (hb : b.occupied = true → b.client.kind = .delegated → Canonical b)
    (unused : b.uses x.client.kind x.value x.prefixLength = false)
    (clients : x.declined = false → b.occupied = true → b.declined = false →
      b.client ≠ x.client) : Apart x b := by
  intro _ occupied
  unfold Lease.uses at unused
  refine ⟨fun kx kb overlap => ?_, fun kx kb heq => ?_,
    fun dx db => Ne.symm (clients dx occupied db)⟩
  · have either := contains_of_overlap (hx kx) (hb occupied kb) overlap
    simp only [occupied, kx, kb, settled, beq_self_eq_true, Bool.or_self, bne_self_eq_false,
      refuted] at unused
    rw [unused.1, unused.2] at either
    obtain h | h := either <;> cases h
  · have notDelegated : (x.client.kind == .delegated || b.client.kind == .delegated) = false := by
      simp [kx, kb]
    simp only [occupied, notDelegated, settled, refuted] at unused
    exact unused heq.symm

theorem unused_of_valueInUse {kind : LeaseKind} {value : Ipv6} {prefixLength : BitVec 8}
    (h : r.valueInUse kind value prefixLength = false) (hb : b ∈ r.leases) :
    b.uses kind value prefixLength = false := by
  rw [LeaseRepository.valueInUse, any_eq_false] at h
  simpa using h b hb

/-- A new record whose value is not in use, of a client without another. -/
theorem Inv.put_unused (h : Inv r) (row : x.client.kind = .delegated → Canonical x)
    (unused : r.valueInUse x.client.kind x.value x.prefixLength = false)
    (clients : ∀ b ∈ r.leases, b.occupied = true → b.declined = false → b.client ≠ x.client) :
    Inv { r with leases := r.leases.set slot x } := by
  apply h.put row
  intro j b _ hj
  have hb := mem_of_getElem? hj
  exact apart_of_unused row (h.rows b hb) (unused_of_valueInUse unused hb)
    fun _ occupied live => clients b hb occupied live

theorem candidate_canonical (hmac : Digest → List (BitVec 8) → Digest)
    (attempt : Nat) (valid : validPool pool true = true) (kind : client.kind = .delegated) :
    pool.delegatedLength ≤ 128#8 ∧
      mask (candidate hmac pool client attempt) pool.delegatedLength.toNat =
        candidate hmac pool client attempt := by
  simp only [validPool, if_true, asserted] at valid
  obtain ⟨⟨⟨⟨_, network⟩, _⟩, ⟨⟨longer, bound⟩, _⟩⟩, _⟩ := valid
  refine ⟨bound, ?_⟩
  have longer' : pool.aggregate.length.toNat ≤ pool.delegatedLength.toNat := longer
  simp only [candidate, kind, beq_self_eq_true, if_true, writeDelegatedIndex]
  apply BitVec.eq_of_getLsbD_eq
  intro i hi
  rw [getLsbD_mask]
  by_cases hle : 128 - pool.delegatedLength.toNat ≤ i
  · simp [hle]
  · have low : pool.aggregate.network.getLsbD i = false := by
      rw [← network, getLsbD_mask]
      have : ¬ 128 - pool.aggregate.length.toNat ≤ i := by omega
      simp [this]
    rw [BitVec.getLsbD_or, low, BitVec.getLsbD_shiftLeft]
    have : i < 128 - pool.delegatedLength.toNat := by omega
    simp [this]

theorem probe_some {prefixLength : BitVec 8} {remaining attempt : Nat} {value : Ipv6}
    (h : r.probe hmac pool client prefixLength remaining attempt = some value) :
    r.valueInUse client.kind value prefixLength = false ∧
      ∃ attempt', value = candidate hmac pool client attempt' := by
  induction remaining generalizing attempt with
  | zero => cases h
  | succ remaining ih =>
    unfold LeaseRepository.probe at h
    simp only at h
    split at h
    next => exact ih h
    rename_i hfree
    cases h
    simp only [asserted, not_or, refuted] at hfree
    exact ⟨hfree.2, attempt, rfl⟩

/-! ## Assign and renew -/

theorem find_some (h : r.find client = some slot) :
    ∃ lease, r.leases[slot]? = some lease ∧ lease.occupied = true ∧ lease.client = client := by
  obtain ⟨hlt, hp, _⟩ := findIdx?_eq_some_iff_getElem.mp h
  simp only [asserted, sameClient_iff] at hp
  exact ⟨_, getElem?_eq_getElem hlt, hp.1.1, hp.2⟩

theorem find_none (h : r.find client = none) {lease : Lease}
    (hl : lease ∈ r.leases) (occupied : lease.occupied = true) (live : lease.declined = false) :
    lease.client ≠ client := by
  intro heq
  have different := findIdx?_eq_none_iff.mp h lease hl
  have same : (lease.occupied && !lease.declined && sameClient lease.client client) = true := by
    rw [occupied, live, Bool.and_eq_true, sameClient_iff]
    exact ⟨rfl, heq⟩
  rw [same] at different
  cases different

theorem Inv.assign (h : Inv r) (client : ClientIdentity) (poolIndex : Nat) (now : Int) :
    Inv (r.assign hmac client poolIndex now).1 := by
  have expired := h.expire now
  unfold LeaseRepository.assign
  split
  next => exact h
  simp only
  split
  next => exact expired
  rename_i hindex
  split
  next slot hfind =>
    obtain ⟨lease, hl, _, _⟩ := find_some hfind
    have existing : (r.expire now).leases.getD slot {} = lease := by
      rw [getD_eq_getElem?_getD, hl]
      rfl
    rw [existing]
    apply expired.set
    intro a ha
    rw [hl] at ha
    cases ha
    exact ⟨fun occupied => ⟨occupied, rfl, rfl, rfl, id⟩⟩
  next hfind =>
    split
    next => exact expired
    split
    next => exact expired
    rename_i value hprobe
    obtain ⟨unused, attempt, hvalue⟩ := probe_some hprobe
    apply expired.put_unused _ unused
    · exact fun b hb occupied live => find_none hfind hb occupied live
    · intro kind
      have kind' : client.kind = .delegated := kind
      have hpools : (r.expire now).poolsOf client.kind = r.prefixPools := by
        rw [LeaseRepository.poolsOf, kind']
        rfl
      rw [hpools] at hindex hvalue ⊢
      have valid := h.pools (r.prefixPools.getD poolIndex {}) (by
        rw [getD_eq_getElem?_getD, getElem?_eq_getElem (by omega)]
        exact getElem_mem _)
      obtain ⟨bound, canonical⟩ := candidate_canonical hmac attempt valid kind'
      constructor
      · simp [kind']
        exact bound
      · simp [kind', hvalue]
        exact canonical

theorem Inv.renew (h : Inv r) (client : ClientIdentity) (now : Int) :
    Inv (r.renew hmac client now).1 := by
  unfold LeaseRepository.renew
  split
  next => exact h
  simp only
  split
  next => exact h.expire now
  next slot _ => exact (h.expire now).assign client _ now

/-! ## Partner updates -/

theorem noOther_row {slot : Option Nat} {p : Lease → Bool}
    (h : noOther leases slot p = true) {j : Nat} (hj : leases[j]? = some b)
    (hne : slot ≠ some j) : p b = false := by
  rw [noOther, all_eq_true] at h
  have row := h (b, j) (mem_zipIdx_iff_getElem?.mpr hj)
  simp only [asserted] at row
  obtain heq | hp := row
  · exact absurd heq.symm hne
  · exact hp

theorem updateKind_delegated (h : updateKind update = .delegated) :
    updateDelegated update = true := by
  unfold updateKind at h
  split at h
  next hd => exact hd
  next =>
    split at h <;> cases h

theorem Inv.learn (h : Inv r) {poolIndex : Nat}
        (hpools : r.updatePools update = [(pool, poolIndex)]) (news : updateNews r update = true)
    (bound : updateDelegated update = true → update.prefixLength ≤ 128#8)
    (canonical : updateDelegated update = true →
      mask update.value update.prefixLength.toNat = update.value)
    (apart : updateApart r update = true)
    (hl : r.learn update pool poolIndex absoluteNow now = .ok leases) :
    Inv { r with leases := leases } := by
  unfold LeaseRepository.learn at hl
  simp only at hl
  split at hl
  next hwrites =>
    have whole : noOther r.leases (r.recordOf update)
        (·.uses (updateKind update) update.value update.prefixLength) = true ∧
        (update.status = .active → noOther r.leases (r.recordOf update) (fun lease =>
          lease.occupied && !lease.declined &&
            sameClient lease.client (updateIdentity update pool)) = true) := by
      simp only [updateApart, hpools, news, hwrites, settled, asserted] at apart
      refine ⟨apart.1, fun hactive => ?_⟩
      obtain hno | hother := apart.2
      · exact absurd hactive hno
      · exact hother
    obtain ⟨values, clients⟩ := whole
    split at hl
    next => cases hl
    rename_i slot hslot
    split at hl
    next =>
      cases hl
      have row : (learnedLease update pool poolIndex absoluteNow now).client.kind = .delegated →
          Canonical (learnedLease update pool poolIndex absoluteNow now) := fun kind =>
        ⟨bound (updateKind_delegated kind), canonical (updateKind_delegated kind)⟩
      apply h.put row
      intro j b hne hj
      have hb := mem_of_getElem? hj
      -- the other records are not the one the update finds
      have elsewhere : r.recordOf update ≠ some j := by
        intro hrecord
        rw [hrecord, Option.some_or] at hslot
        exact hne (Option.some.inj hslot)
      apply apart_of_unused row (h.rows b hb) (noOther_row values hj elsewhere)
      intro live occupied undeclined heq
      have hactive : update.status = .active := by
        simpa [learnedLease] using live
      have none := noOther_row (clients hactive) hj elsewhere
      have same : (b.occupied && !b.declined &&
          sameClient b.client (updateIdentity update pool)) = true := by
        rw [occupied, undeclined, Bool.and_eq_true, sameClient_iff]
        exact ⟨rfl, heq⟩
      rw [same] at none
      cases none
    next => cases hl
  next =>
    split at hl
    next slot _ =>
      cases hl
      exact h.set fun a _ => keeps_free a
    next =>
      cases hl
      exact h

theorem Inv.partnerUpdate (h : Inv r) {next : LeaseRepository}
    (canonical : updateDelegated update = true →
      mask update.value update.prefixLength.toNat = update.value)
    (apart : updateApart r update = true)
    (hs : r.applyPartnerUpdate update absoluteNow now = .ok (some next)) : Inv next := by
  unfold LeaseRepository.applyPartnerUpdate at hs
  split at hs
  next => cases hs
  rename_i hshape
  have bound : updateDelegated update = true → update.prefixLength ≤ 128#8 := by
    intro hd
    simp only [hd, Bool.true_and, asserted, not_or] at hshape
    exact BitVec.not_lt.mp hshape.1.1
  split at hs
  next => cases hs
  next => cases hs
  rename_i pool poolIndex hpools
  simp only at hs
  split at hs
  next => cases hs
  rename_i hnews
  have news : updateNews r update = true := by
    unfold updateNews
    simpa using hnews
  split at hs
  next => cases hs
  split at hs
  next => cases hs
  split at hs
  next => cases hs
  rename_i leases hlearn
  cases hs
  have learned := h.learn hpools news bound canonical apart hlearn
  exact ⟨learned.pools, learned.rows, learned.pairs⟩

theorem Inv.stageUpdates {updates : List BindingUpdateView}
    (h : Inv r) (canonical : ∀ update ∈ updates, updateDelegated update = true →
      mask update.value update.prefixLength.toNat = update.value)
    (apart : updatesApart absoluteNow now r updates = true) {changed : Bool}
    {result : LeaseRepository × Bool}
    (hs : LeaseRepository.stageUpdates absoluteNow now r changed updates = .ok result) :
    Inv result.1 := by
  induction updates generalizing r changed with
  | nil =>
    cases hs
    exact h
  | cons update rest ih =>
    have canonical' := fun u hu => canonical u (mem_cons_of_mem _ hu)
    unfold LeaseRepository.stageUpdates at hs
    simp only [updatesApart, asserted] at apart
    split at hs
    next => cases hs
    next happly =>
      rw [happly] at apart
      exact ih h canonical' apart.2 hs
    next next happly =>
      rw [happly] at apart
      exact ih (h.partnerUpdate (canonical update mem_cons_self) apart.1 happly) canonical'
        apart.2 hs

theorem Inv.partnerUpdates (h : Inv r) {updates : List BindingUpdateView}
    (canonical : (Operation.partnerUpdates updates absoluteNow now).canonical = true)
    (apart : updatesApart absoluteNow now r updates = true) :
    Inv (r.applyPartnerUpdates updates absoluteNow now).1 := by
  have canonical' : ∀ update ∈ updates, updateDelegated update = true →
      mask update.value update.prefixLength.toNat = update.value := by
    intro update hu hd
    simp only [Operation.canonical, all_eq_true] at canonical
    simpa [hd] using canonical update hu
  unfold LeaseRepository.applyPartnerUpdates
  split
  next => exact h
  split
  next staged hs => exact h.stageUpdates canonical' apart hs
  next => exact h
  next => exact h

/-! ## Runs -/

theorem step_inv (h : Inv r) {op : Operation} (canonical : op.canonical = true)
    (apart : PartnerApart r op) : Inv (step hmac r op) := by
  cases op with
  | configure addressPools prefixPools declineHoldTime => exact h.configure
  | assign client poolIndex now => exact h.assign client poolIndex now
  | renew client now => exact h.renew client now
  | release client => exact h.release client
  | decline client now => exact h.decline client now
  | expire now => exact h.expire now
  | clear filter now => exact h.clear filter now
  | partnerUpdates updates absoluteNow now => exact h.partnerUpdates canonical apart

/-- For any keyed hash and in every run whose partner updates are canonical and meet no
other record of their value or client, no two records collide. -/
theorem bindings_disjoint (hmac : Digest → List (BitVec 8) → Digest) (slots : Nat)
    (ops : List Operation) (canonical : ∀ op ∈ ops, op.canonical = true)
    (apart : Runs.Along (step hmac) PartnerApart (.empty slots) ops) :
    Each Apart (Runs.run (step hmac) (.empty slots) ops).leases := by
  have along : Runs.Along (step hmac) (fun r op => op.canonical = true ∧ PartnerApart r op)
      (.empty slots) ops := (Runs.along_of_forall canonical).and apart
  have fresh : Inv (LeaseRepository.empty slots) :=
    inv_replicate [] [] slots _ 0 fun _ hp => by cases hp
  have reached : Inv (Runs.run (step hmac) (.empty slots) ops) :=
    Runs.invariant_along (P := Inv) (fun r op h ok => step_inv h ok.1 ok.2) fresh along
  exact reached.pairs

def widePool : LeasePool :=
  { aggregate := { network := 0x20010db8000000000000000000000000#128, length := 32#8 }
    allocationSecret := [1#8], validLifetimeSeconds := 600#32, delegatedLength := 48#8 }

/-- The same aggregate, cut into smaller prefixes. -/
def narrowPool : LeasePool := { widePool with delegatedLength := 56#8 }

def learnedWide : BindingUpdateView :=
  { clientIdentifier := [0#8, 3#8, 1#8], value := 0x20010db8000100000000000000000000#128,
    association := .delegatedPrefix, status := .active, expirationTime := some 1000#32,
    startTimeOfState := 1#32, prefixLength := 48#8 }

/-- Another client's prefix inside that one. -/
def learnedNarrow : BindingUpdateView :=
  { learnedWide with
    clientIdentifier := [0#8, 3#8, 2#8], value := 0x20010db8000101000000000000000000#128,
    prefixLength := 56#8 }

theorem bindings_disjoint_learned :
    Each Apart (Runs.run (step fun _ _ => []) (.empty 2)
      [.configure [] [widePool, narrowPool] 0, .partnerUpdates [learnedWide] 0#32 0,
        .assign { duid := [1#8, 2#8, 3#8], kind := .delegated } 1 0]).leases :=
  bindings_disjoint (fun _ _ => []) 2 _ (by decide) (by decide)

/-- The same client's second prefix. -/
def learnedTwice : BindingUpdateView :=
  { learnedWide with value := 0x20010db8000200000000000000000000#128 }

/-- A prefix inside another one, and a client with two, both learned from the partner. -/
theorem learned_bindings_collide :
    ¬ Each Apart (Runs.run (step fun _ _ => []) (.empty 2)
      [.configure [] [widePool, narrowPool] 0,
        .partnerUpdates [learnedWide, learnedNarrow] 0#32 0]).leases ∧
    ¬ Each Apart (Runs.run (step fun _ _ => []) (.empty 2)
      [.configure [] [widePool] 0, .partnerUpdates [learnedWide, learnedTwice] 0#32 0]).leases := by
  constructor
  · intro h
    have apart := h 0 1 _ _ (by decide) (getElem?_eq_getElem (by decide))
      (getElem?_eq_getElem (by decide)) (by decide) (by decide)
    exact apart.1 (by decide) (by decide) ⟨learnedNarrow.value, by decide, by decide⟩
  · intro h
    have apart := h 0 1 _ _ (by decide) (getElem?_eq_getElem (by decide))
      (getElem?_eq_getElem (by decide)) (by decide) (by decide)
    exact apart.2.2 (by decide) (by decide) (by decide)

end RouterSim.Dhcpv6
