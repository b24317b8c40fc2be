import RouterSim.Ip.Address
import RouterSim.Ipsec.Sad
import RouterSim.Lib.Runs
import RouterSim.Lib.Sorting

/-! The ordered security policies, and the indexes a packet is looked up in: whatever was
installed, replaced or erased, the first match is the least of all that match. -/
namespace RouterSim.Ipsec

open List Table Runs

inductive Direction
  | inbound | outbound | forwarding
  deriving DecidableEq

inductive PolicyAction
  | discard | bypass | protect
  deriving DecidableEq

structure PortRange where
  first : BitVec 16 := 0#16
  last : BitVec 16 := 65535#16
  deriving DecidableEq

structure Prefix where
  network : Address := {}
  length : BitVec 8 := 0#8

/-- Zero stands for any protocol, and for any interface. -/
structure TrafficSelector where
  source : Prefix := {}
  destination : Prefix := {}
  upperLayerProtocol : BitVec 8 := 0#8
  sourcePorts : PortRange := {}
  destinationPorts : PortRange := {}
  interfaceId : BitVec 64 := 0#64

structure PacketSelector where
  source : Address := {}
  destination : Address := {}
  upperLayerProtocol : BitVec 8 := 0#8
  sourcePort : BitVec 16 := 0#16
  destinationPort : BitVec 16 := 0#16
  interfaceId : BitVec 64 := 0#64

structure Policy where
  id : BitVec 32 := 0#32
  priority : BitVec 32 := 0#32
  direction : Direction := .outbound
  action : PolicyAction := .discard
  selector : TrafficSelector := {}
  proposalId : BitVec 32 := 0#32

section Selectors

/-- No host bit is set. -/
def validPrefix (p : Prefix) : Bool :=
  validAddress p.network && decide (p.length.toNat ≤ if p.network.family = .ipv4 then 32 else 128) &&
    Ip.mask p.network.bytes p.length.toNat == p.network.bytes

def prefixContains (p : Prefix) (address : Address) : Bool :=
  validPrefix p && validAddress address && p.network.family == address.family &&
    Ip.mask p.network.bytes p.length.toNat == Ip.mask address.bytes p.length.toNat

def validRange (range : PortRange) : Bool := decide (range.first ≤ range.last)

def portMatches (range : PortRange) (port : BitVec 16) : Bool :=
  decide (range.first ≤ port) && decide (port ≤ range.last)

def selectorValid (selector : TrafficSelector) : Bool :=
  validPrefix selector.source && validPrefix selector.destination &&
    selector.source.network.family == selector.destination.network.family &&
    validRange selector.sourcePorts && validRange selector.destinationPorts &&
    (selector.upperLayerProtocol != 0#8 ||
      selector.sourcePorts == {} && selector.destinationPorts == {})

def policyValid (policy : Policy) : Bool :=
  policy.id != 0#32 && selectorValid policy.selector &&
    if policy.action = .protect then policy.proposalId != 0#32 else policy.proposalId == 0#32

def selects (selector : TrafficSelector) (packet : PacketSelector) : Bool :=
  selector.source.network.family == packet.source.family &&
    packet.source.family == packet.destination.family &&
    prefixContains selector.source packet.source &&
    prefixContains selector.destination packet.destination &&
    (selector.interfaceId == 0#64 || selector.interfaceId == packet.interfaceId) &&
    (selector.upperLayerProtocol == 0#8 ||
      selector.upperLayerProtocol == packet.upperLayerProtocol) &&
    portMatches selector.sourcePorts packet.sourcePort &&
    portMatches selector.destinationPorts packet.destinationPort

def lookupBucket (direction : Direction) (family : AddressFamily) : Nat :=
  (match direction with | .inbound => 0 | .outbound => 1 | .forwarding => 2) * 2 +
    if family = .ipv6 then 1 else 0

end Selectors

structure SpdCheckpoint where
  capacity : Nat := 0
  policies : List Policy := []

inductive PolicyInstallResult
  | installed | replaced | invalid | capacityExhausted
  deriving DecidableEq

structure Spd where
  capacity : Nat := 0
  policies : List Policy := []
  lookupIndexes : List (List Nat) := List.replicate 6 []

/-- The smaller priority first, and the smaller id of two with the same. -/
def Policy.before (left right : Policy) : Bool :=
  if left.priority ≠ right.priority then decide (left.priority < right.priority)
  else decide (left.id < right.id)

def Policy.bucket (policy : Policy) : Nat :=
  lookupBucket policy.direction policy.selector.source.network.family

namespace Spd

def rebuildIndexes (spd : Spd) : Spd :=
  { spd with
    lookupIndexes := (List.range 6).map fun bucket =>
      (spd.policies.zipIdx.filter fun row => row.1.bucket == bucket).map (·.2) }

def install (spd : Spd) (policy : Policy) : Spd × PolicyInstallResult :=
  if !policyValid policy then (spd, .invalid)
  else
    let replaced := spd.policies.any (·.id == policy.id)
    if !replaced && decide (spd.capacity ≤ spd.policies.length) then (spd, .capacityExhausted)
    else
      let stored :=
        if replaced then update (·.id) policy.id (fun _ => policy) spd.policies
        else spd.policies ++ [policy]
      (rebuildIndexes { spd with policies := Sorting.sort Policy.before stored },
        if replaced then .replaced else .installed)

def erase (spd : Spd) (id : BitVec 32) : Spd × Bool :=
  if spd.policies.any (·.id == id) then
    (rebuildIndexes { spd with policies := drop (·.id) id spd.policies }, true)
  else (spd, false)

def lookup (spd : Spd) (direction : Direction) (packet : PacketSelector) : Option Policy :=
  if !validAddress packet.source || !validAddress packet.destination ||
      packet.source.family != packet.destination.family then none
  else
    let index := spd.lookupIndexes.getD (lookupBucket direction packet.source.family) []
    (index.find? fun position =>
      spd.policies[position]?.any (selects ·.selector packet)).bind (spd.policies[·]?)

/-- The policies of an image, into an empty database and each as a new one. -/
def stage (spd : Spd) : List Policy → Option Spd
  | [] => some spd
  | policy :: rest =>
    if (spd.install policy).2 ≠ .installed then none else stage (spd.install policy).1 rest

def restore (spd : Spd) (state : SpdCheckpoint) : Spd × Bool :=
  if state.capacity ≠ spd.capacity ∨ spd.capacity < state.policies.length then (spd, false)
  else
    match stage { capacity := spd.capacity } state.policies with
    | none => (spd, false)
    | some staged =>
      if staged.policies.map (fun policy => (policy.priority, policy.id)) ≠
          state.policies.map (fun policy => (policy.priority, policy.id)) then (spd, false)
      else ({ spd with policies := staged.policies, lookupIndexes := staged.lookupIndexes }, true)

theorem before_weak : Sorting.Weak Policy.before where
  asymm a b := by
    unfold Policy.before
    grind
  trans a b c := by
    unfold Policy.before
    intro first second
    split at first <;> split at second <;> split <;>
      simp only [decide_eq_false_iff_not, ne_eq, BitVec.lt_def, ← BitVec.toNat_inj,
        Decidable.not_not] at * <;> omega

theorem before_total {a b : Policy} (other : a.id ≠ b.id) (after : b.before a = false) :
    a.before b = true := by
  unfold Policy.before at *
  split at after <;> split <;>
    simp only [decide_eq_false_iff_not, decide_eq_true_eq, ne_eq, BitVec.lt_def,
      ← BitVec.toNat_inj, Decidable.not_not] at * <;> omega

/-- The policies are in order, each id once, and the indexes are theirs. -/
structure Inv (spd : Spd) : Prop where
  ordered : spd.policies.Pairwise fun a b => a.before b = true
  distinct : (spd.policies.map (·.id)).Nodup
  indexed : spd.lookupIndexes = spd.rebuildIndexes.lookupIndexes

variable {spd : Spd} {policy : Policy}

theorem Inv.sorted {stored : List Policy} (distinct : (stored.map (·.id)).Nodup) :
    (rebuildIndexes { spd with policies := Sorting.sort Policy.before stored }).Inv := by
  have perm := @Sorting.sort_perm _ Policy.before stored
  have ids := (perm.map (·.id)).nodup_iff.mpr distinct
  refine ⟨?_, ids, rfl⟩
  have sorted := Sorting.sort_sorted (l := stored) before_weak
  exact (sorted.and (pairwise_map.mp ids)).imp fun h => before_total h.2 h.1

theorem Inv.install (h : spd.Inv) : (spd.install policy).1.Inv := by
  unfold Spd.install
  split
  · exact h
  dsimp only
  split
  · exact h
  apply Inv.sorted
  split
  · have ids : (update (·.id) policy.id (fun _ => policy) spd.policies).map (·.id) =
      spd.policies.map (·.id) := keys_update fun _ _ => rfl
    exact ids ▸ h.distinct
  next fresh =>
    rw [map_append, nodup_append]
    exact ⟨h.distinct, by simp, by simpa using fresh⟩

theorem Inv.erase (h : spd.Inv) (id : BitVec 32) : (spd.erase id).1.Inv := by
  unfold Spd.erase
  split
  · have fewer : Sublist (drop (·.id) id spd.policies) spd.policies := eraseP_sublist
    exact ⟨h.ordered.sublist fewer, (fewer.map _).nodup h.distinct, rfl⟩
  · exact h

theorem Inv.stage (h : spd.Inv) {policies : List Policy} {staged : Spd}
    (made : spd.stage policies = some staged) : staged.Inv := by
  induction policies generalizing spd with
  | nil => exact Option.some.inj made ▸ h
  | cons policy rest ih =>
    rw [Spd.stage] at made
    split at made
    · cases made
    · exact ih h.install made

theorem Inv.empty (capacity : Nat) : Inv { capacity } := ⟨.nil, nodup_nil, rfl⟩

theorem Inv.restore (h : spd.Inv) (state : SpdCheckpoint) : (spd.restore state).1.Inv := by
  unfold Spd.restore
  split
  · exact h
  split
  · exact h
  next staged made =>
  split
  · exact h
  · have inv := (Inv.empty spd.capacity).stage made
    exact ⟨inv.ordered, inv.distinct, inv.indexed⟩

theorem bucket_eq {policy : Policy} {direction : Direction} {family : AddressFamily} :
    policy.bucket = lookupBucket direction family ↔
      policy.direction = direction ∧ policy.selector.source.network.family = family := by
  unfold Policy.bucket lookupBucket
  cases policy.direction <;> cases direction <;> cases family <;>
    cases policy.selector.source.network.family <;> decide

/-- A search over the places of some rows finds the row. -/
theorem find_places {α : Type} (kind p : α → Bool) (front rows : List α) :
    ((((rows.zipIdx front.length).filter (kind ·.1)).map (·.2)).find? fun place =>
        (front ++ rows)[place]?.any p).bind ((front ++ rows)[·]?) =
      rows.find? fun row => kind row && p row := by
  induction rows generalizing front with
  | nil => rfl
  | cons row rows ih =>
    have here : (front ++ row :: rows)[front.length]? = some row := by simp
    have later := ih (front ++ [row])
    rw [append_assoc, singleton_append, length_append, length_singleton] at later
    rw [zipIdx_cons, filter_cons]
    split
    next own =>
      rw [map_cons, find?_cons]
      simp only [here, Option.any_some]
      cases match_ : p row with
      | true => simp [own, match_]
      | false => simpa [own, match_] using later
    next other => simpa [other] using later

theorem selects_spec {selector : TrafficSelector} {packet : PacketSelector}
    (h : selects selector packet = true) :
    selector.source.network.family = packet.source.family ∧
      validAddress packet.source = true ∧ validAddress packet.destination = true ∧
        packet.source.family = packet.destination.family := by
  simp only [selects, prefixContains, asserted] at h
  grind

/-- The first policy in order that is for the direction and matches. -/
theorem Inv.lookup_eq (h : spd.Inv) (direction : Direction) (packet : PacketSelector) :
    spd.lookup direction packet = spd.policies.find? fun policy =>
      policy.direction == direction && selects policy.selector packet := by
  unfold Spd.lookup
  split
  next refused =>
    symm
    rw [find?_eq_none]
    intro policy _ both
    simp only [asserted] at both
    have := selects_spec both.2
    simp_all
  next =>
    have small : lookupBucket direction packet.source.family < 6 := by
      unfold lookupBucket
      cases direction <;> cases packet.source.family <;> decide
    have places := find_places
      (fun policy => policy.bucket == lookupBucket direction packet.source.family)
      (selects ·.selector packet) [] spd.policies
    rw [h.indexed]
    simp only [rebuildIndexes]
    rw [getD_eq_getElem?_getD, getElem?_map, getElem?_range small]
    refine places.trans (congrArg (spd.policies.find? ·) (funext fun policy => ?_))
    rw [Bool.eq_iff_iff]
    simp only [asserted, bucket_eq]
    have own := @selects_spec policy.selector packet
    grind

/-- Whether this is what a lookup should find. -/
def Answers (spd : Spd) (direction : Direction) (packet : PacketSelector) : Option Policy → Prop
  | none => ∀ policy ∈ spd.policies, policy.direction = direction →
    selects policy.selector packet = false
  | some best => (best ∈ spd.policies ∧ best.direction = direction ∧
      selects best.selector packet = true) ∧
    ∀ other ∈ spd.policies, other.direction = direction → selects other.selector packet = true →
      other = best ∨ best.before other = true

theorem Inv.answers (h : spd.Inv) (direction : Direction) (packet : PacketSelector) :
    spd.Answers direction packet (spd.lookup direction packet) := by
  rw [h.lookup_eq]
  cases found : spd.policies.find? fun policy =>
      policy.direction == direction && selects policy.selector packet with
  | none =>
    intro policy mem same
    simpa [same] using find?_eq_none.mp found policy mem
  | some best =>
    obtain ⟨own, before, after, policies, earlier⟩ := find?_eq_some_iff_append.mp found
    simp only [asserted] at own
    refine ⟨⟨mem_of_find?_eq_some found, own⟩, fun other mem same match_ => ?_⟩
    have ordered := h.ordered
    rw [policies] at mem ordered
    obtain left | right := mem_append.mp mem
    · simpa [same, match_] using earlier other left
    · obtain rfl | right := mem_cons.mp right
      · exact .inl rfl
      · exact .inr ((pairwise_cons.mp (pairwise_append.mp ordered).2.1).1 other right)

end Spd

inductive SpdOp
  | install (policy : Policy)
  | erase (id : BitVec 32)
  | restore (state : SpdCheckpoint)

def Spd.step (spd : Spd) : SpdOp → Spd
  | .install policy => (spd.install policy).1
  | .erase id => (spd.erase id).1
  | .restore state => (spd.restore state).1

theorem Spd.run_inv (capacity : Nat) (ops : List SpdOp) : (run step { capacity } ops).Inv := by
  apply invariant _ ops (Inv.empty capacity)
  intro spd op h
  cases op with
  | install policy => exact h.install
  | erase id => exact h.erase id
  | restore state => exact h.restore state

/-- However the policies got there, a lookup finds the least that matches, and databases that hold
the same policies find the same. -/
theorem Spd.run_lookup (capacity : Nat) (ops : List SpdOp) (direction : Direction)
    (packet : PacketSelector) :
    (run step { capacity } ops).Answers direction packet
        ((run step { capacity } ops).lookup direction packet) ∧
      ∀ (other : Nat) (others : List SpdOp),
        (∀ policy, policy ∈ (run step { capacity } ops).policies ↔
          policy ∈ (run step { capacity := other } others).policies) →
        (run step { capacity } ops).lookup direction packet =
          (run step { capacity := other } others).lookup direction packet := by
  have h := run_inv capacity ops
  refine ⟨h.answers direction packet, fun other others same => ?_⟩
  have h' := run_inv other others
  have asymm : ∀ a b : Policy, a.before b = true → ¬b.before a = true := fun a b less => by
    rw [before_weak.asymm a b less]
    exact Bool.false_ne_true
  have equal := Sorting.eq_of_mem_iff asymm h.ordered h'.ordered same
  rw [h.lookup_eq, h'.lookup_eq, equal]

end RouterSim.Ipsec
