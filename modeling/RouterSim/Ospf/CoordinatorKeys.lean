import RouterSim.Ospf.CoordinatorLsas
import RouterSim.Ospf.SplitHorizon
import RouterSim.Ospf.LsaOrigination

/-! The keys of the LSAs a process makes of what the coordinator asks for: advertisements that
are not the same get keys that are not the same, as long as no two networks of one kind begin
alike in version two, and the ids that are kept keep out of the way of those that are counted in
version three. -/
namespace RouterSim.Ospf

open Ip (IpPrefix)
open Option (ite_none_left_eq_some map_eq_some_iff)
open List Table CoordinatorProcess CoordinatorAdvertisement

/-! ## Runs -/

/-- What an advertisement is about. -/
def CoordinatorAdvertisement.identity (a : CoordinatorAdvertisement) :
    CoordinatorAdvertisementKind × IpPrefix × BitVec 32 :=
  (a.kind, a.ipPrefix, a.destinationRouterId)

inductive CoordinatorOp
  /-- The areas are coordinated, and the area is asked for its part and its external routes. -/
  | coordinate (areas : List AreaCoordinationView) (ipv4AddressFamily : Bool) (index : Nat)
      (externalRoutes : List CoordinatorAdvertisement)
      (routes : ∀ a ∈ externalRoutes, a.kind.external = true ∧ a.destinationRouterId = 0#32)
  | apply (now : Time)
  | setSelfSequence (key : LsaKey) (sequence : BitVec 32) (wrapPending : Bool)
  | forget (key : LsaKey)
  /-- Whatever else the process does. It stays the process of its router and its version. -/
  | turn (process : InstanceProcess)

namespace CoordinatorProcess

def start (process : InstanceProcess) : CoordinatorProcess := { toInstanceProcess := process }

def step (process : CoordinatorProcess) : CoordinatorOp → CoordinatorProcess
  | .coordinate areas ipv4AddressFamily index externalRoutes _ =>
    match coordinateAreas areas process.routerId process.version ipv4AddressFamily with
    | none => process
    | some result => (process.reconcile (result.advertisements.getD index [] ++ externalRoutes)).2
  | .apply now => (process.applyAdvertisements now).2
  | .setSelfSequence key sequence wrapPending => process.setSelfSequence key sequence wrapPending
  | .forget key => process.forget key
  | .turn other =>
    { process with
      toInstanceProcess :=
        { other with routerId := process.routerId, version := process.version } }

/-! ## When the keys are apart -/

/-- Asked for, and not advertised so far. -/
def isNew (process : CoordinatorProcess) (a : CoordinatorAdvertisement) : Bool :=
  (process.find a).isNone

/-- What is asked for, and what is advertised. -/
def known (process : CoordinatorProcess) : List CoordinatorAdvertisement :=
  process.pendingAdvertisements ++ process.coordinatorLsas.map (·.advertisement)

/-- The new advertisements that take the next ids. -/
def counted (process : CoordinatorProcess) : List CoordinatorAdvertisement :=
  process.pendingAdvertisements.filter fun a => process.isNew a && !a.hasSource

/-- Two networks of one kind that begin with the same four octets are one. -/
def SeparateNetworks (process : CoordinatorProcess) : Prop :=
  ∀ a ∈ process.pendingAdvertisements, process.isNew a = true → ∀ b ∈ process.known,
    b.kind = a.kind → b.networkId = a.networkId → b.ipPrefix = a.ipPrefix

/-- The counter does not come round, the ids that are kept are none of those it gives next, and
none is that of another network of its kind. -/
structure SeparateIds (process : CoordinatorProcess) : Prop where
  room : process.nextLinkStateId.toNat + process.counted.length < 4294967296
  counter : ∀ a ∈ process.counted, ∀ b ∈ process.known, b.hasSource = true → b.kind = a.kind →
    ¬ (process.nextLinkStateId.toNat ≤ b.sourceLinkStateId.toNat ∧
      b.sourceLinkStateId.toNat < process.nextLinkStateId.toNat + process.counted.length)
  sources : ∀ a ∈ process.pendingAdvertisements, process.isNew a = true → a.hasSource = true →
    ∀ b ∈ process.known, b.hasSource = true → b.kind = a.kind →
      b.sourceLinkStateId = a.sourceLinkStateId → b.ipPrefix = a.ipPrefix
  given : ∀ a ∈ process.pendingAdvertisements, process.isNew a = true → a.hasSource = true →
    ∀ state ∈ process.coordinatorLsas, state.advertisement.hasSource = false →
      state.advertisement.kind = a.kind → state.key.linkStateId = a.sourceLinkStateId →
      state.advertisement.ipPrefix = a.ipPrefix

instance (process : CoordinatorProcess) : Decidable process.SeparateNetworks :=
  inferInstanceAs (Decidable (∀ a ∈ process.pendingAdvertisements, process.isNew a = true →
    ∀ b ∈ process.known, b.kind = a.kind → b.networkId = a.networkId → b.ipPrefix = a.ipPrefix))

def Separate (process : CoordinatorProcess) : Prop :=
  match process.version with
  | .two => process.SeparateNetworks
  | .three => process.SeparateIds

/-- The condition on a step: what is applied is separate. -/
def Meets (process : CoordinatorProcess) : CoordinatorOp → Prop
  | .apply _ => process.reconcilePending = true → process.Separate
  | _ => True

end CoordinatorProcess

/-! ## What the coordinator asks for -/

/-- A router has no prefix, and a prefix no router. -/
def CoordinatorAdvertisement.Canonical (a : CoordinatorAdvertisement) : Prop :=
  if a.kind = .interAreaRouter then a.ipPrefix = {} else a.destinationRouterId = 0#32

section Coordinated

variable {areas : List AreaCoordinationView} {source destination : AreaCoordinationView}
  {route : CalculatedRoute} {a candidate : CoordinatorAdvertisement}
  {output after : List CoordinatorAdvertisement} {localRouterId : BitVec 32} {version : Version}
  {ipv4AddressFamily : Bool}

theorem canonical_retainBest (h : ∀ a ∈ output, a.Canonical) (new : candidate.Canonical) :
    ∀ a ∈ retainBest output candidate, a.Canonical := by
  intro a mem
  obtain mem | rfl := mem_retainBest mem
  · exact h a mem
  · exact new

theorem canonical_addSummary (h : ∀ a ∈ output, a.Canonical) :
    ∀ a ∈ addSummary source output route, a.Canonical := by
  unfold addSummary
  cases summary : routeSummary source route with
  | none => exact h
  | some candidate =>
    have new : candidate.Canonical := by
      obtain ⟨-, made⟩ := ite_none_left_eq_some.mp summary
      obtain rfl := Option.some.inj made
      rfl
    dsimp only
    split
    · intro a mem
      obtain mem | ⟨old, stored, -, rfl⟩ := mem_update mem
      · exact h a mem
      · exact h old stored
    · exact canonical_retainBest h new

theorem canonical_foldl {α : Type}
    {f : List CoordinatorAdvertisement → α → List CoordinatorAdvertisement}
    (step : ∀ output x, (∀ a ∈ output, a.Canonical) → ∀ a ∈ f output x, a.Canonical)
    (l : List α) (h : ∀ a ∈ output, a.Canonical) : ∀ a ∈ l.foldl f output, a.Canonical :=
  Runs.invariant step l h

theorem canonical_summaries :
    ∀ a ∈ summaries areas version ipv4AddressFamily destination, a.Canonical := by
  have default : ∀ a ∈ stubDefault destination version ipv4AddressFamily, a.Canonical := by
    unfold stubDefault
    split
    · exact canonical_retainBest (fun a mem => by cases mem) rfl
    · intro a mem
      cases mem
  unfold summaries
  split
  · exact default
  exact canonical_foldl
    (fun _ source h => canonical_foldl (fun _ _ h => canonical_addSummary h) source.routes h) _
    default

theorem canonical_addExternal (h : ∀ a ∈ output, a.Canonical) :
    ∀ a ∈ addExternal output route, a.Canonical := by
  unfold addExternal
  split
  · exact canonical_retainBest (canonical_retainBest h rfl) rfl
  · exact h

theorem canonical_translateRecord {record : LsaRecord}
    (h : translateRecord version ipv4AddressFamily record = some (some a)) : a.Canonical := by
  obtain ⟨kind, destination⟩ := translateRecord_carried h
  rw [CoordinatorAdvertisement.Canonical, if_neg (by rw [kind]; decide)]
  exact destination

theorem canonical_translateNssa
    (made : translateNssa source localRouterId version ipv4AddressFamily output = some after)
    (h : ∀ a ∈ output, a.Canonical) : ∀ a ∈ after, a.Canonical := by
  unfold translateNssa at made
  split at made
  · obtain rfl := Option.some.inj made
    exact h
  · refine Runs.foldlM_invariant (P := fun output => ∀ a ∈ output, a.Canonical) ?_ made h
    intro output record _ after step h
    obtain ⟨translated, found, rfl⟩ := map_eq_some_iff.mp step
    cases translated with
    | none => exact h
    | some a => exact canonical_retainBest h (canonical_translateRecord found)

/-- A router is asked for without a prefix, and a prefix without a router. -/
theorem canonical_coordinateAreas {result : AreaCoordinationResult}
    (h : coordinateAreas areas localRouterId version ipv4AddressFamily = some result) :
    ∀ output ∈ result.advertisements, ∀ a ∈ output, a.Canonical := by
  obtain ⟨-, h⟩ := ite_none_left_eq_some.mp h
  split at h
  · obtain rfl := Option.some.inj h
    intro output mem a stored
    obtain ⟨_, -, rfl⟩ := mem_map.mp mem
    cases stored
  · obtain ⟨advertisements, made, rfl⟩ := map_eq_some_iff.mp h
    intro output mem
    obtain ⟨destination, -, made⟩ := mem_of_mapM made mem
    unfold areaAdvertisements at made
    split at made
    · refine Runs.foldlM_invariant (P := fun output => ∀ a ∈ output, a.Canonical) ?_ made
        canonical_summaries
      intro output source _ after step h
      exact canonical_translateNssa step
        (canonical_foldl (fun _ _ h => canonical_addExternal h) source.routes h)
    · obtain rfl := Option.some.inj made
      exact canonical_summaries

end Coordinated

/-! ## States that stand for the same -/

/-- The same key for the same advertisement, whatever its sequence number. -/
def CoordinatorLsaState.Like (state other : CoordinatorLsaState) : Prop :=
  state.key = other.key ∧ state.advertisement.key = other.advertisement.key

/-- Every state of the first list is like one of the second. -/
def Within (states others : List CoordinatorLsaState) : Prop :=
  ∀ state ∈ states, ∃ other ∈ others, state.Like other

section Alike

variable {a b : CoordinatorAdvertisement} {states others : List CoordinatorLsaState}
  {state other : CoordinatorLsaState} {index : Nat}

section

variable (h : a.key = b.key)
include h

theorem alike_of_key : a.kind = b.kind ∧ a.ipPrefix = b.ipPrefix ∧
    a.destinationRouterId = b.destinationRouterId ∧ a.sourceLinkStateId = b.sourceLinkStateId := by
  simpa [key] using h

theorem hasSource_of_key : a.hasSource = b.hasSource := by
  obtain ⟨kind, -, -, source⟩ := alike_of_key h
  rw [hasSource, hasSource, kind, source]

theorem versionTwoId_of_key : a.versionTwoId = b.versionTwoId := by
  obtain ⟨kind, network, destination, -⟩ := alike_of_key h
  rw [versionTwoId, versionTwoId,
    networkId, networkId, kind, network, destination]

theorem identity_of_key : a.identity = b.identity := by
  obtain ⟨kind, network, destination, -⟩ := alike_of_key h
  rw [identity, identity, kind, network, destination]

theorem canonical_of_key (canonical : b.Canonical) : a.Canonical := by
  obtain ⟨kind, network, destination, -⟩ := alike_of_key h
  rwa [CoordinatorAdvertisement.Canonical, kind, network, destination]

end

theorem Within.refl (states : List CoordinatorLsaState) : Within states states :=
  fun state mem => ⟨state, mem, rfl, rfl⟩

theorem Within.trans {third : List CoordinatorLsaState} (h : Within states others)
    (h' : Within others third) : Within states third := by
  intro state mem
  obtain ⟨other, mem, same⟩ := h state mem
  obtain ⟨last, mem, same'⟩ := h' other mem
  exact ⟨last, mem, same.1.trans same'.1, same.2.trans same'.2⟩

/-- One state is replaced by another that stands for the same. -/
theorem within_set (here : states[index]? = some other) (like : state.Like other) :
    Within (states.set index state) states ∧ Within states (states.set index state) := by
  constructor
  · intro s mem
    obtain ⟨i, row⟩ := List.getElem?_of_mem mem
    obtain ⟨rfl, rfl⟩ | ⟨-, row⟩ := set_row row
    · exact ⟨other, mem_of_getElem? here, like⟩
    · exact ⟨s, mem_of_getElem? row, rfl, rfl⟩
  · intro s mem
    obtain ⟨i, row⟩ := List.getElem?_of_mem mem
    by_cases same : index = i
    · subst same
      obtain rfl := Option.some.inj (here.symm.trans row)
      refine ⟨state, ?_, like.1.symm, like.2.symm⟩
      exact mem_of_getElem? (List.getElem?_set_self (List.getElem?_eq_some_iff.mp here).1)
    · refine ⟨s, ?_, rfl, rfl⟩
      apply mem_of_getElem?
      rwa [List.getElem?_set_ne same]

end Alike

/-! ## What a step leaves alone -/

/-- The router, its version and what is asked for. -/
structure Stays (process after : CoordinatorProcess) : Prop where
  routerId : after.routerId = process.routerId
  version : after.version = process.version
  pending : after.pendingAdvertisements = process.pendingAdvertisements

section Frame

variable {process after : CoordinatorProcess}

theorem Stays.refl (process : CoordinatorProcess) : Stays process process := ⟨rfl, rfl, rfl⟩

theorem Stays.trans {last : CoordinatorProcess} (h : Stays process after) (h' : Stays after last) :
    Stays process last :=
  ⟨h'.routerId.trans h.routerId, h'.version.trans h.version, h'.pending.trans h.pending⟩

theorem floodKey_instance (p : InstanceProcess) (key : LsaKey) (link : Option (BitVec 32))
    (now : Time) :
    (floodKey p key link now).2.routerId = p.routerId ∧
      (floodKey p key link now).2.version = p.version := by
  unfold floodKey
  cases p.database.find key with
  | none => exact ⟨rfl, rfl⟩
  | some record =>
    unfold floodRecord
    dsimp only
    split
    · exact ⟨rfl, rfl⟩
    split
    · exact ⟨rfl, rfl⟩
    · exact ⟨rfl, rfl⟩

/-- Publishing changes the database and the neighbors only. -/
theorem publish_frame (process : CoordinatorProcess) (state : CoordinatorLsaState)
    (age : BitVec 16) (now : Time) :
    Stays process (process.publish state age now).2 ∧
      (process.publish state age now).2.coordinatorLsas = process.coordinatorLsas ∧
      (process.publish state age now).2.nextLinkStateId = process.nextLinkStateId := by
  unfold CoordinatorProcess.publish
  cases encodeCoordinatorLsa process.toInstance state age with
  | none => exact ⟨.refl _, rfl, rfl⟩
  | some bytes =>
    dsimp only
    split
    · exact ⟨⟨rfl, rfl, rfl⟩, rfl, rfl⟩
    obtain ⟨routerId, version⟩ := floodKey_instance
      (storeLocal process.toInstanceProcess bytes now).2 state.key none now
    exact ⟨⟨routerId, version, rfl⟩, rfl, rfl⟩

end Frame

/-! ## What is held of the keys -/

/-- The keys are those of the advertisements: in version two their ids are, in version three an
id is kept or one the counter has passed. Those of different advertisements differ. -/
structure Allocated (process : CoordinatorProcess) : Prop where
  wanted : ∀ a ∈ process.pendingAdvertisements, a.Canonical
  canonical : ∀ state ∈ process.coordinatorLsas, state.advertisement.Canonical
  key : ∀ state ∈ process.coordinatorLsas,
    state.key = process.keyFor state.advertisement.kind state.key.linkStateId
  network : process.version = .two → ∀ state ∈ process.coordinatorLsas,
    state.key.linkStateId = state.advertisement.versionTwoId
  source : process.version = .three → ∀ state ∈ process.coordinatorLsas,
    state.advertisement.hasSource = true →
      state.key.linkStateId = state.advertisement.sourceLinkStateId
  passed : process.version = .three → ∀ state ∈ process.coordinatorLsas,
    state.advertisement.hasSource = false →
      state.key.linkStateId.toNat < process.nextLinkStateId.toNat
  counting : process.version = .three → 0 < process.nextLinkStateId.toNat
  apart : ∀ state ∈ process.coordinatorLsas, ∀ other ∈ process.coordinatorLsas,
    state.key = other.key → state.advertisement.identity = other.advertisement.identity

section Allocation

variable {process after : CoordinatorProcess} {a : CoordinatorAdvertisement} {now : Time}

theorem allocated_start (process : InstanceProcess) : Allocated (start process) := by
  refine ⟨?_, ?_, ?_, fun _ => ?_, fun _ => ?_, fun _ => ?_,
    fun _ => show 0 < (1#32).toNat by decide, ?_⟩
  all_goals
    intro x mem
    cases mem

theorem keyFor_stays (h : Stays process after) (kind : CoordinatorAdvertisementKind)
    (id : BitVec 32) : after.keyFor kind id = process.keyFor kind id := by
  rw [keyFor, keyFor, h.routerId, h.version]

/-- States like those that were there are as well allocated. -/
theorem Allocated.within (h : Allocated process) (routerId : after.routerId = process.routerId)
    (version : after.version = process.version)
    (wanted : ∀ a ∈ after.pendingAdvertisements, a.Canonical)
    (next : after.nextLinkStateId = process.nextLinkStateId)
    (within : Within after.coordinatorLsas process.coordinatorLsas) : Allocated after := by
  refine ⟨wanted, ?_, ?_, ?_, ?_, ?_, ?_, ?_⟩
  · intro state mem
    obtain ⟨other, known, -, same⟩ := within state mem
    exact canonical_of_key same (h.canonical other known)
  · intro state mem
    obtain ⟨other, known, key, same⟩ := within state mem
    rw [key, (alike_of_key same).1, keyFor, routerId, version]
    exact h.key other known
  · intro two state mem
    obtain ⟨other, known, key, same⟩ := within state mem
    rw [key, versionTwoId_of_key same]
    exact h.network (version.symm.trans two) other known
  · intro three state mem kept
    obtain ⟨other, known, key, same⟩ := within state mem
    rw [hasSource_of_key same] at kept
    rw [key, (alike_of_key same).2.2.2]
    exact h.source (version.symm.trans three) other known kept
  · intro three state mem kept
    obtain ⟨other, known, key, same⟩ := within state mem
    rw [hasSource_of_key same] at kept
    rw [key, next]
    exact h.passed (version.symm.trans three) other known kept
  · intro three
    rw [next]
    exact h.counting (version.symm.trans three)
  · intro state mem other mem' key
    obtain ⟨s, known, here, same⟩ := within state mem
    obtain ⟨t, known', there, same'⟩ := within other mem'
    rw [here, there] at key
    rw [identity_of_key same, identity_of_key same']
    exact h.apart s known t known' key

/-- Where the id of a new state comes from, and what becomes of the counter. -/
structure Creates (process : CoordinatorProcess) (a : CoordinatorAdvertisement)
    (after : CoordinatorProcess) : Prop where
  stays : Stays process after
  network : process.version = .two → (process.create a).1.key.linkStateId = a.versionTwoId ∧
    after.nextLinkStateId = process.nextLinkStateId
  source : process.version = .three → a.hasSource = true →
    (process.create a).1.key.linkStateId = a.sourceLinkStateId ∧
      after.nextLinkStateId = process.nextLinkStateId
  next : process.version = .three → a.hasSource = false →
    (process.create a).1.key.linkStateId = process.nextLinkStateId ∧
      after.nextLinkStateId.toNat = process.nextLinkStateId.toNat + 1

theorem create_spec (process : CoordinatorProcess) (a : CoordinatorAdvertisement)
    (counting : process.version = .three → 0 < process.nextLinkStateId.toNat)
    (room : process.version = .three → a.hasSource = false →
      process.nextLinkStateId.toNat + 1 < 4294967296) : Creates process a (process.create a).2 := by
  have id : (process.create a).1.key.linkStateId = (process.allocateLinkStateId a).1 := rfl
  have next : (process.create a).2.nextLinkStateId =
      (process.allocateLinkStateId a).2.nextLinkStateId := rfl
  have stays : Stays process (process.allocateLinkStateId a).2 →
      Stays process (process.create a).2 := fun h => ⟨h.routerId, h.version, h.pending⟩
  cases version : process.version with
  | two =>
    have allocated : process.allocateLinkStateId a = (a.versionTwoId, process) := by
      rw [allocateLinkStateId, version]
    rw [allocated] at id next stays
    refine ⟨stays (.refl _), fun _ => ⟨id, next⟩, fun three => ?_, fun three => ?_⟩
    · rw [version] at three
      cases three
    · rw [version] at three
      cases three
  | three =>
    have notTwo : process.version ≠ .two := by
      rw [version]
      decide
    cases kept : a.hasSource with
    | true =>
      have allocated : process.allocateLinkStateId a = (a.sourceLinkStateId, process) := by
        rw [allocateLinkStateId, version]
        exact if_pos kept
      rw [allocated] at id next stays
      refine ⟨stays (.refl _), fun two => absurd two notTwo, fun _ _ => ⟨id, next⟩, ?_⟩
      intro _ other
      rw [kept] at other
      cases other
    | false =>
      have nonzero : process.nextLinkStateId ≠ 0#32 := by
        intro zero
        have positive := counting version
        rw [zero] at positive
        cases positive
      have allocated : process.allocateLinkStateId a = (process.nextLinkStateId,
          { process with nextLinkStateId := process.nextLinkStateId + 1#32 }) := by
        rw [allocateLinkStateId, version]
        rw [if_neg (by simp [kept]), if_neg nonzero]
      rw [allocated] at id next stays
      refine ⟨stays ⟨rfl, rfl, rfl⟩, fun two => absurd two notTwo, fun _ other => ?_,
        fun _ _ => ⟨id, ?_⟩⟩
      · rw [kept] at other
        cases other
      · have small := room version kept
        rw [next]
        exact Nat.mod_eq_of_lt small

theorem Creates.grows (h : Creates process a after) (three : process.version = .three) :
    process.nextLinkStateId.toNat ≤ after.nextLinkStateId.toNat := by
  cases kept : a.hasSource with
  | true =>
    exact Nat.le_of_eq (congrArg BitVec.toNat (h.source three kept).2.symm)
  | false =>
    rw [(h.next three kept).2]
    omega

/-- A state is made with a key no other advertisement has. -/
theorem Allocated.create (h : Allocated process) (canonical : a.Canonical)
    (creates : Creates process a (process.create a).2)
    (fresh : ∀ state ∈ process.coordinatorLsas, state.key = (process.create a).1.key →
      state.advertisement.identity = a.identity) : Allocated (process.create a).2 := by
  have stays := creates.stays
  have created : ∀ {p : CoordinatorLsaState → Prop},
      (∀ state ∈ process.coordinatorLsas, p state) → p (process.create a).1 →
      ∀ state ∈ process.coordinatorLsas ++ [(process.create a).1], p state := by
    intro p before this state mem
    obtain mem | mem := mem_append.mp mem
    · exact before state mem
    · rwa [mem_singleton.mp mem]
  refine ⟨?_, created h.canonical canonical, ?_, fun two => ?_, fun three => ?_, fun three => ?_,
    fun three => ?_, ?_⟩
  · rw [stays.pending]
    exact h.wanted
  · intro state mem
    rw [keyFor_stays stays]
    exact created h.key rfl state mem
  · have two := stays.version.symm.trans two
    exact created (h.network two) (creates.network two).1
  · have three := stays.version.symm.trans three
    exact created (h.source three) fun kept => (creates.source three kept).1
  · have three := stays.version.symm.trans three
    have grows := creates.grows three
    apply created
    · intro state mem kept
      exact Nat.lt_of_lt_of_le (h.passed three state mem kept) grows
    · intro kept
      obtain ⟨id, next⟩ := creates.next three kept
      rw [id, next]
      omega
  · have three := stays.version.symm.trans three
    exact Nat.lt_of_lt_of_le (h.counting three) (creates.grows three)
  · apply created
    · intro state mem
      apply created
      · exact h.apart state mem
      · exact fresh state mem
    · apply created
      · intro state mem same
        exact (fresh state mem same.symm).symm
      · intro _
        rfl

end Allocation

/-! ## While the advertisements are applied -/

/-- Between two advertisements: what was there is there, and what is new was asked for. -/
structure Midway (start : CoordinatorProcess) (done : List CoordinatorAdvertisement)
    (process : CoordinatorProcess) : Prop where
  stays : Stays start process
  allocated : Allocated process
  keeps : Within start.coordinatorLsas process.coordinatorLsas
  origin : ∀ state ∈ process.coordinatorLsas, (∃ old ∈ start.coordinatorLsas, state.Like old) ∨
    ∃ a ∈ start.pendingAdvertisements, start.isNew a = true ∧ state.advertisement.key = a.key ∧
      (start.version = .three → a.hasSource = false →
        start.nextLinkStateId.toNat ≤ state.key.linkStateId.toNat)
  lower : start.version = .three → start.nextLinkStateId.toNat ≤ process.nextLinkStateId.toNat
  upper : start.version = .three → process.nextLinkStateId.toNat ≤ start.nextLinkStateId.toNat +
    (done.filter fun a => start.isNew a && !a.hasSource).length

section Applied

variable {start process : CoordinatorProcess} {done rest : List CoordinatorAdvertisement}
  {a : CoordinatorAdvertisement} {now : Time}

theorem isNew_iff : process.isNew a = true ↔
    ∀ state ∈ process.coordinatorLsas, state.advertisement.key ≠ a.key := by
  rw [isNew, find, Option.isNone_iff_eq_none, List.findIdx?_eq_none_iff]
  simp

theorem Midway.isNew (h : Midway start done process) (new : process.isNew a = true) :
    start.isNew a = true := by
  rw [isNew_iff] at new ⊢
  intro state mem same
  obtain ⟨other, known, -, alike⟩ := h.keeps state mem
  exact new other known (alike.symm.trans same)

/-- An advertisement that is held was held at first, or is asked for. -/
theorem Midway.known (h : Midway start done process) :
    ∀ state ∈ process.coordinatorLsas, ∃ b ∈ start.known, state.advertisement.key = b.key := by
  intro state mem
  obtain ⟨old, held, -, same⟩ | ⟨b, asked, -, same, -⟩ := h.origin state mem
  · exact ⟨old.advertisement, mem_append_right _ (mem_map_of_mem held), same⟩
  · exact ⟨b, mem_append_left _ asked, same⟩

theorem kind_of_coordinatorType {version : Version} {kind other : CoordinatorAdvertisementKind}
    (h : coordinatorType version kind = coordinatorType version other) : kind = other := by
  revert h
  cases version <;> cases kind <;> cases other <;> decide

theorem Midway.kind_of_key (h : Midway start done process) {state : CoordinatorLsaState}
    (mem : state ∈ process.coordinatorLsas) (same : state.key = (process.create a).1.key) :
    state.advertisement.kind = a.kind := by
  rw [h.allocated.key state mem] at same
  exact kind_of_coordinatorType (congrArg LsaKey.type same)

/-- The same kind and the same prefix make the same advertisement. -/
theorem identity_of_prefix {b : CoordinatorAdvertisement} (canonical : a.Canonical)
    (canonical' : b.Canonical) (kind : b.kind = a.kind) (network : b.ipPrefix = a.ipPrefix)
    (destination : a.kind = .interAreaRouter → b.destinationRouterId = a.destinationRouterId) :
    b.identity = a.identity := by
  rw [identity, identity, kind, network]
  by_cases router : a.kind = .interAreaRouter
  · rw [destination router]
  · rw [CoordinatorAdvertisement.Canonical, if_neg router] at canonical
    rw [CoordinatorAdvertisement.Canonical, if_neg (by rwa [kind])] at canonical'
    rw [canonical, canonical']

/-- In version two nothing else of its kind begins like a new network. -/
theorem Midway.fresh_two (h : Midway start done process) (two : start.version = .two)
    (separate : start.SeparateNetworks) (asked : a ∈ start.pendingAdvertisements)
    (new : process.isNew a = true) (creates : Creates process a (process.create a).2) :
    ∀ state ∈ process.coordinatorLsas, state.key = (process.create a).1.key →
      state.advertisement.identity = a.identity := by
  intro state mem same
  have two' : process.version = .two := h.stays.version.trans two
  have kind := h.kind_of_key mem same
  have id : state.advertisement.versionTwoId = a.versionTwoId := by
    rw [← h.allocated.network two' state mem, same, (creates.network two').1]
  obtain ⟨b, known, alike⟩ := h.known state mem
  have canonical := h.allocated.wanted a (h.stays.pending ▸ asked)
  have canonical' := h.allocated.canonical state mem
  by_cases router : a.kind = .interAreaRouter
  · apply identity_of_prefix canonical canonical' kind
    · rw [CoordinatorAdvertisement.Canonical, if_pos router] at canonical
      rw [CoordinatorAdvertisement.Canonical, if_pos (kind.trans router)] at canonical'
      rw [canonical, canonical']
    · intro _
      rwa [versionTwoId, versionTwoId, if_pos router, if_pos (kind.trans router)] at id
  · rw [versionTwoId, versionTwoId, if_neg router, if_neg (by rwa [kind])] at id
    obtain ⟨kind', network, -, -⟩ := alike_of_key alike
    have begins : b.networkId = a.networkId := by
      rw [networkId, network] at id
      exact id
    refine identity_of_prefix canonical canonical' kind ?_ (fun other => absurd other router)
    rw [network]
    exact separate a asked (h.isNew new) b known (kind'.symm.trans kind) begins

theorem external_of_hasSource (kept : a.hasSource = true) : a.kind ≠ .interAreaRouter := by
  intro router
  rw [hasSource, router] at kept
  cases kept

/-- In version three an id that is kept is not given otherwise, and the next one is not kept. -/
theorem Midway.fresh_three (h : Midway start done process) (three : start.version = .three)
    (separate : start.SeparateIds) (order : start.pendingAdvertisements = done ++ a :: rest)
    (new : process.isNew a = true) (creates : Creates process a (process.create a).2) :
    ∀ state ∈ process.coordinatorLsas, state.key = (process.create a).1.key →
      state.advertisement.identity = a.identity := by
  intro state mem same
  have three' : process.version = .three := h.stays.version.trans three
  have asked : a ∈ start.pendingAdvertisements := by
    rw [order]
    exact mem_append_right _ mem_cons_self
  have wasNew := h.isNew new
  have kind := h.kind_of_key mem same
  have id : state.key.linkStateId = (process.create a).1.key.linkStateId :=
    congrArg LsaKey.linkStateId same
  obtain ⟨b, known, alike⟩ := h.known state mem
  obtain ⟨kind', network, -, source⟩ := alike_of_key alike
  have kind' : b.kind = a.kind := kind'.symm.trans kind
  have canonical := h.allocated.wanted a (h.stays.pending ▸ asked)
  have canonical' := h.allocated.canonical state mem
  have lower := h.lower three
  have upper := h.upper three
  cases kept : a.hasSource with
  | true =>
    have prefix_ : state.advertisement.ipPrefix = a.ipPrefix → _ := fun network =>
      identity_of_prefix canonical canonical' kind network
        fun router => absurd router (external_of_hasSource kept)
    rw [(creates.source three' kept).1] at id
    cases held : state.advertisement.hasSource with
    | true =>
      rw [h.allocated.source three' state mem held, source] at id
      apply prefix_
      rw [network]
      exact separate.sources a asked wasNew kept b known (hasSource_of_key alike ▸ held) kind' id
    | false =>
      obtain ⟨old, there, key, same⟩ | ⟨c, wanted, fresh, same, least⟩ := h.origin state mem
      · obtain ⟨kind'', network, -, -⟩ := alike_of_key same
        apply prefix_
        rw [network]
        exact separate.given a asked wasNew kept old there (hasSource_of_key same ▸ held)
          (kind''.symm.trans kind) (key ▸ id)
      · -- The id was counted while these advertisements were applied.
        have counted : c ∈ start.counted := by
          have : c.hasSource = false := hasSource_of_key same ▸ held
          exact mem_filter.mpr ⟨wanted, by simp [fresh, this]⟩
        have below := h.allocated.passed three' state mem held
        have least := least three (hasSource_of_key same ▸ held)
        have most : (done.filter fun a => start.isNew a && !a.hasSource).length ≤
            start.counted.length := by
          rw [CoordinatorProcess.counted, order, filter_append, length_append]
          omega
        rw [id] at below least
        exact absurd ⟨least, by omega⟩ (separate.counter c counted a
          (mem_append_left _ asked) kept (kind.symm.trans (alike_of_key same).1))
  | false =>
    have counted : a ∈ start.counted :=
      mem_filter.mpr ⟨asked, by simp [wasNew, kept]⟩
    have more : (done.filter fun a => start.isNew a && !a.hasSource).length <
        start.counted.length := by
      rw [CoordinatorProcess.counted, order, filter_append, length_append,
        filter_cons_of_pos (by simp [wasNew, kept]), length_cons]
      omega
    rw [(creates.next three' kept).1] at id
    cases held : state.advertisement.hasSource with
    | true =>
      rw [h.allocated.source three' state mem held, source] at id
      have kept' : b.hasSource = true := hasSource_of_key alike ▸ held
      exact absurd ⟨by rw [id]; omega, by rw [id]; omega⟩
        (separate.counter a counted b known kept' kind')
    | false =>
      have below := h.allocated.passed three' state mem held
      rw [id] at below
      omega

theorem Midway.like {after : CoordinatorProcess} (h : Midway start done process)
    (stays : Stays process after) (next : after.nextLinkStateId = process.nextLinkStateId)
    (within : Within after.coordinatorLsas process.coordinatorLsas)
    (back : Within process.coordinatorLsas after.coordinatorLsas) : Midway start done after := by
  refine ⟨h.stays.trans stays, ?_, h.keeps.trans back, ?_, ?_, ?_⟩
  · refine h.allocated.within stays.routerId stays.version ?_ next within
    rw [stays.pending]
    exact h.allocated.wanted
  · intro state mem
    obtain ⟨other, known, key, same⟩ := within state mem
    obtain ⟨old, held, key', same'⟩ | ⟨b, asked, new, same', least⟩ := h.origin other known
    · exact .inl ⟨old, held, key.trans key', same.trans same'⟩
    · refine .inr ⟨b, asked, new, same.trans same', ?_⟩
      rw [key]
      exact least
  · rw [next]
    exact h.lower
  · rw [next]
    exact h.upper

variable (h : Midway start done process)
include h

theorem Midway.more : Midway start (done ++ [a]) process := by
  refine ⟨h.stays, h.allocated, h.keeps, h.origin, h.lower, fun three => ?_⟩
  have upper := h.upper three
  rw [filter_append, length_append]
  omega

theorem Midway.published (state : CoordinatorLsaState) (age : BitVec 16) :
    Midway start done (process.publish state age now).2 := by
  obtain ⟨stays, held, next⟩ := publish_frame process state age now
  refine h.like stays next ?_ ?_
  · rw [held]
    exact .refl _
  · rw [held]
    exact .refl _

theorem Midway.setState {index : Nat} {state other : CoordinatorLsaState}
    (here : process.coordinatorLsas[index]? = some other) (like : state.Like other) :
    Midway start done (process.setState index state) :=
  h.like ⟨rfl, rfl, rfl⟩ rfl (within_set here like).1 (within_set here like).2

theorem Midway.create (separate : start.Separate)
    (order : start.pendingAdvertisements = done ++ a :: rest) (new : process.isNew a = true) :
    Midway start (done ++ [a]) (process.create a).2 := by
  have asked : a ∈ start.pendingAdvertisements := by
    rw [order]
    exact mem_append_right _ mem_cons_self
  have wasNew := h.isNew new
  have passes : a.hasSource = false →
      ((done ++ [a]).filter fun a => start.isNew a && !a.hasSource).length =
        (done.filter fun a => start.isNew a && !a.hasSource).length + 1 := by
    intro kept
    rw [filter_append, length_append, filter_cons_of_pos (by simp [wasNew, kept])]
    rfl
  have creates : Creates process a (process.create a).2 := by
    apply create_spec process a h.allocated.counting
    intro three kept
    have three : start.version = .three := h.stays.version.symm.trans three
    rw [CoordinatorProcess.Separate, three] at separate
    have room := separate.room
    have upper := h.upper three
    have counted : ((done ++ [a]).filter fun a => start.isNew a && !a.hasSource).length ≤
        start.counted.length := by
      rw [CoordinatorProcess.counted, order, append_cons done a rest]
      exact ((sublist_append_left (done ++ [a]) rest).filter _).length_le
    rw [passes kept] at counted
    omega
  have fresh : ∀ state ∈ process.coordinatorLsas, state.key = (process.create a).1.key →
      state.advertisement.identity = a.identity := by
    cases version : start.version with
    | two =>
      rw [CoordinatorProcess.Separate, version] at separate
      exact h.fresh_two version separate asked new creates
    | three =>
      rw [CoordinatorProcess.Separate, version] at separate
      exact h.fresh_three version separate order new creates
  refine ⟨h.stays.trans creates.stays,
    h.allocated.create (h.allocated.wanted a (h.stays.pending ▸ asked)) creates fresh, ?_, ?_,
    fun three => ?_, fun three => ?_⟩
  · intro state mem
    obtain ⟨other, known, like⟩ := h.keeps state mem
    exact ⟨other, mem_append_left _ known, like⟩
  · intro state mem
    obtain mem | mem := mem_append.mp mem
    · exact h.origin state mem
    · rw [mem_singleton.mp mem]
      refine .inr ⟨a, asked, wasNew, rfl, fun three kept => ?_⟩
      show _ ≤ (process.create a).1.key.linkStateId.toNat
      rw [(creates.next (h.stays.version.trans three) kept).1]
      exact h.lower three
  · exact Nat.le_trans (h.lower three) (creates.grows (h.stays.version.trans three))
  · have upper := h.upper three
    cases kept : a.hasSource with
    | true =>
      rw [(creates.source (h.stays.version.trans three) kept).2]
      exact h.more.upper three
    | false =>
      rw [(creates.next (h.stays.version.trans three) kept).2, passes kept]
      omega

theorem Midway.desire (separate : start.Separate)
    (order : start.pendingAdvertisements = done ++ a :: rest) :
    Midway start (done ++ [a]) (process.desire a now).process := by
  unfold CoordinatorProcess.desire
  cases found : process.find a with
  | none =>
    have new : process.isNew a = true := by rw [CoordinatorProcess.isNew, found]; rfl
    dsimp only
    split
    · exact h.more
    · exact (h.create separate order new).published _ _
  | some index =>
    obtain ⟨state, here, same⟩ := row_of_findIdx? found
    have same : a.key = state.advertisement.key := (beq_iff_eq.mp same).symm
    dsimp only
    rw [here]
    dsimp only
    have replaced : ∀ next : CoordinatorLsaState, next.Like state →
        Midway start (done ++ [a]) (process.setState index next) :=
      fun next like => h.more.setState here like
    split
    · exact h.more
    split
    · exact replaced _ ⟨rfl, same⟩
    · apply Midway.published
      exact replaced _ ⟨rfl, same⟩

theorem Midway.desireAll (separate : start.Separate)
    (order : start.pendingAdvertisements = done ++ rest) :
    ∃ done', Midway start done' (desireAll now rest process).process := by
  induction rest generalizing done process with
  | nil => exact ⟨done, h⟩
  | cons a rest ih =>
    have next : Midway start (done ++ [a]) (process.desire a now).process := h.desire separate order
    unfold desireAll
    dsimp only
    split
    · exact ⟨_, next⟩
    · exact ih next (by rw [order, append_assoc]; rfl)

theorem Midway.flush {index : Nat} {state other : CoordinatorLsaState}
    (here : process.coordinatorLsas[index]? = some other) (like : state.Like other) :
    Midway start done (process.flush index state now).2 := by
  have published : Midway start done
      ((process.setState index state).publish state maxAgeSeconds now).2 :=
    (h.setState here like).published _ _
  unfold CoordinatorProcess.flush
  dsimp only
  split
  · exact published
  · exact published.like ⟨rfl, rfl, rfl⟩ rfl (.refl _) (.refl _)

theorem Midway.withdraw {index : Nat} {state : CoordinatorLsaState}
    (here : process.coordinatorLsas[index]? = some state) :
    Midway start done (process.withdraw index state now).2 := by
  unfold CoordinatorProcess.withdraw
  split
  · exact h
  · exact h.flush here ⟨rfl, rfl⟩

theorem Midway.withdrawFrom (steps index : Nat) :
    Midway start done (withdrawFrom now steps index process).2 := by
  induction steps generalizing index process with
  | zero => exact h
  | succ steps ih =>
    unfold withdrawFrom
    cases here : process.coordinatorLsas[index]? with
    | none => exact h
    | some state =>
      dsimp only
      split
      · exact h.withdraw here
      · exact ih (h.withdraw here) (index + 1)

end Applied

/-! ## Whole runs -/

section Runs

variable {process : CoordinatorProcess} {now : Time}

variable (h : Allocated process)
include h

theorem Allocated.midway : Midway process [] process := by
  refine ⟨.refl _, h, .refl _, ?_, fun _ => Nat.le_refl _, fun _ => Nat.le_refl _⟩
  intro state mem
  exact .inl ⟨state, mem, rfl, rfl⟩

theorem Allocated.applyAdvertisements (now : Time)
    (separate : process.reconcilePending = true → process.Separate) :
    Allocated (process.applyAdvertisements now).2 := by
  unfold CoordinatorProcess.applyAdvertisements
  by_cases pending : process.reconcilePending = true
  · rw [if_neg (by simp [pending])]
    dsimp only
    obtain ⟨done, desired⟩ : ∃ done, Midway process done
        (desireAll now process.pendingAdvertisements process).process :=
      h.midway.desireAll (separate pending) rfl
    split
    · exact desired.allocated
    have withdrawn : ∀ steps, Allocated (withdrawFrom now steps 0
        (desireAll now process.pendingAdvertisements process).process).2 :=
      fun steps => (desired.withdrawFrom steps 0).allocated
    split
    · exact withdrawn _
    · exact (withdrawn _).within rfl rfl (withdrawn _).wanted rfl (.refl _)
  · rw [if_pos (by simpa using pending)]
    exact h

theorem Allocated.reconcile {advertisements : List CoordinatorAdvertisement}
    (canonical : ∀ a ∈ advertisements, a.Canonical) :
    Allocated (process.reconcile advertisements).2 := by
  unfold CoordinatorProcess.reconcile
  split
  · exact h
  split
  · exact h
  · exact h.within rfl rfl canonical rfl (.refl _)

theorem Allocated.setSelfSequence (key : LsaKey) (sequence : BitVec 32) (wrapPending : Bool) :
    Allocated (process.setSelfSequence key sequence wrapPending) := by
  unfold CoordinatorProcess.setSelfSequence
  split
  · exact h
  refine h.within rfl rfl h.wanted rfl ?_
  intro state mem
  obtain ⟨i, row⟩ := List.getElem?_of_mem mem
  obtain ⟨-, old, here, rfl⟩ | ⟨-, row⟩ := modify_row row
  · exact ⟨old, mem_of_getElem? here, rfl, rfl⟩
  · exact ⟨state, mem_of_getElem? row, rfl, rfl⟩

theorem Allocated.forget (key : LsaKey) : Allocated (process.forget key) := by
  unfold CoordinatorProcess.forget
  split
  · exact h
  split
  · refine h.within rfl rfl h.wanted rfl ?_
    intro state mem
    exact ⟨state, mem_of_mem_eraseIdx mem, rfl, rfl⟩
  · exact h

omit h in
theorem canonical_external {externalRoutes : List CoordinatorAdvertisement}
    (routes : ∀ a ∈ externalRoutes, a.kind.external = true ∧ a.destinationRouterId = 0#32) :
    ∀ a ∈ externalRoutes, a.Canonical := by
  intro a mem
  obtain ⟨external, none⟩ := routes a mem
  rw [CoordinatorAdvertisement.Canonical, if_neg]
  · exact none
  · intro router
    rw [router] at external
    cases external

theorem Allocated.step (op : CoordinatorOp) (meets : process.Meets op) :
    Allocated (process.step op) := by
  cases op with
  | coordinate areas ipv4AddressFamily index externalRoutes routes =>
    unfold CoordinatorProcess.step
    dsimp only
    cases made : coordinateAreas areas process.routerId process.version ipv4AddressFamily with
    | none => exact h
    | some result =>
      apply h.reconcile
      intro a mem
      obtain mem | mem := mem_append.mp mem
      · rw [getD_eq_getElem?_getD] at mem
        cases row : result.advertisements[index]? with
        | none =>
          rw [row] at mem
          cases mem
        | some output =>
          rw [row] at mem
          exact canonical_coordinateAreas made output (mem_of_getElem? row) a mem
      · exact canonical_external routes a mem
  | apply now => exact h.applyAdvertisements now meets
  | setSelfSequence key sequence wrapPending => exact h.setSelfSequence key sequence wrapPending
  | forget key => exact h.forget key
  | turn other => exact h.within rfl rfl h.wanted rfl (.refl _)

end Runs

/-! ## Nothing is overwritten -/

section Records

variable {process : CoordinatorProcess} {state other : CoordinatorLsaState} {age : BitVec 16}
  {now : Time} {bytes : List (BitVec 8)}

theorem coordinatorHeader_fits (inst : Instance) (state : CoordinatorLsaState) (age : BitVec 16) :
    (coordinatorHeader inst state age).Fits := by
  have type : ∀ (version : Version) (kind : CoordinatorAdvertisementKind),
      (version = .two → coordinatorType version kind ≠ 0#16 ∧
        ¬ 0x00ff#16 < coordinatorType version kind) ∧
      (version = .three → coordinatorType version kind &&& 0x1fff#16 ≠ 0#16) := by
    intro version kind
    cases version <;> cases kind <;> decide
  refine ⟨(type inst.version state.advertisement.kind).1, fun two => ?_,
    (type inst.version state.advertisement.kind).2⟩
  have two : inst.version = .two := two
  show ¬ 0x000000ff#32 < if inst.version = .two then _ else 0#32
  rw [if_pos two]
  split
  · decide
  · decide

theorem encodeCoordinatorLsa_finished (inst : Instance)
    (h : encodeCoordinatorLsa inst state age = some bytes) :
    ∃ body, Finished (coordinatorHeader inst state age) body bytes := by
  have fits := coordinatorHeader_fits inst state age
  unfold encodeCoordinatorLsa at h
  dsimp only at h
  split at h
  · split at h
    · obtain ⟨-, written⟩ := ite_none_left_eq_some.mp h
      exact ⟨_, finished fits written⟩
    · obtain ⟨-, written⟩ := ite_none_left_eq_some.mp h
      exact ⟨_, finished fits written⟩
  · split at h
    · obtain ⟨-, written⟩ := ite_none_left_eq_some.mp h
      exact ⟨_, finished fits written⟩
    · obtain ⟨-, written⟩ := ite_none_left_eq_some.mp h
      exact ⟨_, finished fits written⟩
    · obtain ⟨-, written⟩ := ite_none_left_eq_some.mp h
      exact ⟨_, finished fits written⟩

theorem scopeFor_coordinatorType (version : Version) (kind : CoordinatorAdvertisementKind) :
    scopeFor (coordinatorType version kind) version = coordinatorScope kind := by
  cases version <;> cases kind <;> decide

theorem encodeCoordinatorLsa_key (h : Allocated process) (mem : state ∈ process.coordinatorLsas)
    (encoded : encodeCoordinatorLsa process.toInstance state age = some bytes) :
    ∃ header, lsaHeader bytes process.version = some header ∧ lsaKey header = state.key := by
  obtain ⟨body, done⟩ := encodeCoordinatorLsa_finished process.toInstance encoded
  obtain ⟨checksum, read⟩ := done.read
  refine ⟨_, read, ?_⟩
  rw [h.key state mem]
  show LsaKey.mk _ _ _ (scopeFor (coordinatorType process.version state.advertisement.kind)
    process.version) = _
  rw [scopeFor_coordinatorType]
  rfl

theorem floodKey_find_other (p : InstanceProcess) {key other : LsaKey} (link : Option (BitVec 32))
    (now : Time) (different : other ≠ key) :
    (floodKey p key link now).2.database.find other = p.database.find other := by
  unfold floodKey
  cases found : p.database.find key with
  | none => rfl
  | some record =>
    have same : record.key = key := key_of_lookup found
    unfold floodRecord
    dsimp only
    split
    · rfl
    split
    · exact LinkStateDatabase.find_markMaxAgeFlooded_other (by rwa [same])
    · rfl

/-- Publishing the LSA of a state leaves the records under other keys alone. -/
theorem publish_find_other (h : Allocated process) (mem : state ∈ process.coordinatorLsas)
    {key : LsaKey} (different : key ≠ state.key) :
    (process.publish state age now).2.database.find key = process.database.find key := by
  unfold CoordinatorProcess.publish
  cases encoded : encodeCoordinatorLsa process.toInstance state age with
  | none => rfl
  | some bytes =>
    obtain ⟨header, read, same⟩ := encodeCoordinatorLsa_key h mem encoded
    have stored : (storeLocal process.toInstanceProcess bytes now).2.database.find key =
        process.database.find key :=
      LinkStateDatabase.find_install_other read (by rwa [same]) process.routerId false
    dsimp only
    split
    · exact stored
    · exact (floodKey_find_other _ none now different).trans stored

end Records

section Result

/-- In every run in which what is applied is separate, advertisements of different kinds, prefixes
or routers have different keys, and publishing one leaves the record of the other alone. -/
theorem coordinator_keys_apart {process : InstanceProcess} {ops : List CoordinatorOp}
    (separate : Runs.Along CoordinatorProcess.step CoordinatorProcess.Meets (.start process) ops)
    {after : CoordinatorProcess}
    (run : Runs.run CoordinatorProcess.step (.start process) ops = after) :
    ∀ state ∈ after.coordinatorLsas, ∀ other ∈ after.coordinatorLsas,
      state.advertisement.identity ≠ other.advertisement.identity →
      state.key ≠ other.key ∧
        ∀ age now, (after.publish state age now).2.database.find other.key =
          after.database.find other.key := by
  have allocated : Allocated after := by
    rw [← run]
    exact Runs.invariant_along (P := Allocated) (fun _ op h meets => h.step op meets)
      (allocated_start process) separate
  intro state mem other mem' different
  have keys : state.key ≠ other.key :=
    fun same => different (allocated.apart state mem other mem' same)
  exact ⟨keys, fun age now => publish_find_other allocated mem keys.symm⟩

def borderProcess (version : Version) (areaId : BitVec 32) : InstanceProcess where
  routerId := 0x01010101#32
  areaId
  version
  instanceId := 0#8
  nextDdSequence := 1#32
  database := { maximumRecords := 8 }
  maximumNeighborsPerInterface := 1
  maximumLsas := 8
  maximumInterfaces := 1

/-- The backbone with two routes, and an area that is told of them. -/
def toldAreas (first second : BitVec 32) : List AreaCoordinationView :=
  [{ routes := [areaRoute first 8#8 0#32 .intraArea, areaRoute second 16#8 0#32 .intraArea] },
    { areaId := 1#32 }]

def told (first second : BitVec 32) : CoordinatorProcess :=
  Runs.run CoordinatorProcess.step (.start (borderProcess .two 1#32))
    [.coordinate (toldAreas first second) false 1 [] (by simp), .apply 0]

theorem told_keys_apart :
    (told 0x0a000000#32 0x0b000000#32).coordinatorLsas.length = 2 ∧
      ∀ state ∈ (told 0x0a000000#32 0x0b000000#32).coordinatorLsas,
        ∀ other ∈ (told 0x0a000000#32 0x0b000000#32).coordinatorLsas,
        state.advertisement.identity ≠ other.advertisement.identity →
        state.key ≠ other.key ∧ ∀ age now,
          ((told 0x0a000000#32 0x0b000000#32).publish state age now).2.database.find other.key =
            (told 0x0a000000#32 0x0b000000#32).database.find other.key := by
  have separate : Runs.Along CoordinatorProcess.step CoordinatorProcess.Meets
      (.start (borderProcess .two 1#32))
      [.coordinate (toldAreas 0x0a000000#32 0x0b000000#32) false 1 [] (by simp), .apply 0] := by
    refine ⟨trivial, fun _ => ?_, trivial⟩
    show CoordinatorProcess.SeparateNetworks _
    decide +kernel
  refine ⟨by decide +kernel, ?_⟩
  exact coordinator_keys_apart separate rfl

/-- The Type-7 LSA of a router, under the id another router uses as well. -/
def typeSevenRecord (routerId : BitVec 32) (network : Ip.Ipv6) : LsaRecord :=
  let state : CoordinatorLsaState :=
    { advertisement :=
        { ipPrefix := { network := { family := .ipv6, bytes := network }, length := 48#8 }
          forwardingAddressV6 := 0x20010db8000000000000000000000009#128, kind := .nssaExternal }
      key := ⟨1#32, routerId, 0x2007#16, .area⟩ }
  { key := state.key, bytes := (encodeCoordinatorLsa
      { (borderProcess .three 1#32).toInstance with routerId } state 0#16).getD [] }

def translatedAreas : List AreaCoordinationView :=
  [{}, { areaId := 1#32, type := .nssa, nssaTranslateAlways := true
         database :=
           [typeSevenRecord 0x02020202#32 0x20010db8000100000000000000000000#128,
             typeSevenRecord 0x03030303#32 0x20010db8000200000000000000000000#128] }]

def translated : CoordinatorProcess :=
  Runs.run CoordinatorProcess.step (.start (borderProcess .three 0#32))
    [.coordinate translatedAreas false 0 [] (by simp), .apply 0]

/-- 10.0.0.0/8 and 10.0.0.0/16 go under one key in version two, and in version three the routes
that two routers of an NSSA number alike. The database holds one record for both. -/
theorem nested_networks_share_key :
    (∃ state ∈ (told 0x0a000000#32 0x0a000000#32).coordinatorLsas,
      ∃ other ∈ (told 0x0a000000#32 0x0a000000#32).coordinatorLsas,
        state.advertisement.identity ≠ other.advertisement.identity ∧ state.key = other.key) ∧
    (told 0x0a000000#32 0x0a000000#32).database.records.length = 1 ∧
    (∃ state ∈ translated.coordinatorLsas, ∃ other ∈ translated.coordinatorLsas,
      state.advertisement.identity ≠ other.advertisement.identity ∧ state.key = other.key) ∧
    translated.database.records.length = 1 := by
  decide +kernel

end Result

end RouterSim.Ospf
