import RouterSim.Lib.Runs
import RouterSim.Ospf.RouteCalculator
import RouterSim.Ospf.SpfTree

/-! Repairs by way of a neighbour. The distances from a neighbour are least, so one that is nearer
to a destination than the way back over the root is never led through the root. -/
namespace RouterSim.Ospf

open List

namespace TopologyGraphView

/-- A path of this cost, below infinity, whatever the tokens on it. -/
def Reaches (graph : TopologyGraphView) (n v k : Nat) : Prop :=
  ∃ t, Path graph.vertices graph.edges n v k t

def Least (graph : TopologyGraphView) (n v k : Nat) : Prop :=
  graph.Reaches n v k ∧ ∀ k', graph.Reaches n v k' → k ≤ k'

/-- A path of this cost through a vertex: one to the vertex and one on from it. -/
def ReachesThrough (graph : TopologyGraphView) (n u v k : Nat) : Prop :=
  ∃ a b, graph.Reaches n u a ∧ graph.Reaches u v b ∧ k = a + b

end TopologyGraphView

section Distances

variable {graph : TopologyGraphView} {n u v : Nat} {count : BitVec 16} {root : Nat}
  {work : DistanceWork} {e : SpfEdge}

abbrev distanceAt (distances : List (BitVec 32)) (v : Nat) : BitVec 32 := distances.getD v 0#32

theorem distanceAt_set {distances : List (BitVec 32)} (inside : u < distances.length)
    (d : BitVec 32) : distanceAt (distances.set u d) v = if v = u then d else distanceAt distances v := by
  by_cases same : v = u
  · subst same
    simp [inside]
  · simp [same, getElem?_set_ne (Ne.symm same)]

/-- What the distances found so far say. -/
structure DistancesSound (graph : TopologyGraphView) (n : Nat) (distances : List (BitVec 32)) :
    Prop where
  length : distances.length = graph.vertices.length
  source : distanceAt distances n = 0#32
  bounded : ∀ v, (distanceAt distances v).toNat ≤ lsInfinity.toNat
  path : ∀ v, v < graph.vertices.length → distanceAt distances v < lsInfinity →
    graph.Reaches n v (distanceAt distances v).toNat

/-- An edge that would bring its target no nearer. -/
def EdgeSettled (distances : List (BitVec 32)) (u : Nat) (e : SpfEdge) : Prop :=
  (distanceAt distances u).toNat + e.cost.toNat < lsInfinity.toNat →
    (distanceAt distances e.targetVertex.toNat).toNat ≤
      (distanceAt distances u).toNat + e.cost.toNat

/-- A vertex that is reached has its edges settled, but for some, or waits with its distance. -/
def DistancesPending (graph : TopologyGraphView) (work : DistanceWork)
    (skip : Nat → SpfEdge → Prop) : Prop :=
  ∀ u, distanceAt work.distances u < lsInfinity →
    (∀ e ∈ edgesFrom graph.vertices graph.edges u, ¬ skip u e → EdgeSettled work.distances u e) ∨
      ∃ c ∈ work.pending, c.vertex.toNat = u ∧ c.distance = distanceAt work.distances u

/-- What is left to do: the candidates, and how much nearer the vertices can come. -/
def distancesLeft (work : DistanceWork) : Nat :=
  work.pending.length + (work.distances.map BitVec.toNat).foldl (· + ·) 0

theorem lt_of_edge (he : e ∈ edgesFrom graph.vertices graph.edges u) :
    u < graph.vertices.length := by
  rw [edgesFrom] at he
  split at he
  · next row => exact (List.getElem?_eq_some_iff.mp row).1
  · cases he

theorem relaxDistance_spec {rest : List SpfEdge}
    (ha : Accepted graph.vertices graph.edges root count)
    (sound : DistancesSound graph n work.distances)
    (pending : DistancesPending graph work fun v e' => v = u ∧ e' ∈ e :: rest)
    (he : e ∈ edgesFrom graph.vertices graph.edges u) :
    ∃ work', relaxDistance (distanceAt work.distances u) work e = work' ∧
      DistancesSound graph n work'.distances ∧
      DistancesPending graph work' (fun v e' => v = u ∧ e' ∈ rest) ∧
      distanceAt work'.distances u = distanceAt work.distances u ∧
      distancesLeft work' ≤ distancesLeft work := by
  have cost := ha.cost u e he
  have others : ∀ {v e'}, ¬ (v = u ∧ e' = e) → ¬ (v = u ∧ e' ∈ rest) →
      ¬ (v = u ∧ e' ∈ e :: rest) := by
    rintro v e' ne skip ⟨same, mem⟩
    rcases mem_cons.mp mem with here | later
    · exact ne ⟨same, here⟩
    · exact skip ⟨same, later⟩
  refine ⟨_, rfl, ?_⟩
  simp only [relaxDistance]
  split
  next unchanged =>
    refine ⟨sound, fun v hv => ?_, rfl, Nat.le_refl _⟩
    refine (pending v hv).imp (fun settled e' he' skip => ?_) id
    by_cases here : v = u ∧ e' = e
    · obtain ⟨rfl, rfl⟩ := here
      intro inf
      simp only [EdgeSettled, distanceAt] at *
      bv_omega
    · exact settled e' he' (others here skip)
  next nearer =>
    have inside : e.targetVertex.toNat < work.distances.length := sound.length ▸ ha.target u e he
    have sum : (distanceAt work.distances u + e.cost).toNat =
        (distanceAt work.distances u).toNat + e.cost.toNat := by bv_omega
    have below : distanceAt work.distances u + e.cost < lsInfinity := by bv_omega
    have lower : (distanceAt work.distances u).toNat + e.cost.toNat <
        (distanceAt work.distances e.targetVertex.toNat).toNat := by
      simp only [distanceAt] at *
      bv_omega
    have apart : u ≠ e.targetVertex.toNat := by
      intro same
      rw [← same] at lower
      omega
    have after := fun v => distanceAt_set (v := v) inside (distanceAt work.distances u + e.cost)
    have never_farther : ∀ v, (distanceAt (work.distances.set e.targetVertex.toNat
        (distanceAt work.distances u + e.cost)) v).toNat ≤ (distanceAt work.distances v).toNat := by
      intro v
      rw [after]
      split
      · next same =>
        rw [same, sum]
        omega
      · exact Nat.le_refl _
    refine ⟨⟨by simpa using sound.length, ?_, fun v => ?_, fun v hv finite => ?_⟩, fun v hv => ?_,
      by rw [after, if_neg apart], ?_⟩
    · have := never_farther n
      rw [sound.source] at this
      exact BitVec.eq_of_toNat_eq (by simpa using this)
    · exact Nat.le_trans (never_farther v) (sound.bounded v)
    · rw [after] at finite ⊢
      split
      next same =>
        obtain ⟨t, path⟩ := sound.path u (lt_of_edge he) (by bv_omega)
        rw [same, sum]
        exact ⟨_, path.extend he (by bv_omega)⟩
      next other =>
        rw [if_neg other] at finite
        exact sound.path v hv finite
    · rw [after] at hv
      by_cases target : v = e.targetVertex.toNat
      · exact .inr ⟨_, mem_append_right _ mem_cons_self, target.symm, by rw [after, if_pos target]⟩
      rw [if_neg target] at hv
      rcases pending v hv with settled | ⟨c, mem, same, current⟩
      · refine .inl fun e' he' skip => ?_
        by_cases here : v = u ∧ e' = e
        · obtain ⟨rfl, rfl⟩ := here
          intro _
          exact Nat.le_of_eq (by rw [after, if_pos rfl, after, if_neg target, sum])
        · intro inf
          rw [after v, if_neg target] at inf ⊢
          exact Nat.le_trans (never_farther _) (settled e' he' (others here skip) inf)
      · exact .inr ⟨c, mem_append_left _ mem, same, by rw [after, if_neg target, current]⟩
    · have := SpfCalculator.total_set (f := BitVec.toNat) (a := 0#32) inside (by rw [sum]; exact lower)
      simp only [distancesLeft, length_append, length_cons, length_nil]
      omega

theorem relaxDistances_spec {todo : List SpfEdge} {distance : BitVec 32}
    (ha : Accepted graph.vertices graph.edges root count)
    (pending : DistancesPending graph work fun v e => v = u ∧ e ∈ todo)
    (sound : DistancesSound graph n work.distances)
    (edges : ∀ e ∈ todo, e ∈ edgesFrom graph.vertices graph.edges u)
    (current : distance = distanceAt work.distances u) :
    ∃ work', todo.foldl (relaxDistance distance) work = work' ∧
      DistancesSound graph n work'.distances ∧ DistancesPending graph work' (fun _ _ => False) ∧
      distancesLeft work' ≤ distancesLeft work := by
  induction todo generalizing work with
  | nil => exact ⟨work, rfl, sound, by simpa using pending, Nat.le_refl _⟩
  | cons e rest ih =>
    subst current
    obtain ⟨next, made, sound', pending', same, less⟩ :=
      relaxDistance_spec ha sound pending (edges e mem_cons_self)
    obtain ⟨work', all, sound'', pending'', less'⟩ := ih pending' sound'
      (fun e' mem => edges e' (mem_cons_of_mem _ mem)) same.symm
    exact ⟨work', by rw [foldl_cons, made, all], sound'', pending'', Nat.le_trans less' less⟩

/-- With fuel for what is left every edge of a reached vertex is settled in the end. -/
theorem searchDistances_spec (heap : CandidateHeap) {fuel : Nat}
    (ha : Accepted graph.vertices graph.edges root count)
    (sound : DistancesSound graph n work.distances)
    (pending : DistancesPending graph work fun _ _ => False) (fueled : distancesLeft work < fuel) :
    DistancesSound graph n (searchDistances heap graph fuel work) ∧
      ∀ u, distanceAt (searchDistances heap graph fuel work) u < lsInfinity →
        ∀ e ∈ edgesFrom graph.vertices graph.edges u,
          EdgeSettled (searchDistances heap graph fuel work) u e := by
  induction fuel generalizing work with
  | zero => omega
  | succ fuel ih =>
    rw [searchDistances]
    by_cases done : work.pending = []
    · rw [done, heap.empty]
      refine ⟨sound, fun u hu e he => ?_⟩
      obtain settled | ⟨c, mem, _⟩ := pending u hu
      · exact settled e he id
      · rw [done] at mem
        cases mem
    · obtain ⟨c, rest, popped, perm, _⟩ := heap.least work.pending done
      have shorter := perm.length_eq
      rw [length_cons] at shorter
      rw [popped]
      have others : ∀ {c' u}, c' ∈ work.pending → c'.vertex.toNat = u →
          ¬ (c.vertex.toNat = u ∧ c.distance = c'.distance) → c' ∈ rest := by
        intro c' u mem same other
        obtain rfl | later := mem_cons.mp (perm.mem_iff.mpr mem)
        · exact absurd ⟨same, rfl⟩ other
        · exact later
      dsimp only
      split
      next stale =>
        have dropped : DistancesPending graph { work with pending := rest } fun _ _ => False :=
          fun u hu => (pending u hu).imp_right fun ⟨c', mem, same, waits⟩ =>
            ⟨c', others mem same fun ⟨here, equal⟩ => stale (by rw [equal, waits, here]), same, waits⟩
        refine ih sound dropped ?_
        simp only [distancesLeft] at fueled ⊢
        omega
      next current =>
        rw [ne_eq, Decidable.not_not] at current
        have taken : DistancesPending graph { work with pending := rest } fun v e =>
            v = c.vertex.toNat ∧ e ∈ edgesFrom graph.vertices graph.edges c.vertex.toNat := by
          intro u hu
          by_cases here : u = c.vertex.toNat
          · exact .inl fun e he skip => absurd ⟨here, here ▸ he⟩ skip
          · exact (pending u hu).imp (fun settled e he _ => settled e he id)
              fun ⟨c', mem, same, waits⟩ =>
                ⟨c', others mem same fun ⟨same', _⟩ => here same'.symm, same, waits⟩
        obtain ⟨work', all, sound', pending', less⟩ :=
          relaxDistances_spec ha taken sound (fun _ mem => mem) current
        rw [all]
        refine ih sound' pending' ?_
        simp only [distancesLeft] at fueled less ⊢
        omega

/-- The distances from a vertex are the least costs of paths below infinity. -/
theorem distancesFrom_exact (heap : CandidateHeap)
    (ha : Accepted graph.vertices graph.edges root count)
    (numbered : graph.vertices.length ≤ 0x100000000) (hn : n < graph.vertices.length)
    (hv : v < graph.vertices.length) (k : Nat) :
    graph.Least n v k ↔ (distanceAt (distancesFrom heap graph n) v).toNat = k ∧
      distanceAt (distancesFrom heap graph n) v < lsInfinity := by
  let start := (replicate graph.vertices.length lsInfinity).set n 0#32
  have here : distanceAt start n = 0#32 := by rw [distanceAt_set (by simpa using hn), if_pos rfl]
  have elsewhere : ∀ v, v < graph.vertices.length → v ≠ n → distanceAt start v = lsInfinity := by
    intro v hv ne
    rw [distanceAt_set (by simpa using hn), if_neg ne]
    simp [hv]
  have finite : ∀ a ∈ start, a.toNat ≤ 0xffffff := by
    intro a mem
    rcases mem_or_eq_of_mem_set mem with initial | rfl
    · rw [eq_of_mem_replicate initial]
      decide
    · decide
  have sound : DistancesSound graph n start := by
    refine ⟨by simp [start], here, fun v => ?_, fun v hv reached => ?_⟩
    · rw [distanceAt, List.getD]
      cases row : start[v]? with
      | none => decide
      | some a => exact finite a (mem_of_getElem? row)
    · by_cases same : v = n
      · subst same
        rw [here]
        exact ⟨none, .start⟩
      · rw [elsewhere v hv same] at reached
        exact absurd reached (by decide)
  have pending : DistancesPending graph
      { distances := start
        pending := [{ distance := 0#32, vertex := BitVec.ofNat 32 n, revision := 0#32 }] }
      fun _ _ => False := by
    intro u hu
    by_cases same : u = n
    · subst same
      exact .inr ⟨_, mem_cons_self, by simp; omega, here.symm⟩
    · refine .inl fun e he => ?_
      rw [elsewhere u (lt_of_edge he) same] at hu
      exact absurd hu (by decide)
  have fueled := SpfCalculator.total_le finite
  obtain ⟨sound, settled⟩ := searchDistances_spec heap ha sound pending <|
    show _ < 2 + graph.vertices.length * 0xffffff by
      simp only [start, length_set, length_replicate] at fueled
      simp only [distancesLeft, length_cons, length_nil, start]
      omega
  have most : ∀ {v k t}, Path graph.vertices graph.edges n v k t →
      (distanceAt (distancesFrom heap graph n) v).toNat ≤ k ∧ k < lsInfinity.toNat := by
    intro v k t path
    induction path with
    | start =>
      have := sound.source
      rw [distancesFrom, this]
      decide
    | extend _ he inf ih =>
      have := settled _ (BitVec.lt_def.mpr (Nat.lt_of_le_of_lt ih.1 ih.2)) _ he
      have := this (Nat.lt_of_le_of_lt (Nat.add_le_add_right ih.1 _) inf)
      exact ⟨Nat.le_trans this (Nat.add_le_add_right ih.1 _), inf⟩
  constructor
  · rintro ⟨⟨t, path⟩, least⟩
    have reached : distanceAt (distancesFrom heap graph n) v < lsInfinity :=
      BitVec.lt_def.mpr (Nat.lt_of_le_of_lt (most path).1 (most path).2)
    exact ⟨Nat.le_antisymm (most path).1 (least _ (sound.path v hv reached)), reached⟩
  · rintro ⟨rfl, reached⟩
    exact ⟨sound.path v hv reached, fun k' ⟨t, path⟩ => (most path).1⟩

end Distances

/-- A repair by way of a first hop: it is no primary hop, and the neighbour's least paths to the
destination do not lead through the root. -/
structure LoopFree (graph : TopologyGraphView) (route : CalculatedRoute) (hop : FirstHop) :
    Prop where
  apart : ∀ primary ∈ route.nextHops, primary.topology ≠ hop
  clear : ∃ n k, vertexForRouter graph hop.neighborRouterId = some n ∧
    graph.Least n route.topologyVertex.toNat k ∧
      ¬ graph.ReachesThrough n graph.rootVertex.toNat route.topologyVertex.toNat k

/-- The alternates of a route were there before or are repairs. -/
def Repaired (graph : TopologyGraphView) (given : List CalculatedNextHop)
    (route : CalculatedRoute) : Prop :=
  ∀ alternate ∈ route.loopFreeAlternates, alternate ∈ given ∨ LoopFree graph route alternate.topology

section Alternates

variable {graph : TopologyGraphView} {spf : SpfCalculator} {count : BitVec 16}
  {records : List LsaRecord} {maximumHops n : Nat} {hop : FirstHop} {route : CalculatedRoute}
  {heap : CandidateHeap} {routes routes' : List CalculatedRoute} {given : List CalculatedNextHop}

/-- A calculation of the distances from the root of a graph. -/
structure Rooted (graph : TopologyGraphView) (spf : SpfCalculator) (count : BitVec 16) : Prop where
  accepted : Accepted graph.vertices graph.edges graph.rootVertex.toNat count
  numbered : graph.vertices.length ≤ 0x100000000
  named : graph.keys.length = graph.vertices.length
  cost : ∀ v k, spf.cost v = some k → graph.Least graph.rootVertex.toNat v k.toNat

theorem vertexForRouter_lt {routerId : BitVec 32} (rooted : Rooted graph spf count)
    (found : vertexForRouter graph routerId = some n) : n < graph.vertices.length :=
  rooted.named ▸ (List.findIdx?_eq_some_iff_getElem.mp found).1

theorem loopFree_of_repairs (rooted : Rooted graph spf count)
    (found : vertexForRouter graph hop.neighborRouterId = some n)
    (repaired : repairs graph spf maximumHops (distancesFrom heap graph n) hop route = true) :
    LoopFree graph route hop := by
  have hn := vertexForRouter_lt rooted found
  rw [repairs] at repaired
  split at repaired
  · cases repaired
  next open_ =>
  split at repaired
  · cases repaired
  next rootDistance known =>
  simp only [asserted, any_eq_false]
    at repaired
  obtain ⟨⟨⟨destination, source⟩, apart⟩, nearer⟩ := repaired
  have hv : route.topologyVertex.toNat < graph.vertices.length := by omega
  have exact := fun v hv => distancesFrom_exact (v := v) heap rooted.accepted rooted.numbered hn hv
  have toDestination := (exact _ hv _).mpr ⟨rfl, destination⟩
  have toSource := (exact _ rooted.accepted.inside _).mpr ⟨rfl, source⟩
  refine ⟨apart, n, _, found, toDestination, ?_⟩
  rintro ⟨a, b, back, onward, sum⟩
  have := toSource.2 a back
  have := (rooted.cost _ _ known).2 b onward
  simp only [distanceAt] at *
  omega

theorem repairBy_repaired (rooted : Rooted graph spf count)
    (made : repairBy heap graph records spf maximumHops routes hop = some routes')
    (before : ∀ route ∈ routes, Repaired graph given route) : ∀ route ∈ routes', Repaired graph given route := by
  obtain ⟨n, found, all⟩ := Option.bind_eq_some_iff.mp made
  intro route mem
  obtain ⟨old, known, made⟩ := Table.mem_of_mapM all mem
  rw [repairRoute] at made
  split at made
  · next repaired =>
    obtain ⟨alternate, resolved, rfl⟩ := Option.map_eq_some_iff.mp made
    have free := loopFree_of_repairs rooted found repaired
    intro other mem'
    rcases mem_append.mp mem' with earlier | last
    · exact (before old known other earlier).imp_right fun free => ⟨free.apart, free.clear⟩
    · rw [mem_singleton.mp last]
      have same : alternate.topology = hop := by
        rw [resolveHop] at resolved
        split at resolved
        · obtain ⟨_, _, rfl⟩ := Option.map_eq_some_iff.mp resolved
          rfl
        · split at resolved
          · cases resolved
          · cases resolved
            rfl
      exact .inr (same ▸ ⟨free.apart, free.clear⟩)
  · cases made
    exact before _ known

theorem calculateLoopFreeAlternates_repaired {sorter : (α : Type) → Sorting.Sorter α}
    (rooted : Rooted graph spf count)
    (made : calculateLoopFreeAlternates heap graph records spf maximumHops sorter routes =
      some routes')
    (before : ∀ route ∈ routes, Repaired graph given route) : ∀ route ∈ routes', Repaired graph given route := by
  rw [calculateLoopFreeAlternates] at made
  split at made
  · cases made
  obtain ⟨repaired, folded, rfl⟩ := Option.map_eq_some_iff.mp made
  intro route mem
  obtain ⟨old, known, rfl⟩ := mem_map.mp mem
  intro alternate mem'
  have all : ∀ route ∈ repaired, Repaired graph given route :=
    Runs.foldlM_invariant (fun _ _ _ _ step h => repairBy_repaired rooted step h) folded before
  exact (all old known alternate (((sorter _).perm _ _).mem_iff.mp mem')).imp_right
    fun free => ⟨free.apart, free.clear⟩

end Alternates

/-- Every hop that the pass adds to a route is a repair without a loop, on every graph that the
calculation of the shortest paths accepts. -/
theorem alternates_loop_free {heap heap' : CandidateHeap} {c spf : SpfCalculator}
    {graph : TopologyGraphView} {count : BitVec 16} {records : List LsaRecord} {maximumHops : Nat}
    {sorter : (α : Type) → Sorting.Sorter α} {routes routes' : List CalculatedRoute}
    (calculated : c.calculate heap' graph.rootVertex graph.vertices graph.edges count = (spf, true))
    (numbered : graph.vertices.length ≤ 0x100000000) (named : graph.keys.length = spf.publishedCount)
    (made : calculateLoopFreeAlternates heap graph records spf maximumHops sorter routes =
      some routes') :
    (∀ route ∈ routes', ∀ alternate ∈ route.loopFreeAlternates,
        alternate ∈ routes.flatMap (·.loopFreeAlternates) ∨
          LoopFree graph route alternate.topology) ∧
      ∀ n v, n < graph.vertices.length → v < graph.vertices.length → ∀ k, graph.Least n v k ↔
        (distanceAt (distancesFrom heap graph n) v).toNat = k ∧
          distanceAt (distancesFrom heap graph n) v < lsInfinity := by
  obtain failed | ⟨scratch, accepts, _, published⟩ :=
    c.calculate_cases heap' graph.rootVertex graph.vertices graph.edges count
  · rw [calculated] at failed
    cases failed
  have accepted := SpfCalculator.accepted accepts
  have exact := (spf_distances_exact heap' c graph.rootVertex graph.vertices graph.edges count).1
    (by rw [calculated])
  have count_eq : spf.publishedCount = graph.vertices.length := by
    rw [calculated] at published
    cases published
    rfl
  have rooted : Rooted graph spf count := ⟨accepted, numbered, named.trans count_eq, fun v k known => by
    have hv : v < graph.vertices.length := by
      rw [SpfCalculator.cost, SpfCalculator.reachable] at known
      split at known
      · next reached =>
        simp only [asserted] at reached
        omega
      · cases known
    rw [calculated] at exact
    obtain ⟨path, least⟩ := ((exact v hv).1 k).mp known
    refine ⟨path, fun k' reaches => ?_⟩
    obtain ⟨t, path'⟩ := reaches
    exact least k' t path'⟩
  refine ⟨calculateLoopFreeAlternates_repaired rooted made fun route mem alternate known =>
    .inl (mem_flatMap.mpr ⟨route, mem, known⟩), fun n v hn hv k =>
      distancesFrom_exact heap accepted numbered hn hv k⟩

/-- Three routers joined by links of cost one. -/
def triangle : TopologyGraphView where
  keys := [1#32, 2#32, 3#32].map fun id => { kind := .router, id, advertisingRouter := id }
  vertices := [⟨0#32, 2#32⟩, ⟨2#32, 2#32⟩, ⟨4#32, 2#32⟩]
  edges :=
    [⟨1#32, 1#32, 0#16⟩, ⟨2#32, 1#32, 1#16⟩, ⟨0#32, 1#32, noFirstHop⟩, ⟨2#32, 1#32, noFirstHop⟩,
      ⟨0#32, 1#32, noFirstHop⟩, ⟨1#32, 1#32, noFirstHop⟩]
  firstHops :=
    [{ neighborRouterId := 2#32, versionTwoNextHop := 2#32 },
      { neighborRouterId := 3#32, versionTwoNextHop := 3#32 }]

def triangleSpf : SpfCalculator :=
  ((SpfCalculator.create 4 16).calculate .nearest triangle.rootVertex triangle.vertices
    triangle.edges 2#16).1

/-- A route to the third router over the link to it, with these alternates. -/
def triangleRoute (loopFreeAlternates : List CalculatedNextHop) : CalculatedRoute where
  nextHops := [{ topology := { neighborRouterId := 3#32, versionTwoNextHop := 3#32 } }]
  loopFreeAlternates
  topologyVertex := 2#32

/-- The way over the second router repairs the route to the third. -/
theorem triangle_repaired :
    let hop : FirstHop := { neighborRouterId := 2#32, versionTwoNextHop := 2#32 }
    calculateLoopFreeAlternates .nearest triangle [] triangleSpf 4 (fun _ => Sorting.insertion)
        [triangleRoute []] = some [triangleRoute [{ topology := hop }]] ∧
      LoopFree triangle (triangleRoute [{ topology := hop }]) hop := by
  intro hop
  have made : calculateLoopFreeAlternates .nearest triangle [] triangleSpf 4
      (fun _ => Sorting.insertion) [triangleRoute []] =
        some [triangleRoute [{ topology := hop }]] := by decide +kernel
  have calculated : (SpfCalculator.create 4 16).calculate .nearest triangle.rootVertex
      triangle.vertices triangle.edges 2#16 = (triangleSpf, true) :=
    Prod.ext rfl (by decide +kernel)
  have free := (alternates_loop_free calculated (by decide) (by decide +kernel) made).1 _
    mem_cons_self _ mem_cons_self
  exact ⟨made, free.resolve_left (by simp [triangleRoute])⟩

end RouterSim.Ospf
