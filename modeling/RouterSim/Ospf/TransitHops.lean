import RouterSim.Ospf.RouteCalculator
import RouterSim.Ospf.TopologyArcs

/-! The first hops on the way from a version three network to its routers. The builder gives each
of them the interface the network is called after, whichever router the hop leads to. -/
namespace RouterSim.Ospf

open List Option Octets Sorting

section Arcs

/-- An arc of the graph that carries a first hop. -/
def ArcHop (graph : TopologyGraphView) (u v : TopologyVertexKey) (hop : FirstHop) : Prop :=
  ∃ i, graph.keys[i]? = some u ∧ ∃ edge ∈ edgesFrom graph.vertices graph.edges i,
    graph.keys[edge.targetVertex.toNat]? = some v ∧ edge.firstHop ≠ noFirstHop ∧
      graph.firstHops[edge.firstHop.toNat]? = some hop

variable {records : List LsaRecord} {keys : List TopologyVertexKey} {root : BitVec 32}
  {id advertiser router : BitVec 32} {firstHop : Option FirstHop} {pending : PendingArcs}

theorem hopToken_spec {hops : List FirstHop} {token : BitVec 16}
    (h : hopToken hops firstHop = some token)
    (few : hops.length ≤ maximumEcmpPaths.toNat) (hop : FirstHop) :
    token ≠ noFirstHop ∧ hops[token.toNat]? = some hop ↔ firstHop = some hop := by
  cases firstHop with
  | none =>
    obtain rfl : noFirstHop = token := by simpa [hopToken] using h
    simp
  | some own =>
    rw [hopToken] at h
    split at h
    · next found =>
      cases h
      have inside := (List.getElem?_eq_some_iff.mp found).1
      have number : (BitVec.ofNat 16 (lowerBound hopLess hops own)).toNat =
          lowerBound hopLess hops own := by
        rw [BitVec.toNat_ofNat]
        omega
      have known : BitVec.ofNat 16 (lowerBound hopLess hops own) ≠ noFirstHop := by
        intro same
        have same := congrArg BitVec.toNat same
        rw [number, show noFirstHop.toNat = 65535 from rfl] at same
        omega
      rw [number, found]
      simp [known]
    · cases h

/-- The arcs of a Network-LSA: one for each listed router with a link to the network. -/
theorem mem_networkArcs_three {record : LsaRecord} {edges : List TemporaryEdge}
    (arcs : networkArcs records keys root .three record = some edges) {edge : TemporaryEdge} :
    edge ∈ edges ↔ ∃ id advertiser router, isNetworkRecord .three id advertiser record = true ∧
      router ∈ (parseNetwork record.bytes .three).getD [] ∧
        v3NetworkArc records root (networkKey id advertiser) id advertiser router = some edge := by
  cases read : lsaHeader record.bytes .three with
  | none => simp [networkArcs, read] at arcs
  | some header =>
    simp only [networkArcs, read] at arcs
    simp only [isNetworkRecord, read, any_some, asserted]
    split at arcs
    · next other =>
      cases arcs
      simp [other]
    · next function =>
      have function := Decidable.of_not_not function
      split at arcs
      · cases arcs
      next network known =>
      obtain ⟨rfl, -⟩ := findNetworkKey_advertised.mp known
      obtain ⟨routers, parsed, rfl⟩ := map_eq_some_iff.mp arcs
      have parsed : parseNetwork record.bytes .three = some routers := parsed
      simp only [parsed, mem_filterMap, function, true_and]
      constructor
      · rintro ⟨router, listed, made⟩
        exact ⟨_, _, router, ⟨rfl, rfl⟩, listed, made⟩
      · rintro ⟨_, _, router, ⟨rfl, rfl⟩, listed, made⟩
        exact ⟨router, listed, made⟩

theorem routerArcs_source {record : LsaRecord} {edges : List TemporaryEdge}
    (arcs : routerArcs records keys root .three record = some edges) {edge : TemporaryEdge}
    (mem : edge ∈ edges) : ∃ router, edge.source = routerKey router := by
  obtain ⟨router, -, source, -⟩ := (mem_routerArcs (by simp [arcs])).mp
    ⟨edges, arcs, edge, mem, rfl, rfl, rfl⟩
  exact ⟨router, source⟩

/-- The pending edges from a network to a router, with their hops. -/
theorem Gathered.network_hops (gathered : Gathered records .three root keys pending) :
    (∃ edge ∈ pending.edges, edge.source = networkKey id advertiser ∧
        edge.target = routerKey router ∧ edge.firstHop = firstHop) ↔
      router ∈ attachedRouters records .three id advertiser ∧
        v3RouterHasLink records router .transitNetwork advertiser id = true ∧
          v3AttachedHop records root id advertiser router = firstHop := by
  simp only [gathered.edges]
  constructor
  · rintro ⟨edge, ⟨record, mem, edges, arcs, own⟩ | ⟨record, mem, edges, arcs, own⟩, source,
      target, hop⟩
    · obtain ⟨other, same⟩ := routerArcs_source arcs own
      exact absurd (same.symm.trans source) routerKey_ne
    · obtain ⟨_, _, _, is, listed, made⟩ := (mem_networkArcs_three arcs).mp own
      unfold v3NetworkArc at made
      split at made
      · next linked =>
        cases made
        obtain ⟨rfl, rfl⟩ := networkKey_inj.mp source
        obtain rfl := routerKey_inj.mp target
        exact ⟨mem_flatMap.mpr ⟨record, mem_filter.mpr ⟨mem, is⟩, listed⟩, linked, hop⟩
      · cases made
  · rintro ⟨attached, linked, hop⟩
    obtain ⟨record, mem, listed⟩ := mem_flatMap.mp attached
    obtain ⟨mem, is⟩ := mem_filter.mp mem
    obtain ⟨edges, arcs⟩ := isSome_iff_exists.mp (gathered.formed record mem).2
    let edge : TemporaryEdge :=
      { source := networkKey id advertiser, target := routerKey router,
        firstHop := v3AttachedHop records root id advertiser router, cost := 0#32 }
    have made : v3NetworkArc records root (networkKey id advertiser) id advertiser router =
        some edge := by
      rw [v3NetworkArc, if_pos linked]
    exact ⟨edge, .inr ⟨record, mem, edges, arcs, (mem_networkArcs_three arcs).mpr
      ⟨id, advertiser, router, is, listed, made⟩⟩, rfl, rfl, hop⟩

/-- The hops an accepted database puts on the way from a network to a router. -/
theorem arcHop_iff {sorter : (α : Type) → Sorting.Sorter α} {builder built : TopologyBuilder}
    (accepted : builder.build sorter records .three root = (true, built)) {hop : FirstHop} :
    ArcHop built.graph (networkKey id advertiser) (routerKey router) hop ↔
      router ∈ attachedRouters records .three id advertiser ∧
        v3RouterHasLink records router .transitNetwork advertiser id = true ∧
          v3AttachedHop records root id advertiser router = some hop := by
  obtain ⟨keys, pending, vertices, distinct, few, gathered, room, hops, published⟩ :=
    translate_spec (build_translates accepted)
  have numbered := builder.numbered
  have edges := fun cost token => @publish_edges _ _ _ _ _ published vertices.strict distinct
    (by omega) (by omega) (networkKey id advertiser) (routerKey router) cost token
  have spec {own : Option FirstHop} {token : BitVec 16}
      (h : hopToken built.graph.firstHops own = some token) :
      token ≠ noFirstHop ∧ built.graph.firstHops[token.toNat]? = some hop ↔ own = some hop := by
    apply hopToken_spec h
    rw [(publish_keys published).2, ((sorter FirstHop).perm hopLess pending.hops).length_eq]
    exact hops
  rw [← gathered.network_hops]
  constructor
  · rintro ⟨i, at_i, edge, mem, target, token⟩
    obtain ⟨-, -, temporary, pends, source, reached, -, known⟩ :=
      (edges _ _).mp ⟨i, at_i, edge, mem, target, rfl, rfl⟩
    exact ⟨temporary, pends, source, reached, (spec known).mp token⟩
  · rintro ⟨temporary, pends, source, reached, own⟩
    obtain ⟨attached, linked, -⟩ :=
      gathered.network_hops.mp ⟨temporary, pends, source, reached, rfl⟩
    obtain ⟨link, cost, described, -⟩ := v3RouterHasLink_network.mp linked
    have sourceMem : networkKey id advertiser ∈ keys := vertices.network_mem attached
    have targetMem : routerKey router ∈ keys :=
      vertices.router_mem (linksOf_of_firstLinksOf described)
    obtain ⟨token, known⟩ := isSome_iff_exists.mp
      (publish_numbered published vertices.strict pends (source ▸ sourceMem) (reached ▸ targetMem))
    obtain ⟨i, at_i, edge, mem, target, -, same⟩ := (edges temporary.cost token).mpr
      ⟨sourceMem, targetMem, temporary, pends, source, reached, rfl, known⟩
    exact ⟨i, at_i, edge, mem, target, same ▸ (spec known).mpr own⟩

end Arcs

section Resolution

variable (records : List LsaRecord) (ipv4AddressFamily : Bool)
  (root networkId advertiser router : BitVec 32)

/-- A Router-LSA of the router has a link to the network on this interface. -/
def TransitInterface (interface : BitVec 32) : Prop :=
  ∃ record ∈ records, isRouterRecord .three router record = true ∧
    ∃ link ∈ ((parseVersionThreeRouter record.bytes).getD []).filterMap id,
      v3Matches .transitNetwork advertiser networkId link = true ∧ link.interfaceId = interface

/-- A Link-LSA of the router gives the address of this interface. -/
def HasLinkLsa (interface : BitVec 32) : Prop :=
  ∃ record ∈ records, (linkLocalOf
    { neighborRouterId := router, neighborInterface := interface } ipv4AddressFamily record).isSome

/-- The network lists the router, and the first Router-LSAs of the router and of the root have
links to it. -/
def TakesHop : Prop :=
  router ∈ attachedRouters records .three networkId advertiser ∧ router ≠ root ∧
    v3RouterHasLink records router .transitNetwork advertiser networkId = true ∧
      v3RouterHasLink records root .transitNetwork advertiser networkId = true

/-- The hop names an interface of the router on the network, and routes find its address. -/
structure ResolvesTo (hop : FirstHop) : Prop where
  neighbor : hop.neighborRouterId = router
  own : TransitInterface records networkId advertiser router hop.neighborInterface
  address : (resolveHop records true ipv4AddressFamily hop).isSome

instance (interface : BitVec 32) :
    Decidable (TransitInterface records networkId advertiser router interface) :=
  List.decidableBEx _ _

instance (interface : BitVec 32) :
    Decidable (HasLinkLsa records ipv4AddressFamily router interface) :=
  List.decidableBEx _ _

variable {records ipv4AddressFamily root networkId advertiser router}

theorem resolveHop_isSome {hop : FirstHop} :
    (resolveHop records true ipv4AddressFamily hop).isSome ↔
      HasLinkLsa records ipv4AddressFamily hop.neighborRouterId hop.neighborInterface := by
  rw [resolveHop, if_pos rfl, isSome_map, linkLocalFor, List.findSome?_isSome_iff]
  rfl

/-- The interface is the one the network is called after. -/
theorem v3AttachedHop_interface {hop : FirstHop}
    (h : v3AttachedHop records root networkId advertiser router = some hop) :
    hop.neighborRouterId = router ∧ hop.neighborInterface = networkId := by
  unfold v3AttachedHop at h
  split at h
  · obtain ⟨link, found, rfl⟩ := map_eq_some_iff.mp h
    have matched := List.find?_some found
    simp only [v3Matches, asserted] at matched
    exact ⟨rfl, by simpa using matched.2⟩
  · cases h

theorem v3AttachedHop_isSome :
    (v3AttachedHop records root networkId advertiser router).isSome = true ↔
      router ≠ root ∧ v3RouterHasLink records root .transitNetwork advertiser networkId = true := by
  unfold v3AttachedHop v3RouterHasLink
  split
  · next other =>
    simp [other]
  · next same => simp [same]

theorem transit_hop_exists {sorter : (α : Type) → Sorting.Sorter α}
    {builder built : TopologyBuilder}
    (accepted : builder.build sorter records .three root = (true, built)) :
    (∃ hop, ArcHop built.graph (networkKey networkId advertiser) (routerKey router) hop) ↔
      TakesHop records root networkId advertiser router := by
  simp only [arcHop_iff accepted, exists_and_left, ← isSome_iff_exists,
    v3AttachedHop_isSome, TakesHop]
  grind

/-- When the routers have Link-LSAs for their interfaces, the hop to a router resolves exactly
when the network is called after an interface of that router. -/
theorem transit_hop_resolves_iff {sorter : (α : Type) → Sorting.Sorter α}
    {builder built : TopologyBuilder}
    (accepted : builder.build sorter records .three root = (true, built))
    (linkLsas : ∀ interface, TransitInterface records networkId advertiser router interface →
      HasLinkLsa records ipv4AddressFamily router interface) :
    ((∃ hop, ArcHop built.graph (networkKey networkId advertiser) (routerKey router) hop) ↔
        TakesHop records root networkId advertiser router) ∧
      ((∀ hop, ArcHop built.graph (networkKey networkId advertiser) (routerKey router) hop →
          ResolvesTo records ipv4AddressFamily networkId advertiser router hop) ↔
        (TakesHop records root networkId advertiser router →
          TransitInterface records networkId advertiser router networkId)) := by
  refine ⟨transit_hop_exists accepted, ?_, ?_⟩
  · intro resolves takes
    obtain ⟨hop, arc⟩ := (transit_hop_exists accepted).mpr takes
    have attached := ((arcHop_iff accepted).mp arc).2.2
    exact (v3AttachedHop_interface attached).2 ▸ (resolves hop arc).own
  · intro own hop arc
    have attached := ((arcHop_iff accepted).mp arc).2.2
    obtain ⟨neighbor, interface⟩ := v3AttachedHop_interface attached
    have mine := own ((transit_hop_exists accepted).mp ⟨hop, arc⟩)
    refine ⟨neighbor, interface ▸ mine, ?_⟩
    rw [resolveHop_isSome, neighbor, interface]
    exact linkLsas networkId mine

/-- A Router-LSA with one link to the network that the second router calls after its interface. -/
def attachedRouter (router interface : BitVec 32) : LsaRecord :=
  v3Advertisement 0x2001#16 0#32 router (octets32 0#32 ++ v3LinkOctets 2#8 interface 5#32 2#32)

/-- A Link-LSA without prefixes. -/
def linkLsa (router interface : BitVec 32) : LsaRecord :=
  v3Advertisement 0x0008#16 interface router
    (octets32 0#32 ++ octets32 0xfe800000#32 ++ octets32 0#32 ++
      octets32 0#32 ++ octets32 router ++ octets32 0#32)

/-- A network of the routers with these interfaces, and a prefix of the third. -/
def transitRecords (interfaces : List (BitVec 32 × BitVec 32)) : List LsaRecord :=
  interfaces.map (fun entry => attachedRouter entry.1 entry.2) ++
    interfaces.map (fun entry => linkLsa entry.1 entry.2) ++
      [v3Advertisement 0x2002#16 5#32 2#32
          (octets32 0#32 ++ interfaces.flatMap fun entry => octets32 entry.1),
        v3Advertisement 0x2009#16 0#32 3#32
          (octets16 1#16 ++ octets16 0x2001#16 ++ octets32 0#32 ++
            octets32 3#32 ++ [64#8, 0#8, 0#8, 0#8] ++ octets32 0x20010db8#32 ++ octets32 0#32)]

/-- The interfaces of three routers that a network joins. -/
def threeRouters : List LsaRecord := transitRecords [(1#32, 7#32), (2#32, 5#32), (3#32, 6#32)]

def transitGraph (records : List LsaRecord) : TopologyBuilder :=
  (smallBuilder.build (fun _ => insertion) records .three 1#32).2

def transitSpf (graph : TopologyGraphView) : SpfCalculator :=
  ((SpfCalculator.create 8 64).calculate .nearest graph.rootVertex graph.vertices graph.edges
    (BitVec.ofNat 16 graph.firstHops.length)).1

def transitRoutes (records : List LsaRecord) : Bool × RouteCalculator :=
  RouteCalculator.recalculate (fun _ => insertion) .nearest records .three 0#32 false
    (transitGraph records).graph (transitSpf (transitGraph records).graph)
    { maximumRoutes := 8, maximumEqualCostNextHops := 4 } false

/-- A router whose interface has the number of the designated one. -/
theorem same_interface_resolves :
    let records := transitRecords [(1#32, 7#32), (2#32, 5#32), (3#32, 5#32)]
    ((∃ hop, ArcHop (transitGraph records).graph (networkKey 5#32 2#32) (routerKey 3#32) hop) ↔
        TakesHop records 1#32 5#32 2#32 3#32) ∧
      ((∀ hop, ArcHop (transitGraph records).graph (networkKey 5#32 2#32) (routerKey 3#32) hop →
          ResolvesTo records false 5#32 2#32 3#32 hop) ↔
        (TakesHop records 1#32 5#32 2#32 3#32 → TransitInterface records 5#32 2#32 3#32 5#32)) := by
  intro records
  have accepted : smallBuilder.build (fun _ => insertion) records .three 1#32 =
      (true, transitGraph records) := Prod.ext (by decide +kernel) rfl
  apply transit_hop_resolves_iff accepted
  rintro interface ⟨record, mem, own, link, described, matched, rfl⟩
  have only : ((records.filter (isRouterRecord .three 3#32)).all fun record =>
      (((parseVersionThreeRouter record.bytes).getD []).filterMap id).all
        (·.interfaceId == 5#32)) = true := by decide +kernel
  have here := all_eq_true.mp only record (mem_filter.mpr ⟨mem, own⟩)
  rw [beq_iff_eq.mp (all_eq_true.mp here link described)]
  exact show HasLinkLsa records false 3#32 5#32 by decide +kernel

/-- Every router has its own interface on the network and a Link-LSA for it, but the hop to the
third router names the interface of the second, and there are no routes. -/
theorem third_router_unresolved :
    (∀ entry ∈ [(1#32, 7#32), (2#32, 5#32), (3#32, 6#32)],
      TransitInterface threeRouters 5#32 2#32 entry.1 entry.2 ∧
        HasLinkLsa threeRouters false entry.1 entry.2) ∧
      smallBuilder.build (fun _ => insertion) threeRouters .three 1#32 =
          (true, transitGraph threeRouters) ∧
        TakesHop threeRouters 1#32 5#32 2#32 3#32 ∧
          ¬ (∀ hop, ArcHop (transitGraph threeRouters).graph (networkKey 5#32 2#32)
              (routerKey 3#32) hop → ResolvesTo threeRouters false 5#32 2#32 3#32 hop) ∧
            (transitRoutes threeRouters).1 = false := by
  have accepted : smallBuilder.build (fun _ => insertion) threeRouters .three 1#32 =
      (true, transitGraph threeRouters) := Prod.ext (by decide +kernel) rfl
  have takes : TakesHop threeRouters 1#32 5#32 2#32 3#32 :=
    ⟨by decide +kernel, by decide, by decide +kernel, by decide +kernel⟩
  refine ⟨?_, accepted, takes, fun resolves => ?_, by decide +kernel⟩
  · simp
    exact ⟨⟨by decide +kernel, by decide +kernel⟩, ⟨by decide +kernel, by decide +kernel⟩,
      by decide +kernel, by decide +kernel⟩
  · obtain ⟨hop, arc⟩ := (transit_hop_exists accepted).mpr takes
    have attached := ((arcHop_iff accepted).mp arc).2.2
    obtain ⟨-, interface⟩ := v3AttachedHop_interface attached
    have own := interface ▸ (resolves hop arc).own
    have other : ¬ TransitInterface threeRouters 5#32 2#32 3#32 5#32 := by decide +kernel
    exact other own

end Resolution

end RouterSim.Ospf
