import RouterSim.Ospf.TopologyLinks

/-! When the arcs of an accepted database are exactly the reciprocal ones: those an
advertisement of each end describes. -/
namespace RouterSim.Ospf

open List Octets

section Reciprocity

variable (records : List LsaRecord) (version : Version)

/-- Each end describes the other. -/
inductive Reciprocal : TopologyVertexKey → TopologyVertexKey → BitVec 32 → Prop
  | routers {u v : BitVec 32} {type : RouterLinkType} {cost back : BitVec 32} :
    (.router type v, cost) ∈ linksOf records version u →
      (.router type u, back) ∈ linksOf records version v →
        Reciprocal (routerKey u) (routerKey v) cost
  | toNetwork {router id advertiser : BitVec 32} {link : DescribedLink} {cost : BitVec 32} :
    (link, cost) ∈ linksOf records version router → link.names id advertiser →
      router ∈ attachedRouters records version id advertiser →
        Reciprocal (routerKey router) (networkKey id advertiser) cost
  | toRouter {router id advertiser : BitVec 32} {link : DescribedLink} {cost : BitVec 32} :
    router ∈ attachedRouters records version id advertiser →
      (link, cost) ∈ linksOf records version router → link.names id advertiser →
        Reciprocal (networkKey id advertiser) (routerKey router) 0#32

/-- Where looking at the first advertisement, or at none, makes no difference. -/
structure Unambiguous : Prop where
  /-- Of the links between two routers with the same cost, one is answered by the far end's
  first Router-LSA if any is answered. -/
  answered : ∀ u v type cost back, (.router type v, cost) ∈ linksOf records version u →
    (.router type u, back) ∈ linksOf records version v →
      ∃ type' back', (.router type' v, cost) ∈ linksOf records version u ∧
        (.router type' u, back') ∈ firstLinksOf records version v
  /-- A listed router with a link to the network has one in its first Router-LSA. -/
  joined : ∀ id advertiser router link cost,
    router ∈ attachedRouters records version id advertiser →
      (link, cost) ∈ linksOf records version router → link.names id advertiser →
        ∃ link' cost', (link', cost') ∈ firstLinksOf records version router ∧
          link'.names id advertiser
  /-- Of the version two networks with one id, only that of the lowest advertising router lists
  routers with a link to it. -/
  lowest : version = .two → ∀ id advertiser router cost,
    (.network id none, cost) ∈ linksOf records version router →
      router ∈ attachedRouters records version id advertiser →
        ∀ other, records.any (isNetworkRecord version id other) → ¬ other < advertiser
  /-- A version three network lists each router with a link to it. -/
  listed : version = .three → ∀ id advertiser router cost,
    (.network id (some advertiser), cost) ∈ linksOf records version router →
      records.any (isNetworkRecord version id advertiser) →
        router ∈ attachedRouters records version id advertiser

end Reciprocity

variable {advertiser cost : BitVec 32} {u v : TopologyVertexKey}

section Build

variable {sorter : (α : Type) → Sorting.Sorter α} {builder built : TopologyBuilder}
  {records : List LsaRecord} {version : Version} {root : BitVec 32}

variable {described : DescribedLink × BitVec 32}

theorem mem_linksOf {router : BitVec 32} :
    described ∈ linksOf records version router ↔ ∃ record ∈ records,
      isRouterRecord version router record = true ∧ described ∈ describedLinks version record := by
  simp [linksOf, and_assoc]

theorem linksOf_of_firstLinksOf {router : BitVec 32}
    (h : described ∈ firstLinksOf records version router) :
    described ∈ linksOf records version router := by
  unfold firstLinksOf at h
  cases first : findRouterRecord records version router with
  | none => simp [first] at h
  | some record =>
    have own := List.find?_some first
    have mem := mem_of_find?_eq_some first
    exact mem_linksOf.mpr ⟨record, mem, own, by simpa [first] using h⟩

/-- The vertices of the graph, in order. -/
structure Vertices (records : List LsaRecord) (version : Version)
    (keys : List TopologyVertexKey) : Prop where
  strict : keys.Pairwise fun a b => keyLess a b = true
  router : ∀ id, routerKey id ∈ keys ↔ records.any (isRouterRecord version id) = true
  network : ∀ id advertiser, networkKey id advertiser ∈ keys ↔
    records.any (isNetworkRecord version id advertiser) = true

/-- The arcs of the published graph, read off the advertisements. -/
structure Published (records : List LsaRecord) (version : Version)
    (keys : List TopologyVertexKey) (graph : TopologyGraphView) : Prop where
  vertices : Vertices records version keys
  arcs : ∀ u v cost, Arc graph u v cost ↔
    (∃ router described, u = routerKey router ∧ (described, cost) ∈ linksOf records version router ∧
      Leads records keys version router v described) ∨
    (∃ id advertiser router, u = networkKey id advertiser ∧ v = routerKey router ∧ cost = 0#32 ∧
      router ∈ attachedRouters records version id advertiser ∧
        ∃ link back, (link, back) ∈ firstLinksOf records version router ∧ link.names id advertiser)

theorem Vertices.router_mem {keys : List TopologyVertexKey} (vertices : Vertices records version keys)
    {router : BitVec 32}
    (h : described ∈ linksOf records version router) : routerKey router ∈ keys := by
  obtain ⟨record, mem, own, -⟩ := mem_linksOf.mp h
  exact (vertices.router router).mpr (any_eq_true.mpr ⟨record, mem, own⟩)

theorem Vertices.network_mem {keys : List TopologyVertexKey}
    (vertices : Vertices records version keys) {id router : BitVec 32}
    (h : router ∈ attachedRouters records version id advertiser) :
    networkKey id advertiser ∈ keys := by
  obtain ⟨record, mem, -⟩ := mem_flatMap.mp h
  obtain ⟨mem, own⟩ := mem_filter.mp mem
  exact (vertices.network id advertiser).mpr (any_eq_true.mpr ⟨record, mem, own⟩)

theorem Vertices.target_mem {keys : List TopologyVertexKey}
    (vertices : Vertices records version keys) {router : BitVec 32}
    {described : DescribedLink} (h : Leads records keys version router v described) : v ∈ keys := by
  cases described with
  | router type neighbor =>
    obtain ⟨rfl, back, answer⟩ := h
    exact vertices.router_mem (linksOf_of_firstLinksOf answer)
  | network id advertiser => exact mem_of_find?_eq_some h.1

/-- What the edges that are pending at the end come from. -/
structure Gathered (records : List LsaRecord) (version : Version) (root : BitVec 32)
    (keys : List TopologyVertexKey) (pending : PendingArcs) : Prop where
  formed : ∀ record ∈ records, (routerArcs records keys root version record).isSome ∧
    (networkArcs records keys root version record).isSome
  edges : ∀ edge, edge ∈ pending.edges ↔
    (∃ record ∈ records, ∃ edges, routerArcs records keys root version record = some edges ∧
      edge ∈ edges) ∨
    (∃ record ∈ records, ∃ edges, networkArcs records keys root version record = some edges ∧
      edge ∈ edges)

theorem translate_spec {maximumVertices maximumEdges : Nat} {graph : TopologyGraphView}
    (h : translate sorter maximumVertices maximumEdges records version root = some graph) :
    ∃ keys pending, Vertices records version keys ∧ keys.Nodup ∧
      keys.length ≤ maximumVertices ∧ Gathered records version root keys pending ∧
        pending.edges.length ≤ maximumEdges ∧
          pending.hops.length ≤ maximumEcmpPaths.toNat ∧
            publish sorter keys pending root = some graph := by
  unfold translate at h
  split at h
  · cases h
  next found collected =>
  split at h
  · cases h
  next bounds =>
  obtain ⟨distinct, members⟩ := collectKeys_spec collected .nil
  simp only [not_mem_nil, false_or] at members
  obtain ⟨first, routers, rest⟩ := Option.bind_eq_some_iff.mp h
  obtain ⟨pending, networks, published⟩ := Option.bind_eq_some_iff.mp rest
  obtain ⟨room, routersFormed, routerEdges⟩ := appendArcs_edges routers (Nat.zero_le _)
  obtain ⟨room, networksFormed, networkEdges⟩ := appendArcs_edges networks room
  have perm := (sorter TopologyVertexKey).perm keyLess found
  have distinct := perm.nodup_iff.mpr distinct
  have members := fun key => perm.mem_iff.trans (members key)
  have sorted := (sorter TopologyVertexKey).sorted keyLess found keyLess_weak
  have strict := sorted.strict_of_key distinct TopologyVertexKey.tie_inj
  refine ⟨_, pending, ⟨?_, fun _ => routerKey_mem members, fun _ _ => networkKey_mem members⟩,
    distinct, ?_, ⟨?_, ?_⟩, room,
    appendArcs_hops networks (appendArcs_hops routers (Nat.zero_le _)), published⟩
  · exact strict.imp fun less => decide_eq_true less
  · rw [perm.length_eq]
    omega
  · exact fun record mem => ⟨routersFormed record mem, networksFormed record mem⟩
  · intro edge
    rw [networkEdges, routerEdges]
    simp

theorem Gathered.joins {keys : List TopologyVertexKey} {pending : PendingArcs}
    (gathered : Gathered records version root keys pending)
    : (∃ edge ∈ pending.edges, edge.Joins u v cost) ↔
      (∃ router described, u = routerKey router ∧
        (described, cost) ∈ linksOf records version router ∧
          Leads records keys version router v described) ∨
      (∃ id advertiser router, u = networkKey id advertiser ∧ v = routerKey router ∧
        cost = 0#32 ∧ router ∈ attachedRouters records version id advertiser ∧
          ∃ link back, (link, back) ∈ firstLinksOf records version router ∧
            link.names id advertiser) := by
  simp only [gathered.edges, or_and_right, exists_or]
  apply or_congr
  · constructor
    · rintro ⟨edge, ⟨record, mem, edges, arcs, own⟩, joins⟩
      obtain ⟨router, is, source, described, link, leads⟩ :=
        (mem_routerArcs (gathered.formed record mem).1).mp ⟨edges, arcs, edge, own, joins⟩
      exact ⟨router, described, source, mem_linksOf.mpr ⟨record, mem, is, link⟩, leads⟩
    · rintro ⟨router, described, source, link, leads⟩
      obtain ⟨record, mem, is, link⟩ := mem_linksOf.mp link
      obtain ⟨edges, arcs, edge, own, joins⟩ := (mem_routerArcs
        (gathered.formed record mem).1).mpr ⟨router, is, source, described, link, leads⟩
      exact ⟨edge, ⟨record, mem, edges, arcs, own⟩, joins⟩
  · constructor
    · rintro ⟨edge, ⟨record, mem, edges, arcs, own⟩, joins⟩
      obtain ⟨id, advertiser, router, is, listed, source, target, zero, back⟩ :=
        (mem_networkArcs (gathered.formed record mem).2).mp ⟨edges, arcs, edge, own, joins⟩
      refine ⟨id, advertiser, router, source, target, zero, ?_, back⟩
      exact mem_flatMap.mpr ⟨record, mem_filter.mpr ⟨mem, is⟩, listed⟩
    · rintro ⟨id, advertiser, router, source, target, zero, attached, back⟩
      obtain ⟨record, mem, listed⟩ := mem_flatMap.mp attached
      obtain ⟨mem, is⟩ := mem_filter.mp mem
      obtain ⟨edges, arcs, edge, own, joins⟩ := (mem_networkArcs (gathered.formed record mem).2).mpr
        ⟨id, advertiser, router, is, listed, source, target, zero, back⟩
      exact ⟨edge, ⟨record, mem, edges, arcs, own⟩, joins⟩

theorem build_translates (accepted : builder.build sorter records version root = (true, built)) :
    translate sorter builder.maximumVertices builder.maximumEdges records version root =
      some built.graph := by
  unfold TopologyBuilder.build at accepted
  split at accepted
  · cases accepted
  next graph translated =>
  cases accepted
  exact translated

theorem build_published (accepted : builder.build sorter records version root = (true, built)) :
    ∃ keys, Published records version keys built.graph := by
  obtain ⟨keys, pending, vertices, distinct, few, gathered, room, -, published⟩ :=
    translate_spec (build_translates accepted)
  have numbered := builder.numbered
  refine ⟨keys, vertices, fun u v cost => ?_⟩
  rw [publish_arcs published vertices.strict distinct (by omega) (by omega), ← gathered.joins]
  refine ⟨fun h => h.2.2, fun h => ?_⟩
  obtain ⟨router, described, rfl, link, leads⟩ | ⟨id, advertiser, router, rfl, rfl, -, attached,
    named, back, link, -⟩ := gathered.joins.mp h
  · exact ⟨vertices.router_mem link, vertices.target_mem leads, h⟩
  · exact ⟨vertices.network_mem attached, vertices.router_mem (linksOf_of_firstLinksOf link), h⟩

end Build

section Exactness

variable {records : List LsaRecord} {version : Version} {keys : List TopologyVertexKey}
  {graph : TopologyGraphView}

@[simp] theorem routerKey_inj {u v : BitVec 32} : routerKey u = routerKey v ↔ u = v := by
  simp [routerKey]

@[simp] theorem networkKey_inj {id id' advertiser' : BitVec 32} :
    networkKey id advertiser = networkKey id' advertiser' ↔
      id = id' ∧ advertiser = advertiser' := by
  simp [networkKey]

@[simp] theorem routerKey_ne {u id : BitVec 32} : routerKey u ≠ networkKey id advertiser := by
  simp [routerKey, networkKey]

/-- How a link of the version names its network. -/
def networkName (version : Version) (advertiser : BitVec 32) : Option (BitVec 32) :=
  match version with
  | .two => none
  | .three => some advertiser

theorem names_network {id : BitVec 32} :
    (DescribedLink.network id (networkName version advertiser)).names id advertiser := by
  cases version <;> simp [DescribedLink.names, networkName]

theorem eq_network (id advertiser : BitVec 32) {router : BitVec 32} {link : DescribedLink}
    (h : (link, cost) ∈ linksOf records version router) (named : link.names id advertiser) :
    link = .network id (networkName version advertiser) := by
  obtain ⟨record, -, -, described⟩ := mem_linksOf.mp h
  cases version with
  | two =>
    obtain ⟨raw, -, reads⟩ := mem_filterMap.mp described
    cases kind : raw.type <;> simp only [v2Link, kind, Option.some.injEq, Prod.mk.injEq,
      reduceCtorEq] at reads <;> obtain ⟨rfl, -⟩ := reads <;>
      simp_all [DescribedLink.names, networkName]
  | three =>
    obtain ⟨raw, -, reads⟩ := mem_filterMap.mp described
    cases kind : raw.type <;> simp only [v3Link, kind, Option.some.injEq, Prod.mk.injEq,
      reduceCtorEq] at reads <;> obtain ⟨rfl, -⟩ := reads <;>
      simp_all [DescribedLink.names, networkName]

theorem owner_eq {router named : BitVec 32} {owner : Option (BitVec 32)}
    (h : (.network named owner, cost) ∈ linksOf records version router) :
    ∃ advertiser, owner = networkName version advertiser := by
  have naming := eq_network named (owner.getD 0#32) h
  cases owner with
  | none => exact ⟨_, by simpa [DescribedLink.names] using naming (by simp [DescribedLink.names])⟩
  | some advertiser =>
    exact ⟨_, by simpa [DescribedLink.names] using naming (by simp [DescribedLink.names])⟩

theorem findNetworkKey_transit {named : BitVec 32} {owner : Option (BitVec 32)}
    {network : TopologyVertexKey} (h : findNetworkKey keys named owner = some network) :
    network.kind = .transitNetwork ∧ network.id = named ∧
      ∀ advertiser, owner = some advertiser → network.advertisingRouter = advertiser := by
  have hit := List.find?_some h
  simp only [asserted] at hit
  obtain ⟨⟨kind, id⟩, advertiser⟩ := hit
  refine ⟨kind, id, ?_⟩
  rintro _ rfl
  simpa using advertiser

section

variable (published : Published records version keys graph)
include published

theorem Published.routers {u v : BitVec 32} : Arc graph (routerKey u) (routerKey v) cost ↔
      ∃ type back, (.router type v, cost) ∈ linksOf records version u ∧
        (.router type u, back) ∈ firstLinksOf records version v := by
  rw [published.arcs]
  constructor
  · rintro (⟨router, described, source, link, leads⟩ | ⟨id, advertiser, router, source, -⟩)
    · obtain rfl := routerKey_inj.mp source
      cases described with
      | router type neighbor =>
        obtain ⟨target, back, answer⟩ := leads
        obtain rfl := routerKey_inj.mp target
        exact ⟨type, back, link, answer⟩
      | network named owner =>
        have kind := (findNetworkKey_transit leads.1).1
        cases kind
    · exact absurd source routerKey_ne
  · rintro ⟨type, back, link, answer⟩
    exact .inl ⟨u, .router type v, rfl, link, rfl, back, answer⟩

theorem Published.toNetwork {router id : BitVec 32} :
    Arc graph (routerKey router) (networkKey id advertiser) cost ↔
      (.network id (networkName version advertiser), cost) ∈ linksOf records version router ∧
        findNetworkKey keys id (networkName version advertiser) = some (networkKey id advertiser) ∧
        (version = .two → router ∈ attachedRouters records version id advertiser) := by
  rw [published.arcs]
  constructor
  · rintro (⟨a, described, source, link, leads⟩ | ⟨_, _, _, source, -⟩)
    · obtain rfl := routerKey_inj.mp source
      cases described with
      | router type neighbor => exact absurd leads.1.symm routerKey_ne
      | network named owner =>
        obtain ⟨found, attached⟩ := leads
        obtain ⟨-, rfl, same⟩ := findNetworkKey_transit found
        obtain ⟨other, rfl⟩ := owner_eq link
        have owner : networkName version other = networkName version advertiser := by
          cases version with
          | two => rfl
          | three => exact congrArg some (same other rfl).symm
        rw [owner] at link found
        exact ⟨link, found, attached⟩
    · exact absurd source routerKey_ne
  · rintro ⟨link, found, attached⟩
    exact .inl ⟨router, _, rfl, link, found, attached⟩

theorem Published.toRouter {router id : BitVec 32} :
    Arc graph (networkKey id advertiser) (routerKey router) cost ↔
      cost = 0#32 ∧ router ∈ attachedRouters records version id advertiser ∧
        ∃ link back, (link, back) ∈ firstLinksOf records version router ∧
          link.names id advertiser := by
  rw [published.arcs]
  constructor
  · rintro (⟨_, _, source, -⟩ | ⟨id', advertiser', router', source, target, zero, attached, back⟩)
    · exact absurd source.symm routerKey_ne
    · obtain ⟨rfl, rfl⟩ := networkKey_inj.mp source
      obtain rfl := routerKey_inj.mp target
      exact ⟨zero, attached, back⟩
  · rintro ⟨zero, attached, back⟩
    exact .inr ⟨id, advertiser, router, rfl, rfl, zero, attached, back⟩

theorem Published.ends (arc : Arc graph u v cost) :
    (∃ a b, u = routerKey a ∧ v = routerKey b) ∨
      (∃ a id advertiser, u = routerKey a ∧ v = networkKey id advertiser) ∨
        ∃ a id advertiser, u = networkKey id advertiser ∧ v = routerKey a := by
  obtain ⟨a, described, rfl, -, leads⟩ | ⟨id, advertiser, a, rfl, rfl, -⟩ :=
    (published.arcs u v cost).mp arc
  · cases described with
    | router type neighbor => exact .inl ⟨a, neighbor, rfl, leads.1⟩
    | network named owner =>
      obtain ⟨kind, id, -⟩ := findNetworkKey_transit leads.1
      refine .inr (.inl ⟨a, v.id, v.advertisingRouter, rfl, ?_⟩)
      simp [networkKey, ← kind]
  · exact .inr (.inr ⟨a, id, advertiser, rfl, rfl⟩)

omit published in
theorem attached_of_reciprocal {router id : BitVec 32}
    (h : Reciprocal records version (routerKey router) (networkKey id advertiser) cost) :
    router ∈ attachedRouters records version id advertiser := by
  generalize source : routerKey router = u at h
  generalize target : networkKey id advertiser = v at h
  cases h with
  | routers _ _ => exact absurd target.symm routerKey_ne
  | toNetwork _ _ attached =>
    obtain rfl := routerKey_inj.mp source
    obtain ⟨rfl, rfl⟩ := networkKey_inj.mp target
    exact attached
  | toRouter _ _ _ => exact absurd source routerKey_ne

theorem Published.sound (unambiguous : Unambiguous records version) (arc : Arc graph u v cost) :
    Reciprocal records version u v cost := by
  obtain ⟨a, b, rfl, rfl⟩ | ⟨a, id, advertiser, rfl, rfl⟩ | ⟨a, id, advertiser, rfl, rfl⟩ :=
    published.ends arc
  · obtain ⟨type, back, link, answer⟩ := published.routers.mp arc
    exact .routers link (linksOf_of_firstLinksOf answer)
  · obtain ⟨link, found, attached⟩ := published.toNetwork.mp arc
    apply Reciprocal.toNetwork link names_network
    cases version with
    | two => exact attached rfl
    | three =>
      have known := (findNetworkKey_advertised.mp found).2
      exact unambiguous.listed rfl id advertiser a cost link
        ((published.vertices.network id advertiser).mp known)
  · obtain ⟨rfl, attached, link, back, answer, named⟩ := published.toRouter.mp arc
    exact .toRouter attached (linksOf_of_firstLinksOf answer) named

theorem Published.complete (unambiguous : Unambiguous records version)
    (h : Reciprocal records version u v cost) : Arc graph u v cost := by
  cases h with
  | routers link answer =>
    obtain ⟨type, back, link, answer⟩ := unambiguous.answered _ _ _ _ _ link answer
    exact published.routers.mpr ⟨type, back, link, answer⟩
  | @toNetwork router id advertiser link _ described named attached =>
    obtain rfl := eq_network id advertiser described named
    refine published.toNetwork.mpr ⟨described, ?_, fun _ => attached⟩
    have known := published.vertices.network_mem attached
    cases version with
    | two =>
      refine (findNetworkKey_lowest published.vertices.strict).mpr ⟨advertiser, rfl, known, ?_⟩
      intro other there
      exact unambiguous.lowest rfl id advertiser router cost described attached other
        ((published.vertices.network id other).mp there)
    | three => exact findNetworkKey_advertised.mpr ⟨rfl, known⟩
  | toRouter attached described named =>
    exact published.toRouter.mpr
      ⟨rfl, attached, unambiguous.joined _ _ _ _ _ attached described named⟩

theorem Published.unambiguous
    (exact : ∀ u v cost, Arc graph u v cost ↔ Reciprocal records version u v cost) :
    Unambiguous records version where
  answered u v type cost back link answer := by
    obtain ⟨type', back', link, answer⟩ :=
      published.routers.mp ((exact _ _ _).mpr (.routers link answer))
    exact ⟨type', back', link, answer⟩
  joined id advertiser router link cost attached described named :=
    (published.toRouter.mp ((exact _ _ _).mpr (.toRouter attached described named))).2.2
  lowest two id advertiser router cost described attached other there := by
    subst two
    have named : (DescribedLink.network id none).names id advertiser := by
      simp [DescribedLink.names]
    have arc := (exact _ _ _).mpr (.toNetwork described named attached)
    have found := (published.toNetwork.mp arc).2.1
    obtain ⟨owner, same, -, lowest⟩ := (findNetworkKey_lowest published.vertices.strict).mp found
    obtain ⟨-, rfl⟩ := networkKey_inj.mp same
    exact lowest other ((published.vertices.network id other).mpr there)
  listed three id advertiser router cost described there := by
    subst three
    have known := (published.vertices.network id advertiser).mpr there
    have arc := published.toNetwork.mpr
      ⟨described, findNetworkKey_advertised.mpr ⟨rfl, known⟩, Version.noConfusion⟩
    exact attached_of_reciprocal ((exact _ _ _).mp arc)

end

/-- An accepted database gives exactly the reciprocal arcs when it is unambiguous. -/
theorem arcs_reciprocal_iff {sorter : (α : Type) → Sorting.Sorter α}
    {builder built : TopologyBuilder} {root : BitVec 32}
    (accepted : builder.build sorter records version root = (true, built)) :
    (∀ u v cost, Arc built.graph u v cost ↔ Reciprocal records version u v cost) ↔
      Unambiguous records version := by
  obtain ⟨keys, published⟩ := build_published accepted
  constructor
  · exact published.unambiguous
  · intro unambiguous u v cost
    exact ⟨published.sound unambiguous, published.complete unambiguous⟩

end Exactness

section Examples

def v3Advertisement (type : BitVec 16) (id advertiser : BitVec 32) (body : List (BitVec 8)) :
    LsaRecord :=
  { key := { linkStateId := id, advertisingRouter := advertiser, type, scope := .area }
    bytes := octets16 0#16 ++ octets16 type ++ octets32 id ++
      octets32 advertiser ++ octets32 1#32 ++ octets16 0#16 ++
      octets16 (BitVec.ofNat 16 (20 + body.length)) ++ body }

/-- The octets of a version three link with a metric of ten. -/
def v3LinkOctets (type : BitVec 8) (iface neighborInterface neighbor : BitVec 32) :
    List (BitVec 8) :=
  [type, 0#8, 0#8, 10#8] ++ octets32 iface ++ octets32 neighborInterface ++ octets32 neighbor

def twoRouters : List LsaRecord :=
  [v3Advertisement 0x2001#16 0#32 1#32 (octets32 0#32 ++ v3LinkOctets 1#8 7#32 8#32 2#32),
    v3Advertisement 0x2001#16 0#32 2#32 (octets32 0#32 ++ v3LinkOctets 1#8 8#32 7#32 1#32)]

def smallBuilder : TopologyBuilder :=
  { maximumVertices := 8, maximumEdges := 16, numbered := by decide }

/-- A network that does not list the router with a link to it. -/
def unlistedRouter : List LsaRecord :=
  [v3Advertisement 0x2001#16 0#32 1#32 (octets32 0#32 ++ v3LinkOctets 2#8 7#32 5#32 2#32),
    v3Advertisement 0x2001#16 0#32 2#32 (octets32 0#32 ++ v3LinkOctets 2#8 5#32 5#32 2#32),
    v3Advertisement 0x2002#16 5#32 2#32 (octets32 0#32 ++ octets32 2#32)]

/-- The arc into the network is published all the same. -/
theorem unlisted_router_reaches_network : ∃ built,
    smallBuilder.build (fun _ => Sorting.insertion) unlistedRouter .three 1#32 = (true, built) ∧
      Arc built.graph (routerKey 1#32) (networkKey 5#32 2#32) 10#32 ∧
        ¬ Reciprocal unlistedRouter .three (routerKey 1#32) (networkKey 5#32 2#32) 10#32 := by
  refine ⟨_, Prod.ext (by decide +kernel) rfl, ⟨0, by decide +kernel,
    { targetVertex := 2#32, cost := 10#32 }, by decide +kernel, by decide +kernel, rfl⟩, ?_⟩
  intro reciprocal
  have listed : 1#32 ∉ attachedRouters unlistedRouter .three 5#32 2#32 := by decide +kernel
  exact listed (attached_of_reciprocal reciprocal)

theorem twoRouters_links {router : BitVec 32} {link : DescribedLink}
    (h : (link, cost) ∈ linksOf twoRouters .three router) :
    router = 1#32 ∧ link = .router .pointToPoint 2#32 ∧ cost = 10#32 ∨
      router = 2#32 ∧ link = .router .pointToPoint 1#32 ∧ cost = 10#32 := by
  have only : ∀ record ∈ twoRouters,
      (lsaHeader record.bytes .three).map (·.advertisingRouter) = some 1#32 ∧
          describedLinks .three record = [(.router .pointToPoint 2#32, 10#32)] ∨
        (lsaHeader record.bytes .three).map (·.advertisingRouter) = some 2#32 ∧
          describedLinks .three record = [(.router .pointToPoint 1#32, 10#32)] := by
    decide +kernel
  obtain ⟨record, mem, own, described⟩ := mem_linksOf.mp h
  simp only [isRouterRecord, Option.any_eq_true, asserted] at own
  obtain ⟨header, read, -, rfl⟩ := own
  obtain ⟨advertiser, links⟩ | ⟨advertiser, links⟩ := only record mem <;>
    rw [links, mem_singleton, Prod.mk.injEq] at described <;>
    rw [read, Option.map_some, Option.some.injEq] at advertiser
  · exact .inl ⟨advertiser, described⟩
  · exact .inr ⟨advertiser, described⟩

/-- Two routers that describe each other. -/
theorem two_routers_exact : ∃ built,
    smallBuilder.build (fun _ => Sorting.insertion) twoRouters .three 1#32 = (true, built) ∧
      ∀ u v cost, Arc built.graph u v cost ↔ Reciprocal twoRouters .three u v cost := by
  have accepted : smallBuilder.build (fun _ => Sorting.insertion) twoRouters .three 1#32 =
      (true, (smallBuilder.build (fun _ => Sorting.insertion) twoRouters .three 1#32).2) :=
    Prod.ext (by decide +kernel) rfl
  refine ⟨_, accepted, (arcs_reciprocal_iff accepted).mpr ⟨?_, ?_, Version.noConfusion, ?_⟩⟩
  · intro u v type cost back link answer
    have first : (.router .pointToPoint 1#32, 10#32) ∈ firstLinksOf twoRouters .three 2#32 ∧
        (.router .pointToPoint 2#32, 10#32) ∈ firstLinksOf twoRouters .three 1#32 := by
      decide +kernel
    obtain ⟨rfl, same, rfl⟩ | ⟨rfl, same, rfl⟩ := twoRouters_links link <;> cases same
    · exact ⟨_, _, link, first.1⟩
    · exact ⟨_, _, link, first.2⟩
  · intro id advertiser router link cost attached described named
    obtain ⟨rfl, rfl, rfl⟩ | ⟨rfl, rfl, rfl⟩ := twoRouters_links described <;> cases named
  · intro _ id advertiser router cost described
    obtain ⟨_, same, _⟩ | ⟨_, same, _⟩ := twoRouters_links described <;> cases same

end Examples

end RouterSim.Ospf
