import RouterSim.Ospf.TopologyPublished

/-! The links that routers describe and the routers that networks list, and where the builder
lets each of them lead. It looks for the way back in the first Router-LSA of the far end only,
gives a version two link to one of the networks it names, and does not ask a version three
network whether it lists the router. -/
namespace RouterSim.Ospf

open List

section Descriptions

/-- What a router says it is linked to. A version two link names a network by its id alone. -/
inductive DescribedLink
  | router (type : RouterLinkType) (neighbor : BitVec 32)
  | network (id : BitVec 32) (advertiser : Option (BitVec 32))
  deriving DecidableEq

def DescribedLink.names (id advertiser : BitVec 32) : DescribedLink → Bool
  | .router _ _ => false
  | .network named owner => named == id && owner.all (· == advertiser)

def v2Link (link : VersionTwoRouterLink) : Option (DescribedLink × BitVec 32) :=
  match link.type with
  | .pointToPoint => some (.router .pointToPoint link.linkId, link.metric.setWidth 32)
  | .virtualLink => some (.router .virtualLink link.linkId, link.metric.setWidth 32)
  | .transitNetwork => some (.network link.linkId none, link.metric.setWidth 32)
  | .stubNetwork => none

def v3Link (link : VersionThreeRouterLink) : Option (DescribedLink × BitVec 32) :=
  match link.type with
  | .pointToPoint => some (.router .pointToPoint link.neighborRouterId, link.metric.setWidth 32)
  | .virtualLink => some (.router .virtualLink link.neighborRouterId, link.metric.setWidth 32)
  | .transitNetwork =>
    some (.network link.neighborInterfaceId (some link.neighborRouterId), link.metric.setWidth 32)
  | .stubNetwork => none

def describedLinks (version : Version) (record : LsaRecord) : List (DescribedLink × BitVec 32) :=
  match version with
  | .two => ((parseVersionTwoRouter record.bytes).getD []).filterMap v2Link
  | .three => (((parseVersionThreeRouter record.bytes).getD []).filterMap id).filterMap v3Link

def isNetworkRecord (version : Version) (id advertiser : BitVec 32) (record : LsaRecord) : Bool :=
  (lsaHeader record.bytes version).any fun header =>
    lsaFunction version header == 2#16 && header.linkStateId == id &&
      header.advertisingRouter == advertiser

variable (records : List LsaRecord) (version : Version)

/-- The links with their costs that the Router-LSAs of a router describe. -/
def linksOf (router : BitVec 32) : List (DescribedLink × BitVec 32) :=
  (records.filter (isRouterRecord version router)).flatMap (describedLinks version)

def firstLinksOf (router : BitVec 32) : List (DescribedLink × BitVec 32) :=
  ((findRouterRecord records version router).map (describedLinks version)).getD []

/-- The routers that the Network-LSAs of a network list. -/
def attachedRouters (id advertiser : BitVec 32) : List (BitVec 32) :=
  (records.filter (isNetworkRecord version id advertiser)).flatMap fun record =>
    (parseNetwork record.bytes version).getD []

end Descriptions

variable {advertiser router : BitVec 32} {link : VersionTwoRouterLink} {network : TopologyVertexKey}

section Lookup

variable {records : List LsaRecord} {keys : List TopologyVertexKey} {version : Version}

variable {type : RouterLinkType}

theorem v2Link_router
    {neighbor cost : BitVec 32} : v2Link link = some (.router type neighbor, cost) ↔
      (type = .pointToPoint ∨ type = .virtualLink) ∧ v2Matches type neighbor link = true ∧
        link.metric.setWidth 32 = cost := by
  cases kind : link.type <;> cases type <;> simp [v2Link, v2Matches, kind]

theorem v2Link_names (advertiser : BitVec 32) {id : BitVec 32} :
    (∃ described cost, v2Link link = some (described, cost) ∧ described.names id advertiser) ↔
      v2Matches .transitNetwork id link = true := by
  cases kind : link.type <;> simp [v2Link, v2Matches, kind, DescribedLink.names]

theorem v3Link_router (iface : BitVec 32) {link : VersionThreeRouterLink}
    {neighbor cost : BitVec 32} : v3Link link = some (.router type neighbor, cost) ↔
      (type = .pointToPoint ∨ type = .virtualLink) ∧ v3Matches type neighbor iface link = true ∧
        link.metric.setWidth 32 = cost := by
  cases kind : link.type <;> cases type <;> simp [v3Link, v3Matches, kind]

theorem v3Link_names {link : VersionThreeRouterLink} {id : BitVec 32} :
    (∃ described cost, v3Link link = some (described, cost) ∧ described.names id advertiser) ↔
      v3Matches .transitNetwork advertiser id link = true := by
  cases kind : link.type <;> simp [v3Link, v3Matches, kind, DescribedLink.names, and_comm]

theorem firstLinksOf_two (router : BitVec 32) :
    firstLinksOf records .two router = (v2RouterLinks records router).filterMap v2Link := by
  unfold firstLinksOf v2RouterLinks
  cases findRouterRecord records .two router <;> rfl

theorem firstLinksOf_three (router : BitVec 32) :
    firstLinksOf records .three router = (v3RouterLinks records router).filterMap v3Link := by
  unfold firstLinksOf v3RouterLinks
  cases findRouterRecord records .three router <;> rfl

theorem v2RouterHasLink_router {target : BitVec 32}
    (kind : type = .pointToPoint ∨ type = .virtualLink) :
    v2RouterHasLink records router type target = true ↔
      ∃ cost, (.router type target, cost) ∈ firstLinksOf records .two router := by
  simp only [v2RouterHasLink, any_eq_true, firstLinksOf_two, mem_filterMap, v2Link_router, kind,
    settled]
  constructor
  · rintro ⟨link, mem, same⟩
    exact ⟨_, link, mem, same, rfl⟩
  · rintro ⟨_, link, mem, same, _⟩
    exact ⟨link, mem, same⟩

theorem v3RouterHasLink_router {target iface : BitVec 32}
    (kind : type = .pointToPoint ∨ type = .virtualLink) :
    v3RouterHasLink records router type target iface = true ↔
      ∃ cost, (.router type target, cost) ∈ firstLinksOf records .three router := by
  simp only [v3RouterHasLink, any_eq_true, firstLinksOf_three, mem_filterMap, v3Link_router iface,
    kind, settled]
  constructor
  · rintro ⟨link, mem, same⟩
    exact ⟨_, link, mem, same, rfl⟩
  · rintro ⟨_, link, mem, same, _⟩
    exact ⟨link, mem, same⟩

theorem v2RouterHasLink_network {id : BitVec 32} :
    v2RouterHasLink records router .transitNetwork id = true ↔
      ∃ link cost, (link, cost) ∈ firstLinksOf records .two router ∧ link.names id advertiser := by
  simp only [v2RouterHasLink, any_eq_true, firstLinksOf_two, mem_filterMap,
    ← v2Link_names advertiser]
  constructor
  · rintro ⟨link, mem, described, cost, reads, named⟩
    exact ⟨described, cost, ⟨link, mem, reads⟩, named⟩
  · rintro ⟨described, cost, ⟨link, mem, reads⟩, named⟩
    exact ⟨link, mem, described, cost, reads, named⟩

theorem v3RouterHasLink_network {id : BitVec 32} :
    v3RouterHasLink records router .transitNetwork advertiser id = true ↔
      ∃ link cost, (link, cost) ∈ firstLinksOf records .three router ∧
        link.names id advertiser := by
  simp only [v3RouterHasLink, any_eq_true, firstLinksOf_three, mem_filterMap, ← v3Link_names]
  constructor
  · rintro ⟨link, mem, described, cost, reads, named⟩
    exact ⟨described, cost, ⟨link, mem, reads⟩, named⟩
  · rintro ⟨described, cost, ⟨link, mem, reads⟩, named⟩
    exact ⟨link, mem, described, cost, reads, named⟩

theorem parseNetwork_function {bytes : List (BitVec 8)} {routers : List (BitVec 32)}
    (h : parseNetwork bytes version = some routers) :
    ∃ header, lsaHeader bytes version = some header ∧ lsaFunction version header = 2#16 := by
  unfold parseNetwork bodyHeader at h
  cases read : lsaHeader bytes version with
  | none => simp [read] at h
  | some header =>
    refine ⟨header, rfl, ?_⟩
    apply Decidable.of_not_not
    intro other
    simp only [read] at h
    split at h
    · cases h
    next same =>
    split at same
    · cases same
      simp [other] at h
    · cases same

/-- The lookup asks for no function, but only a Network-LSA parses as one. -/
theorem any_networkLists :
    records.any (networkLists network router) = true ↔
      router ∈ attachedRouters records .two network.id network.advertisingRouter := by
  simp only [any_eq_true, attachedRouters, mem_flatMap, mem_filter]
  constructor
  · rintro ⟨record, mem, lists⟩
    simp only [networkLists, Option.any_eq_true, asserted] at lists
    obtain ⟨header, read, ⟨id, advertiser⟩, routers, parsed, contains⟩ := lists
    obtain ⟨other, again, function⟩ := parseNetwork_function parsed
    obtain rfl : other = header := by simpa [again] using read
    refine ⟨record, ⟨mem, by simp [isNetworkRecord, read, function, id, advertiser]⟩, ?_⟩
    rw [show parseNetwork record.bytes .two = some routers from parsed]
    simpa using contains
  · rintro ⟨record, ⟨mem, is⟩, lists⟩
    simp only [isNetworkRecord, Option.any_eq_true, asserted] at is
    obtain ⟨header, read, ⟨function, id⟩, advertiser⟩ := is
    refine ⟨record, mem, ?_⟩
    cases parsed : parseNetwork record.bytes .two with
    | none => simp [parsed] at lists
    | some routers =>
      have contains : router ∈ routers := by simpa [parsed] using lists
      simp [networkLists, read, id, advertiser, parseVersionTwoNetwork, parsed, contains]

end Lookup

section Networks

variable {records : List LsaRecord} {keys found : List TopologyVertexKey} {version : Version}

theorem findNetworkKey_advertised {id : BitVec 32} :
    findNetworkKey keys id (some advertiser) = some network ↔
      network = networkKey id advertiser ∧ networkKey id advertiser ∈ keys := by
  have only : ∀ key : TopologyVertexKey, (key.kind == .transitNetwork && key.id == id &&
      (some advertiser).all (key.advertisingRouter == ·)) = true ↔
        key = networkKey id advertiser := by
    intro key
    obtain ⟨kind, own, owner⟩ := key
    simp [networkKey, and_assoc]
  unfold findNetworkKey
  constructor
  · intro h
    have hit := List.find?_some h
    have same := (only network).mp hit
    exact ⟨same, same ▸ mem_of_find?_eq_some h⟩
  · rintro ⟨rfl, mem⟩
    cases h : keys.find? _ with
    | none =>
      have none := List.find?_eq_none.mp h _ mem
      exact absurd ((only _).mpr rfl) none
    | some other =>
      have hit := List.find?_some h
      rw [(only other).mp hit]

/-- Without the advertising router the lookup finds the lowest. -/
theorem findNetworkKey_lowest (strict : keys.Pairwise fun a b => keyLess a b = true)
    {id : BitVec 32} :
    findNetworkKey keys id none = some network ↔ ∃ advertiser,
      network = networkKey id advertiser ∧ networkKey id advertiser ∈ keys ∧
        ∀ other, networkKey id other ∈ keys → ¬ other < advertiser := by
  have only : ∀ key : TopologyVertexKey, (key.kind == .transitNetwork && key.id == id &&
      (none : Option (BitVec 32)).all (key.advertisingRouter == ·)) = true ↔
        ∃ advertiser, key = networkKey id advertiser := by
    intro key
    obtain ⟨kind, own, owner⟩ := key
    simp [networkKey]
  have least : ∀ {network}, findNetworkKey keys id none = some network → ∃ advertiser,
      network = networkKey id advertiser ∧ networkKey id advertiser ∈ keys ∧
        ∀ other, networkKey id other ∈ keys → ¬ other < advertiser := by
    intro network h
    have hit := List.find?_some h
    obtain ⟨advertiser, rfl⟩ := (only network).mp hit
    refine ⟨advertiser, rfl, mem_of_find?_eq_some h, fun other mem less => ?_⟩
    obtain ⟨-, before, after, split, earlier⟩ := List.find?_eq_some_iff_append.mp h
    rw [split] at mem strict
    obtain mem | mem := mem_append.mp mem
    · have not := earlier _ mem
      rw [(only _).mpr ⟨other, rfl⟩] at not
      cases not
    · obtain same | mem := mem_cons.mp mem
      · simp [networkKey] at same
        exact absurd (same ▸ less) (BitVec.lt_irrefl _)
      · have order := (pairwise_cons.mp (pairwise_append.mp strict).2.1).1 _ mem
        simp [keyLess, TopologyVertexKey.tie, networkKey, cons_lt_cons_iff] at order
        rw [BitVec.lt_def] at less
        omega
  constructor
  · exact least
  · rintro ⟨advertiser, rfl, mem, lowest⟩
    cases h : findNetworkKey keys id none with
    | none =>
      have none := List.find?_eq_none.mp h _ mem
      exact absurd ((only _).mpr ⟨advertiser, rfl⟩) none
    | some other =>
      obtain ⟨owner, rfl, there, least⟩ := least h
      have above := lowest owner there
      have below := least advertiser mem
      rw [BitVec.lt_def] at above below
      rw [BitVec.eq_of_toNat_eq (x := owner) (y := advertiser) (by omega)]

theorem routerKey_mem (members : ∀ key, key ∈ keys ↔ ∃ record ∈ records, ∃ header,
      lsaHeader record.bytes version = some header ∧ vertexKey version header = some key)
    :
    routerKey router ∈ keys ↔ records.any (isRouterRecord version router) = true := by
  rw [members, any_eq_true]
  simp only [isRouterRecord, Option.any_eq_true, asserted, vertexKey]
  constructor
  · rintro ⟨record, mem, header, read, key⟩
    refine ⟨record, mem, header, read, ?_⟩
    split at key
    · next function => exact ⟨function, by simpa [routerKey] using key⟩
    · split at key <;> simp [routerKey, networkKey] at key
  · rintro ⟨record, mem, header, read, function, rfl⟩
    exact ⟨record, mem, header, read, by simp [function]⟩

theorem networkKey_mem (members : ∀ key, key ∈ keys ↔ ∃ record ∈ records, ∃ header,
      lsaHeader record.bytes version = some header ∧ vertexKey version header = some key)
    {id : BitVec 32} :
    networkKey id advertiser ∈ keys ↔
      records.any (isNetworkRecord version id advertiser) = true := by
  rw [members, any_eq_true]
  simp only [isNetworkRecord, Option.any_eq_true, asserted, vertexKey]
  constructor
  · rintro ⟨record, mem, header, read, key⟩
    refine ⟨record, mem, header, read, ?_⟩
    split at key
    · simp [routerKey, networkKey] at key
    split at key
    · next function => simpa [function, networkKey] using key
    · cases key
  · rintro ⟨record, mem, header, read, ⟨function, rfl⟩, rfl⟩
    exact ⟨record, mem, header, read, by simp [function]⟩

end Networks

section Arcs

/-- Where the builder lets a link of a router lead. -/
def Leads (records : List LsaRecord) (keys : List TopologyVertexKey) (version : Version)
    (router : BitVec 32) (target : TopologyVertexKey) : DescribedLink → Prop
  | .router type neighbor => target = routerKey neighbor ∧
      ∃ back, (.router type router, back) ∈ firstLinksOf records version neighbor
  | .network id advertiser => findNetworkKey keys id advertiser = some target ∧
      (version = .two → router ∈ attachedRouters records version target.id target.advertisingRouter)

/-- An edge between two vertices, with this cost. -/
def TemporaryEdge.Joins (edge : TemporaryEdge) (u v : TopologyVertexKey) (cost : BitVec 32) :
    Prop :=
  edge.source = u ∧ edge.target = v ∧ edge.cost = cost

variable {records : List LsaRecord} {keys : List TopologyVertexKey} {version : Version}
  {root : BitVec 32} {u v : TopologyVertexKey} {cost : BitVec 32} {record : LsaRecord}

theorem v2RouterArc_iff :
    (∃ edge, v2RouterArc records keys root router link = some edge ∧ edge.Joins u v cost) ↔
      u = routerKey router ∧ ∃ described, v2Link link = some (described, cost) ∧
        Leads records keys .two router v described := by
  cases kind : link.type with
  | stubNetwork => simp [v2RouterArc, v2Link, kind]
  | pointToPoint | virtualLink =>
    simp only [v2RouterArc, v2Link, kind, reduceCtorEq, ↓reduceIte, settled, v2RouterHasLink_router,
      Option.ite_none_right_eq_some, Option.some.injEq, Prod.mk.injEq, Leads, TemporaryEdge.Joins]
    grind
  | transitNetwork =>
    cases named : findNetworkKey keys link.linkId none with
    | none => simp [v2RouterArc, v2Link, kind, named, Leads]
    | some network =>
      simp only [v2RouterArc, v2Link, kind, reduceCtorEq, ↓reduceIte, or_self, named,
        Option.ite_none_right_eq_some, Option.some.injEq, Prod.mk.injEq, Leads, ← any_networkLists,
        TemporaryEdge.Joins]
      grind

theorem v3RouterArc_iff {link : VersionThreeRouterLink} :
    (∃ edge, v3RouterArc records keys root router link = some edge ∧ edge.Joins u v cost) ↔
      u = routerKey router ∧ ∃ described, v3Link link = some (described, cost) ∧
        Leads records keys .three router v described := by
  cases kind : link.type with
  | stubNetwork => simp [v3RouterArc, v3Link, kind]
  | pointToPoint | virtualLink =>
    simp only [v3RouterArc, v3Link, kind, reduceCtorEq, ↓reduceIte, settled, v3RouterHasLink_router,
      Option.ite_none_right_eq_some, Option.some.injEq, Prod.mk.injEq, Leads, TemporaryEdge.Joins]
    grind
  | transitNetwork =>
    simp only [v3RouterArc, v3Link, kind, reduceCtorEq, ↓reduceIte, or_self,
      Option.map_eq_some_iff, Option.some.injEq, Prod.mk.injEq, Leads, TemporaryEdge.Joins]
    grind

theorem v2NetworkArc_iff {id : BitVec 32} :
    (∃ edge, v2NetworkArc records root (networkKey id advertiser) id router = some edge ∧
        edge.Joins u v cost) ↔
      u = networkKey id advertiser ∧ v = routerKey router ∧ cost = 0#32 ∧
        ∃ link back, (link, back) ∈ firstLinksOf records .two router ∧
          link.names id advertiser := by
  rw [← v2RouterHasLink_network, v2NetworkArc]
  simp only [Option.ite_none_right_eq_some, Option.some.injEq]
  constructor
  · rintro ⟨_, ⟨back, rfl⟩, rfl, rfl, rfl⟩
    exact ⟨rfl, rfl, rfl, back⟩
  · rintro ⟨rfl, rfl, rfl, back⟩
    exact ⟨_, ⟨back, rfl⟩, rfl, rfl, rfl⟩

theorem v3NetworkArc_iff {id : BitVec 32} :
    (∃ edge, v3NetworkArc records root (networkKey id advertiser) id advertiser router =
        some edge ∧ edge.Joins u v cost) ↔
      u = networkKey id advertiser ∧ v = routerKey router ∧ cost = 0#32 ∧
        ∃ link back, (link, back) ∈ firstLinksOf records .three router ∧
          link.names id advertiser := by
  rw [← v3RouterHasLink_network, v3NetworkArc]
  simp only [Option.ite_none_right_eq_some, Option.some.injEq]
  constructor
  · rintro ⟨_, ⟨back, rfl⟩, rfl, rfl, rfl⟩
    exact ⟨rfl, rfl, rfl, back⟩
  · rintro ⟨rfl, rfl, rfl, back⟩
    exact ⟨_, ⟨back, rfl⟩, rfl, rfl, rfl⟩

theorem everyLink_filterMap {links : List (Option VersionThreeRouterLink)}
    {every : List VersionThreeRouterLink} (h : everyLink links = some every) :
    links.filterMap id = every := by
  induction links generalizing every with
  | nil => simpa [everyLink] using h
  | cons first rest ih =>
    cases first with
    | none => cases h
    | some link =>
      obtain ⟨others, tail, rfl⟩ := Option.map_eq_some_iff.mp h
      exact congrArg (link :: ·) (ih tail)

theorem exists_mem_filterMap {α : Type} {l : List α} {arc : α → Option TemporaryEdge}
    {P : α → Prop} (each : ∀ a ∈ l, (∃ edge, arc a = some edge ∧ edge.Joins u v cost) ↔ P a) :
    (∃ edge ∈ l.filterMap arc, edge.Joins u v cost) ↔ ∃ a ∈ l, P a := by
  simp only [mem_filterMap]
  constructor
  · rintro ⟨edge, ⟨a, mem, made⟩, joins⟩
    exact ⟨a, mem, (each a mem).mp ⟨edge, made, joins⟩⟩
  · rintro ⟨a, mem, holds⟩
    obtain ⟨edge, made, joins⟩ := (each a mem).mpr holds
    exact ⟨edge, ⟨a, mem, made⟩, joins⟩

theorem mem_routerArcs (formed : (routerArcs records keys root version record).isSome) :
    (∃ edges, routerArcs records keys root version record = some edges ∧
        ∃ edge ∈ edges, edge.Joins u v cost) ↔
      ∃ router, isRouterRecord version router record = true ∧ u = routerKey router ∧
        ∃ described, (described, cost) ∈ describedLinks version record ∧
          Leads records keys version router v described := by
  obtain ⟨edges, arcs⟩ := Option.isSome_iff_exists.mp formed
  simp only [arcs, Option.some.injEq, exists_eq_left']
  cases read : lsaHeader record.bytes version with
  | none => simp [routerArcs, read] at arcs
  | some header =>
    simp only [routerArcs, read] at arcs
    simp only [isRouterRecord, read]
    split at arcs
    · next other =>
      cases arcs
      simp [other]
    · next function =>
      cases version with
      | two =>
        obtain ⟨links, parsed, rfl⟩ := Option.map_eq_some_iff.mp arcs
        rw [exists_mem_filterMap fun link _ => v2RouterArc_iff]
        simp only [describedLinks]
        grind
      | three =>
        obtain ⟨every, parsed, rfl⟩ := Option.map_eq_some_iff.mp arcs
        obtain ⟨links, parsed, all⟩ := Option.bind_eq_some_iff.mp parsed
        rw [exists_mem_filterMap fun link _ => v3RouterArc_iff]
        simp only [describedLinks, parsed, Option.getD_some, everyLink_filterMap all]
        grind

theorem mem_networkArcs (formed : (networkArcs records keys root version record).isSome) :
    (∃ edges, networkArcs records keys root version record = some edges ∧
        ∃ edge ∈ edges, edge.Joins u v cost) ↔
      ∃ id advertiser router, isNetworkRecord version id advertiser record = true ∧
        router ∈ (parseNetwork record.bytes version).getD [] ∧
          u = networkKey id advertiser ∧ v = routerKey router ∧ cost = 0#32 ∧
            ∃ link back, (link, back) ∈ firstLinksOf records version router ∧
              link.names id advertiser := by
  obtain ⟨edges, arcs⟩ := Option.isSome_iff_exists.mp formed
  simp only [arcs, Option.some.injEq, exists_eq_left']
  cases read : lsaHeader record.bytes version with
  | none => simp [networkArcs, read] at arcs
  | some header =>
    simp only [networkArcs, read] at arcs
    simp only [isNetworkRecord, read]
    split at arcs
    · next other =>
      cases arcs
      simp [other]
    · next function =>
      split at arcs
      · cases arcs
      next network known =>
      obtain ⟨rfl, -⟩ := findNetworkKey_advertised.mp known
      cases version with
      | two =>
        obtain ⟨routers, parsed, rfl⟩ := Option.map_eq_some_iff.mp arcs
        have parsed : parseNetwork record.bytes .two = some routers := parsed
        rw [exists_mem_filterMap fun router _ => v2NetworkArc_iff]
        simp only [parsed]
        grind
      | three =>
        obtain ⟨routers, parsed, rfl⟩ := Option.map_eq_some_iff.mp arcs
        have parsed : parseNetwork record.bytes .three = some routers := parsed
        rw [exists_mem_filterMap fun router _ => v3NetworkArc_iff]
        simp only [parsed]
        grind

end Arcs

end RouterSim.Ospf
