import RouterSim.Lib.Sorting
import RouterSim.Ospf.LsaBody
import RouterSim.Ospf.Spf

/-! The graph an area's database describes. Router-LSAs and Network-LSAs give the vertices, the
links they describe give the arcs, and the whole is published at once or not at all. -/
namespace RouterSim.Ospf

inductive TopologyVertexKind
  | router | transitNetwork
  deriving DecidableEq

def TopologyVertexKind.ordinal : TopologyVertexKind → Nat
  | .router => 0
  | .transitNetwork => 1

structure TopologyVertexKey where
  kind : TopologyVertexKind := .router
  id : BitVec 32 := 0#32
  advertisingRouter : BitVec 32 := 0#32
  deriving DecidableEq

structure FirstHop where
  neighborRouterId : BitVec 32 := 0#32
  versionTwoNextHop : BitVec 32 := 0#32
  neighborInterface : BitVec 32 := 0#32
  localInterface : BitVec 32 := 0#32
  deriving DecidableEq

def TopologyVertexKey.tie (key : TopologyVertexKey) : List Nat :=
  [key.kind.ordinal, key.id.toNat, key.advertisingRouter.toNat]

def FirstHop.tie (hop : FirstHop) : List Nat :=
  [hop.neighborRouterId.toNat, hop.versionTwoNextHop.toNat, hop.neighborInterface.toNat,
    hop.localInterface.toNat]

def keyLess (left right : TopologyVertexKey) : Bool := decide (left.tie < right.tie)

def hopLess (left right : FirstHop) : Bool := decide (left.tie < right.tie)

structure TemporaryEdge where
  source : TopologyVertexKey
  target : TopologyVertexKey
  firstHop : Option FirstHop
  cost : BitVec 32

def edgeLess (left right : TemporaryEdge) : Bool :=
  keyLess left.source right.source ||
    (!keyLess right.source left.source &&
      (keyLess left.target right.target ||
        (!keyLess right.target left.target && decide (left.cost < right.cost))))

structure TopologyGraphView where
  keys : List TopologyVertexKey := []
  vertices : List SpfVertex := []
  edges : List SpfEdge := []
  firstHops : List FirstHop := []
  rootVertex : BitVec 32 := 0#32

/-- The resource profile keeps what the graph numbers within 32 bits. -/
structure TopologyBuilder where
  graph : TopologyGraphView := {}
  maximumVertices : Nat
  maximumEdges : Nat
  numbered : maximumVertices ≤ 0xffffffff ∧ maximumEdges ≤ 0xffffffff

section Vertices

def routerKey (routerId : BitVec 32) : TopologyVertexKey := { kind := .router, id := routerId }

def networkKey (id advertiser : BitVec 32) : TopologyVertexKey :=
  { kind := .transitNetwork, id, advertisingRouter := advertiser }

/-- The vertex an advertisement stands for. Those that describe prefixes stand for none. -/
def vertexKey (version : Version) (header : LsaHeaderView) : Option TopologyVertexKey :=
  if lsaFunction version header = 1#16 then some (routerKey header.advertisingRouter)
  else if lsaFunction version header = 2#16 then
    some (networkKey header.linkStateId header.advertisingRouter)
  else none

def addKey (keys : List TopologyVertexKey) (key : TopologyVertexKey) : List TopologyVertexKey :=
  if key ∈ keys then keys else keys ++ [key]

def collectKeys (version : Version) :
    List LsaRecord → List TopologyVertexKey → Option (List TopologyVertexKey)
  | [], keys => some keys
  | record :: rest, keys =>
    match lsaHeader record.bytes version with
    | none => none
    | some header => collectKeys version rest ((vertexKey version header).elim keys (addKey keys))

/-- The first vertex of the network, whoever advertises it unless that is given too. -/
def findNetworkKey (keys : List TopologyVertexKey) (id : BitVec 32)
    (advertiser : Option (BitVec 32)) : Option TopologyVertexKey :=
  keys.find? fun key => key.kind == .transitNetwork && key.id == id &&
    advertiser.all (key.advertisingRouter == ·)

end Vertices

section Lookup

variable (records : List LsaRecord) (version : Version)

def isRouterRecord (routerId : BitVec 32) (record : LsaRecord) : Bool :=
  (lsaHeader record.bytes version).any fun header =>
    lsaFunction version header == 1#16 && header.advertisingRouter == routerId

def findRouterRecord (routerId : BitVec 32) : Option LsaRecord :=
  records.find? (isRouterRecord version routerId)

/-- The links of a router's first Router-LSA. -/
def v2RouterLinks (routerId : BitVec 32) : List VersionTwoRouterLink :=
  ((findRouterRecord records .two routerId).bind fun record =>
    parseVersionTwoRouter record.bytes).getD []

def v3RouterLinks (routerId : BitVec 32) : List VersionThreeRouterLink :=
  (((findRouterRecord records .three routerId).bind fun record =>
    parseVersionThreeRouter record.bytes).getD []).filterMap id

def v2Matches (type : RouterLinkType) (target : BitVec 32) (link : VersionTwoRouterLink) : Bool :=
  link.type == type && link.linkId == target

def v2RouterHasLink (routerId : BitVec 32) (type : RouterLinkType) (target : BitVec 32) : Bool :=
  (v2RouterLinks records routerId).any (v2Matches type target)

/-- The neighbour's interface is compared on a transit link only. -/
def v3Matches (type : RouterLinkType) (neighborRouter neighborInterface : BitVec 32)
    (link : VersionThreeRouterLink) : Bool :=
  link.type == type && link.neighborRouterId == neighborRouter &&
    (type != .transitNetwork || link.neighborInterfaceId == neighborInterface)

def v3RouterHasLink (routerId : BitVec 32) (type : RouterLinkType)
    (neighborRouter neighborInterface : BitVec 32) : Bool :=
  (v3RouterLinks records routerId).any (v3Matches type neighborRouter neighborInterface)

/-- Whether this is a Network-LSA of the vertex that lists the router. -/
def networkLists (network : TopologyVertexKey) (routerId : BitVec 32) (candidate : LsaRecord) :
    Bool :=
  (lsaHeader candidate.bytes .two).any fun header =>
    header.linkStateId == network.id && header.advertisingRouter == network.advertisingRouter &&
      (parseVersionTwoNetwork candidate.bytes).any (·.contains routerId)

end Lookup

section RouterArcs

variable (records : List LsaRecord) (keys : List TopologyVertexKey) (root : BitVec 32)

/-- The root reaches its neighbour at the address in the neighbour's own link. -/
def v2NeighborHop (router : BitVec 32) (link : VersionTwoRouterLink) : Option FirstHop :=
  if router = root then
    ((v2RouterLinks records link.linkId).find? (v2Matches link.type root)).map fun reverse =>
      { neighborRouterId := link.linkId, versionTwoNextHop := reverse.linkData,
        localInterface := link.linkData }
  else none

def v2RouterArc (router : BitVec 32) (link : VersionTwoRouterLink) : Option TemporaryEdge :=
  if link.type = .stubNetwork then none
  else if link.type = .pointToPoint ∨ link.type = .virtualLink then
    if v2RouterHasLink records link.linkId link.type router then
      some
        { source := routerKey router, target := routerKey link.linkId,
          firstHop := v2NeighborHop records root router link, cost := link.metric.setWidth 32 }
    else none
  else
    match findNetworkKey keys link.linkId none with
    | none => none
    | some network =>
      if records.any (networkLists network router) then
        some
          { source := routerKey router, target := network, firstHop := none,
            cost := link.metric.setWidth 32 }
      else none

def v3RouterArc (router : BitVec 32) (link : VersionThreeRouterLink) : Option TemporaryEdge :=
  if link.type = .pointToPoint ∨ link.type = .virtualLink then
    if v3RouterHasLink records link.neighborRouterId link.type router link.interfaceId then
      some
        { source := routerKey router, target := routerKey link.neighborRouterId
          firstHop :=
            if router = root then
              some
                { neighborRouterId := link.neighborRouterId
                  neighborInterface := link.neighborInterfaceId
                  localInterface := link.interfaceId }
            else none
          cost := link.metric.setWidth 32 }
    else none
  else if link.type = .transitNetwork then
    (findNetworkKey keys link.neighborInterfaceId (some link.neighborRouterId)).map fun network =>
      { source := routerKey router, target := network, firstHop := none,
        cost := link.metric.setWidth 32 }
  else none

/-- All the places for links, when each holds one. -/
def everyLink : List (Option VersionThreeRouterLink) → Option (List VersionThreeRouterLink)
  | [] => some []
  | none :: _ => none
  | some link :: rest => (everyLink rest).map (link :: ·)

/-- The arcs out of a router, and nothing of an advertisement that is malformed. -/
def routerArcs (version : Version) (record : LsaRecord) : Option (List TemporaryEdge) :=
  match lsaHeader record.bytes version with
  | none => none
  | some header =>
    if lsaFunction version header ≠ 1#16 then some []
    else
      match version with
      | .two => (parseVersionTwoRouter record.bytes).map fun links =>
          links.filterMap (v2RouterArc records keys root header.advertisingRouter)
      | .three => ((parseVersionThreeRouter record.bytes).bind everyLink).map fun links =>
          links.filterMap (v3RouterArc records keys root header.advertisingRouter)

end RouterArcs

section NetworkArcs

variable (records : List LsaRecord) (keys : List TopologyVertexKey) (root : BitVec 32)

/-- The hop lies on the way from the network to the router, when the root is attached too. -/
def v2AttachedHop (id router : BitVec 32) : Option FirstHop :=
  if router ≠ root ∧ v2RouterHasLink records root .transitNetwork id then
    match (v2RouterLinks records root).find? (v2Matches .transitNetwork id) with
    | none => none
    | some link =>
      ((v2RouterLinks records router).find? (v2Matches .transitNetwork id)).map fun neighbor =>
        { neighborRouterId := router, versionTwoNextHop := neighbor.linkData,
          localInterface := link.linkData }
  else none

def v3AttachedHop (id advertiser router : BitVec 32) : Option FirstHop :=
  if router ≠ root then
    ((v3RouterLinks records root).find? (v3Matches .transitNetwork advertiser id)).map fun link =>
      { neighborRouterId := router, neighborInterface := link.neighborInterfaceId,
        localInterface := link.interfaceId }
  else none

def v2NetworkArc (network : TopologyVertexKey) (id router : BitVec 32) : Option TemporaryEdge :=
  if v2RouterHasLink records router .transitNetwork id then
    some
      { source := network, target := routerKey router,
        firstHop := v2AttachedHop records root id router, cost := 0#32 }
  else none

def v3NetworkArc (network : TopologyVertexKey) (id advertiser router : BitVec 32) :
    Option TemporaryEdge :=
  if v3RouterHasLink records router .transitNetwork advertiser id then
    some
      { source := network, target := routerKey router,
        firstHop := v3AttachedHop records root id advertiser router, cost := 0#32 }
  else none

def networkArcs (version : Version) (record : LsaRecord) : Option (List TemporaryEdge) :=
  match lsaHeader record.bytes version with
  | none => none
  | some header =>
    if lsaFunction version header ≠ 2#16 then some []
    else
      match findNetworkKey keys header.linkStateId (some header.advertisingRouter) with
      | none => none
      | some network =>
        match version with
        | .two => (parseVersionTwoNetwork record.bytes).map fun routers =>
            routers.filterMap (v2NetworkArc records root network header.linkStateId)
        | .three => (parseVersionThreeNetwork record.bytes).map fun routers =>
            routers.filterMap
              (v3NetworkArc records root network header.linkStateId header.advertisingRouter)

end NetworkArcs

section Pending

structure PendingArcs where
  edges : List TemporaryEdge := []
  hops : List FirstHop := []

def append (maximumEdges : Nat) (pending : PendingArcs) (edge : TemporaryEdge) :
    Option PendingArcs :=
  if pending.edges.length = maximumEdges then none
  else
    match edge.firstHop with
    | none => some { pending with edges := pending.edges ++ [edge] }
    | some hop =>
      if hop ∈ pending.hops then some { pending with edges := pending.edges ++ [edge] }
      else if pending.hops.length = maximumEcmpPaths.toNat then none
      else some { edges := pending.edges ++ [edge], hops := pending.hops ++ [hop] }

def appendAll (maximumEdges : Nat) : List TemporaryEdge → PendingArcs → Option PendingArcs
  | [], pending => some pending
  | edge :: rest, pending => (append maximumEdges pending edge).bind (appendAll maximumEdges rest)

/-- Append the arcs of each record in turn. -/
def appendArcs (maximumEdges : Nat) (arcs : LsaRecord → Option (List TemporaryEdge)) :
    List LsaRecord → PendingArcs → Option PendingArcs
  | [], pending => some pending
  | record :: rest, pending =>
    (arcs record).bind fun edges =>
      (appendAll maximumEdges edges pending).bind (appendArcs maximumEdges arcs rest)

end Pending

section Publication

variable (keys : List TopologyVertexKey) (hops : List FirstHop)

/-- The token of a first hop. A hop that is not among the published ones has none. -/
def hopToken : Option FirstHop → Option (BitVec 16)
  | none => some noFirstHop
  | some hop =>
    let found := Sorting.lowerBound hopLess hops hop
    if hops[found]? = some hop then some (BitVec.ofNat 16 found) else none

/-- The published edges out of a vertex. One to a vertex that is not there is left out. -/
def vertexEdges (key : TopologyVertexKey) : List TemporaryEdge → Option (List SpfEdge)
  | [] => some []
  | edge :: rest =>
    let target := Sorting.lowerBound keyLess keys edge.target
    if edge.source ≠ key then vertexEdges key rest
    else if keys[target]? ≠ some edge.target then vertexEdges key rest
    else
      match hopToken hops edge.firstHop with
      | none => none
      | some token => (vertexEdges key rest).map fun edges =>
          { targetVertex := BitVec.ofNat 32 target, cost := edge.cost, firstHop := token } :: edges

def publishVertices (temporary : List TemporaryEdge) :
    List TopologyVertexKey → List SpfEdge → Option (List SpfVertex × List SpfEdge)
  | [], edges => some ([], edges)
  | key :: rest, edges =>
    match vertexEdges keys hops key temporary with
    | none => none
    | some own =>
      let firstEdge := BitVec.ofNat 32 edges.length
      let vertex : SpfVertex :=
        { firstEdge, edgeCount := BitVec.ofNat 32 ((edges ++ own).length - firstEdge.toNat) }
      (publishVertices temporary rest (edges ++ own)).map fun published =>
        (vertex :: published.1, published.2)

end Publication

section Build

variable (sorter : (α : Type) → Sorting.Sorter α)

def publish (keys : List TopologyVertexKey) (pending : PendingArcs) (root : BitVec 32) :
    Option TopologyGraphView :=
  match keys.findIdx? (· == routerKey root) with
  | none => none
  | some rootIndex =>
    let hops := (sorter _).sort hopLess pending.hops
    let temporary := (sorter _).sort edgeLess pending.edges
    (publishVertices keys hops temporary keys []).map fun published =>
      { keys, vertices := published.1, edges := published.2, firstHops := hops,
        rootVertex := BitVec.ofNat 32 rootIndex }

/-- The graph of the records, unless one is malformed or a bound is passed. -/
def translate (maximumVertices maximumEdges : Nat) (records : List LsaRecord) (version : Version)
    (root : BitVec 32) : Option TopologyGraphView :=
  match collectKeys version records [] with
  | none => none
  | some found =>
    if found.isEmpty ∨ maximumVertices < found.length then none
    else
      let keys := (sorter _).sort keyLess found
      (appendArcs maximumEdges (routerArcs records keys root version) records {}).bind
        fun pending =>
          (appendArcs maximumEdges (networkArcs records keys root version) records pending).bind
            fun pending => publish sorter keys pending root

/-- Refusing leaves the published graph as it was. -/
def TopologyBuilder.build (builder : TopologyBuilder) (records : List LsaRecord)
    (version : Version) (root : BitVec 32) : Bool × TopologyBuilder :=
  match translate sorter builder.maximumVertices builder.maximumEdges records version root with
  | none => (false, builder)
  | some graph => (true, { builder with graph })

end Build

end RouterSim.Ospf
