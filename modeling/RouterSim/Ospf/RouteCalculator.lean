import RouterSim.Ospf.LsaViews
import RouterSim.Ospf.Topology
import RouterSim.Rib.Route

/-! The routes of an area. Each advertisement offers candidates, the best for a prefix stay, and
the whole is published at once or not at all. -/
namespace RouterSim.Ospf

open Ip (Ipv6)
open Rib (OspfPathType)

structure CalculatedNextHop where
  topology : FirstHop := {}
  versionThreeLinkLocal : Ipv6 := 0#128
  deriving DecidableEq

structure CalculatedRoute where
  versionThreeNetwork : Ipv6 := 0#128
  nextHops : List CalculatedNextHop := []
  loopFreeAlternates : List CalculatedNextHop := []
  versionTwoNetwork : BitVec 32 := 0#32
  metric : BitVec 32 := 0#32
  internalMetric : BitVec 32 := 0#32
  advertisingRouter : BitVec 32 := 0#32
  areaId : BitVec 32 := 0#32
  tag : BitVec 32 := 0#32
  pathType : OspfPathType := .intraArea
  prefixLength : BitVec 8 := 0#8
  versionThree : Bool := false
  ipv4AddressFamily : Bool := false
  topologyVertex : BitVec 32 := 0xffffffff#32
  deriving DecidableEq

section Order

/-- The ones a mask starts with. -/
def countlOne (mask : BitVec 32) : Nat :=
  ((List.range 32).takeWhile fun i => mask.getLsbD (31 - i)).length

/-- Ones and behind them zeros. -/
def prefixMask (length : Nat) : BitVec 32 :=
  if length = 0 then 0#32 else 0xffffffff#32 <<< (32 - length)

def prefixLength (mask : BitVec 32) : Option (BitVec 8) :=
  let length := countlOne mask
  if mask = prefixMask length then some (BitVec.ofNat 8 length) else none

def rank : OspfPathType → Nat
  | .intraArea => 0
  | .interArea => 1
  | .externalType1 | .nssaType1 => 2
  | .externalType2 | .nssaType2 => 3
  | .none => 255

def samePrefix (left right : CalculatedRoute) : Bool :=
  left.versionThree == right.versionThree &&
    left.ipv4AddressFamily == right.ipv4AddressFamily && left.prefixLength == right.prefixLength &&
    if left.versionThree then left.versionThreeNetwork == right.versionThreeNetwork
    else left.versionTwoNetwork == right.versionTwoNetwork

def isTypeTwo (pathType : OspfPathType) : Bool :=
  pathType == .externalType2 || pathType == .nssaType2

/-- The internal metric counts for the second type of external routes only. -/
def CalculatedRoute.better (left right : CalculatedRoute) : Bool :=
  if rank left.pathType ≠ rank right.pathType then decide (rank left.pathType < rank right.pathType)
  else if left.metric ≠ right.metric then decide (left.metric < right.metric)
  else if isTypeTwo left.pathType ∧ left.internalMetric ≠ right.internalMetric then
    decide (left.internalMetric < right.internalMetric)
  else if left.advertisingRouter ≠ right.advertisingRouter then
    decide (left.advertisingRouter < right.advertisingRouter)
  else decide (left.areaId < right.areaId)

def equalCost (left right : CalculatedRoute) : Bool :=
  rank left.pathType == rank right.pathType && left.metric == right.metric &&
    left.internalMetric == right.internalMetric

def CalculatedNextHop.tie (hop : CalculatedNextHop) : List Nat :=
  [hop.topology.neighborRouterId.toNat, hop.topology.localInterface.toNat,
    hop.topology.neighborInterface.toNat, hop.topology.versionTwoNextHop.toNat]

def nextHopLess (left right : CalculatedNextHop) : Bool := decide (left.tie < right.tie)

end Order

section Hops

variable (records : List LsaRecord) (graph : TopologyGraphView) (spf : SpfCalculator)

def vertexForRouter (routerId : BitVec 32) : Option Nat :=
  graph.keys.findIdx? fun key => key.kind == .router && key.id == routerId

def vertexForNetwork (id advertiser : BitVec 32) : Option Nat :=
  graph.keys.findIdx? fun key => key.kind == .transitNetwork && key.id == id &&
    key.advertisingRouter == advertiser

/-- A Link-LSA of the neighbour for the interface the hop names. -/
def linkLocalOf (hop : FirstHop) (ipv4AddressFamily : Bool) (record : LsaRecord) : Option Ipv6 :=
  (lsaHeader record.bytes .three).bind fun header =>
    if header.type &&& 0x1fff#16 ≠ 8#16 ∨ header.advertisingRouter ≠ hop.neighborRouterId ∨
        header.linkStateId ≠ hop.neighborInterface then none
    else (parseVersionThreeLink record.bytes ipv4AddressFamily).map (·.linkLocalAddress)

def linkLocalFor (hop : FirstHop) (ipv4AddressFamily : Bool) : Option Ipv6 :=
  records.findSome? (linkLocalOf hop ipv4AddressFamily)

/-- The hop a token stands for, with the address it takes on the link. -/
def resolveHop (versionThree ipv4AddressFamily : Bool) (hop : FirstHop) :
    Option CalculatedNextHop :=
  if versionThree then
    (linkLocalFor records hop ipv4AddressFamily).map fun address =>
      { topology := hop, versionThreeLinkLocal := address }
  else if hop.versionTwoNextHop = 0#32 then none
  else some { topology := hop }

/-- The hops to a vertex. Only the root needs none. -/
def hopsTo (versionThree ipv4AddressFamily : Bool) (vertex : Nat) :
    Option (List CalculatedNextHop) :=
  let count := spf.firstHopCount vertex
  if count = 0 then if vertex = graph.rootVertex.toNat then some [] else none
  else
    (List.range count).mapM fun ordinal =>
      (spf.firstHop vertex ordinal).bind fun token =>
        (graph.firstHops[token.toNat]?).bind (resolveHop records versionThree ipv4AddressFamily)

def setHops (route : CalculatedRoute) (vertex : Nat) : Option CalculatedRoute :=
  (hopsTo records graph spf route.versionThree route.ipv4AddressFamily vertex).map fun hops =>
    { route with nextHops := hops, topologyVertex := BitVec.ofNat 32 vertex }

end Hops

section Candidates

variable (sorter : (α : Type) → Sorting.Sorter α) (maximumRoutes maximumHops : Nat)

/-- The hops of the second list that the first does not have, while there is room. -/
def mergeHops (hops : List CalculatedNextHop) : List CalculatedNextHop → List CalculatedNextHop
  | [] => hops
  | hop :: rest =>
    if hops.any (·.topology == hop.topology) then mergeHops hops rest
    else if hops.length < maximumHops then mergeHops (hops ++ [hop]) rest
    else mergeHops hops rest

/-- The first of the hops in their order. -/
def cutHops (route : CalculatedRoute) : CalculatedRoute :=
  { route with nextHops := ((sorter _).sort nextHopLess route.nextHops).take maximumHops }

/-- What the route of a prefix becomes when a candidate for the prefix comes. -/
def settle (existing candidate : CalculatedRoute) : CalculatedRoute :=
  if candidate.better existing then candidate
  else if !existing.better candidate && equalCost existing candidate then
    { existing with
      nextHops := (sorter _).sort nextHopLess
        (mergeHops maximumHops existing.nextHops candidate.nextHops) }
  else existing

/-- Settle with the first route of the prefix, if there is one. -/
def settleIn (candidate : CalculatedRoute) : List CalculatedRoute → List CalculatedRoute
  | [] => []
  | route :: rest =>
    if samePrefix route candidate then settle sorter maximumHops route candidate :: rest
    else route :: settleIn candidate rest

def addCandidate (routes : List CalculatedRoute) (candidate : CalculatedRoute) :
    Option (List CalculatedRoute) :=
  let candidate := cutHops sorter maximumHops candidate
  if routes.any (samePrefix · candidate) then some (settleIn sorter maximumHops candidate routes)
  else if routes.length = maximumRoutes then none
  else some (routes ++ [candidate])

/-- All candidates of an advertisement, one after the other. -/
def addCandidates (candidates routes : List CalculatedRoute) : Option (List CalculatedRoute) :=
  candidates.foldlM (addCandidate sorter maximumRoutes maximumHops) routes

end Candidates

section Internal

variable (records : List LsaRecord) (areaId : BitVec 32) (ipv4AddressFamily : Bool)
  (graph : TopologyGraphView) (spf : SpfCalculator)

/-- A stub network of a reachable router. -/
def stubCandidate (header : LsaHeaderView) (vertex : Nat) (link : VersionTwoRouterLink) :
    Option CalculatedRoute :=
  (prefixLength link.linkData).bind fun length =>
    (spf.cost vertex).bind fun base =>
      setHops records graph spf
        { versionTwoNetwork := link.linkId &&& link.linkData
          metric := base + link.metric.setWidth 32, internalMetric := base + link.metric.setWidth 32
          advertisingRouter := header.advertisingRouter, areaId, prefixLength := length } vertex

def versionTwoRouterCandidates (record : LsaRecord) (header : LsaHeaderView) :
    Option (List CalculatedRoute) :=
  match parseVersionTwoRouter record.bytes, vertexForRouter graph header.advertisingRouter with
  | some links, some vertex =>
    if spf.reachable vertex then
      (links.filter (·.type == .stubNetwork)).mapM
        (stubCandidate records areaId graph spf header vertex)
    else some []
  | _, _ => some []

/-- A network the root is attached to is a connected route already. -/
def versionTwoNetworkCandidates (record : LsaRecord) (header : LsaHeaderView) :
    Option (List CalculatedRoute) :=
  match versionTwoNetworkView record.bytes,
    vertexForNetwork graph header.linkStateId header.advertisingRouter with
  | some view, some vertex =>
    match prefixLength view.networkMask, spf.cost vertex with
    | some length, some cost =>
      if spf.firstHopCount vertex = 0 then some []
      else
        (setHops records graph spf
          { versionTwoNetwork := header.linkStateId &&& view.networkMask, metric := cost,
            internalMetric := cost, advertisingRouter := header.advertisingRouter, areaId,
            prefixLength := length } vertex).map ([·])
    | _, _ => some []
  | _, _ => some []

def versionTwoSummaryCandidates (record : LsaRecord) (header : LsaHeaderView) :
    Option (List CalculatedRoute) :=
  match parseVersionTwoSummary record.bytes,
    vertexForRouter graph header.advertisingRouter with
  | some summary, some vertex =>
    match prefixLength summary.networkMask, spf.cost vertex with
    | some length, some cost =>
      (setHops records graph spf
        { versionTwoNetwork := header.linkStateId &&& summary.networkMask
          metric := cost + summary.metric, internalMetric := cost,
          advertisingRouter := header.advertisingRouter, areaId, pathType := .interArea,
          prefixLength := length } vertex).map ([·])
    | _, _ => some []
  | _, _ => some []

/-- The vertex an Intra-Area-Prefix-LSA refers to. -/
def referencedVertex (view : VersionThreeIntraAreaPrefixView) : Option Nat :=
  if view.referencedLsaType &&& 0x1fff#16 = 1#16 then
    vertexForRouter graph view.referencedAdvertisingRouter
  else if view.referencedLsaType &&& 0x1fff#16 = 2#16 then
    vertexForNetwork graph view.referencedLinkStateId view.referencedAdvertisingRouter
  else none

def intraAreaPrefixCandidate (header : LsaHeaderView) (vertex : Nat) (base : BitVec 32)
    (item : VersionThreePrefix) : Option CalculatedRoute :=
  (expandPrefix item).bind fun network =>
    setHops records graph spf
      { versionThreeNetwork := network, metric := base + item.metric.setWidth 32,
        internalMetric := base + item.metric.setWidth 32
        advertisingRouter := header.advertisingRouter, areaId, prefixLength := item.length,
        versionThree := true, ipv4AddressFamily } vertex

def intraAreaPrefixCandidates (record : LsaRecord) (header : LsaHeaderView) :
    Option (List CalculatedRoute) :=
  (parseVersionThreeIntraAreaPrefix record.bytes).bind fun view =>
    match referencedVertex graph view with
    | none => some []
    | some vertex =>
      match spf.cost vertex with
      | none => some []
      | some base =>
        if view.referencedLsaType &&& 0x1fff#16 = 2#16 ∧ spf.firstHopCount vertex = 0 then some []
        else
          view.prefixes.mapM
            (intraAreaPrefixCandidate records areaId ipv4AddressFamily graph spf header vertex base)

def interAreaPrefixCandidates (record : LsaRecord) (header : LsaHeaderView) :
    Option (List CalculatedRoute) :=
  match parseVersionThreeInterAreaPrefix record.bytes,
    vertexForRouter graph header.advertisingRouter with
  | some view, some vertex =>
    match expandPrefix view.item, spf.cost vertex with
    | some network, some base =>
      (setHops records graph spf
        { versionThreeNetwork := network, metric := base + view.metric, internalMetric := base,
          advertisingRouter := header.advertisingRouter, areaId, pathType := .interArea,
          prefixLength := view.item.length, versionThree := true,
          ipv4AddressFamily } vertex).map ([·])
    | _, _ => some []
  | _, _ => some []

/-- What an advertisement offers inside the autonomous system. Nothing is made of the routes when
one of its candidates fails, so that all are put together first. -/
def internalCandidates (version : Version) (record : LsaRecord) : Option (List CalculatedRoute) :=
  (lsaHeader record.bytes version).bind fun header =>
    let function := lsaFunction version header
    match version with
    | .two =>
      if function = 1#16 then versionTwoRouterCandidates records areaId graph spf record header
      else if function = 2#16 then
        versionTwoNetworkCandidates records areaId graph spf record header
      else if function = 3#16 then
        versionTwoSummaryCandidates records areaId graph spf record header
      else some []
    | .three =>
      if function = 9#16 then
        intraAreaPrefixCandidates records areaId ipv4AddressFamily graph spf record header
      else if function = 3#16 then
        interAreaPrefixCandidates records areaId ipv4AddressFamily graph spf record header
      else some []

end Internal

section Boundary

variable (records : List LsaRecord) (version : Version) (ipv4AddressFamily : Bool)
  (graph : TopologyGraphView) (spf : SpfCalculator) (maximumRoutes maximumHops : Nat)

/-- A boundary router of the autonomous system in another area. -/
structure InterAreaAsbr where
  nextHops : List CalculatedNextHop
  routerId : BitVec 32
  metric : BitVec 32
  advertisingRouter : BitVec 32
  topologyVertex : BitVec 32

/-- The boundary router that is advertised, and its distance from the advertising router. -/
def advertisedAsbr (record : LsaRecord) (header : LsaHeaderView) : Option (BitVec 32 × BitVec 32) :=
  match version with
  | .two =>
    (parseVersionTwoSummary record.bytes).bind fun body =>
      if body.autonomousSystemBoundaryRouter then some (header.linkStateId, body.metric) else none
  | .three =>
    (parseVersionThreeInterAreaRouter record.bytes).map fun body =>
      (body.destinationRouterId, body.metric)

/-- The boundary router a record offers, if it offers one. -/
def asbrCandidate (record : LsaRecord) : Option (Option InterAreaAsbr) :=
  (lsaHeader record.bytes version).bind fun header =>
    if lsaFunction version header ≠ 4#16 then some none
    else
      match vertexForRouter graph header.advertisingRouter with
      | none => some none
      | some abr =>
        match spf.cost abr with
        | none => some none
        | some cost =>
          (advertisedAsbr version record header).bind fun advertised =>
            (hopsTo records graph spf (version == .three) ipv4AddressFamily abr).map fun hops =>
              some
                { nextHops := hops, routerId := advertised.1, metric := cost + advertised.2,
                  advertisingRouter := header.advertisingRouter
                  topologyVertex := BitVec.ofNat 32 abr }

def asbrBetter (candidate existing : InterAreaAsbr) : Bool :=
  decide (candidate.metric < existing.metric) ||
    (candidate.metric == existing.metric &&
      decide (candidate.advertisingRouter < existing.advertisingRouter))

/-- The hops stay in the order in which they came. -/
def settleAsbr (candidate existing : InterAreaAsbr) : InterAreaAsbr :=
  if asbrBetter candidate existing then candidate
  else if candidate.metric = existing.metric then
    { existing with nextHops := mergeHops maximumHops existing.nextHops candidate.nextHops }
  else existing

def addAsbr (asbrs : List InterAreaAsbr) (candidate : InterAreaAsbr) :
    Option (List InterAreaAsbr) :=
  if (Table.lookup InterAreaAsbr.routerId candidate.routerId asbrs).isSome then
    some
      (Table.update InterAreaAsbr.routerId candidate.routerId
        (settleAsbr maximumHops candidate) asbrs)
  else if asbrs.length = maximumRoutes then none
  else some (asbrs ++ [candidate])

def addAsbrOf (asbrs : List InterAreaAsbr) (record : LsaRecord) : Option (List InterAreaAsbr) :=
  (asbrCandidate records version ipv4AddressFamily graph spf record).bind fun candidate =>
    match candidate with
    | none => some asbrs
    | some candidate => addAsbr maximumRoutes maximumHops asbrs candidate

end Boundary

section External

variable (records : List LsaRecord) (areaId : BitVec 32) (ipv4AddressFamily : Bool)
  (graph : TopologyGraphView) (spf : SpfCalculator)

def externalPathType (nssa typeTwo : Bool) : OspfPathType :=
  if nssa then if typeTwo then .nssaType2 else .nssaType1
  else if typeTwo then .externalType2 else .externalType1

/-- The first of the longest routes that a test admits. -/
def longest (admits : CalculatedRoute → Bool) (routes : List CalculatedRoute) :
    Option CalculatedRoute :=
  routes.foldl (fun resolution route =>
    if admits route &&
        resolution.all (fun chosen => decide (chosen.prefixLength < route.prefixLength)) then
      some route
    else resolution) none

/-- An internal route to a forwarding address. -/
def resolvesVersionTwo (forwardingAddress : BitVec 32) (route : CalculatedRoute) : Bool :=
  !route.versionThree && decide (rank route.pathType ≤ rank .interArea) &&
    forwardingAddress &&& prefixMask route.prefixLength.toNat == route.versionTwoNetwork

def resolvesVersionThree (forwardingAddress : Ipv6) (route : CalculatedRoute) : Bool :=
  route.versionThree && route.ipv4AddressFamily == ipv4AddressFamily &&
    decide (rank route.pathType ≤ rank .interArea) &&
    Ip.mask forwardingAddress route.prefixLength.toNat == route.versionThreeNetwork

/-- Where an external route leads: to its forwarding address, to a boundary router of the area, or
to one of another area. A forwarding address without an internal route leaves nothing. -/
def leadExternal (resolution : Option (Option CalculatedRoute)) (asbr : Option Nat)
    (interAreaAsbr : Option InterAreaAsbr) (typeTwo : Bool) (externalMetric : BitVec 32)
    (route : CalculatedRoute) : Option (Option CalculatedRoute) :=
  match resolution with
  | some none => some none
  | some (some resolved) =>
    some
      (some
        { route with
          internalMetric := resolved.metric
          metric := if typeTwo then externalMetric else resolved.metric + externalMetric
          nextHops := resolved.nextHops, topologyVertex := resolved.topologyVertex })
  | none =>
    match asbr, interAreaAsbr with
    | some vertex, _ => (setHops records graph spf route vertex).map some
    | none, some remote =>
      some
        (some { route with nextHops := remote.nextHops, topologyVertex := remote.topologyVertex })
    | none, none => some none

def versionTwoExternal (routes : List CalculatedRoute) (record : LsaRecord)
    (header : LsaHeaderView) (asbr : Option Nat) (interAreaAsbr : Option InterAreaAsbr)
    (cost : BitVec 32) : Option (Option CalculatedRoute) :=
  (parseVersionTwoExternal record.bytes).bind fun item =>
    (prefixLength item.networkMask).bind fun length =>
      leadExternal records graph spf
        (if item.forwardingAddress ≠ 0#32 then
          some (longest (resolvesVersionTwo item.forwardingAddress) routes)
        else none) asbr interAreaAsbr item.typeTwoMetric item.metric
        { versionTwoNetwork := header.linkStateId &&& item.networkMask
          metric := if item.typeTwoMetric then item.metric else cost + item.metric
          internalMetric := cost, advertisingRouter := header.advertisingRouter, areaId,
          tag := item.routeTag
          pathType := externalPathType (header.type == 7#16) item.typeTwoMetric
          prefixLength := length }

def versionThreeExternal (routes : List CalculatedRoute) (record : LsaRecord)
    (header : LsaHeaderView) (asbr : Option Nat) (interAreaAsbr : Option InterAreaAsbr)
    (cost : BitVec 32) : Option (Option CalculatedRoute) :=
  (parseVersionThreeExternal record.bytes ipv4AddressFamily).bind fun view =>
    (expandPrefix view.item).bind fun network =>
      leadExternal records graph spf
        (if view.forwardingAddress ≠ [] then
          some
            (longest
              (resolvesVersionThree ipv4AddressFamily (Octets.read128 view.forwardingAddress 0))
              routes)
        else none) asbr interAreaAsbr view.typeTwoMetric view.metric
        { versionThreeNetwork := network
          metric := if view.typeTwoMetric then view.metric else cost + view.metric
          internalMetric := cost, advertisingRouter := header.advertisingRouter, areaId,
          tag := view.routeTag.getD 0#32
          pathType :=
            externalPathType (header.type &&& 0x1fff#16 == 7#16) view.typeTwoMetric
          prefixLength := view.item.length, versionThree := true, ipv4AddressFamily }

/-- The external route a record offers beside those there are, if it offers one. -/
def externalCandidate (version : Version) (asbrs : List InterAreaAsbr)
    (routes : List CalculatedRoute) (record : LsaRecord) : Option (Option CalculatedRoute) :=
  (lsaHeader record.bytes version).bind fun header =>
    let function := lsaFunction version header
    if function ≠ 5#16 ∧ function ≠ 7#16 then some none
    else
      let asbr := vertexForRouter graph header.advertisingRouter
      let interAreaAsbr := Table.lookup InterAreaAsbr.routerId header.advertisingRouter asbrs
      let cost :=
        match asbr with
        | some vertex => spf.cost vertex
        | none => interAreaAsbr.map (·.metric)
      match cost with
      | none => some none
      | some cost =>
        match version with
        | .two =>
          versionTwoExternal records areaId graph spf routes record header asbr interAreaAsbr cost
        | .three =>
          versionThreeExternal records areaId ipv4AddressFamily graph spf routes record header
            asbr interAreaAsbr cost

def addExternalOf (sorter : (α : Type) → Sorting.Sorter α) (maximumRoutes maximumHops : Nat)
    (version : Version) (asbrs : List InterAreaAsbr) (routes : List CalculatedRoute)
    (record : LsaRecord) : Option (List CalculatedRoute) :=
  (externalCandidate records areaId ipv4AddressFamily graph spf version asbrs routes record).bind
    fun candidate =>
      match candidate with
      | none => some routes
      | some candidate => addCandidate sorter maximumRoutes maximumHops routes candidate

end External

section Alternates

variable (heap : CandidateHeap) (graph : TopologyGraphView)

structure DistanceWork where
  distances : List (BitVec 32)
  pending : List Candidate

def relaxDistance (distance : BitVec 32) (work : DistanceWork) (edge : SpfEdge) : DistanceWork :=
  let candidate := distance + edge.cost
  if lsInfinity - edge.cost ≤ distance ∨
      work.distances.getD edge.targetVertex.toNat 0#32 ≤ candidate then work
  else
    { distances := work.distances.set edge.targetVertex.toNat candidate, pending := work.pending ++
        [{ distance := candidate, vertex := edge.targetVertex, revision := 0#32 }] }

/-- Distances from a neighbour, nearest vertex first. -/
def searchDistances : Nat → DistanceWork → List (BitVec 32)
  | 0, work => work.distances
  | fuel + 1, work =>
    match heap.pop work.pending with
    | none => work.distances
    | some (candidate, rest) =>
      let work := { work with pending := rest }
      if candidate.distance ≠ work.distances.getD candidate.vertex.toNat 0#32 then
        searchDistances fuel work
      else
        searchDistances fuel
          ((edgesFrom graph.vertices graph.edges candidate.vertex.toNat).foldl
            (relaxDistance candidate.distance) work)

/-- Every vertex can come nearer at most `lsInfinity` times. -/
def distancesFrom (vertex : Nat) : List (BitVec 32) :=
  searchDistances heap graph (2 + graph.vertices.length * 0xffffff)
    { distances := (List.replicate graph.vertices.length lsInfinity).set vertex 0#32
      pending := [{ distance := 0#32, vertex := BitVec.ofNat 32 vertex, revision := 0#32 }] }

variable (records : List LsaRecord) (spf : SpfCalculator) (maximumHops : Nat)

/-- The inequality of a repair that leads to no loop, in 64 bits. -/
def repairs (distances : List (BitVec 32)) (hop : FirstHop) (route : CalculatedRoute) : Bool :=
  if graph.vertices.length ≤ route.topologyVertex.toNat ∨ route.nextHops.isEmpty ∨
      maximumHops ≤ route.loopFreeAlternates.length then false
  else
    match spf.cost route.topologyVertex.toNat with
    | none => false
    | some rootDistance =>
      let toDestination := distances.getD route.topologyVertex.toNat 0#32
      let toSource := distances.getD graph.rootVertex.toNat 0#32
      decide (toDestination < lsInfinity) && decide (toSource < lsInfinity) &&
        !route.nextHops.any (·.topology == hop) &&
        decide (toDestination.toNat < toSource.toNat + rootDistance.toNat)

def repairRoute (distances : List (BitVec 32)) (hop : FirstHop) (route : CalculatedRoute) :
    Option CalculatedRoute :=
  if repairs graph spf maximumHops distances hop route then
    (resolveHop records route.versionThree route.ipv4AddressFamily hop).map fun alternate =>
      { route with loopFreeAlternates := route.loopFreeAlternates ++ [alternate] }
  else some route

/-- What one neighbour can repair. -/
def repairBy (routes : List CalculatedRoute) (hop : FirstHop) : Option (List CalculatedRoute) :=
  (vertexForRouter graph hop.neighborRouterId).bind fun neighbor =>
    routes.mapM (repairRoute graph records spf maximumHops (distancesFrom heap graph neighbor) hop)

def calculateLoopFreeAlternates (sorter : (α : Type) → Sorting.Sorter α)
    (routes : List CalculatedRoute) : Option (List CalculatedRoute) :=
  if graph.vertices.length ≤ graph.rootVertex.toNat then none
  else
    (graph.firstHops.foldlM (repairBy heap graph records spf maximumHops) routes).map fun routes =>
      routes.map fun route =>
        { route with
          loopFreeAlternates := (sorter _).sort nextHopLess route.loopFreeAlternates }

end Alternates

structure RouteCalculator where
  published : List CalculatedRoute := []
  maximumRoutes : Nat
  maximumEqualCostNextHops : Nat

section Recalculate

variable (sorter : (α : Type) → Sorting.Sorter α) (heap : CandidateHeap)
  (maximumRoutes maximumHops : Nat) (records : List LsaRecord) (version : Version)
  (areaId : BitVec 32) (ipv4AddressFamily : Bool) (graph : TopologyGraphView) (spf : SpfCalculator)

def addInternalOf (routes : List CalculatedRoute) (record : LsaRecord) :
    Option (List CalculatedRoute) :=
  (internalCandidates records areaId ipv4AddressFamily graph spf version record).bind
    fun candidates => addCandidates sorter maximumRoutes maximumHops candidates routes

/-- Internal routes first, then the boundary routers of other areas, then external routes. -/
def deriveRoutes : Option (List CalculatedRoute) :=
  (records.foldlM
    (addInternalOf sorter maximumRoutes maximumHops records version areaId ipv4AddressFamily graph
      spf) []).bind fun routes =>
    (records.foldlM
      (addAsbrOf records version ipv4AddressFamily graph spf maximumRoutes maximumHops) []).bind
      fun asbrs =>
        records.foldlM
          (addExternalOf records areaId ipv4AddressFamily graph spf sorter maximumRoutes
            maximumHops version asbrs) routes

def deriveAll (calculateLfa : Bool) : Option (List CalculatedRoute) :=
  (deriveRoutes sorter maximumRoutes maximumHops records version areaId ipv4AddressFamily graph
    spf).bind fun routes =>
    if calculateLfa then
      calculateLoopFreeAlternates heap graph records spf maximumHops sorter routes
    else some routes

/-- Refusing leaves the published routes as they were. -/
def RouteCalculator.recalculate (calculator : RouteCalculator) (calculateLfa : Bool) :
    Bool × RouteCalculator :=
  if graph.keys.length ≠ spf.publishedCount ∨ calculator.maximumRoutes = 0 ∨
      calculator.maximumEqualCostNextHops = 0 then (false, calculator)
  else
    match deriveAll sorter heap calculator.maximumRoutes calculator.maximumEqualCostNextHops
        records version areaId ipv4AddressFamily graph spf calculateLfa with
    | none => (false, calculator)
    | some routes => (true, { calculator with published := routes })

end Recalculate

end RouterSim.Ospf
