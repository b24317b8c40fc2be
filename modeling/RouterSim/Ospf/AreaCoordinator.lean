import RouterSim.Ospf.RouteCalculator

/-! What an area border router advertises into each of its areas: summaries of the other areas,
external routes, and what it translates for an NSSA. -/
namespace RouterSim.Ospf

open Ip (Ipv6 IpPrefix)
open Rib (OspfPathType)

inductive AreaType
  | normal | stub | totallyStub | nssa
  deriving DecidableEq

structure AreaRangeConfiguration where
  ipPrefix : IpPrefix := {}
  advertisedMetric : Option (BitVec 32) := none
  advertise : Bool := true

inductive CoordinatorAdvertisementKind
  | interAreaPrefix | interAreaRouter | translatedExternal | nssaExternal
  deriving DecidableEq

structure CoordinatorAdvertisement where
  ipPrefix : IpPrefix := {}
  destinationRouterId : BitVec 32 := 0#32
  metric : BitVec 32 := 0#32
  internalMetric : BitVec 32 := 0#32
  forwardingAddressV4 : BitVec 32 := 0#32
  forwardingAddressV6 : Ipv6 := 0#128
  tag : BitVec 32 := 0#32
  sourceLinkStateId : BitVec 32 := 0#32
  kind : CoordinatorAdvertisementKind := .interAreaPrefix
  typeTwo : Bool := false
  ipv4ForwardingAddress : Bool := false
  deriving DecidableEq

structure AreaCoordinationView where
  routes : List CalculatedRoute := []
  database : List LsaRecord := []
  ranges : List AreaRangeConfiguration := []
  areaId : BitVec 32 := 0#32
  defaultMetric : BitVec 32 := 1#32
  type : AreaType := .normal
  summaries : Bool := true
  nssaTranslateAlways : Bool := false

structure AreaCoordinationResult where
  advertisements : List (List CoordinatorAdvertisement)
  areaBorderRouter : Bool := false
  autonomousSystemBoundaryRouter : Bool := false
  deriving DecidableEq

section Summaries

def externalPath (type : OspfPathType) : Bool :=
  type == .externalType1 || type == .externalType2 || type == .nssaType1 || type == .nssaType2

def routePrefix (route : CalculatedRoute) : IpPrefix where
  network :=
    if route.versionThree then
      { family := if route.ipv4AddressFamily then .ipv4 else .ipv6
        bytes := route.versionThreeNetwork }
    else { family := .ipv4, bytes := Ip.ipv4Bytes route.versionTwoNetwork }
  length := route.prefixLength

/-- The first of the longest ranges that contain a prefix. -/
def matchingRange (area : AreaCoordinationView) (p : IpPrefix) : Option AreaRangeConfiguration :=
  area.ranges.foldl (fun selected range =>
    if range.ipPrefix.network.family ≠ p.network.family ∨ p.length < range.ipPrefix.length ∨
        !Ip.containsAddress range.ipPrefix p.network then selected
    else if selected.all fun longest => decide (longest.ipPrefix.length < range.ipPrefix.length)
      then some range
    else selected) none

def CoordinatorAdvertisement.key (a : CoordinatorAdvertisement) :
    CoordinatorAdvertisementKind × IpPrefix × BitVec 32 × BitVec 32 :=
  (a.kind, a.ipPrefix, a.destinationRouterId, a.sourceLinkStateId)

/-- One advertisement for each key, of the least metric. -/
def retainBest (output : List CoordinatorAdvertisement) (candidate : CoordinatorAdvertisement) :
    List CoordinatorAdvertisement :=
  match Table.lookup CoordinatorAdvertisement.key candidate.key output with
  | none => output ++ [candidate]
  | some existing =>
    if candidate.metric < existing.metric ∨
        (candidate.metric = existing.metric ∧
          candidate.internalMetric < existing.internalMetric) then
      Table.update CoordinatorAdvertisement.key candidate.key (fun _ => candidate) output
    else output

def CoordinatorAdvertisement.summary (a : CoordinatorAdvertisement) :
    CoordinatorAdvertisementKind × IpPrefix := (a.kind, a.ipPrefix)

/-- The greatest metric of the routes in a range. -/
def raiseMetric (output : List CoordinatorAdvertisement) (candidate : CoordinatorAdvertisement) :
    List CoordinatorAdvertisement :=
  Table.update CoordinatorAdvertisement.summary candidate.summary
    (fun existing =>
      { existing with
        metric := if existing.metric < candidate.metric then candidate.metric
          else existing.metric }) output

/-- The summary of a route, unless it is external or in a range that is not advertised. -/
def routeSummary (source : AreaCoordinationView) (route : CalculatedRoute) :
    Option CoordinatorAdvertisement :=
  let range := matchingRange source (routePrefix route)
  if externalPath route.pathType || range.any (!·.advertise) then none
  else
    some
      { ipPrefix := range.elim (routePrefix route) (·.ipPrefix)
        metric := (range.bind (·.advertisedMetric)).getD route.metric
        internalMetric := route.internalMetric }

/-- A range without a metric of its own takes that of its routes. -/
def ofRange (source : AreaCoordinationView) (route : CalculatedRoute) : Bool :=
  (matchingRange source (routePrefix route)).any (!·.advertisedMetric.isSome)

def addSummary (source : AreaCoordinationView) (output : List CoordinatorAdvertisement)
    (route : CalculatedRoute) : List CoordinatorAdvertisement :=
  match routeSummary source route with
  | none => output
  | some candidate =>
    if output.any (·.summary == candidate.summary) && ofRange source route then
      raiseMetric output candidate
    else retainBest output candidate

/-- Other areas into the backbone, and the backbone into other areas. -/
def summarizedInto (destination source : AreaCoordinationView) : Bool :=
  source.areaId != destination.areaId &&
    if destination.areaId = 0#32 then source.areaId != 0#32 else source.areaId == 0#32

def isStub (area : AreaCoordinationView) : Bool := area.type == .stub || area.type == .totallyStub

def suppressSummaries (area : AreaCoordinationView) : Bool :=
  area.type == .totallyStub || ((area.type == .stub || area.type == .nssa) && !area.summaries)

def defaultPrefix (version : Version) (ipv4AddressFamily : Bool) : IpPrefix where
  network := { family := if version == .two || ipv4AddressFamily then .ipv4 else .ipv6 }

def stubDefault (destination : AreaCoordinationView) (version : Version)
    (ipv4AddressFamily : Bool) : List CoordinatorAdvertisement :=
  if isStub destination then
    retainBest []
      { ipPrefix := defaultPrefix version ipv4AddressFamily, metric := destination.defaultMetric }
  else []

/-- The default route of a stub area, and the summaries it admits. -/
def summaries (areas : List AreaCoordinationView) (version : Version) (ipv4AddressFamily : Bool)
    (destination : AreaCoordinationView) : List CoordinatorAdvertisement :=
  if suppressSummaries destination then stubDefault destination version ipv4AddressFamily
  else
    (areas.filter (summarizedInto destination)).foldl
      (fun output source => source.routes.foldl (addSummary source) output)
      (stubDefault destination version ipv4AddressFamily)

end Summaries

section External

/-- The external metric of a route. The first type of routes has the internal one in it. -/
def externalAdvertisement (route : CalculatedRoute) : CoordinatorAdvertisement where
  ipPrefix := routePrefix route
  metric :=
    if route.pathType = .externalType1 ∨ route.pathType = .nssaType1 then
      route.metric - route.internalMetric
    else route.metric
  internalMetric := route.internalMetric
  tag := route.tag
  kind := .translatedExternal
  typeTwo := isTypeTwo route.pathType

def routerAdvertisement (route : CalculatedRoute) : CoordinatorAdvertisement where
  destinationRouterId := route.advertisingRouter
  metric := route.internalMetric
  kind := .interAreaRouter

def addExternal (output : List CoordinatorAdvertisement) (route : CalculatedRoute) :
    List CoordinatorAdvertisement :=
  if externalPath route.pathType then
    retainBest (retainBest output (externalAdvertisement route)) (routerAdvertisement route)
  else output

/-- The router of a Router-LSA that says it is an area border router. -/
def abrRouterLsa (version : Version) (record : LsaRecord) : Option (BitVec 32) :=
  (lsaHeader record.bytes version).bind fun header =>
    let border : Bool :=
      match version with
      | .two => (versionTwoRouterView record.bytes).any (·.areaBorderRouter)
      | .three => (versionThreeRouterView record.bytes).any (·.flags &&& 0x01#8 != 0#8)
    if border then some header.advertisingRouter else none

/-- The highest router id of the border routers translates, or this one whatever the others. -/
def translates (source : AreaCoordinationView) (localRouterId : BitVec 32) (version : Version) :
    Bool :=
  source.nssaTranslateAlways ||
    (source.database.filterMap (abrRouterLsa version)).all fun candidate =>
      decide (candidate ≤ localRouterId)

/-- The translation of a version two Type-7 LSA, and whether it may be propagated. -/
def translateVersionTwo (record : LsaRecord) (header : LsaHeaderView) :
    Option (CoordinatorAdvertisement × Bool) :=
  (parseVersionTwoExternal record.bytes).bind fun body =>
    (prefixLength body.networkMask).map fun length =>
      ({ ipPrefix :=
           { network :=
               { family := .ipv4, bytes := Ip.ipv4Bytes (header.linkStateId &&& body.networkMask) }
             length }
         metric := body.metric, forwardingAddressV4 := body.forwardingAddress, tag := body.routeTag,
         sourceLinkStateId := header.linkStateId, kind := .translatedExternal,
         typeTwo := body.typeTwoMetric },
        header.options &&& 0x08#32 != 0#32 && body.forwardingAddress != 0#32)

def translateVersionThree (ipv4AddressFamily : Bool) (record : LsaRecord)
    (header : LsaHeaderView) : Option (CoordinatorAdvertisement × Bool) :=
  (parseVersionThreeExternal record.bytes ipv4AddressFamily).bind fun body =>
    (expandPrefix body.item).map fun network =>
      let forwardingAddress := Octets.read128 body.forwardingAddress 0
      ({ ipPrefix :=
           { network :=
               { family := if ipv4AddressFamily then .ipv4 else .ipv6, bytes := network }
             length := body.item.length }
         metric := body.metric, forwardingAddressV6 := forwardingAddress,
         tag := body.routeTag.getD 0#32, sourceLinkStateId := header.linkStateId,
         kind := .translatedExternal, typeTwo := body.typeTwoMetric,
         ipv4ForwardingAddress := ipv4AddressFamily },
        body.item.options &&& 0x08#8 != 0#8 && forwardingAddress != 0#128)

/-- What a record of an NSSA is translated to, if it is. -/
def translateRecord (version : Version) (ipv4AddressFamily : Bool) (record : LsaRecord) :
    Option (Option CoordinatorAdvertisement) :=
  (lsaHeader record.bytes version).bind fun header =>
    if lsaFunction version header ≠ 7#16 then some none
    else
      let translated : Option (CoordinatorAdvertisement × Bool) :=
        match version with
        | .two => translateVersionTwo record header
        | .three => translateVersionThree ipv4AddressFamily record header
      translated.map fun translated => if translated.2 then some translated.1 else none

def translateNssa (source : AreaCoordinationView) (localRouterId : BitVec 32)
    (version : Version) (ipv4AddressFamily : Bool) (output : List CoordinatorAdvertisement) :
    Option (List CoordinatorAdvertisement) :=
  if source.type ≠ .nssa ∨ !translates source localRouterId version then some output
  else
    source.database.foldlM
      (fun output record =>
        (translateRecord version ipv4AddressFamily record).map (·.elim output (retainBest output)))
      output

end External

section Coordinate

variable (areas : List AreaCoordinationView) (localRouterId : BitVec 32) (version : Version)
  (ipv4AddressFamily : Bool)

/-- External routes go into normal areas only. -/
def areaAdvertisements (destination : AreaCoordinationView) :
    Option (List CoordinatorAdvertisement) :=
  let output := summaries areas version ipv4AddressFamily destination
  if destination.type = .normal then
    (areas.filter (·.areaId != destination.areaId)).foldlM
      (fun output source =>
        translateNssa source localRouterId version ipv4AddressFamily
          (source.routes.foldl addExternal output)) output
  else some output

/-- A router with the backbone and another area. -/
def isAreaBorderRouter : Bool := areas.any (·.areaId == 0#32) && decide (1 < areas.length)

def coordinateAreas : Option AreaCoordinationResult :=
  if localRouterId = 0#32 then none
  else if !isAreaBorderRouter areas then some { advertisements := areas.map fun _ => [] }
  else
    (areas.mapM (areaAdvertisements areas localRouterId version ipv4AddressFamily)).map
      fun advertisements => { advertisements, areaBorderRouter := true }

end Coordinate

end RouterSim.Ospf
