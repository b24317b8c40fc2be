import RouterSim.Ip.Address
import RouterSim.Rib.Ipv4

/-! The IPv6 route table. Its rebuild sorts and filters the repairs in the array that is
published, before the last check. -/
namespace RouterSim.Rib

/-- The interface that scopes a neighbor, and the port behind it. -/
structure ScopedEgress where
  interfaceId : BitVec 64 := 0#64
  physicalPortOrdinal : BitVec 16 := 0#16
  deriving DecidableEq, Inhabited

instance : Egress ScopedEgress where
  ordinal egress := egress.interfaceId.toNat

abbrev Ipv6Route := Route 128 ScopedEgress
abbrev Ipv6DynamicInput := DynamicInput 128 ScopedEgress
abbrev Ipv6RouteTable := RouteTable Ipv6Route

structure Ipv6ConnectedInput where
  configured : Bool := true
  operational : Bool := true
  network : BitVec 128
  interfaceId : BitVec 64
  physicalPortOrdinal : BitVec 16
  prefixLength : BitVec 8

structure Ipv6StaticInput where
  configured : Bool := true
  indirect : Bool := false
  outgoingInterfaceSet : Bool := false
  network : BitVec 128
  nextHop : BitVec 128
  outgoingInterfaceId : BitVec 64 := 0#64
  prefixLength : BitVec 8

structure Ipv6Input where
  connected : List Ipv6ConnectedInput := []
  statics : List Ipv6StaticInput := []
  additionalConnected : List Ipv6ConnectedInput := []
  dynamic : List Ipv6DynamicInput := []
  maximumEcmpPaths : BitVec 16 := 1#16

def systemInterfacePortOrdinal : BitVec 16 := 801#16
def systemInterfaceId : BitVec 64 := 0x8000000000000321#64

section Validation

def isUnspecified (address : Ip.Ipv6) : Bool := address == 0#128
def isMulticast (address : Ip.Ipv6) : Bool := address.extractLsb' 120 8 == 0xff#8

/-- `fe80::/10`. -/
def isLinkLocal (address : Ip.Ipv6) : Bool := address.extractLsb' 118 10 == 0x3fa#10

/-- No host bits beyond a length an address has. -/
def canonical6 (network : Ip.Ipv6) (length : BitVec 8) : Bool :=
  decide (length ≤ 128#8) && Ip.mask network length.toNat == network

def Ipv6ConnectedInput.valid (entry : Ipv6ConnectedInput) : Bool :=
  !entry.configured ||
    (entry.interfaceId != 0#64 &&
      (if entry.interfaceId = systemInterfaceId then
        entry.physicalPortOrdinal == systemInterfacePortOrdinal && entry.prefixLength == 128#8
      else decide (entry.physicalPortOrdinal.toNat < maximumPortsPerRouter)) &&
      canonical6 entry.network entry.prefixLength)

def Ipv6StaticInput.valid (entry : Ipv6StaticInput) : Bool :=
  !entry.configured ||
    !(!canonical6 entry.network entry.prefixLength || isUnspecified entry.nextHop ||
      (entry.indirect && (isLinkLocal entry.nextHop || entry.outgoingInterfaceSet)) ||
      (!entry.indirect && isLinkLocal entry.nextHop &&
        (!entry.outgoingInterfaceSet || entry.outgoingInterfaceId == 0#64)))

def validDynamic6 (entry : Ipv6DynamicInput) : Bool :=
  !entry.configured ||
    !(entry.egress.interfaceId == 0#64 ||
      decide (maximumPortsPerRouter ≤ entry.egress.physicalPortOrdinal.toNat) ||
      !canonical6 entry.network entry.prefixLength || isUnspecified entry.nextHop ||
      isMulticast entry.nextHop || !validDynamic entry.source entry.ospfPathType)

def Ipv6Input.valid (input : Ipv6Input) : Bool :=
  input.connected.all Ipv6ConnectedInput.valid &&
    input.additionalConnected.all Ipv6ConnectedInput.valid &&
    !(input.maximumEcmpPaths == 0#16 ||
      decide (Rib.maximumEcmpPaths < input.maximumEcmpPaths.toNat)) &&
    input.statics.all Ipv6StaticInput.valid &&
    decide (input.dynamic.countP DynamicInput.repair ≤ maximumFibRoutesPerRouter) &&
    input.dynamic.all validDynamic6

end Validation

section Candidates

def covers6 (network : Ip.Ipv6) (length : BitVec 8) (address : Ip.Ipv6) : Bool :=
  Ip.contains { network := network, length := length } address

def connectedRoutes6 (connected : List Ipv6ConnectedInput) : List Ipv6Route :=
  (connected.filter fun entry => entry.configured && entry.operational).map fun entry =>
    { network := entry.network
      egress :=
        { interfaceId := entry.interfaceId, physicalPortOrdinal := entry.physicalPortOrdinal }
      prefixLength := entry.prefixLength }

def dynamicRoute6 (entry : Ipv6DynamicInput) : Ipv6Route := entry.route entry.network

def dynamicRoutes6 (dynamic : List Ipv6DynamicInput) : List Ipv6Route :=
  (dynamic.filter fun entry => entry.usable && !entry.dominated dynamic).map dynamicRoute6

/-- A link-local next hop is reached by the first entry of its interface, any other by the
longest network with it. Native interfaces come before services. -/
def resolve6 (connected additional : List Ipv6ConnectedInput) (entry : Ipv6StaticInput) :
    Option Ipv6ConnectedInput :=
  let operational := (connected ++ additional).filter fun candidate =>
    candidate.configured && candidate.operational
  if isLinkLocal entry.nextHop then
    operational.find? fun candidate => candidate.interfaceId == entry.outgoingInterfaceId
  else
    bestOf (fun candidate best => decide (best.prefixLength < candidate.prefixLength))
      (operational.filter fun candidate =>
        covers6 candidate.network candidate.prefixLength entry.nextHop)

def staticRoutes6 (connected additional : List Ipv6ConnectedInput)
    (dynamic : List Ipv6DynamicInput) (entry : Ipv6StaticInput) : List Ipv6Route :=
  if !entry.configured then []
  else if !entry.indirect then
    match resolve6 connected additional entry with
    | none => []
    | some resolution =>
      [staticRoute entry.network entry.prefixLength entry.nextHop
        { interfaceId := resolution.interfaceId
          physicalPortOrdinal := resolution.physicalPortOrdinal }]
  else
    (resolutions
        (fun candidate =>
          (!isLinkLocal entry.nextHop ||
            candidate.egress.interfaceId == entry.outgoingInterfaceId) &&
            covers6 candidate.network candidate.prefixLength entry.nextHop)
        dynamic).map fun candidate =>
      staticRoute entry.network entry.prefixLength candidate.nextHop candidate.egress

def Ipv6Input.candidates (input : Ipv6Input) : List Ipv6Route :=
  connectedRoutes6 input.connected ++ connectedRoutes6 input.additionalConnected ++
    dynamicRoutes6 input.dynamic ++
    input.statics.flatMap (staticRoutes6 input.connected input.additionalConnected input.dynamic)

def stagedAlternates6 (dynamic : List Ipv6DynamicInput) : List Ipv6Route :=
  (dynamic.filter DynamicInput.repair).map dynamicRoute6

end Candidates

section Rebuild

namespace Ipv6RouteTable

/-- The selected routes, if every candidate found room. -/
def stage (sorter : Sorting.Sorter Ipv6Route) (input : Ipv6Input) :
    Option (List Ipv6Route × Nat) := do
  let next ← appendAll [] (connectedRoutes6 input.connected)
  let next ← appendAll next (connectedRoutes6 input.additionalConnected)
  let next ← appendAll next (dynamicRoutes6 input.dynamic)
  let next ← appendAll next (input.statics.flatMap
    (staticRoutes6 input.connected input.additionalConnected input.dynamic))
  some (selectPrimaries sorter input.maximumEcmpPaths.toNat next)

/-- The array of repairs with this generation's written over its first rows. -/
def stageAlternates (sorter : Sorting.Sorter Ipv6Route) (table : Ipv6RouteTable)
    (input : Ipv6Input) (primaries : List Ipv6Route) : List Ipv6Route × Nat :=
  let staged := stagedAlternates6 input.dynamic
  selectAlternates sorter primaries (staged ++ table.loopFreeAlternates.drop staged.length)
    staged.length

/-- A generation that turns out too large is refused only after the repairs have been written.
A generation with repairs is always published anew. -/
def rebuild (sorter : Sorting.Sorter Ipv6Route) (table : Ipv6RouteTable) (input : Ipv6Input) :
    Ipv6RouteTable × Bool :=
  if !input.valid then (table.reject, false)
  else
    match stage sorter input with
    | none => (table.reject, false)
    | some primaries =>
      let alternates := stageAlternates sorter table input (primaries.1.take primaries.2)
      let written := { table with loopFreeAlternates := alternates.1 }
      if maximumFibRoutesPerRouter < primaries.2 + alternates.2 then (written.reject, false)
      else
        let changed := primaries.2 != table.count ||
          alternates.2 != table.loopFreeAlternateCount || alternates.2 != 0 ||
          !unchangedRows (· == ·) (primaries.1.take primaries.2) (table.routes.take primaries.2)
        if changed then
          ({ routes := primaries.1, loopFreeAlternates := alternates.1, count := primaries.2,
             loopFreeAlternateCount := alternates.2 }, true)
        else ({ written with lastRebuildValid := true }, false)

end Ipv6RouteTable

end Rebuild

end RouterSim.Rib
