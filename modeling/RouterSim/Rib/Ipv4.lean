import RouterSim.Rib.Route

/-! The IPv4 route table: what it is given, the candidates it resolves, and the rebuild. -/
namespace RouterSim.Rib

/-- A port, or the system interface that has none. -/
structure PortEgress where
  portOrdinal : BitVec 16 := 0#16
  localSystem : Bool := false
  deriving DecidableEq, Inhabited

instance : Egress PortEgress where
  ordinal egress := egress.portOrdinal.toNat

abbrev Ipv4Route := Route 32 PortEgress
abbrev Ipv4DynamicInput := DynamicInput 32 PortEgress
abbrev Ipv4RouteTable := RouteTable Ipv4Route

structure ConnectedInput where
  configured : Bool := true
  operational : Bool := true
  network : BitVec 32
  portOrdinal : BitVec 16
  prefixLength : BitVec 8
  localSystem : Bool := false

structure StaticInput where
  configured : Bool := true
  network : BitVec 32
  nextHop : BitVec 32
  prefixLength : BitVec 8
  indirect : Bool := false

/-- What a rebuild is called with. -/
structure Ipv4Input where
  connected : List ConnectedInput := []
  statics : List StaticInput := []
  dynamic : List Ipv4DynamicInput := []
  maximumEcmpPaths : BitVec 16 := 1#16

def prefixMask (length : BitVec 8) : BitVec 32 :=
  if length = 0#8 then 0#32 else 0xffffffff#32 <<< (32 - length.toNat)

section Validation

def ConnectedInput.valid (entry : ConnectedInput) : Bool :=
  !entry.configured ||
    !(decide (32#8 < entry.prefixLength) || (entry.localSystem && entry.prefixLength != 32#8) ||
      (!entry.localSystem && decide (maximumPortsPerRouter ≤ entry.portOrdinal.toNat)))

def StaticInput.valid (entry : StaticInput) : Bool :=
  !entry.configured || decide (entry.prefixLength ≤ 32#8)

/-- The port of a protocol's path is a real one. -/
def validDynamic4 (entry : Ipv4DynamicInput) : Bool :=
  !entry.configured ||
    !(decide (32#8 < entry.prefixLength) ||
      decide (maximumPortsPerRouter ≤ entry.egress.portOrdinal.toNat) ||
      !validDynamic entry.source entry.ospfPathType)

def Ipv4Input.valid (input : Ipv4Input) : Bool :=
  input.connected.all ConnectedInput.valid && input.statics.all StaticInput.valid &&
    !(input.maximumEcmpPaths == 0#16 ||
      decide (Rib.maximumEcmpPaths < input.maximumEcmpPaths.toNat)) &&
    input.dynamic.all validDynamic4

end Validation

section Candidates

/-- The network without its host bits. -/
def canonical4 (network : BitVec 32) (length : BitVec 8) : BitVec 32 := network &&& prefixMask length

def covers4 (network : BitVec 32) (length : BitVec 8) (address : BitVec 32) : Bool :=
  address &&& prefixMask length == network &&& prefixMask length

def connectedRoutes4 (connected : List ConnectedInput) : List Ipv4Route :=
  (connected.filter fun entry => entry.configured && entry.operational).map fun entry =>
    { network := canonical4 entry.network entry.prefixLength
      egress :=
        { portOrdinal := entry.portOrdinal, localSystem := entry.localSystem }
      prefixLength := entry.prefixLength }

def dynamicRoute4 (entry : Ipv4DynamicInput) : Ipv4Route :=
  let route := entry.route (canonical4 entry.network entry.prefixLength)
  { route with egress := { route.egress with localSystem := false } }

def dynamicRoutes4 (dynamic : List Ipv4DynamicInput) : List Ipv4Route :=
  (dynamic.filter fun entry => entry.usable && !entry.dominated dynamic).map dynamicRoute4

/-- The longest operational connected network with the address. The system interface resolves
nothing. -/
def resolve4 (connected : List ConnectedInput) (address : BitVec 32) : Option ConnectedInput :=
  bestOf (fun candidate best => decide (best.prefixLength < candidate.prefixLength))
    (connected.filter fun candidate =>
      candidate.configured && candidate.operational && !candidate.localSystem &&
        covers4 candidate.network candidate.prefixLength address)

/-- A direct next hop goes by a connected network, an indirect one by the protocols' paths. -/
def staticRoutes4 (connected : List ConnectedInput) (dynamic : List Ipv4DynamicInput)
    (entry : StaticInput) : List Ipv4Route :=
  let network := canonical4 entry.network entry.prefixLength
  if !entry.configured then []
  else if !entry.indirect then
    match resolve4 connected entry.nextHop with
    | none => []
    | some resolution =>
      [staticRoute network entry.prefixLength entry.nextHop
        { portOrdinal := resolution.portOrdinal }]
  else
    (resolutions
        (fun candidate => covers4 candidate.network candidate.prefixLength entry.nextHop)
        dynamic).map fun candidate =>
      staticRoute network entry.prefixLength candidate.nextHop
        { portOrdinal := candidate.egress.portOrdinal }

/-- Every resolved candidate, in the order of the sources. -/
def Ipv4Input.candidates (input : Ipv4Input) : List Ipv4Route :=
  connectedRoutes4 input.connected ++ dynamicRoutes4 input.dynamic ++
    input.statics.flatMap (staticRoutes4 input.connected input.dynamic)

/-- The repairs of prefixes that the protocol also has a path for. -/
def stagedAlternates4 (next : List Ipv4Route) (dynamic : List Ipv4DynamicInput) : List Ipv4Route :=
  ((dynamic.filter DynamicInput.repair).map dynamicRoute4).filter fun alternate =>
    next.any (repairs alternate)

end Candidates

section Rebuild

/-- Everything but the mark of the system interface, which no repair has. -/
def unchangedAlternate4 (left right : Ipv4Route) : Bool :=
  { left with egress := { left.egress with localSystem := right.egress.localSystem } } == right

/-- The rows are as they were. -/
def unchangedRows {ρ : Type} (same : ρ → ρ → Bool) (next old : List ρ) : Bool :=
  next.length == old.length && (next.zip old).all fun pair => same pair.1 pair.2

namespace Ipv4RouteTable

/-- The rows of a generation, if every candidate found room. -/
def stage (sorter : Sorting.Sorter Ipv4Route) (input : Ipv4Input) :
    Option ((List Ipv4Route × Nat) × (List Ipv4Route × Nat)) := do
  let next ← appendAll [] (connectedRoutes4 input.connected)
  let next ← appendAll next (dynamicRoutes4 input.dynamic)
  let alternates ← appendAll [] (stagedAlternates4 next input.dynamic)
  let next ← appendAll next (input.statics.flatMap (staticRoutes4 input.connected input.dynamic))
  let primaries := selectPrimaries sorter input.maximumEcmpPaths.toNat next
  some (primaries, selectAlternates sorter (primaries.1.take primaries.2) alternates
    alternates.length)

/-- The table after a rebuild, and whether it publishes something new. -/
def rebuild (sorter : Sorting.Sorter Ipv4Route) (table : Ipv4RouteTable) (input : Ipv4Input) :
    Ipv4RouteTable × Bool :=
  if !input.valid then (table.reject, false)
  else
    match stage sorter input with
    | none => (table.reject, false)
    | some (primaries, alternates) =>
      if maximumFibRoutesPerRouter < primaries.2 + alternates.2 then (table.reject, false)
      else
        let changed := primaries.2 != table.count ||
          alternates.2 != table.loopFreeAlternateCount ||
          !unchangedRows (· == ·) (primaries.1.take primaries.2) (table.routes.take primaries.2) ||
          !unchangedRows unchangedAlternate4 (alternates.1.take alternates.2)
            (table.loopFreeAlternates.take alternates.2)
        if changed then
          ({ routes := primaries.1, loopFreeAlternates := alternates.1, count := primaries.2,
             loopFreeAlternateCount := alternates.2 }, true)
        else ({ table with lastRebuildValid := true }, false)

end Ipv4RouteTable

end Rebuild

end RouterSim.Rib
