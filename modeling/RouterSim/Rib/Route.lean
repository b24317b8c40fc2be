import RouterSim.Lib.Compaction
import RouterSim.Lib.Sorting

/-! What the IPv4 and the IPv6 route table share: routes and their order of preference, the
inputs of a routing protocol, and the steps of a rebuild that the two families take alike. -/
namespace RouterSim.Rib

def maximumPortsPerRouter : Nat := 801
def maximumStaticRoutesPerRouter : Nat := 64
def maximumFibRoutesPerRouter : Nat := maximumPortsPerRouter + maximumStaticRoutesPerRouter

/-- The most paths one prefix may have. -/
def maximumEcmpPaths : Nat := 128

/-- In order of preference. -/
inductive RouteSource
  | connected | staticRoute | ospf | ospf3
  deriving DecidableEq

inductive OspfPathType
  | none | intraArea | interArea | externalType1 | externalType2 | nssaType1 | nssaType2
  deriving DecidableEq

def RouteSource.ordinal : RouteSource → Nat
  | .connected => 0
  | .staticRoute => 1
  | .ospf => 2
  | .ospf3 => 3

def isOspf (source : RouteSource) : Bool := source == .ospf || source == .ospf3

def validDynamic (source : RouteSource) (pathType : OspfPathType) : Bool :=
  isOspf source && pathType != .none

def pathRank : OspfPathType → Nat
  | .none => 0
  | .intraArea => 1
  | .interArea => 2
  | .externalType1 | .nssaType1 => 3
  | .externalType2 | .nssaType2 => 4

def typeTwo (pathType : OspfPathType) : Bool := pathType == .externalType2 || pathType == .nssaType2

/-- Where a route leaves the router, and what it is ordered by there: the port in IPv4, the
interface in IPv6. -/
class Egress (ε : Type) where
  ordinal : ε → Nat

/-- A route of either family: addresses of `w` bits, and an egress. -/
structure Route (w : Nat) (ε : Type) where
  network : BitVec w := 0#w
  nextHop : BitVec w := 0#w
  egress : ε
  prefixLength : BitVec 8 := 0#8
  preference : BitVec 16 := 0#16
  metric : BitVec 32 := 0#32
  source : RouteSource := .connected
  ospfPathType : OspfPathType := .none
  protocolInstance : BitVec 8 := 0#8
  deriving DecidableEq

instance {w : Nat} {ε : Type} [Inhabited ε] : Inhabited (Route w ε) := ⟨{ egress := default }⟩

/-- A path a routing protocol offers. Its repairs are marked. -/
structure DynamicInput (w : Nat) (ε : Type) where
  configured : Bool := true
  operational : Bool := true
  network : BitVec w
  nextHop : BitVec w
  egress : ε
  preference : BitVec 16
  metric : BitVec 32
  prefixLength : BitVec 8
  source : RouteSource
  ospfPathType : OspfPathType := .intraArea
  internalMetric : BitVec 32 := 0#32
  protocolInstance : BitVec 8 := 0#8
  loopFreeAlternate : Bool := false

section Selection

variable {w : Nat} {ε : Type} [Egress ε] (left right : Route w ε)

/-- Preference, source, path rank, metric, instance. The routes carry no internal metric, so
that tie-break does not apply to them. -/
def selectionLess : Bool :=
  if left.preference ≠ right.preference then decide (left.preference < right.preference)
  else if left.source ≠ right.source then decide (left.source.ordinal < right.source.ordinal)
  else if pathRank left.ospfPathType ≠ pathRank right.ospfPathType then
    decide (pathRank left.ospfPathType < pathRank right.ospfPathType)
  else if left.metric ≠ right.metric then decide (left.metric < right.metric)
  else if left.protocolInstance ≠ right.protocolInstance then
    decide (left.protocolInstance < right.protocolInstance)
  else false

def sameSelectionClass : Bool := !selectionLess left right && !selectionLess right left

/-- The order candidates are sorted in. Longer prefixes come first. -/
def candidateLess : Bool :=
  if left.network ≠ right.network then decide (left.network < right.network)
  else if left.prefixLength ≠ right.prefixLength then
    decide (right.prefixLength < left.prefixLength)
  else if !sameSelectionClass left right then selectionLess left right
  else if left.nextHop ≠ right.nextHop then decide (left.nextHop < right.nextHop)
  else decide (Egress.ordinal left.egress < Egress.ordinal right.egress)

def samePrefix : Bool := left.network == right.network && left.prefixLength == right.prefixLength

/-- The order repairs are sorted in. -/
def alternateLess : Bool :=
  if left.network ≠ right.network then decide (left.network < right.network)
  else if left.prefixLength ≠ right.prefixLength then
    decide (left.prefixLength < right.prefixLength)
  else if left.nextHop ≠ right.nextHop then decide (left.nextHop < right.nextHop)
  else decide (Egress.ordinal left.egress < Egress.ordinal right.egress)

def sameAlternate : Bool :=
  left.network == right.network && left.prefixLength == right.prefixLength &&
    left.nextHop == right.nextHop && Egress.ordinal left.egress == Egress.ordinal right.egress

/-- The primary route belongs to the protocol that offers the repair. -/
def repairs (alternate primary : Route w ε) : Bool :=
  primary.network == alternate.network && primary.prefixLength == alternate.prefixLength &&
    primary.source == alternate.source && primary.ospfPathType == alternate.ospfPathType &&
    primary.protocolInstance == alternate.protocolInstance

end Selection

section Dynamic

variable {w : Nat} {ε : Type}

namespace DynamicInput

/-- A path that takes part in the selection. -/
def usable (entry : DynamicInput w ε) : Bool :=
  entry.configured && entry.operational && !entry.loopFreeAlternate

def repair (entry : DynamicInput w ε) : Bool :=
  entry.configured && entry.operational && entry.loopFreeAlternate

/-- Another external path of type 2 is nearer to its border router. -/
def dominated (dynamic : List (DynamicInput w ε)) (entry : DynamicInput w ε) : Bool :=
  typeTwo entry.ospfPathType && dynamic.any fun other =>
    other.usable && other.network == entry.network &&
      other.prefixLength == entry.prefixLength && other.preference == entry.preference &&
      other.source == entry.source && other.ospfPathType == entry.ospfPathType &&
      other.protocolInstance == entry.protocolInstance && other.metric == entry.metric &&
      decide (other.internalMetric < entry.internalMetric)

/-- The route of a path, under the network it is installed for. -/
def route (entry : DynamicInput w ε) (network : BitVec w) : Route w ε where
  network := network
  nextHop := entry.nextHop
  egress := entry.egress
  prefixLength := entry.prefixLength
  preference := entry.preference
  metric := entry.metric
  source := entry.source
  ospfPathType := entry.ospfPathType
  protocolInstance := entry.protocolInstance

/-- Longer prefix, then preference, then metric. -/
def resolvesBetter (candidate best : DynamicInput w ε) : Bool :=
  decide (best.prefixLength < candidate.prefixLength) ||
    candidate.prefixLength == best.prefixLength &&
      (decide (candidate.preference < best.preference) ||
        candidate.preference == best.preference && decide (candidate.metric < best.metric))

/-- As good as the best. -/
def resolvesAlike (candidate best : DynamicInput w ε) : Bool :=
  candidate.prefixLength == best.prefixLength && candidate.preference == best.preference &&
    candidate.metric == best.metric

end DynamicInput

def betterOf {α : Type} (better : α → α → Bool) (best : Option α) (candidate : α) : Option α :=
  match best with
  | none => some candidate
  | some current => if better candidate current then some candidate else some current

/-- The first of the entries that no later one is better than. -/
def bestOf {α : Type} (better : α → α → Bool) (entries : List α) : Option α :=
  entries.foldl (betterOf better) none

/-- Every path that resolves an indirect address as well as the best one does. -/
def resolutions (covers : DynamicInput w ε → Bool) (dynamic : List (DynamicInput w ε)) :
    List (DynamicInput w ε) :=
  let paths := dynamic.filter fun candidate => candidate.usable && covers candidate
  match bestOf DynamicInput.resolvesBetter paths with
  | none => []
  | some best => paths.filter (DynamicInput.resolvesAlike · best)

/-- The route of a static entry over one resolved hop. -/
def staticRoute (network : BitVec w) (length : BitVec 8) (nextHop : BitVec w) (egress : ε) :
    Route w ε where
  network := network
  nextHop := nextHop
  egress := egress
  prefixLength := length
  preference := 5#16
  metric := 1#32
  source := .staticRoute

end Dynamic

section Rebuild

variable {ρ : Type}

/-- Rows are added one at a time while there is room. -/
def appendAll (rows more : List ρ) : Option (List ρ) :=
  more.foldlM
    (fun rows row =>
      if rows.length = maximumFibRoutesPerRouter then none else some (rows ++ [row])) rows

/-- The list without what only repeats the last row that was kept. -/
def uniqueFrom (same : ρ → ρ → Bool) (last : ρ) : List ρ → List ρ
  | [] => []
  | row :: rest =>
    if same last row then uniqueFrom same last rest else row :: uniqueFrom same row rest

def uniqueRows (same : ρ → ρ → Bool) : List ρ → List ρ
  | [] => []
  | row :: rest => row :: uniqueFrom same row rest

variable {w : Nat} {ε : Type} [Egress ε] [Inhabited ε]

/-- Sorts the candidates and compacts them in place. -/
def selectPrimaries (sorter : Sorting.Sorter (Route w ε)) (maximumPaths : Nat)
    (candidates : List (Route w ε)) : List (Route w ε) × Nat :=
  Compaction.compact samePrefix sameSelectionClass maximumPaths
    (sorter.sort candidateLess candidates) candidates.length

/-- Sorts the first rows of an array of repairs, drops what repeats, and keeps what repairs a
selected route. Rows beyond stay as they were. -/
def selectAlternates (sorter : Sorting.Sorter (Route w ε)) (primaries : List (Route w ε))
    (rows : List (Route w ε)) (count : Nat) : List (Route w ε) × Nat :=
  let sorted := sorter.sort alternateLess (rows.take count) ++ rows.drop count
  let distinct := uniqueRows sameAlternate (sorted.take count)
  Compaction.filterInPlace (fun alternate => primaries.any (repairs alternate))
    (distinct ++ sorted.drop distinct.length) distinct.length

end Rebuild

section Table

/-- Only the counted rows of an array are in use. -/
structure RouteTable (ρ : Type) where
  routes : List ρ := []
  loopFreeAlternates : List ρ := []
  count : Nat := 0
  loopFreeAlternateCount : Nat := 0
  lastRebuildValid : Bool := true

/-- The primary routes and then the repairs. -/
structure FibProgram (ρ : Type) where
  generation : BitVec 64
  routes : List ρ
  count : Nat
  loopFreeAlternateCount : Nat

namespace RouteTable

variable {ρ : Type} (table : RouteTable ρ)

/-- The primary routes that are published. -/
def published : List ρ := table.routes.take table.count

def compile (generation : BitVec 64) : FibProgram ρ where
  generation := generation
  routes := table.published ++ table.loopFreeAlternates.take table.loopFreeAlternateCount
  count := table.count
  loopFreeAlternateCount := table.loopFreeAlternateCount

def reject : RouteTable ρ := { table with lastRebuildValid := false }

end RouteTable

end Table

end RouterSim.Rib
