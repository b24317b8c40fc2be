import RouterSim.Rib.Rebuild

/-! Among external paths of type 2 the one with the nearer border router wins. The paths that
lose are dropped before the selection, by an exact comparison of networks and path types, where
the selection compares canonical networks and takes both kinds of type 2 alike. -/
namespace RouterSim.Rib

open Sorting

section Rivals

variable {w : Nat} {ε : Type} {canonical : BitVec w → BitVec 8 → BitVec w}
  {dynamic : List (DynamicInput w ε)} {other entry : DynamicInput w ε}

/-- A path that becomes a candidate of the selection. -/
def DynamicInput.kept (dynamic : List (DynamicInput w ε)) (entry : DynamicInput w ε) : Bool :=
  entry.usable && !entry.dominated dynamic

/-- Another usable path of type 2 for the prefix, alike but with a nearer border router. -/
def DynamicInput.outranks (canonical : BitVec w → BitVec 8 → BitVec w)
    (other entry : DynamicInput w ε) : Bool :=
  other.usable && typeTwo other.ospfPathType && typeTwo entry.ospfPathType &&
    canonical other.network other.prefixLength == canonical entry.network entry.prefixLength &&
    other.prefixLength == entry.prefixLength && other.preference == entry.preference &&
    other.source == entry.source && other.protocolInstance == entry.protocolInstance &&
    other.metric == entry.metric && decide (other.internalMetric < entry.internalMetric)

/-- No path whose route is among these is outranked. -/
def TieBreakHolds (canonical : BitVec w → BitVec 8 → BitVec w)
    (row : DynamicInput w ε → Route w ε) (dynamic : List (DynamicInput w ε))
    (published : List (Route w ε)) : Prop :=
  ∀ entry ∈ dynamic, entry.kept dynamic = true → row entry ∈ published →
    ∀ other ∈ dynamic, other.outranks canonical entry = false

instance [DecidableEq ε] {row : DynamicInput w ε → Route w ε} {published : List (Route w ε)} :
    Decidable (TieBreakHolds canonical row dynamic published) :=
  inferInstanceAs (Decidable (∀ entry ∈ dynamic, _ → _ → ∀ other ∈ dynamic, _))

/-- A path that is outranked by one of another type, or of a network written otherwise. -/
def DynamicInput.mixed (canonical : BitVec w → BitVec 8 → BitVec w)
    (other entry : DynamicInput w ε) : Bool :=
  other.outranks canonical entry &&
    (other.ospfPathType != entry.ospfPathType || other.network != entry.network)

/-- What outranks a candidate differs from it in the type or in the host bits. -/
theorem mixed_of_outranks (kept : entry.kept dynamic = true) (mem : other ∈ dynamic) :
    other.mixed canonical entry = other.outranks canonical entry := by
  rw [DynamicInput.mixed, Bool.and_eq_left_iff_imp]
  intro outranks
  rw [DynamicInput.kept, Bool.and_eq_true, Bool.not_eq_true'] at kept
  apply Classical.byContradiction
  intro alike
  simp only [asserted, not_or, Decidable.not_not] at alike
  simp only [DynamicInput.outranks, asserted] at outranks
  have dominated : entry.dominated dynamic = true := by
    simp only [DynamicInput.dominated, asserted, List.any_eq_true]
    exact ⟨outranks.1.1.1.1.1.1.1.2, other, mem, by simp [outranks, alike]⟩
  rw [dominated] at kept
  cases kept.2

end Rivals

section Published

variable {w : Nat} {ε : Type} [Egress ε] {candidates : List (Route w ε)}
  {sorter : Sorting.Sorter (Route w ε)} {limit : Nat} {route : Route w ε}

/-- The route is one of the first of the best class of its prefix, as far as the limit goes. -/
def FirstOfClass (sorter : Sorting.Sorter (Route w ε)) (limit : Nat)
    (candidates : List (Route w ε)) (route : Route w ε) : Prop :=
  route ∈ (leastClass (sorter.sort candidateLess candidates) route.network
    route.prefixLength).take limit

theorem mem_selection_iff :
    route ∈ selection sorter limit candidates ↔ FirstOfClass sorter limit candidates route := by
  have keys : (sorter.sort candidateLess candidates).Pairwise fun a b => ¬ key b < key a :=
    sorted_keys
  have ofPrefix : (selection sorter limit candidates).filter (prefixKey · == prefixKey route) =
      (Compaction.least prefixKey classKey (prefixKey route)
        (sorter.sort candidateLess candidates)).take limit :=
    Compaction.select_filter (keys.imp fun after => (key_parts after).1)
      (keys.imp fun after same => ((key_parts after).2 same).1) _
  rw [FirstOfClass, leastClass_eq]
  show _ ↔ route ∈ (Compaction.least prefixKey classKey (prefixKey route) _).take limit
  rw [← ofPrefix, List.mem_filter, beq_self_eq_true, and_iff_left rfl]

end Published

/-! ## Both families -/

/-- The order among type 2 paths holds in the table exactly if every candidate that a path of
another type or of a network written otherwise outranks is left out for another reason: a
better class for its prefix, or enough paths of its class before it. -/
theorem tieBreakHolds_iff {w : Nat} {ε : Type} [Egress ε] {candidates : List (Route w ε)}
    {sorter : Sorting.Sorter (Route w ε)} {limit : Nat}
    {canonical : BitVec w → BitVec 8 → BitVec w} {row : DynamicInput w ε → Route w ε}
    {dynamic : List (DynamicInput w ε)} :
    TieBreakHolds canonical row dynamic (selection sorter limit candidates) ↔
      ∀ entry ∈ dynamic, entry.kept dynamic = true →
        ∀ other ∈ dynamic, other.mixed canonical entry = true →
          ¬ FirstOfClass sorter limit candidates (row entry) := by
  unfold TieBreakHolds
  simp only [mem_selection_iff]
  constructor
  · intro holds entry mem kept other other_mem mixed first
    rw [mixed_of_outranks kept other_mem, holds entry mem kept first other other_mem] at mixed
    cases mixed
  · intro spared entry mem kept first other other_mem
    rw [← mixed_of_outranks kept other_mem, ← Bool.not_eq_true]
    exact fun mixed => spared entry mem kept other other_mem mixed first

/-- An external path of type 2 to a prefix. -/
def typeTwoPath4 (network nextHop internalMetric : BitVec 32) (pathType : OspfPathType) :
    Ipv4DynamicInput :=
  ⟨true, true, network, nextHop, {}, 150#16, 20#32, 16#8, .ospf, pathType, internalMetric, 0#8,
    false⟩

def typeTwoPath6 (nextHop : BitVec 128) (internalMetric : BitVec 32) (pathType : OspfPathType) :
    Ipv6DynamicInput :=
  ⟨true, true, 0x20010db8000100000000000000000000#128, nextHop, { interfaceId := 1#64 }, 150#16,
    20#32, 48#8, .ospf3, pathType, internalMetric, 0#8, false⟩

/-- The farther path is dropped. -/
def sameTypes4 : Ipv4Input where
  dynamic := [typeTwoPath4 0xc0a80000#32 0x0a000001#32 20#32 .externalType2,
    typeTwoPath4 0xc0a80000#32 0x0a000002#32 10#32 .externalType2]
  maximumEcmpPaths := 4#16

def sameTypes6 : Ipv6Input where
  dynamic := [typeTwoPath6 0xfe800000000000000000000000000001#128 20#32 .nssaType2,
    typeTwoPath6 0xfe800000000000000000000000000002#128 10#32 .nssaType2]
  maximumEcmpPaths := 4#16

/-- An AS-external and an NSSA path, of which the first has the farther border router. -/
def mixedTypeTwo4 : Ipv4Input where
  dynamic := [typeTwoPath4 0xc0a80000#32 0x0a000001#32 20#32 .externalType2,
    typeTwoPath4 0xc0a80000#32 0x0a000002#32 10#32 .nssaType2]
  maximumEcmpPaths := 4#16

/-- The same prefix, once written with a host bit. -/
def hostBits4 : Ipv4Input where
  dynamic := [typeTwoPath4 0xc0a80001#32 0x0a000001#32 20#32 .externalType2,
    typeTwoPath4 0xc0a80000#32 0x0a000002#32 10#32 .externalType2]
  maximumEcmpPaths := 4#16

def mixedTypeTwo6 : Ipv6Input where
  dynamic := [typeTwoPath6 0xfe800000000000000000000000000001#128 20#32 .externalType2,
    typeTwoPath6 0xfe800000000000000000000000000002#128 10#32 .nssaType2]
  maximumEcmpPaths := 4#16

end RouterSim.Rib
