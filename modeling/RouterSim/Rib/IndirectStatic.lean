import RouterSim.Rib.Rebuild

/-! The paths an indirect static route is expanded to: by prefix length, preference and metric,
which is not the order of the selection. -/
namespace RouterSim.Rib

open List Bool BitVec

section Resolvers

variable {w : Nat} {ε : Type} {covers : DynamicInput w ε → Bool} {dynamic : List (DynamicInput w ε)}

/-- Those of the entries that none is below. -/
def leastOf {α : Type} (less : α → α → Bool) (entries : List α) : List α :=
  entries.filter fun entry => entries.all fun other => !less other entry

/-- The usable paths that cover an address, by the longest prefix. -/
def longestCovering (covers : DynamicInput w ε → Bool) (dynamic : List (DynamicInput w ε)) :
    List (DynamicInput w ε) :=
  leastOf (fun other entry => decide (entry.prefixLength < other.prefixLength))
    (dynamic.filter fun candidate => candidate.usable && covers candidate)

/-- Preference, then metric. -/
def DynamicInput.preferenceLess (a b : DynamicInput w ε) : Bool :=
  decide (a.preference < b.preference) ||
    a.preference == b.preference && decide (a.metric < b.metric)

/-- The order of the selection: preference, source, path rank, metric, instance. -/
def DynamicInput.routeLess (a b : DynamicInput w ε) : Bool :=
  selectionLess (a.route a.network) (b.route b.network)

theorem mem_leastOf {α : Type} {less : α → α → Bool} {entries : List α} {entry : α} :
    entry ∈ leastOf less entries ↔
      entry ∈ entries ∧ ∀ other ∈ entries, less other entry = false := by
  simp [leastOf]

theorem resolvesBetter_eq_false {a b : DynamicInput w ε} : a.resolvesBetter b = false ↔
    ¬ b.prefixLength < a.prefixLength ∧
      (a.prefixLength = b.prefixLength → a.preferenceLess b = false) := by
  simp only [DynamicInput.resolvesBetter, DynamicInput.preferenceLess, refuted]
  exact and_congr_right fun _ => Decidable.imp_iff_not_or.symm

/-- As good as the best: of the longest prefix, and least in preference and metric there. -/
theorem resolvesAlike_iff {paths : List (DynamicInput w ε)} {best candidate : DynamicInput w ε}
    (found : bestOf DynamicInput.resolvesBetter paths = some best) (mem : candidate ∈ paths) :
    candidate.resolvesAlike best = true ↔
      candidate ∈ leastOf DynamicInput.preferenceLess
        (leastOf (fun other entry => decide (entry.prefixLength < other.prefixLength)) paths) := by
  obtain ⟨member, least⟩ := bestOf_spec resolvesBetter_iff found
  have unbeaten : ∀ other ∈ paths, other.resolvesBetter best = false := by
    intro other mem
    rw [← not_eq_true, resolvesBetter_iff]
    exact least other mem
  simp only [resolvesBetter_eq_false] at unbeaten
  simp only [mem_leastOf, refuted, DynamicInput.resolvesAlike, asserted]
  constructor
  · rintro ⟨⟨length, preference⟩, metric⟩
    have same : ∀ other : DynamicInput w ε,
        other.preferenceLess candidate = other.preferenceLess best := by
      intro other
      rw [DynamicInput.preferenceLess, DynamicInput.preferenceLess, preference, metric]
    refine ⟨⟨mem, fun other here => ?_⟩, fun other longest => ?_⟩
    · rw [length]
      exact (unbeaten other here).1
    · rw [same]
      apply (unbeaten other longest.1).2
      have notLonger := longest.2 best member
      have notShorter := (unbeaten other longest.1).1
      exact BitVec.le_antisymm (BitVec.not_lt.mp notShorter) (BitVec.not_lt.mp notLonger)
  · rintro ⟨⟨_, longest⟩, cheapest⟩
    have length : candidate.prefixLength = best.prefixLength :=
      BitVec.le_antisymm (BitVec.not_lt.mp (unbeaten candidate mem).1)
        (BitVec.not_lt.mp (longest best member))
    have above := (unbeaten candidate mem).2 length
    have below := cheapest best ⟨member, fun other here => (unbeaten other here).1⟩
    simp only [DynamicInput.preferenceLess, refuted, lt_def, toNat_eq, ne_eq] at above below ⊢
    rw [← toNat_inj] at length
    omega

/-- An indirect address is resolved by the usable covering paths of the longest prefix that
are least in preference and metric. -/
theorem resolutions_eq : resolutions covers dynamic =
    leastOf DynamicInput.preferenceLess (longestCovering covers dynamic) := by
  unfold resolutions
  dsimp only
  split
  next none =>
    cases paths : dynamic.filter fun candidate => candidate.usable && covers candidate with
    | nil => rw [longestCovering, paths]; rfl
    | cons first rest =>
      rw [paths, bestOf_cons] at none
      cases none
  next best found =>
    rw [longestCovering]
    generalize dynamic.filter (fun candidate => candidate.usable && covers candidate) = paths
      at found ⊢
    rw [leastOf, leastOf, filter_filter]
    apply filter_congr
    intro candidate mem
    rw [Bool.eq_iff_iff, resolvesAlike_iff found mem, leastOf, leastOf, filter_filter, mem_filter]
    exact and_iff_right mem

end Resolvers

/-! ## Both families -/

/-- The covering paths in IPv4. -/
def indirectPaths4 (input : Ipv4Input) (entry : StaticInput) : List Ipv4DynamicInput :=
  longestCovering (fun candidate => covers4 candidate.network candidate.prefixLength entry.nextHop)
    input.dynamic

def indirectPaths6 (input : Ipv6Input) (entry : Ipv6StaticInput) : List Ipv6DynamicInput :=
  longestCovering (fun candidate => covers6 candidate.network candidate.prefixLength entry.nextHop)
    input.dynamic

/-- What an indirect static route is expanded to, over resolved paths. -/
def expanded4 (entry : StaticInput) (paths : List Ipv4DynamicInput) : List Ipv4Route :=
  paths.map fun candidate =>
    staticRoute (canonical4 entry.network entry.prefixLength) entry.prefixLength candidate.nextHop
      { portOrdinal := candidate.egress.portOrdinal }

def expanded6 (entry : Ipv6StaticInput) (paths : List Ipv6DynamicInput) : List Ipv6Route :=
  paths.map fun candidate =>
    staticRoute entry.network entry.prefixLength candidate.nextHop candidate.egress

theorem Ipv6RouteTable.valid_of_accepted {sorter : Sorting.Sorter Ipv6Route}
    {table : Ipv6RouteTable} {input : Ipv6Input}
    (accepted : (rebuild sorter table input).1.lastRebuildValid = true) : input.valid = true := by
  cases valid : input.valid with
  | true => rfl
  | false =>
    rw [rebuild, valid] at accepted
    cases accepted

/-- No indirect next hop of an accepted input is link-local. -/
theorem indirect_not_linkLocal {input : Ipv6Input} (valid : input.valid = true)
    {entry : Ipv6StaticInput} (mem : entry ∈ input.statics) (configured : entry.configured = true)
    (indirect : entry.indirect = true) : isLinkLocal entry.nextHop = false := by
  simp only [Ipv6Input.valid, asserted, all_eq_true] at valid
  have own := valid.1.1.2 entry mem
  simp only [Ipv6StaticInput.valid, configured, indirect, settled, asserted, refuted] at own
  exact own.2.1

/-- In both families an indirect static route of an accepted input is expanded to exactly the
usable covering paths of the longest prefix that are least in preference and metric. -/
theorem indirect_follows_preference_and_metric :
    (∀ (sorter : Sorting.Sorter Ipv4Route) (table : Ipv4RouteTable) (input : Ipv4Input),
      (Ipv4RouteTable.rebuild sorter table input).1.lastRebuildValid = true →
        ∀ entry ∈ input.statics, entry.configured = true → entry.indirect = true →
          staticRoutes4 input.connected input.dynamic entry =
            expanded4 entry (leastOf DynamicInput.preferenceLess (indirectPaths4 input entry))) ∧
    (∀ (sorter : Sorting.Sorter Ipv6Route) (table : Ipv6RouteTable) (input : Ipv6Input),
      (Ipv6RouteTable.rebuild sorter table input).1.lastRebuildValid = true →
        ∀ entry ∈ input.statics, entry.configured = true → entry.indirect = true →
          staticRoutes6 input.connected input.additionalConnected input.dynamic entry =
            expanded6 entry
              (leastOf DynamicInput.preferenceLess (indirectPaths6 input entry))) := by
  constructor
  · intro sorter table input _ entry _ configured indirect
    simp only [staticRoutes4, configured, indirect, resolutions_eq]
    rfl
  · intro sorter table input accepted entry mem configured indirect
    have global := indirect_not_linkLocal (Ipv6RouteTable.valid_of_accepted accepted) mem configured
      indirect
    simp only [staticRoutes6, configured, indirect, global, resolutions_eq]
    rfl

def indirectEntry4 : StaticInput where
  network := 0xac100000#32
  nextHop := 0xc0a80101#32
  prefixLength := 12#8
  indirect := true

def indirectEntry6 : Ipv6StaticInput where
  indirect := true
  network := 0x20010db8ffff00000000000000000000#128
  nextHop := 0x20010db8000100000000000000000009#128
  prefixLength := 48#8

/-- One path inside the area and a cheaper external one. -/
def mixedTypes4 : Ipv4Input where
  statics := [indirectEntry4]
  dynamic :=
    [⟨true, true, 0xc0a80000#32, 0x0a000001#32, {}, 10#16, 30#32, 16#8, .ospf, .intraArea, 0#32,
        0#8, false⟩,
      ⟨true, true, 0xc0a80000#32, 0x0a000002#32, {}, 10#16, 20#32, 16#8, .ospf, .externalType1,
        0#32, 0#8, false⟩]
  maximumEcmpPaths := 4#16

/-- Two instances with a path of the same cost. -/
def mixedInstances6 : Ipv6Input where
  statics := [indirectEntry6]
  dynamic :=
    [⟨true, true, 0x20010db8000100000000000000000000#128, 0xfe800000000000000000000000000001#128,
        { interfaceId := 1#64 }, 10#16, 20#32, 48#8, .ospf3, .intraArea, 0#32, 0#8, false⟩,
      ⟨true, true, 0x20010db8000100000000000000000000#128, 0xfe800000000000000000000000000002#128,
        { interfaceId := 2#64 }, 10#16, 20#32, 48#8, .ospf3, .intraArea, 0#32, 1#8, false⟩]
  maximumEcmpPaths := 4#16

theorem mixed_paths_expanded :
    staticRoutes4 [] mixedTypes4.dynamic indirectEntry4 = expanded4 indirectEntry4
        (leastOf DynamicInput.preferenceLess (indirectPaths4 mixedTypes4 indirectEntry4)) ∧
      staticRoutes6 [] [] mixedInstances6.dynamic indirectEntry6 = expanded6 indirectEntry6
        (leastOf DynamicInput.preferenceLess (indirectPaths6 mixedInstances6 indirectEntry6)) :=
  ⟨indirect_follows_preference_and_metric.1 Sorting.insertion {} mixedTypes4 (by decide +kernel)
      indirectEntry4 mem_cons_self rfl rfl,
    indirect_follows_preference_and_metric.2 Sorting.insertion {} mixedInstances6
      (by decide +kernel) indirectEntry6 mem_cons_self rfl rfl⟩

/-- The selection prefers the path inside the area, and the lower instance. -/
theorem indirect_ignores_selection_order :
    ((Ipv4RouteTable.rebuild Sorting.insertion {} mixedTypes4).1.lastRebuildValid = true ∧
      staticRoutes4 [] mixedTypes4.dynamic indirectEntry4 ≠ expanded4 indirectEntry4
        (leastOf DynamicInput.routeLess (indirectPaths4 mixedTypes4 indirectEntry4))) ∧
    ((Ipv6RouteTable.rebuild Sorting.insertion {} mixedInstances6).1.lastRebuildValid = true ∧
      staticRoutes6 [] [] mixedInstances6.dynamic indirectEntry6 ≠ expanded6 indirectEntry6
        (leastOf DynamicInput.routeLess (indirectPaths6 mixedInstances6 indirectEntry6))) := by
  decide +kernel

end RouterSim.Rib
