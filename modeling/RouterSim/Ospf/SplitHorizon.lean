import RouterSim.Lib.Runs
import RouterSim.Ospf.AreaCoordinator

/-! What an area border router summarizes from one area into another. -/
namespace RouterSim.Ospf

open Ip (IpPrefix)
open List Table CoordinatorAdvertisement

variable {areas : List AreaCoordinationView} {destination source : AreaCoordinationView}
  {output : List CoordinatorAdvertisement} {a candidate : CoordinatorAdvertisement}
  {route : CalculatedRoute} {version : Version} {ipv4AddressFamily : Bool}
  {localRouterId : BitVec 32} {p : IpPrefix}

section Provenance

/-- The prefix is the one the route is summarized by. -/
def Summarizes (source : AreaCoordinationView) (route : CalculatedRoute) (p : IpPrefix) : Prop :=
  (routeSummary source route).any (·.ipPrefix == p)

/-- An intra-area route of an area that is not the backbone. -/
def Backed (areas : List AreaCoordinationView) (p : IpPrefix) : Prop :=
  ∃ source ∈ areas, source.areaId ≠ 0#32 ∧
    ∃ route ∈ source.routes, route.pathType = .intraArea ∧ Summarizes source route p

/-- An external route of some area, or a Type-7 LSA of one. -/
def Carried (areas : List AreaCoordinationView) (version : Version) (ipv4AddressFamily : Bool)
    (a : CoordinatorAdvertisement) : Prop :=
  ∃ source ∈ areas,
    (∃ route ∈ source.routes, externalPath route.pathType = true ∧
      (a = externalAdvertisement route ∨ a = routerAdvertisement route)) ∨
    ∃ record ∈ source.database, translateRecord version ipv4AddressFamily record = some (some a)

/-- Where an advertisement into an area may come from: a summary into the backbone from an
intra-area route of another area, one into another area from a route of the backbone or from the
default of a stub area, and all others from external routes. -/
def MayAdvertise (areas : List AreaCoordinationView) (version : Version) (ipv4AddressFamily : Bool)
    (destination : AreaCoordinationView) (a : CoordinatorAdvertisement) : Prop :=
  if a.kind ≠ .interAreaPrefix then Carried areas version ipv4AddressFamily a
  else if destination.areaId = 0#32 then Backed areas a.ipPrefix
  else
    (isStub destination = true ∧ a.ipPrefix = defaultPrefix version ipv4AddressFamily) ∨
      ∃ source ∈ areas, source.areaId = 0#32 ∧
        ∃ route ∈ source.routes, Summarizes source route a.ipPrefix

/-- Every advertisement into every area comes from where it may. -/
def SplitHorizon (areas : List AreaCoordinationView) (version : Version)
    (ipv4AddressFamily : Bool) (result : AreaCoordinationResult) : Prop :=
  ∀ (index : Nat) (destination : AreaCoordinationView) (output : List CoordinatorAdvertisement),
    areas[index]? = some destination → result.advertisements[index]? = some output →
      ∀ a ∈ output, MayAdvertise areas version ipv4AddressFamily destination a

/-- Nothing that is summarized into the backbone lacks an intra-area route: not the default of a
backbone that is a stub, and no route of another area that is not intra-area itself. -/
def BackboneSummariesBacked (areas : List AreaCoordinationView) (version : Version)
    (ipv4AddressFamily : Bool) : Prop :=
  isAreaBorderRouter areas = true → ∀ destination ∈ areas, destination.areaId = 0#32 →
    (isStub destination = true → Backed areas (defaultPrefix version ipv4AddressFamily)) ∧
    (suppressSummaries destination = false → ∀ source ∈ areas, source.areaId ≠ 0#32 →
      ∀ route ∈ source.routes, route.pathType ≠ .intraArea →
        ∀ a, routeSummary source route = some a → Backed areas a.ipPrefix)

end Provenance

section Output

theorem mem_retainBest (h : a ∈ retainBest output candidate) : a ∈ output ∨ a = candidate := by
  unfold retainBest at h
  split at h
  · simpa using h
  split at h
  · obtain mem | ⟨-, -, -, rfl⟩ := mem_update h
    · exact .inl mem
    · exact .inr rfl
  · exact .inl h

/-- The kinds and prefixes that are advertised. -/
abbrev summariesOf (output : List CoordinatorAdvertisement) :
    List (CoordinatorAdvertisementKind × IpPrefix) := output.map (·.summary)

theorem summariesOf_raiseMetric : summariesOf (raiseMetric output candidate) = summariesOf output :=
  keys_update fun _ same => same

theorem summary_of_key {a b : CoordinatorAdvertisement} (h : a.key = b.key) :
    a.summary = b.summary := by
  simp only [key, Prod.mk.injEq] at h
  rw [summary, h.1, h.2.1]
  rfl

variable {s : CoordinatorAdvertisementKind × IpPrefix}

theorem mem_summariesOf_retainBest :
    s ∈ summariesOf (retainBest output candidate) ↔ s ∈ summariesOf output ∨ s = candidate.summary := by
  unfold retainBest
  cases found : lookup key candidate.key output with
  | none => simp [eq_comm]
  | some existing =>
    have here : candidate.summary ∈ summariesOf output :=
      mem_map.mpr ⟨existing, mem_of_lookup found, summary_of_key (key_of_lookup found)⟩
    have same : s ∈ summariesOf output ↔ s ∈ summariesOf output ∨ s = candidate.summary := by
      constructor
      · exact .inl
      · rintro (mem | rfl)
        · exact mem
        · exact here
    dsimp only
    split
    · have keys : summariesOf (update key candidate.key
          (fun _ => candidate) output) = summariesOf output := by
        clear found here same
        induction output with
        | nil => rfl
        | cons first rest ih =>
          rw [update]
          split
          · next key => simp [summary_of_key key]
          · simp [ih]
      rw [keys]
      exact same
    · exact same

/-- What is summarized of a route is advertised afterwards, and nothing else is new. -/
theorem mem_summariesOf_addSummary :
    s ∈ summariesOf (addSummary source output route) ↔
      s ∈ summariesOf output ∨ (routeSummary source route).any (·.summary == s) := by
  unfold addSummary
  cases routeSummary source route with
  | none => simp
  | some candidate =>
    have swap : s = candidate.summary ↔ (some candidate).any (·.summary == s) = true := by
      rw [Option.any_some, beq_iff_eq]
      exact eq_comm
    dsimp only
    split
    · next both =>
      have here : candidate.summary ∈ summariesOf output := by
        simp only [asserted, any_eq_true] at both
        obtain ⟨⟨old, mem, same⟩, -⟩ := both
        exact mem_map.mpr ⟨old, mem, same⟩
      rw [summariesOf_raiseMetric, ← swap]
      constructor
      · exact .inl
      · rintro (mem | rfl)
        · exact mem
        · exact here
    · rw [mem_summariesOf_retainBest, swap]

theorem mem_summariesOf_routes (routes : List CalculatedRoute) :
    s ∈ summariesOf (routes.foldl (addSummary source) output) ↔
      s ∈ summariesOf output ∨ ∃ route ∈ routes, (routeSummary source route).any (·.summary == s) := by
  induction routes generalizing output with
  | nil => simp
  | cons route rest ih =>
    rw [foldl_cons, ih, mem_summariesOf_addSummary, or_assoc]
    simp

theorem mem_summariesOf_sources (sources : List AreaCoordinationView) :
    s ∈ summariesOf (sources.foldl
        (fun output source => source.routes.foldl (addSummary source) output) output) ↔
      s ∈ summariesOf output ∨ ∃ source ∈ sources, ∃ route ∈ source.routes,
        (routeSummary source route).any (·.summary == s) := by
  induction sources generalizing output with
  | nil => simp
  | cons source rest ih =>
    rw [foldl_cons, ih, mem_summariesOf_routes, or_assoc]
    simp

theorem kind_routeSummary (h : routeSummary source route = some a) : a.kind = .interAreaPrefix := by
  unfold routeSummary at h
  dsimp only at h
  split at h
  · cases h
  · cases h
    rfl

theorem summarizes_iff : Summarizes source route p ↔
    (routeSummary source route).any (·.summary == (.interAreaPrefix, p)) = true := by
  unfold Summarizes
  cases found : routeSummary source route with
  | none => rfl
  | some a =>
    have kind := kind_routeSummary found
    simp [summary, kind]

theorem mem_summariesOf_stubDefault :
    s ∈ summariesOf (stubDefault destination version ipv4AddressFamily) ↔
      isStub destination = true ∧
        s = (.interAreaPrefix, defaultPrefix version ipv4AddressFamily) := by
  unfold stubDefault
  split
  · next stub =>
    rw [mem_summariesOf_retainBest]
    simp [stub, summary]
  · next normal => simp [normal]

theorem mem_summaries :
    s ∈ summariesOf (summaries areas version ipv4AddressFamily destination) ↔
      s.1 = .interAreaPrefix ∧
        ((isStub destination = true ∧ s.2 = defaultPrefix version ipv4AddressFamily) ∨
          (suppressSummaries destination = false ∧ ∃ source ∈ areas,
            summarizedInto destination source = true ∧
              ∃ route ∈ source.routes, Summarizes source route s.2)) := by
  obtain ⟨kind, p⟩ := s
  unfold summaries
  split
  · next suppressed =>
    rw [mem_summariesOf_stubDefault]
    simp [suppressed, and_left_comm]
  · next admitted =>
    have admitted : suppressSummaries destination = false := by simpa using admitted
    rw [mem_summariesOf_sources, mem_summariesOf_stubDefault]
    constructor
    · rintro (⟨stub, same⟩ | ⟨source, mem, route, routed, summary⟩)
      · cases same
        exact ⟨rfl, .inl ⟨stub, rfl⟩⟩
      · obtain ⟨mem, into⟩ := mem_filter.mp mem
        obtain ⟨a, found, same⟩ := Option.any_eq_true _ _ |>.mp summary
        have kindIs : kind = .interAreaPrefix := by
          rw [← kind_routeSummary found]
          exact (congrArg Prod.fst (beq_iff_eq.mp same)).symm
        subst kindIs
        exact ⟨rfl, .inr ⟨admitted, source, mem, into, route, routed, summarizes_iff.mpr summary⟩⟩
    · rintro ⟨kindIs, cases⟩
      subst kindIs
      obtain ⟨stub, rfl⟩ | ⟨-, source, mem, into, route, routed, summary⟩ := cases
      · exact .inl ⟨stub, rfl⟩
      · exact .inr ⟨source, mem_filter.mpr ⟨mem, into⟩, route, routed, summarizes_iff.mp summary⟩

end Output

section Extension

/-- What is added is carried, and the summaries stay. -/
structure Extends (areas : List AreaCoordinationView) (version : Version)
    (ipv4AddressFamily : Bool) (before after : List CoordinatorAdvertisement) : Prop where
  new : ∀ a ∈ after, a ∈ before ∨
    (a.kind ≠ .interAreaPrefix ∧ Carried areas version ipv4AddressFamily a)
  kept : ∀ s ∈ summariesOf before, s ∈ summariesOf after

theorem Extends.refl (output : List CoordinatorAdvertisement) :
    Extends areas version ipv4AddressFamily output output :=
  ⟨fun _ mem => .inl mem, fun _ mem => mem⟩

theorem Extends.trans {first second third : List CoordinatorAdvertisement}
    (h : Extends areas version ipv4AddressFamily first second)
    (h' : Extends areas version ipv4AddressFamily second third) :
    Extends areas version ipv4AddressFamily first third where
  new := by
    intro a mem
    obtain mem | carried := h'.new a mem
    · exact h.new a mem
    · exact .inr carried
  kept s mem := h'.kept s (h.kept s mem)

theorem extends_retainBest (kind : candidate.kind ≠ .interAreaPrefix)
    (carried : Carried areas version ipv4AddressFamily candidate) :
    Extends areas version ipv4AddressFamily output (retainBest output candidate) where
  new := by
    intro a mem
    obtain mem | rfl := mem_retainBest mem
    · exact .inl mem
    · exact .inr ⟨kind, carried⟩
  kept s mem := mem_summariesOf_retainBest.mpr (.inl mem)

theorem extends_addExternal (mem : source ∈ areas) (routed : route ∈ source.routes) :
    Extends areas version ipv4AddressFamily output (addExternal output route) := by
  unfold addExternal
  split
  · next external =>
    exact (extends_retainBest (fun h => by cases h)
        ⟨source, mem, .inl ⟨route, routed, external, .inl rfl⟩⟩).trans
      (extends_retainBest (fun h => by cases h)
        ⟨source, mem, .inl ⟨route, routed, external, .inr rfl⟩⟩)
  · exact .refl output

theorem extends_externals (mem : source ∈ areas) :
    Extends areas version ipv4AddressFamily output (source.routes.foldl addExternal output) :=
  foldlRecOn _ _ (.refl output) fun _ h _ routed => h.trans (extends_addExternal mem routed)

theorem translateRecord_carried {record : LsaRecord}
    (h : translateRecord version ipv4AddressFamily record = some (some a)) :
    a.kind = .translatedExternal ∧ a.destinationRouterId = 0#32 := by
  obtain ⟨header, -, h⟩ := Option.bind_eq_some_iff.mp h
  split at h
  · cases h
  obtain ⟨translated, found, chosen⟩ := Option.map_eq_some_iff.mp h
  split at chosen
  · cases chosen
    cases version with
    | two =>
      obtain ⟨body, -, found⟩ := Option.bind_eq_some_iff.mp found
      obtain ⟨length, -, rfl⟩ := Option.map_eq_some_iff.mp found
      exact ⟨rfl, rfl⟩
    | three =>
      obtain ⟨body, -, found⟩ := Option.bind_eq_some_iff.mp found
      obtain ⟨network, -, rfl⟩ := Option.map_eq_some_iff.mp found
      exact ⟨rfl, rfl⟩
  · cases chosen

variable {after : List CoordinatorAdvertisement}

theorem extends_translateNssa (mem : source ∈ areas)
    (h : translateNssa source localRouterId version ipv4AddressFamily output = some after) :
    Extends areas version ipv4AddressFamily output after := by
  unfold translateNssa at h
  split at h
  · cases h
    exact .refl output
  refine Runs.foldlM_invariant (fun between record stored next step before => ?_) h (.refl output)
  obtain ⟨translated, found, rfl⟩ := Option.map_eq_some_iff.mp step
  cases translated with
  | none => exact before
  | some a =>
    have kind : a.kind ≠ .interAreaPrefix := by
      rw [(translateRecord_carried found).1]
      decide
    exact before.trans (extends_retainBest kind ⟨source, mem, .inr ⟨record, stored, found⟩⟩)

theorem areaAdvertisements_spec
    (h : areaAdvertisements areas localRouterId version ipv4AddressFamily destination =
      some output) :
    Extends areas version ipv4AddressFamily
      (summaries areas version ipv4AddressFamily destination) output := by
  unfold areaAdvertisements at h
  split at h
  · refine Runs.foldlM_invariant (fun between source mem next step before => ?_) h (.refl _)
    have here := (mem_filter.mp mem).1
    exact before.trans ((extends_externals here).trans (extends_translateNssa here step))
  · cases h
    exact .refl _

end Extension

section Result

/-- A version two route of an area. -/
def areaRoute (network : BitVec 32) (length : BitVec 8) (areaId : BitVec 32)
    (pathType : Rib.OspfPathType) : CalculatedRoute where
  versionTwoNetwork := network
  metric := 20#32
  internalMetric := 20#32
  areaId
  pathType
  prefixLength := length

/-- The backbone, and an area with a route of the type. -/
def twoAreas (pathType : Rib.OspfPathType) : List AreaCoordinationView :=
  [{ routes := [areaRoute 0x0a000000#32 24#8 0#32 .intraArea] },
    { routes := [areaRoute 0x0a010000#32 24#8 1#32 pathType], areaId := 1#32 }]

def coordinated (pathType : Rib.OspfPathType) : AreaCoordinationResult :=
  (coordinateAreas (twoAreas pathType) 0x01010101#32 .two false).getD { advertisements := [] }

end Result

end RouterSim.Ospf
