import RouterSim.Rib.Refusal

/-! Forwarding lookups in a compiled program: one pass over the primary routes, another over the
repairs. Each keeps the best prefix so far and the paths of it that there is room for. -/
namespace RouterSim.Rib

open List Sorting

section Search

variable {w : Nat} {ε : Type}

/-- A longer prefix starts over. A path of the same prefix joins while there is room. -/
def consider (holds : Route w ε → Bool) (alike : Route w ε → Route w ε → Bool)
    (found : Option (Route w ε × List (Route w ε))) (candidate : Route w ε) :
    Option (Route w ε × List (Route w ε)) :=
  if !holds candidate then found
  else
    match found with
    | none => some (candidate, [candidate])
    | some (best, equal) =>
      if best.prefixLength < candidate.prefixLength then some (candidate, [candidate])
      else if candidate.prefixLength == best.prefixLength && candidate.network == best.network &&
          alike candidate best && decide (equal.length < maximumEcmpPaths) then
        some (best, equal ++ [candidate])
      else found

/-- The path of a flow among those of the longest prefix. -/
def search (holds : Route w ε → Bool) (alike : Route w ε → Route w ε → Bool)
    (rows : List (Route w ε)) (flowHash : BitVec 64) : Option (Route w ε) :=
  match rows.foldl (consider holds alike) none with
  | none => none
  | some (_, equal) => equal[flowHash.toNat % equal.length]?

def holds4 (destination : BitVec 32) (route : Ipv4Route) : Bool :=
  destination &&& prefixMask route.prefixLength == route.network

def holds6 (destination : Ip.Ipv6) (route : Ipv6Route) : Bool :=
  covers6 route.network route.prefixLength destination

def lookup4 (fib : FibProgram Ipv4Route) (destination : BitVec 32) (flowHash : BitVec 64) :
    Option Ipv4Route :=
  search (holds4 destination) sameSelectionClass (fib.routes.take fib.count) flowHash

def lookupLoopFreeAlternate4 (fib : FibProgram Ipv4Route) (destination : BitVec 32)
    (flowHash : BitVec 64) : Option Ipv4Route :=
  search (holds4 destination) (fun _ _ => true)
    ((fib.routes.drop fib.count).take fib.loopFreeAlternateCount) flowHash

def lookup6 (fib : FibProgram Ipv6Route) (destination : Ip.Ipv6) (flowHash : BitVec 64) :
    Option Ipv6Route :=
  search (holds6 destination) sameSelectionClass (fib.routes.take fib.count) flowHash

def lookupLoopFreeAlternate6 (fib : FibProgram Ipv6Route) (destination : Ip.Ipv6)
    (flowHash : BitVec 64) : Option Ipv6Route :=
  search (holds6 destination) (fun _ _ => true)
    ((fib.routes.drop fib.count).take fib.loopFreeAlternateCount) flowHash

variable {holds : Route w ε → Bool} {alike : Route w ε → Route w ε → Bool}
  {rows : List (Route w ε)} {route : Route w ε}

/-- No row with the address has a longer prefix. -/
def Longest (holds : Route w ε → Bool) (rows : List (Route w ε)) (route : Route w ε) : Prop :=
  route ∈ rows ∧ holds route = true ∧
    ∀ other ∈ rows, holds other = true → other.prefixLength ≤ route.prefixLength

/-- The rows of the best one's prefix. -/
def asGood (holds : Route w ε → Bool) (alike : Route w ε → Route w ε → Bool)
    (rows : List (Route w ε)) (best : Route w ε) : List (Route w ε) :=
  rows.filter fun route => holds route && (route.prefixLength == best.prefixLength &&
    route.network == best.network && alike route best)

/-- What the pass knows of the rows it has seen. -/
def Found (holds : Route w ε → Bool) (alike : Route w ε → Route w ε → Bool)
    (rows : List (Route w ε)) : Option (Route w ε × List (Route w ε)) → Prop
  | none => ∀ route ∈ rows, holds route = false
  | some (best, equal) => Longest holds rows best ∧
      equal = (asGood holds alike rows best).take maximumEcmpPaths

theorem Longest.later (h : Longest holds rows route) {candidate : Route w ε}
    (shorter : holds candidate = true → candidate.prefixLength ≤ route.prefixLength) :
    Longest holds (rows ++ [candidate]) route := by
  obtain ⟨mem, held, most⟩ := h
  refine ⟨mem_append_left _ mem, held, ?_⟩
  intro other other_mem other_held
  obtain earlier | last := mem_append.mp other_mem
  · exact most other earlier other_held
  · obtain rfl := mem_singleton.mp last
    exact shorter other_held

theorem found_first (refl : ∀ route, alike route route = true) {candidate : Route w ε}
    (held : holds candidate = true)
    (shorter : ∀ route ∈ rows, holds route = true → route.prefixLength < candidate.prefixLength) :
    Found holds alike (rows ++ [candidate]) (some (candidate, [candidate])) := by
  have none : asGood holds alike rows candidate = [] := by
    rw [asGood, filter_eq_nil_iff]
    intro route mem good
    simp only [asserted] at good
    exact absurd (good.2.1.1 ▸ shorter route mem good.1) (BitVec.lt_irrefl _)
  refine ⟨⟨by simp, held, ?_⟩, ?_⟩
  · intro other mem other_held
    obtain earlier | last := mem_append.mp mem
    · exact BitVec.le_of_lt (shorter other earlier other_held)
    · obtain rfl := mem_singleton.mp last
      exact BitVec.le_refl _
  · rw [asGood] at none ⊢
    rw [filter_append, none]
    simp [held, refl, maximumEcmpPaths]

theorem Found.consider (refl : ∀ route, alike route route = true)
    {found : Option (Route w ε × List (Route w ε))} (h : Found holds alike rows found)
    (candidate : Route w ε) :
    Found holds alike (rows ++ [candidate]) (consider holds alike found candidate) := by
  unfold Rib.consider
  by_cases held : holds candidate = true
  · rw [if_neg (by simp [held])]
    match found, h with
    | none, h => exact found_first refl held fun route mem yes => by simp [h route mem] at yes
    | some (best, equal), ⟨longest, good⟩ =>
      dsimp only
      have rest : asGood holds alike (rows ++ [candidate]) best = asGood holds alike rows best ++
          if candidate.prefixLength == best.prefixLength && candidate.network == best.network &&
            alike candidate best then [candidate] else [] := by
        rw [asGood, asGood, filter_append, filter_cons, held, Bool.true_and]
        rfl
      split
      · rename_i longer
        exact found_first refl held fun route mem yes =>
          Nat.lt_of_le_of_lt (longest.2.2 route mem yes) longer
      · rename_i shorter
        have later := longest.later fun _ => BitVec.not_lt.mp shorter
        split
        · rename_i joins
          rw [Bool.and_eq_true] at joins
          refine ⟨later, ?_⟩
          have room : (asGood holds alike rows best).length < maximumEcmpPaths := by
            have few := of_decide_eq_true joins.2
            rw [good, length_take] at few
            omega
          rw [rest, if_pos joins.1, good, take_of_length_le (Nat.le_of_lt room),
            take_of_length_le (by rwa [length_append])]
        · rename_i stays
          refine ⟨later, ?_⟩
          rw [rest]
          split
          · rename_i same
            rw [same, Bool.true_and, decide_eq_true_eq, Nat.not_lt, good, length_take] at stays
            rw [good, take_append_of_le_length (by omega)]
          · rw [append_nil, good]
  · rw [if_pos (by simp [held])]
    match found, h with
    | none, h =>
      intro route mem
      obtain earlier | last := mem_append.mp mem
      · exact h route earlier
      · obtain rfl := mem_singleton.mp last
        simpa using held
    | some (best, equal), ⟨longest, good⟩ =>
      refine ⟨longest.later fun yes => absurd yes held, ?_⟩
      rw [good]
      simp [asGood, held]

theorem foldl_found (holds : Route w ε → Bool) (refl : ∀ route, alike route route = true)
    (rows : List (Route w ε)) :
    Found holds alike rows (rows.foldl (consider holds alike) none) := by
  have from_seen : ∀ (later seen : List (Route w ε)) found, Found holds alike seen found →
      Found holds alike (seen ++ later) (later.foldl (consider holds alike) found) := by
    intro later
    induction later with
    | nil =>
      intro seen found h
      rwa [append_nil]
    | cons candidate later ih =>
      intro seen found h
      rw [append_cons]
      exact ih _ _ (h.consider refl candidate)
  exact from_seen rows [] none fun _ absent => by cases absent

variable (refl : ∀ route, alike route route = true)
include refl

theorem search_eq_none {flowHash : BitVec 64} :
    search holds alike rows flowHash = none ↔ ∀ route ∈ rows, holds route = false := by
  have found := foldl_found holds refl rows
  unfold search
  split
  · rename_i missing
    rw [missing] at found
    exact iff_of_true rfl found
  · rename_i best equal some
    rw [some] at found
    obtain ⟨longest, good⟩ := found
    have inside : best ∈ asGood holds alike rows best := by
      simp [asGood, longest.1, longest.2.1, refl]
    have positive : 0 < equal.length := by
      rw [good, length_take, Nat.lt_min]
      exact ⟨by decide, length_pos_of_mem inside⟩
    refine iff_of_false ?_ ?_
    · rw [List.getElem?_eq_getElem (Nat.mod_lt _ positive)]
      simp
    · intro none
      have held := longest.2.1
      rw [none best longest.1] at held
      cases held

theorem search_longest {flowHash : BitVec 64} (h : search holds alike rows flowHash = some route) :
    Longest holds rows route := by
  have found := foldl_found holds refl rows
  unfold search at h
  split at h
  · cases h
  rename_i best equal some
  rw [some] at found
  obtain ⟨longest, good⟩ := found
  have mem := mem_of_getElem? h
  rw [good] at mem
  obtain ⟨mem, same⟩ := mem_filter.mp (mem_of_mem_take mem)
  simp only [asserted] at same
  refine ⟨mem, same.1, fun other other_mem held => ?_⟩
  rw [same.2.1.1]
  exact longest.2.2 other other_mem held

/-- Where the rows of a prefix are of one class, and there is room for them, each is the path of
some flow. -/
theorem search_covers (same : ∀ a ∈ rows, ∀ b ∈ rows, holds a = true → holds b = true →
      a.prefixLength = b.prefixLength → a.network = b.network ∧ alike a b = true)
    (few : (rows.filter (samePrefix route)).length ≤ maximumEcmpPaths)
    (h : Longest holds rows route) : ∃ flowHash, search holds alike rows flowHash = some route := by
  have found := foldl_found holds refl rows
  unfold search
  split
  · rename_i missing
    rw [missing] at found
    have absent := found route h.1
    rw [h.2.1] at absent
    cases absent
  · rename_i best equal some
    rw [some] at found
    obtain ⟨longest, good⟩ := found
    have length : route.prefixLength = best.prefixLength :=
      BitVec.le_antisymm (longest.2.2 route h.1 h.2.1) (h.2.2 best longest.1 longest.2.1)
    obtain ⟨network, like⟩ := same route h.1 best longest.1 h.2.1 longest.2.1 length
    have fits : (asGood holds alike rows best).length ≤ maximumEcmpPaths := by
      refine Nat.le_trans ?_ few
      rw [asGood, ← countP_eq_length_filter, ← countP_eq_length_filter]
      apply countP_mono_left
      intro row _ good
      simp only [asserted] at good
      simp [samePrefix, good.2.1.1, good.2.1.2, length, network]
    rw [take_of_length_le fits] at good
    have mem : route ∈ equal := by
      rw [good]
      simp [asGood, h.1, h.2.1, length, network, like]
    obtain ⟨i, inside, place⟩ := getElem_of_mem mem
    have small : i < 128 := Nat.lt_of_lt_of_le inside (good ▸ fits)
    refine ⟨BitVec.ofNat 64 i, ?_⟩
    rw [BitVec.toNat_ofNat, Nat.mod_eq_of_lt (a := i) (by omega), Nat.mod_eq_of_lt inside,
      List.getElem?_eq_getElem inside, place]

end Search

/-! ## What the tables publish -/

section Tables

variable {w : Nat} {ε : Type}

/-- The address is in the route's prefix: their first bits are the same. -/
def Route.Holds (route : Route w ε) (address : BitVec w) : Prop :=
  ∀ i < route.prefixLength.toNat, address.getMsbD i = route.network.getMsbD i

/-- No bits beyond the length are set. -/
def Route.Canonical (route : Route w ε) : Prop :=
  route.prefixLength.toNat ≤ w ∧
    route.network &&& (BitVec.allOnes w <<< (w - route.prefixLength.toNat)) = route.network

theorem Route.Canonical.holds_iff {route : Route w ε} (h : route.Canonical) (address : BitVec w) :
    address &&& (BitVec.allOnes w <<< (w - route.prefixLength.toNat)) = route.network ↔
      route.Holds address := by
  obtain ⟨fits, canonical⟩ := h
  have masked : ∀ (x : BitVec w) i, i < w →
      (x &&& (BitVec.allOnes w <<< (w - route.prefixLength.toNat))).getMsbD i =
        (x.getMsbD i && decide (i < route.prefixLength.toNat)) := by
    intro x i inside
    rw [BitVec.getMsbD_and, BitVec.getMsbD_shiftLeft, BitVec.getMsbD_allOnes]
    congr 2
    exact propext ⟨fun h => by omega, fun h => by omega⟩
  constructor
  · rintro same i short
    rw [← same, masked address i (by omega)]
    simp [short]
  · intro holds
    apply BitVec.eq_of_getMsbD_eq
    intro i inside
    rw [← canonical, masked address i inside, masked route.network i inside]
    by_cases short : i < route.prefixLength.toNat
    · rw [holds i short]
    · simp [short]

theorem prefixMask_eq {length : BitVec 8} (fits : length.toNat ≤ 32) :
    prefixMask length = BitVec.allOnes 32 <<< (32 - length.toNat) := by
  unfold prefixMask
  split
  · rename_i zero
    subst zero
    rfl
  · rfl

theorem mask_eq {length : Nat} (fits : length ≤ 128) (address : Ip.Ipv6) :
    Ip.mask address length = address &&& (BitVec.allOnes 128 <<< (128 - length)) := by
  unfold Ip.mask
  split
  · rename_i full
    rw [show 128 - length = 0 by omega, BitVec.shiftLeft_zero, BitVec.and_allOnes]
  · rfl

theorem holds4_iff {route : Ipv4Route} (h : route.Canonical) (destination : BitVec 32) :
    holds4 destination route = true ↔ route.Holds destination := by
  rw [← h.holds_iff, holds4, beq_iff_eq, prefixMask_eq h.1]

theorem holds6_iff {route : Ipv6Route} (h : route.Canonical) (destination : Ip.Ipv6) :
    holds6 destination route = true ↔ route.Holds destination := by
  have short : ¬ 128#8 < route.prefixLength := BitVec.not_lt.mpr (BitVec.le_def.mpr h.1)
  rw [← h.holds_iff, holds6, covers6, Ip.contains, if_neg short, beq_iff_eq, mask_eq h.1]

variable [Egress ε]

/-- A table whose rows can be looked up: whole, canonical, of one class for each prefix, and no
more of it than a lookup has room for. -/
structure Serves (table : RouteTable (Route w ε)) : Prop where
  full : table.published.length = table.count
  canonical : ∀ route ∈ table.published, route.Canonical
  alike : ∀ a ∈ table.published, ∀ b ∈ table.published, samePrefix a b = true →
    sameSelectionClass a b = true
  few : ∀ route : Route w ε, (table.published.filter (samePrefix route)).length ≤ maximumEcmpPaths

/-- The repairs that are in use. -/
def RouteTable.repairRows (table : RouteTable (Route w ε)) : List (Route w ε) :=
  table.loopFreeAlternates.take table.loopFreeAlternateCount

/-- Every repair belongs to a published route. -/
def Repaired (table : RouteTable (Route w ε)) : Prop :=
  ∀ alternate ∈ table.repairRows, ∃ primary ∈ table.published, repairs alternate primary = true

/-- A generation: the selection of some candidates, and repairs chosen for it. -/
structure Generated (sorter : Sorting.Sorter (Route w ε)) (limit : Nat)
    (candidates : List (Route w ε)) (table : RouteTable (Route w ε)) : Prop where
  published : table.published = selection sorter limit candidates
  full : table.published.length = table.count
  repaired : Repaired table

omit [Egress ε] in
theorem empty_serves : Serves ({} : RouteTable (Route w ε)) where
  full := rfl
  canonical := fun _ absent => by cases absent
  alike := fun _ absent => by cases absent
  few := fun _ => Nat.zero_le _

variable {sorter : Sorting.Sorter (Route w ε)} {limit : Nat} {candidates : List (Route w ε)}
  {table : RouteTable (Route w ε)}

theorem Generated.serves (h : Generated sorter limit candidates table)
    (room : limit ≤ maximumEcmpPaths) (canonical : ∀ route ∈ candidates, route.Canonical) :
    Serves table := by
  have selected : Selected candidates limit table.published := h.published ▸ selection_selected
  have same_eq : ∀ a b : Route w ε, samePrefix a b =
      (b.network == a.network && b.prefixLength == a.prefixLength) := by
    intro a b
    rw [samePrefix, Bool.eq_iff_iff]
    simp only [asserted]
    exact ⟨fun same => ⟨same.1.symm, same.2.symm⟩, fun same => ⟨same.1.symm, same.2.symm⟩⟩
  refine ⟨h.full, ?_, ?_, ?_⟩
  · intro route mem
    obtain ⟨candidate, of, network, length⟩ := selected.only route mem
    have shape := canonical candidate of
    rwa [Route.Canonical, network, length] at shape
  · intro a memA b memB same
    obtain ⟨ordered, perm, -, shown⟩ := selected.first a.network a.prefixLength
    have least : ∀ route ∈ table.published, samePrefix a route = true →
        route ∈ leastClass candidates a.network a.prefixLength := by
      intro route mem inPrefix
      rw [same_eq] at inPrefix
      have kept : route ∈ table.published.filter fun route =>
          route.network == a.network && route.prefixLength == a.prefixLength :=
        mem_filter.mpr ⟨mem, inPrefix⟩
      rw [shown] at kept
      exact perm.mem_iff.mp (mem_of_mem_take kept)
    have classes := least a memA (by simp [samePrefix])
    have classes' := least b memB same
    rw [leastClass_eq] at classes classes'
    rw [sameSelectionClass_eq, beq_iff_eq]
    exact (Compaction.least_alike classes classes').2
  · intro route
    obtain ⟨ordered, -, -, shown⟩ := selected.first route.network route.prefixLength
    rw [filter_congr fun b _ => same_eq route b, shown, length_take]
    omega

theorem selectAlternates_repair [Inhabited ε] (primaries rows : List (Route w ε)) (count : Nat) :
    ∀ alternate ∈ (selectAlternates sorter primaries rows count).1.take
        (selectAlternates sorter primaries rows count).2,
      ∃ primary ∈ primaries, repairs alternate primary = true := by
  intro alternate mem
  unfold selectAlternates at mem
  rw [Compaction.filterInPlace_eq _ (by rw [length_append]; exact Nat.le_add_right _ _)]
    at mem
  rw [take_left, mem_filter, any_eq_true] at mem
  exact mem.2

end Tables

/-! ## Both families -/

namespace Ipv4RouteTable

variable {sorter : Sorting.Sorter Ipv4Route} {input : Ipv4Input}

theorem candidates_canonical (valid : input.valid = true) :
    ∀ route ∈ input.candidates, route.Canonical := by
  have canonical : ∀ (route : Ipv4Route) network, route.prefixLength.toNat ≤ 32 →
      route.network = canonical4 network route.prefixLength → route.Canonical := by
    intro route network fits same
    refine ⟨fits, ?_⟩
    rw [same, canonical4, prefixMask_eq fits, BitVec.and_assoc, BitVec.and_self]
  simp only [Ipv4Input.valid, asserted, all_eq_true] at valid
  obtain ⟨⟨⟨connected, statics⟩, -⟩, dynamic⟩ := valid
  intro route mem
  simp only [Ipv4Input.candidates, mem_append, mem_flatMap] at mem
  obtain (mem | mem) | ⟨entry, of, mem⟩ := mem
  · obtain ⟨entry, of, rfl⟩ := mem_map.mp mem
    obtain ⟨of, configured⟩ := mem_filter.mp of
    rw [Bool.and_eq_true] at configured
    have shape := connected entry of
    refine canonical _ entry.network ?_ rfl
    simp only [ConnectedInput.valid, configured.1, settled, asserted, refuted] at shape
    exact BitVec.not_lt.mp shape.1.1
  · obtain ⟨entry, of, rfl⟩ := mem_map.mp mem
    obtain ⟨of, usable⟩ := mem_filter.mp of
    simp only [DynamicInput.usable, asserted] at usable
    have shape := dynamic entry of
    refine canonical _ entry.network ?_ rfl
    simp only [validDynamic4, usable.1.1.1, settled, asserted, refuted] at shape
    exact BitVec.not_lt.mp shape.1.1
  · have shape := statics entry of
    unfold staticRoutes4 at mem
    split at mem
    · cases mem
    rename_i configured
    simp only [StaticInput.valid, configured, settled, asserted] at shape
    split at mem
    · split at mem
      · cases mem
      · obtain rfl := mem_singleton.mp mem
        exact canonical _ entry.network shape rfl
    · obtain ⟨_, _, rfl⟩ := mem_map.mp mem
      exact canonical _ entry.network shape rfl

/-- A rebuild keeps what is published, or replaces it by a generation. -/
theorem rebuild_outcome (sorter : Sorting.Sorter Ipv4Route) (table : Ipv4RouteTable)
    (input : Ipv4Input) :
    (∃ valid, (rebuild sorter table input).1 = { table with lastRebuildValid := valid }) ∨
      input.valid = true ∧ Generated sorter input.maximumEcmpPaths.toNat input.candidates
        (rebuild sorter table input).1 := by
  unfold rebuild
  split
  · exact .inl ⟨false, rfl⟩
  rename_i valid
  split
  · exact .inl ⟨false, rfl⟩
  rename_i primaries alternates staged
  split
  · exact .inl ⟨false, rfl⟩
  dsimp only
  split
  · refine .inr ⟨by simpa using valid, ?_⟩
    have chosen := stage_eq staged
    simp only [stage, Option.bind_eq_bind, Option.bind_eq_some_iff, Option.some.injEq,
      Prod.mk.injEq] at staged
    obtain ⟨-, -, -, -, rows, -, next, -, first, made⟩ := staged
    rw [first] at made
    obtain ⟨shown, count⟩ : _ =
        selection sorter input.maximumEcmpPaths.toNat input.candidates ∧ _ :=
      selectPrimaries_spec
    rw [chosen] at made ⊢
    rw [← made]
    exact ⟨shown, (congrArg List.length shown).trans count.symm, selectAlternates_repair _ rows _⟩
  · exact .inl ⟨true, rfl⟩

theorem after_serves (sorter : Sorting.Sorter Ipv4Route) (inputs : List Ipv4Input) :
    Serves (after sorter inputs) ∧ Repaired (after sorter inputs) := by
  refine Runs.invariant (P := fun table => Serves table ∧ Repaired table) ?_ inputs
    ⟨empty_serves, fun _ absent => by cases absent⟩
  rintro table input ⟨serves, repaired⟩
  obtain ⟨_, kept⟩ | ⟨valid, generated⟩ := rebuild_outcome sorter table input
  · rw [kept]
    exact ⟨⟨serves.full, serves.canonical, serves.alike, serves.few⟩, repaired⟩
  · have room : input.maximumEcmpPaths.toNat ≤ maximumEcmpPaths := by
      simp only [Ipv4Input.valid, asserted, refuted] at valid
      exact Nat.not_lt.mp valid.1.2.2
    exact ⟨generated.serves room (candidates_canonical valid), generated.repaired⟩

end Ipv4RouteTable

namespace Ipv6RouteTable

variable {sorter : Sorting.Sorter Ipv6Route} {input : Ipv6Input}

theorem candidates_canonical (valid : input.valid = true) :
    ∀ route ∈ input.candidates, route.Canonical := by
  have canonical : ∀ route : Ipv6Route, canonical6 route.network route.prefixLength = true →
      route.Canonical := by
    intro route shape
    simp only [canonical6, asserted] at shape
    have fits : route.prefixLength.toNat ≤ 128 := BitVec.le_def.mp shape.1
    exact ⟨fits, (mask_eq fits _).symm.trans shape.2⟩
  simp only [Ipv6Input.valid, asserted, all_eq_true] at valid
  obtain ⟨⟨⟨⟨⟨connected, additional⟩, -⟩, statics⟩, -⟩, dynamic⟩ := valid
  have interfaces : ∀ entries : List Ipv6ConnectedInput, (∀ entry ∈ entries, entry.valid = true) →
        ∀ route ∈ connectedRoutes6 entries, route.Canonical := by
    intro entries shapes route mem
    obtain ⟨entry, of, rfl⟩ := mem_map.mp mem
    obtain ⟨of, configured⟩ := mem_filter.mp of
    rw [Bool.and_eq_true] at configured
    have shape := shapes entry of
    simp only [Ipv6ConnectedInput.valid, configured.1, settled, asserted] at shape
    exact canonical _ shape.2
  intro route mem
  simp only [Ipv6Input.candidates, mem_append, mem_flatMap] at mem
  obtain ((mem | mem) | mem) | ⟨entry, of, mem⟩ := mem
  · exact interfaces _ connected route mem
  · exact interfaces _ additional route mem
  · obtain ⟨entry, of, rfl⟩ := mem_map.mp mem
    obtain ⟨of, usable⟩ := mem_filter.mp of
    simp only [DynamicInput.usable, asserted] at usable
    have shape := dynamic entry of
    simp only [validDynamic6, usable.1.1.1, settled, asserted, refuted] at shape
    exact canonical _ shape.1.1.1.2
  · have shape := statics entry of
    unfold staticRoutes6 at mem
    split at mem
    · cases mem
    rename_i configured
    simp only [Ipv6StaticInput.valid, configured, settled, asserted, refuted] at shape
    split at mem
    · split at mem
      · cases mem
      · obtain rfl := mem_singleton.mp mem
        exact canonical _ shape.1.1.1
    · obtain ⟨_, _, rfl⟩ := mem_map.mp mem
      exact canonical _ shape.1.1.1

/-- An accepted rebuild publishes a generation, or what it publishes is what there was. -/
theorem accepted_outcome {table : Ipv6RouteTable}
    (accepted : (rebuild sorter table input).1.lastRebuildValid = true) :
    (∃ rows, (rebuild sorter table input).1 =
        { table with
          loopFreeAlternates := rows
          lastRebuildValid := true } ∧ table.loopFreeAlternateCount = 0) ∨
      input.valid = true ∧ Generated sorter input.maximumEcmpPaths.toNat input.candidates
        (rebuild sorter table input).1 := by
  unfold rebuild at accepted ⊢
  split at accepted
  · cases accepted
  rename_i valid
  rw [if_neg valid]
  split at accepted
  · cases accepted
  rename_i primaries staged
  dsimp only at accepted ⊢
  split at accepted
  · cases accepted
  rename_i room
  rw [if_neg room]
  split
  · refine .inr ⟨by simpa using valid, ?_⟩
    rw [stage_eq] at staged
    split at staged
    · obtain rfl := Option.some.inj staged
      obtain ⟨shown, count⟩ : _ =
          selection sorter input.maximumEcmpPaths.toNat input.candidates ∧ _ :=
        selectPrimaries_spec
      exact ⟨shown, (congrArg List.length shown).trans count.symm, selectAlternates_repair _ _ _⟩
    · cases staged
  · rename_i unchanged
    simp only [asserted, not_or, Decidable.not_not] at unchanged
    exact .inl ⟨_, rfl, unchanged.1.1.2.symm.trans unchanged.1.2⟩

/-- A refused input leaves the repairs that are in use alone. -/
def SparesRepairs (sorter : Sorting.Sorter Ipv6Route) (table : Ipv6RouteTable)
    (input : Ipv6Input) : Prop :=
  ¬ TooLarge sorter input ∨ Undisturbed sorter table input

theorem step_serves {table : Ipv6RouteTable} (serves : Serves table) :
    Serves (rebuild sorter table input).1 ∧
      (Repaired table → SparesRepairs sorter table input →
        Repaired (rebuild sorter table input).1) := by
  obtain ⟨early, kept⟩ | ⟨large, written⟩ | ⟨-, accepted, -⟩ := rebuild_cases sorter table input
  · rw [kept]
    exact ⟨⟨serves.full, serves.canonical, serves.alike, serves.few⟩, fun repaired _ => repaired⟩
  · rw [written]
    refine ⟨⟨serves.full, serves.canonical, serves.alike, serves.few⟩, fun repaired spares => ?_⟩
    have same : (writtenRepairs sorter table input).take table.loopFreeAlternateCount =
        table.repairRows := spares.resolve_left fun early => early large
    intro alternate mem
    exact repaired alternate (by rw [← same]; exact mem)
  · obtain ⟨rows, kept, none⟩ | ⟨valid, generated⟩ := accepted_outcome accepted
    · rw [kept]
      refine ⟨⟨serves.full, serves.canonical, serves.alike, serves.few⟩, fun _ _ => ?_⟩
      intro alternate mem
      rw [RouteTable.repairRows, none] at mem
      cases mem
    · have room : input.maximumEcmpPaths.toNat ≤ maximumEcmpPaths := by
        simp only [Ipv6Input.valid, asserted, refuted] at valid
        exact Nat.not_lt.mp valid.1.1.1.2.2
      exact ⟨generated.serves room (candidates_canonical valid), fun _ _ => generated.repaired⟩

theorem after_serves (sorter : Sorting.Sorter Ipv6Route) (inputs : List Ipv6Input) :
    Serves (after sorter inputs) := by
  have step : ∀ table input, Serves table → Serves (rebuild sorter table input).1 :=
    fun _ _ serves => (step_serves serves).1
  exact Runs.invariant step inputs empty_serves

theorem after_repaired {sorter : Sorting.Sorter Ipv6Route} {inputs : List Ipv6Input}
    (spared : Runs.Along (fun table input => (rebuild sorter table input).1)
      (SparesRepairs sorter) {} inputs) : Repaired (after sorter inputs) := by
  refine (Runs.invariant_along (P := fun table => Serves table ∧ Repaired table) ?_
    ⟨empty_serves, fun _ absent => by cases absent⟩ spared).2
  rintro table input ⟨serves, repaired⟩ spares
  have next : Serves (rebuild sorter table input).1 ∧ _ := step_serves serves
  exact ⟨next.1, next.2 repaired spares⟩

end Ipv6RouteTable

/-! ## Longest prefixes and their repairs -/

section Lookups

variable {w : Nat} {ε : Type} {table : RouteTable (Route w ε)} {destination : BitVec w}
  {holds : Route w ε → Bool}

/-- The route is of the longest published prefix with the address. -/
def LongestHolding (published : List (Route w ε)) (destination : BitVec w) (route : Route w ε) :
    Prop :=
  route ∈ published ∧ route.Holds destination ∧
    ∀ other ∈ published, other.Holds destination → other.prefixLength ≤ route.prefixLength

/-- Lookups find the longest prefix, and every path of it over some flow. -/
structure LongestMatch (published : List (Route w ε)) (destination : BitVec w)
    (lookup : BitVec 64 → Option (Route w ε)) : Prop where
  fails : ∀ flowHash, lookup flowHash = none ↔ ∀ route ∈ published, ¬ route.Holds destination
  longest : ∀ flowHash route, lookup flowHash = some route →
    LongestHolding published destination route
  covers : ∀ route, LongestHolding published destination route →
    ∃ flowHash, lookup flowHash = some route

/-- What a repair lookup returns stands in for a published route of the primary's prefix. -/
def Protects (published : List (Route w ε)) (lookup alternate : BitVec 64 → Option (Route w ε)) :
    Prop :=
  ∀ flowHash flowHash' route repair, lookup flowHash = some route →
    alternate flowHash' = some repair →
    ∃ primary ∈ published, samePrefix primary route = true ∧ repairs repair primary = true

/-- If there is a repair of a prefix with the address, there is one of the longest published. -/
def RepairsLongest (table : RouteTable (Route w ε)) (destination : BitVec w) : Prop :=
  ∀ route, LongestHolding table.published destination route →
    (∃ repair ∈ table.repairRows, repair.Holds destination) →
    ∃ repair ∈ table.repairRows, samePrefix repair route = true

theorem samePrefix_iff {a b : Route w ε} :
    samePrefix a b = true ↔ a.network = b.network ∧ a.prefixLength = b.prefixLength := by
  rw [samePrefix, Bool.and_eq_true, beq_iff_eq, beq_iff_eq]

theorem holds_of_samePrefix {a b : Route w ε} (same : samePrefix a b = true)
    (h : b.Holds destination) : a.Holds destination := by
  obtain ⟨network, length⟩ := samePrefix_iff.mp same
  rwa [Route.Holds, network, length]

theorem samePrefix_of_repairs {repair primary : Route w ε} (h : repairs repair primary = true) :
    samePrefix primary repair = true := by
  simp only [repairs, Bool.and_eq_true] at h
  rw [samePrefix, Bool.and_eq_true]
  exact h.1.1.1

theorem RouteTable.compiled (full : table.published.length = table.count) (generation : BitVec 64) :
    (table.compile generation).routes.take (table.compile generation).count = table.published ∧
    ((table.compile generation).routes.drop (table.compile generation).count).take
      (table.compile generation).loopFreeAlternateCount = table.repairRows := by
  have count : (table.compile generation).count = table.published.length := full.symm
  rw [count]
  constructor
  · exact take_left
  · rw [RouteTable.compile, drop_left, take_take, Nat.min_self]
    rfl

/-- Published routes of one length with the address are of one network. -/
theorem samePrefix_of_holds (canonical : ∀ route ∈ table.published, route.Canonical) {a b : Route w ε} (memA : a ∈ table.published)
    (memB : b ∈ table.published) (holdsA : a.Holds destination) (holdsB : b.Holds destination)
    (length : a.prefixLength = b.prefixLength) : samePrefix a b = true := by
  have networkA := ((canonical a memA).holds_iff destination).mpr holdsA
  have networkB := ((canonical b memB).holds_iff destination).mpr holdsB
  rw [length, networkB] at networkA
  exact samePrefix_iff.mpr ⟨networkA.symm, length⟩

theorem longest_iff
    (holding : ∀ route ∈ table.published, (holds route = true ↔ route.Holds destination))
    {route : Route w ε} : Longest holds table.published route ↔
      LongestHolding table.published destination route := by
  constructor
  · rintro ⟨mem, held, most⟩
    exact ⟨mem, (holding route mem).mp held, fun other of holds =>
      most other of ((holding other of).mpr holds)⟩
  · rintro ⟨mem, held, most⟩
    exact ⟨mem, (holding route mem).mpr held, fun other of holds =>
      most other of ((holding other of).mp holds)⟩

theorem Serves.longestMatch (h : Serves table)
    (holding : ∀ route ∈ table.published, (holds route = true ↔ route.Holds destination)) :
    LongestMatch table.published destination (search holds sameSelectionClass table.published) := by
  have refl : ∀ route : Route w ε, sameSelectionClass route route = true := by
    intro route
    rw [sameSelectionClass_eq, beq_self_eq_true]
  refine ⟨fun flowHash => ?_, fun flowHash route found => ?_, fun route longest => ?_⟩
  · rw [search_eq_none refl]
    exact forall₂_congr fun route mem => by rw [← holding route mem, Bool.not_eq_true]
  · exact (longest_iff holding).mp (search_longest refl found)
  · refine search_covers refl ?_ (h.few route) ((longest_iff holding).mpr longest)
    intro a memA b memB heldA heldB length
    have same := samePrefix_of_holds h.canonical memA memB ((holding a memA).mp heldA) ((holding b memB).mp heldB)
      length
    exact ⟨(samePrefix_iff.mp same).1, h.alike a memA b memB same⟩

/-- Repairs protect the primaries of an address exactly if some repair is of their prefix. -/
theorem Serves.protects_iff (h : Serves table) (repaired : Repaired table)
    (holding : ∀ route : Route w ε, route.Canonical →
      (holds route = true ↔ route.Holds destination)) :
    Protects table.published (search holds sameSelectionClass table.published)
        (search holds (fun _ _ => true) table.repairRows) ↔
      RepairsLongest table destination := by
  have canonical : ∀ repair ∈ table.repairRows, repair.Canonical := by
    intro repair mem
    obtain ⟨primary, of, repairing⟩ := repaired repair mem
    obtain ⟨network, length⟩ := samePrefix_iff.mp (samePrefix_of_repairs repairing)
    have shape := h.canonical primary of
    rwa [Route.Canonical, network, length] at shape
  have matched := h.longestMatch fun route mem => holding route (h.canonical route mem)
  constructor
  · rintro protects route longest ⟨repair, mem, held⟩
    obtain ⟨flowHash, found⟩ := matched.covers route longest
    cases other : search holds (fun _ _ => true) table.repairRows 0#64 with
    | none =>
      have absent := (search_eq_none fun _ => rfl).mp other repair mem
      rw [(holding repair (canonical repair mem)).mpr held] at absent
      cases absent
    | some chosen =>
      obtain ⟨primary, -, same, repairing⟩ := protects _ _ _ _ found other
      obtain ⟨network, length⟩ := samePrefix_iff.mp same
      obtain ⟨network', length'⟩ := samePrefix_iff.mp (samePrefix_of_repairs repairing)
      exact ⟨chosen, (search_longest (fun _ => rfl) other).1,
        samePrefix_iff.mpr ⟨network'.symm.trans network, length'.symm.trans length⟩⟩
  · intro condition flowHash flowHash' route repair found other
    have longest := matched.longest _ _ found
    obtain ⟨mem, held, most⟩ := search_longest (fun _ => rfl) other
    have holdsRepair := (holding repair (canonical repair mem)).mp held
    obtain ⟨nearer, of, same⟩ := condition route longest ⟨repair, mem, holdsRepair⟩
    have nearerHeld := (holding nearer (canonical nearer of)).mpr
      (holds_of_samePrefix same longest.2.1)
    obtain ⟨primary, primaryMem, repairing⟩ := repaired repair mem
    have primaryHolds := holds_of_samePrefix (samePrefix_of_repairs repairing) holdsRepair
    have length : primary.prefixLength = route.prefixLength := by
      refine BitVec.le_antisymm (longest.2.2 primary primaryMem primaryHolds) ?_
      rw [← (samePrefix_iff.mp same).2, (samePrefix_iff.mp (samePrefix_of_repairs repairing)).2]
      exact most nearer of nearerHeld
    exact ⟨primary, primaryMem,
      samePrefix_of_holds h.canonical primaryMem longest.1 primaryHolds longest.2.1 length, repairing⟩

end Lookups

/-- After any rebuilds, lookups in the program of either family find the longest prefix that is
published for an address, and each of its paths over some flow. -/
theorem lookup_longest_match (sorter4 : Sorting.Sorter Ipv4Route)
    (sorter6 : Sorting.Sorter Ipv6Route) (inputs4 : List Ipv4Input) (inputs6 : List Ipv6Input)
    (generation : BitVec 64) :
    (∀ destination, LongestMatch (Ipv4RouteTable.after sorter4 inputs4).published destination
      (lookup4 ((Ipv4RouteTable.after sorter4 inputs4).compile generation) destination)) ∧
    (∀ destination, LongestMatch (Ipv6RouteTable.after sorter6 inputs6).published destination
      (lookup6 ((Ipv6RouteTable.after sorter6 inputs6).compile generation) destination)) := by
  constructor
  · intro destination
    have serves := (Ipv4RouteTable.after_serves sorter4 inputs4).1
    have matched := serves.longestMatch fun route mem =>
      holds4_iff (serves.canonical route mem) destination
    unfold lookup4
    rwa [(RouteTable.compiled serves.full generation).1]
  · intro destination
    have serves := Ipv6RouteTable.after_serves sorter6 inputs6
    have matched := serves.longestMatch fun route mem =>
      holds6_iff (serves.canonical route mem) destination
    unfold lookup6
    rwa [(RouteTable.compiled serves.full generation).1]

/-- A repair that is looked up protects the primary exactly if the longest published prefix has
one whenever some prefix of the address does. In IPv6 this is so as long as no refused input
has written over the repairs in use. -/
theorem repair_protects_iff (sorter4 : Sorting.Sorter Ipv4Route)
    (sorter6 : Sorting.Sorter Ipv6Route) (inputs4 : List Ipv4Input) (inputs6 : List Ipv6Input)
    (generation : BitVec 64) :
    (∀ destination, Protects (Ipv4RouteTable.after sorter4 inputs4).published
        (lookup4 ((Ipv4RouteTable.after sorter4 inputs4).compile generation) destination)
        (lookupLoopFreeAlternate4 ((Ipv4RouteTable.after sorter4 inputs4).compile generation)
          destination) ↔
      RepairsLongest (Ipv4RouteTable.after sorter4 inputs4) destination) ∧
    (Runs.Along (fun table input => (Ipv6RouteTable.rebuild sorter6 table input).1)
        (Ipv6RouteTable.SparesRepairs sorter6) {} inputs6 →
      ∀ destination, Protects (Ipv6RouteTable.after sorter6 inputs6).published
          (lookup6 ((Ipv6RouteTable.after sorter6 inputs6).compile generation) destination)
          (lookupLoopFreeAlternate6 ((Ipv6RouteTable.after sorter6 inputs6).compile generation)
            destination) ↔
        RepairsLongest (Ipv6RouteTable.after sorter6 inputs6) destination) := by
  constructor
  · intro destination
    obtain ⟨serves, repaired⟩ := Ipv4RouteTable.after_serves sorter4 inputs4
    have protects := serves.protects_iff repaired fun _ canonical =>
      holds4_iff canonical destination
    unfold lookup4 lookupLoopFreeAlternate4
    rwa [(RouteTable.compiled serves.full generation).1, (RouteTable.compiled serves.full generation).2]
  · intro spared destination
    have serves := Ipv6RouteTable.after_serves sorter6 inputs6
    have protects := serves.protects_iff (Ipv6RouteTable.after_repaired spared) fun _ canonical =>
      holds6_iff canonical destination
    unfold lookup6 lookupLoopFreeAlternate6
    rwa [(RouteTable.compiled serves.full generation).1, (RouteTable.compiled serves.full generation).2]

/-- A connected network inside the prefix of a path that has a repair. -/
def insideRepaired4 : Ipv4Input where
  connected :=
    [{ network := 0x0a010000#32, portOrdinal := 1#16, prefixLength := 16#8 }]
  dynamic :=
    [⟨true, true, 0x0a000000#32, 0xc0a80002#32, {}, 10#16, 20#32, 8#8, .ospf, .intraArea, 0#32,
        0#8, false⟩,
      ⟨true, true, 0x0a000000#32, 0xc0a80003#32, {}, 10#16, 30#32, 8#8, .ospf, .intraArea, 0#32,
        0#8, true⟩]

theorem outer_prefix_protected :
    Protects (Ipv4RouteTable.after insertion [insideRepaired4]).published
      (lookup4 ((Ipv4RouteTable.after insertion [insideRepaired4]).compile 0#64) 0x0a020001#32)
      (lookupLoopFreeAlternate4
        ((Ipv4RouteTable.after insertion [insideRepaired4]).compile 0#64) 0x0a020001#32) ∧
    Protects (Ipv6RouteTable.after insertion [repairedPath [2]]).published
      (lookup6 ((Ipv6RouteTable.after insertion [repairedPath [2]]).compile 0#64)
        0x20010db8000100000000000000000001#128)
      (lookupLoopFreeAlternate6
        ((Ipv6RouteTable.after insertion [repairedPath [2]]).compile 0#64)
        0x20010db8000100000000000000000001#128) := by
  obtain ⟨protects4, protects6⟩ := repair_protects_iff insertion insertion
    [insideRepaired4] [repairedPath [2]] 0#64
  have outer : ∀ route ∈ (Ipv4RouteTable.after insertion [insideRepaired4]).published,
      holds4 0x0a020001#32 route = true →
        ∃ repair ∈ (Ipv4RouteTable.after insertion [insideRepaired4]).repairRows,
          samePrefix repair route = true := by decide +kernel
  have only : ∀ route ∈ (Ipv6RouteTable.after insertion [repairedPath [2]]).published,
      ∃ repair ∈ (Ipv6RouteTable.after insertion [repairedPath [2]]).repairRows,
        samePrefix repair route = true := by decide +kernel
  refine ⟨(protects4 _).mpr ?_, (protects6 ⟨.inl ?_, trivial⟩ _).mpr ?_⟩
  · rintro route ⟨mem, holds, -⟩ -
    have serves := (Ipv4RouteTable.after_serves insertion [insideRepaired4]).1
    exact outer route mem ((holds4_iff (serves.canonical route mem) _).mpr holds)
  · rintro ⟨-, -, large⟩
    exact absurd large (by decide +kernel)
  · rintro route ⟨mem, -⟩ -
    exact only route mem

/-- The repair of the prefix around it is returned for an address of the connected network. -/
theorem inner_prefix_not_protected :
    ¬ Protects (Ipv4RouteTable.after insertion [insideRepaired4]).published
      (lookup4 ((Ipv4RouteTable.after insertion [insideRepaired4]).compile 0#64) 0x0a010001#32)
      (lookupLoopFreeAlternate4
        ((Ipv4RouteTable.after insertion [insideRepaired4]).compile 0#64) 0x0a010001#32) := by
  intro protects
  have found : lookup4 ((Ipv4RouteTable.after insertion [insideRepaired4]).compile 0#64)
      0x0a010001#32 0#64 =
        some { network := 0x0a010000#32, egress := { portOrdinal := 1#16 }, prefixLength := 16#8 } := by
    decide +kernel
  have repaired : lookupLoopFreeAlternate4
      ((Ipv4RouteTable.after insertion [insideRepaired4]).compile 0#64) 0x0a010001#32 0#64 =
        some (dynamicRoute4 (insideRepaired4.dynamic[1])) := by decide +kernel
  obtain ⟨primary, -, same, repairing⟩ := protects _ _ _ _ found repaired
  have length := (samePrefix_iff.mp same).2
  rw [(samePrefix_iff.mp (samePrefix_of_repairs repairing)).2] at length
  exact absurd length (by decide)

end RouterSim.Rib
