import RouterSim.Rib.OrderIndependence

/-! What a rebuild can do: refuse its input, or publish the selection of the candidates. -/
namespace RouterSim.Rib

open List Sorting

section Published

variable {ρ : Type} {rows more out : List ρ}

theorem appendAll_eq_some (h : rows.length ≤ maximumFibRoutesPerRouter) :
    appendAll rows more = some out ↔
      out = rows ++ more ∧ (rows ++ more).length ≤ maximumFibRoutesPerRouter := by
  induction more generalizing rows with
  | nil =>
    have step : appendAll rows [] = some rows := rfl
    rw [step, append_nil, Option.some.injEq, eq_comm]
    exact ⟨fun eq => ⟨eq, h⟩, fun both => both.1⟩
  | cons row rest ih =>
    have step : appendAll rows (row :: rest) =
        (if rows.length = maximumFibRoutesPerRouter then none else some (rows ++ [row])).bind
          (appendAll · rest) := rfl
    rw [step]
    by_cases full : rows.length = maximumFibRoutesPerRouter
    · simp [full]
    · have room : (rows ++ [row]).length ≤ maximumFibRoutesPerRouter := by
        rw [length_append, length_singleton]
        omega
      rw [if_neg full, Option.bind_some, ih room, append_assoc, singleton_append]

theorem eq_of_unchangedRows [DecidableEq ρ] {next old : List ρ}
    (h : unchangedRows (· == ·) next old = true) : next = old := by
  rw [unchangedRows, Bool.and_eq_true, beq_iff_eq, all_eq_true] at h
  obtain ⟨length, rows⟩ := h
  apply ext_getElem length
  intro i inNext inOld
  have pair : (next[i], old[i]) ∈ next.zip old := by
    rw [mem_iff_getElem]
    have inZip : i < (next.zip old).length := by
      rw [length_zip]
      omega
    exact ⟨i, inZip, by simp⟩
  simpa using rows _ pair

namespace Ipv4RouteTable

variable {sorter : Sorting.Sorter Ipv4Route} {table : Ipv4RouteTable} {input : Ipv4Input}

theorem stage_eq {primaries alternates : List Ipv4Route × Nat}
    (h : stage sorter input = some (primaries, alternates)) :
    primaries = selectPrimaries sorter input.maximumEcmpPaths.toNat input.candidates := by
  simp only [stage, Option.bind_eq_bind, Option.bind_eq_some_iff, Option.some.injEq,
    Prod.mk.injEq] at h
  obtain ⟨connected, first, dynamic, second, _, _, next, last, primary, -⟩ := h
  obtain ⟨rfl, room⟩ := (appendAll_eq_some (Nat.zero_le _)).mp first
  obtain ⟨rfl, room⟩ := (appendAll_eq_some room).mp second
  obtain ⟨rfl, -⟩ := (appendAll_eq_some room).mp last
  rw [← primary]
  rfl

/-- A refused rebuild does nothing else. An accepted one publishes the selection, whether or
not that is new. -/
theorem rebuild_cases (sorter : Sorting.Sorter Ipv4Route) (table : Ipv4RouteTable)
    (input : Ipv4Input) : (rebuild sorter table input).1 = table.reject ∨
      (rebuild sorter table input).1.lastRebuildValid = true ∧
        (rebuild sorter table input).1.published =
          selection sorter input.maximumEcmpPaths.toNat input.candidates := by
  unfold rebuild
  split
  · exact .inl rfl
  split
  · exact .inl rfl
  rename_i primaries alternates staged
  have rows : primaries.1.take primaries.2 =
      selection sorter input.maximumEcmpPaths.toNat input.candidates := by
    rw [stage_eq staged]
    exact selectPrimaries_spec.1
  split
  · exact .inl rfl
  refine .inr ?_
  dsimp only
  split
  · exact ⟨rfl, rows⟩
  rename_i changed
  refine ⟨rfl, ?_⟩
  simp only [asserted, not_or, Decidable.not_not, refuted] at changed
  rw [← rows, eq_of_unchangedRows changed.1.2, changed.1.1.1]
  rfl

end Ipv4RouteTable

namespace Ipv6RouteTable

variable {sorter : Sorting.Sorter Ipv6Route} {table : Ipv6RouteTable} {input : Ipv6Input}

theorem stage_eq (sorter : Sorting.Sorter Ipv6Route) (input : Ipv6Input) :
    stage sorter input =
      if input.candidates.length ≤ maximumFibRoutesPerRouter then
        some (selectPrimaries sorter input.maximumEcmpPaths.toNat input.candidates)
      else none := by
  have found : ∀ primaries, stage sorter input = some primaries ↔
      input.candidates.length ≤ maximumFibRoutesPerRouter ∧
        primaries = selectPrimaries sorter input.maximumEcmpPaths.toNat input.candidates := by
    intro primaries
    simp only [stage, Option.bind_eq_bind, Option.bind_eq_some_iff, Option.some.injEq]
    constructor
    · rintro ⟨connected, first, additional, second, dynamic, third, next, last, primary⟩
      obtain ⟨rfl, room⟩ := (appendAll_eq_some (Nat.zero_le _)).mp first
      obtain ⟨rfl, room⟩ := (appendAll_eq_some room).mp second
      obtain ⟨rfl, room⟩ := (appendAll_eq_some room).mp third
      obtain ⟨rfl, room⟩ := (appendAll_eq_some room).mp last
      exact ⟨room, primary.symm⟩
    · rintro ⟨room, primary⟩
      simp only [Ipv6Input.candidates, length_append] at room
      refine ⟨_, (appendAll_eq_some (Nat.zero_le _)).mpr ⟨rfl, ?_⟩, _,
        (appendAll_eq_some ?_).mpr ⟨rfl, ?_⟩, _, (appendAll_eq_some ?_).mpr ⟨rfl, ?_⟩, _,
        (appendAll_eq_some ?_).mpr ⟨rfl, ?_⟩, primary.symm⟩
      all_goals
        simp only [nil_append, length_append]
        omega
  split
  next room => exact (found _).mpr ⟨room, rfl⟩
  rename_i full
  cases staged : stage sorter input with
  | none => rfl
  | some primaries => exact absurd ((found _).mp staged).1 full

/-- The routes an input selects. -/
def selected (sorter : Sorting.Sorter Ipv6Route) (input : Ipv6Input) : List Ipv6Route :=
  selection sorter input.maximumEcmpPaths.toNat input.candidates

/-- The repairs of an input, in order and without what repeats. -/
def distinctRepairs (sorter : Sorting.Sorter Ipv6Route) (input : Ipv6Input) : List Ipv6Route :=
  uniqueRows sameAlternate (sorter.sort alternateLess (stagedAlternates6 input.dynamic))

/-- Those of them that repair a selected route. -/
def retainedRepairs (sorter : Sorting.Sorter Ipv6Route) (input : Ipv6Input) : List Ipv6Route :=
  (distinctRepairs sorter input).filter fun alternate =>
    (selected sorter input).any (repairs alternate)

/-- The input passes every check but the last: its routes and repairs are too many together. -/
def TooLarge (sorter : Sorting.Sorter Ipv6Route) (input : Ipv6Input) : Prop :=
  input.valid = true ∧ input.candidates.length ≤ maximumFibRoutesPerRouter ∧
    maximumFibRoutesPerRouter <
      (selected sorter input).length + (retainedRepairs sorter input).length

/-- The array of repairs once an input has been written to it. Rows that are not reached keep
what they held. -/
def writtenRepairs (sorter : Sorting.Sorter Ipv6Route) (table : Ipv6RouteTable)
    (input : Ipv6Input) : List Ipv6Route :=
  let sorted := sorter.sort alternateLess (stagedAlternates6 input.dynamic)
  let rows := sorted ++ table.loopFreeAlternates.drop sorted.length
  let distinct := distinctRepairs sorter input ++ rows.drop (distinctRepairs sorter input).length
  retainedRepairs sorter input ++ distinct.drop (retainedRepairs sorter input).length

theorem stageAlternates_eq (sorter : Sorting.Sorter Ipv6Route) (table : Ipv6RouteTable)
    (input : Ipv6Input) :
    stageAlternates sorter table input (selected sorter input) =
      (writtenRepairs sorter table input, (retainedRepairs sorter input).length) := by
  have length : (sorter.sort alternateLess (stagedAlternates6 input.dynamic)).length =
      (stagedAlternates6 input.dynamic).length := (sorter.perm _ _).length_eq
  have front : (sorter.sort alternateLess (stagedAlternates6 input.dynamic) ++
      table.loopFreeAlternates.drop (stagedAlternates6 input.dynamic).length).take
        (stagedAlternates6 input.dynamic).length =
      sorter.sort alternateLess (stagedAlternates6 input.dynamic) := by
    rw [← length, take_left]
  have fits : (distinctRepairs sorter input).length ≤ (distinctRepairs sorter input ++
      (sorter.sort alternateLess (stagedAlternates6 input.dynamic) ++
        table.loopFreeAlternates.drop (stagedAlternates6 input.dynamic).length).drop
          (distinctRepairs sorter input).length).length := by
    rw [length_append]
    exact Nat.le_add_right _ _
  have kept := Compaction.filterInPlace_eq
    (fun alternate => (selected sorter input).any (repairs alternate)) fits
  rw [take_left] at kept
  rw [stageAlternates, selectAlternates]
  simp only [take_left, drop_left, front]
  rw [writtenRepairs, length]
  exact kept

/-- Refused before anything is written, refused after the repairs are written, or accepted. -/
theorem rebuild_cases (sorter : Sorting.Sorter Ipv6Route) (table : Ipv6RouteTable)
    (input : Ipv6Input) :
    ¬ TooLarge sorter input ∧ (rebuild sorter table input).1 = table.reject ∨
      TooLarge sorter input ∧ (rebuild sorter table input).1 =
        ({ table with loopFreeAlternates := writtenRepairs sorter table input } :
          Ipv6RouteTable).reject ∨
      ¬ TooLarge sorter input ∧ (rebuild sorter table input).1.lastRebuildValid = true ∧
        (rebuild sorter table input).1.published = selected sorter input := by
  unfold rebuild
  by_cases valid : input.valid = true
  · by_cases room : input.candidates.length ≤ maximumFibRoutesPerRouter
    · obtain ⟨rows, count⟩ :
          (selectPrimaries sorter input.maximumEcmpPaths.toNat input.candidates).1.take
              (selectPrimaries sorter input.maximumEcmpPaths.toNat input.candidates).2 =
            selected sorter input ∧
          (selectPrimaries sorter input.maximumEcmpPaths.toNat input.candidates).2 =
            (selected sorter input).length := selectPrimaries_spec
      simp only [valid, settled, stage_eq, room, rows, stageAlternates_eq]
      by_cases overflow : maximumFibRoutesPerRouter <
          (selected sorter input).length + (retainedRepairs sorter input).length
      · refine .inr (.inl ⟨⟨valid, room, overflow⟩, ?_⟩)
        rw [if_pos (by rw [count]; exact overflow)]
      · refine .inr (.inr ⟨fun large => overflow large.2.2, ?_⟩)
        rw [if_neg (by rw [count]; exact overflow)]
        split
        · exact ⟨rfl, rows⟩
        rename_i changed
        refine ⟨rfl, ?_⟩
        simp only [asserted, not_or, Decidable.not_not, refuted] at changed
        rw [eq_of_unchangedRows changed.2, changed.1.1.1]
        rfl
    · refine .inl ⟨fun large => room large.2.1, ?_⟩
      simp [stage_eq, room]
  · refine .inl ⟨fun large => valid large.1, ?_⟩
    simp [valid]

end Ipv6RouteTable

end Published

section Exact

/-- The part of a route that the order of the inputs must not change. -/
def path4 (route : Ipv4Route) : BitVec 32 × BitVec 8 × BitVec 32 × BitVec 16 :=
  (route.network, route.prefixLength, route.nextHop, route.egress.portOrdinal)

def path6 (route : Ipv6Route) : BitVec 128 × BitVec 8 × BitVec 128 × BitVec 64 :=
  (route.network, route.prefixLength, route.nextHop, route.egress.interfaceId)

/-- What the key determines is equal where the keys are. -/
theorem map_of_map_key {w : Nat} {ε β : Type} [Egress ε] {f : Route w ε → β}
    {rows rows' : List (Route w ε)} (determined : ∀ a b : Route w ε, key a = key b → f a = f b)
    (h : rows.map key = rows'.map key) : rows.map f = rows'.map f := by
  induction rows generalizing rows' with
  | nil =>
    cases rows' with
    | nil => rfl
    | cons row rest => cases h
  | cons row rest ih =>
    cases rows' with
    | nil => cases h
    | cons row' rest' =>
      obtain ⟨first, others⟩ := List.cons.inj h
      rw [map_cons, map_cons, determined _ _ first, ih others]

theorem path4_of_key (a b : Ipv4Route) (h : key a = key b) : path4 a = path4 b := by
  simp only [key, prefixKey, classKey, hopKey, cons_append, nil_append,
    List.cons.injEq, Egress.ordinal] at h
  simp only [path4, Prod.mk.injEq, BitVec.toNat_eq]
  omega

theorem path6_of_key (a b : Ipv6Route) (h : key a = key b) : path6 a = path6 b := by
  simp only [key, prefixKey, classKey, hopKey, cons_append, nil_append,
    List.cons.injEq, Egress.ordinal] at h
  simp only [path6, Prod.mk.injEq, BitVec.toNat_eq]
  omega

theorem Ipv4RouteTable.published_rebuild {sorter : Sorting.Sorter Ipv4Route}
    {table : Ipv4RouteTable} {input : Ipv4Input}
    (accepted : (rebuild sorter table input).1.lastRebuildValid = true) :
    (rebuild sorter table input).1.published =
      selection sorter input.maximumEcmpPaths.toNat input.candidates := by
  obtain refused | done := rebuild_cases sorter table input
  · rw [refused] at accepted
    cases accepted
  · exact done.2

theorem Ipv6RouteTable.published_rebuild {sorter : Sorting.Sorter Ipv6Route}
    {table : Ipv6RouteTable} {input : Ipv6Input}
    (accepted : (rebuild sorter table input).1.lastRebuildValid = true) :
    (rebuild sorter table input).1.published =
      selection sorter input.maximumEcmpPaths.toNat input.candidates := by
  obtain ⟨-, refused⟩ | ⟨-, refused⟩ | done := rebuild_cases sorter table input
  · rw [refused] at accepted
    cases accepted
  · rw [refused] at accepted
    cases accepted
  · exact done.2.2

/-- An accepted rebuild publishes, for each prefix, the first of the least class of its
candidates, and another order of the static and dynamic inputs publishes the same paths. -/
theorem rebuild_selects_exactly :
    (∀ (sorter : Sorting.Sorter Ipv4Route) (table : Ipv4RouteTable) (input : Ipv4Input),
      (Ipv4RouteTable.rebuild sorter table input).1.lastRebuildValid = true →
        Selected input.candidates input.maximumEcmpPaths.toNat
            (Ipv4RouteTable.rebuild sorter table input).1.published ∧
          ∀ (sorter' : Sorting.Sorter Ipv4Route) (table' : Ipv4RouteTable) (input' : Ipv4Input),
            input.Reordered input' →
            (Ipv4RouteTable.rebuild sorter' table' input').1.lastRebuildValid = true →
            (Ipv4RouteTable.rebuild sorter' table' input').1.published.map path4 =
              (Ipv4RouteTable.rebuild sorter table input).1.published.map path4) ∧
    (∀ (sorter : Sorting.Sorter Ipv6Route) (table : Ipv6RouteTable) (input : Ipv6Input),
      (Ipv6RouteTable.rebuild sorter table input).1.lastRebuildValid = true →
        Selected input.candidates input.maximumEcmpPaths.toNat
            (Ipv6RouteTable.rebuild sorter table input).1.published ∧
          ∀ (sorter' : Sorting.Sorter Ipv6Route) (table' : Ipv6RouteTable) (input' : Ipv6Input),
            input.Reordered input' →
            (Ipv6RouteTable.rebuild sorter' table' input').1.lastRebuildValid = true →
            (Ipv6RouteTable.rebuild sorter' table' input').1.published.map path6 =
              (Ipv6RouteTable.rebuild sorter table input).1.published.map path6) := by
  constructor
  · intro sorter table input accepted
    rw [Ipv4RouteTable.published_rebuild accepted]
    refine ⟨selection_selected, ?_⟩
    intro sorter' table' input' reordered accepted'
    rw [Ipv4RouteTable.published_rebuild accepted', reordered.paths]
    exact map_of_map_key path4_of_key (selection_keys reordered.candidates)
  · intro sorter table input accepted
    rw [Ipv6RouteTable.published_rebuild accepted]
    refine ⟨selection_selected, ?_⟩
    intro sorter' table' input' reordered accepted'
    rw [Ipv6RouteTable.published_rebuild accepted', reordered.paths]
    exact map_of_map_key path6_of_key (selection_keys reordered.candidates)

/-- Two equal paths, one of them also the way to an indirect next hop, and a worse one. -/
def twoPaths4 : Ipv4Input where
  connected :=
    [{ network := 0x0a000000#32, portOrdinal := 1#16, prefixLength := 8#8 }]
  statics :=
    [{ network := 0xac100000#32, nextHop := 0xc0a80101#32, prefixLength := 12#8, indirect := true },
      { network := 0xac200000#32, nextHop := 0x0a000009#32, prefixLength := 12#8 }]
  dynamic :=
    [⟨true, true, 0xc0a80000#32, 0x0a000002#32, {}, 10#16, 20#32, 16#8, .ospf, .intraArea, 0#32,
        0#8, false⟩,
      ⟨true, true, 0xc0a80000#32, 0x0a000001#32, {}, 10#16, 20#32, 16#8, .ospf, .intraArea,
        0#32, 0#8, false⟩,
      ⟨true, true, 0xc0a80000#32, 0x0a000003#32, {}, 10#16, 30#32, 16#8, .ospf, .intraArea,
        0#32, 0#8, false⟩]
  maximumEcmpPaths := 4#16

def twoPaths6 : Ipv6Input where
  connected :=
    [{ network := 0x20010db8000000000000000000000000#128, interfaceId := 1#64,
       physicalPortOrdinal := 1#16, prefixLength := 64#8 }]
  dynamic :=
    [⟨true, true, 0x20010db8000100000000000000000000#128, 0xfe800000000000000000000000000002#128,
        { interfaceId := 1#64 }, 10#16, 20#32, 48#8, .ospf3, .intraArea, 0#32, 0#8, false⟩,
      ⟨true, true, 0x20010db8000100000000000000000000#128, 0xfe800000000000000000000000000001#128,
        { interfaceId := 1#64 }, 10#16, 20#32, 48#8, .ospf3, .intraArea, 0#32, 0#8, false⟩]
  maximumEcmpPaths := 4#16

theorem two_paths_selected :
    Selected twoPaths4.candidates 4 (Ipv4RouteTable.rebuild insertion {} twoPaths4).1.published ∧
      (Ipv4RouteTable.rebuild insertion {}
          { twoPaths4 with
            statics := twoPaths4.statics.reverse
            dynamic := twoPaths4.dynamic.reverse }).1.published.map path4 =
        (Ipv4RouteTable.rebuild insertion {} twoPaths4).1.published.map path4 ∧
      Selected twoPaths6.candidates 4 (Ipv6RouteTable.rebuild insertion {} twoPaths6).1.published ∧
      (Ipv6RouteTable.rebuild insertion {}
          { twoPaths6 with dynamic := twoPaths6.dynamic.reverse }).1.published.map path6 =
        (Ipv6RouteTable.rebuild insertion {} twoPaths6).1.published.map path6 := by
  obtain ⟨selected4, reordered4⟩ :=
    rebuild_selects_exactly.1 insertion {} twoPaths4 (by decide +kernel)
  obtain ⟨selected6, reordered6⟩ :=
    rebuild_selects_exactly.2 insertion {} twoPaths6 (by decide +kernel)
  refine ⟨selected4, reordered4 _ _ _ ?_ (by decide +kernel), selected6,
    reordered6 _ _ _ ?_ (by decide +kernel)⟩
  · exact ⟨rfl, reverse_perm _, reverse_perm _, rfl⟩
  · exact ⟨rfl, rfl, .refl _, reverse_perm _, rfl⟩

end Exact

end RouterSim.Rib
