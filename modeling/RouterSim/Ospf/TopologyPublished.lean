import RouterSim.Ospf.Topology

/-! A published graph has an arc for each pending edge between its vertices, and no other. -/
namespace RouterSim.Ospf

open List Sorting

section Keys

variable {version : Version} {records : List LsaRecord} {found keys : List TopologyVertexKey}

theorem TopologyVertexKey.tie_inj (left right : TopologyVertexKey) (h : left.tie = right.tie) :
    left = right := by
  obtain ⟨kind, id, advertiser⟩ := left
  obtain ⟨kind', id', advertiser'⟩ := right
  simp only [tie, List.cons.injEq, and_true] at h
  obtain ⟨kinds, ids, advertisers⟩ := h
  have sameKind : kind = kind' := by
    cases kind <;> cases kind' <;> simp_all [TopologyVertexKind.ordinal]
  rw [sameKind, BitVec.eq_of_toNat_eq ids, BitVec.eq_of_toNat_eq advertisers]

theorem keyLess_weak : Sorting.Weak keyLess := weak_of_key TopologyVertexKey.tie

theorem mem_addKey {key other : TopologyVertexKey} :
    other ∈ addKey keys key ↔ other ∈ keys ∨ other = key := by
  unfold addKey
  split <;> simp_all

theorem addKey_nodup {key : TopologyVertexKey} (distinct : keys.Nodup) :
    (addKey keys key).Nodup := by
  unfold addKey
  split
  · exact distinct
  next absent =>
  rw [nodup_append]
  refine ⟨distinct, by simp, ?_⟩
  rintro a mem b last rfl
  exact absent (mem_singleton.mp last ▸ mem)

/-- Every header is read, and the keys are those of the advertisements. -/
theorem collectKeys_spec (h : collectKeys version records keys = some found)
    (distinct : keys.Nodup) :
    found.Nodup ∧ ∀ key, key ∈ found ↔ key ∈ keys ∨ ∃ record ∈ records, ∃ header,
      lsaHeader record.bytes version = some header ∧ vertexKey version header = some key := by
  induction records generalizing keys with
  | nil =>
    obtain rfl : keys = found := by simpa [collectKeys] using h
    exact ⟨distinct, by simp⟩
  | cons record rest ih =>
    rw [collectKeys] at h
    cases read : lsaHeader record.bytes version with
    | none => simp [read] at h
    | some header =>
      simp only [read] at h
      have step : ((vertexKey version header).elim keys (addKey keys)).Nodup ∧
          ∀ key, key ∈ (vertexKey version header).elim keys (addKey keys) ↔
            key ∈ keys ∨ vertexKey version header = some key := by
        cases vertexKey version header with
        | none => exact ⟨distinct, by simp⟩
        | some own =>
          refine ⟨addKey_nodup distinct, fun key => ?_⟩
          simp [mem_addKey, eq_comm]
      obtain ⟨nodup, members⟩ := ih h step.1
      refine ⟨nodup, fun key => ?_⟩
      rw [members, step.2, or_assoc]
      simp [read]

end Keys

section Pending

variable {maximumEdges : Nat} {pending after : PendingArcs}

theorem append_edges {edge : TemporaryEdge} (h : append maximumEdges pending edge = some after)
    (fits : pending.edges.length ≤ maximumEdges) :
    after.edges = pending.edges ++ [edge] ∧ after.edges.length ≤ maximumEdges := by
  unfold append at h
  have edges : pending.edges.length ≠ maximumEdges ∧ after.edges = pending.edges ++ [edge] := by
    split at h
    · cases h
    next room =>
    refine ⟨room, ?_⟩
    split at h
    · cases h
      rfl
    · split at h
      · cases h
        rfl
      · split at h <;> cases h
        rfl
  refine ⟨edges.2, ?_⟩
  rw [edges.2, length_append, length_singleton]
  omega

theorem appendAll_edges {edges : List TemporaryEdge}
    (h : appendAll maximumEdges edges pending = some after)
    (fits : pending.edges.length ≤ maximumEdges) :
    after.edges = pending.edges ++ edges ∧ after.edges.length ≤ maximumEdges := by
  induction edges generalizing pending with
  | nil =>
    obtain rfl : pending = after := by simpa [appendAll] using h
    exact ⟨by simp, fits⟩
  | cons edge rest ih =>
    rw [appendAll, Option.bind_eq_some_iff] at h
    obtain ⟨next, appended, h⟩ := h
    obtain ⟨one, room⟩ := append_edges appended fits
    obtain ⟨others, fits⟩ := ih h room
    exact ⟨by rw [others, one]; simp, fits⟩

/-- Nothing is dropped: each record is well formed and its arcs are pending. -/
theorem appendArcs_edges {arcs : LsaRecord → Option (List TemporaryEdge)}
    {records : List LsaRecord} (h : appendArcs maximumEdges arcs records pending = some after)
    (fits : pending.edges.length ≤ maximumEdges) :
    after.edges.length ≤ maximumEdges ∧ (∀ record ∈ records, (arcs record).isSome) ∧
      ∀ edge, edge ∈ after.edges ↔ edge ∈ pending.edges ∨
        ∃ record ∈ records, ∃ edges, arcs record = some edges ∧ edge ∈ edges := by
  induction records generalizing pending with
  | nil =>
    obtain rfl : pending = after := by simpa [appendArcs] using h
    exact ⟨fits, by simp, by simp⟩
  | cons record rest ih =>
    simp only [appendArcs, Option.bind_eq_some_iff] at h
    obtain ⟨own, read, next, appended, h⟩ := h
    obtain ⟨edges, room⟩ := appendAll_edges appended fits
    obtain ⟨fits, formed, members⟩ := ih h room
    refine ⟨fits, forall_mem_cons.mpr ⟨by simp [read], formed⟩, fun edge => ?_⟩
    rw [members, edges, mem_append, or_assoc]
    simp [read]

theorem append_hops {edge : TemporaryEdge} (h : append maximumEdges pending edge = some after)
    (fits : pending.hops.length ≤ maximumEcmpPaths.toNat) :
    after.hops.length ≤ maximumEcmpPaths.toNat := by
  unfold append at h
  split at h
  · cases h
  split at h
  · cases h
    exact fits
  · split at h
    · cases h
      exact fits
    · split at h
      · cases h
      · next room =>
        cases h
        rw [length_append, length_singleton]
        omega

theorem appendAll_hops {edges : List TemporaryEdge}
    (h : appendAll maximumEdges edges pending = some after)
    (fits : pending.hops.length ≤ maximumEcmpPaths.toNat) :
    after.hops.length ≤ maximumEcmpPaths.toNat := by
  induction edges generalizing pending with
  | nil =>
    obtain rfl : pending = after := by simpa [appendAll] using h
    exact fits
  | cons edge rest ih =>
    obtain ⟨next, appended, h⟩ := Option.bind_eq_some_iff.mp h
    exact ih h (append_hops appended fits)

theorem appendArcs_hops {arcs : LsaRecord → Option (List TemporaryEdge)}
    {records : List LsaRecord} (h : appendArcs maximumEdges arcs records pending = some after)
    (fits : pending.hops.length ≤ maximumEcmpPaths.toNat) :
    after.hops.length ≤ maximumEcmpPaths.toNat := by
  induction records generalizing pending with
  | nil =>
    obtain rfl : pending = after := by simpa [appendArcs] using h
    exact fits
  | cons record rest ih =>
    obtain ⟨own, -, h⟩ := Option.bind_eq_some_iff.mp h
    obtain ⟨next, appended, h⟩ := Option.bind_eq_some_iff.mp h
    exact ih h (appendAll_hops appended fits)

end Pending

section Publication

variable {keys rest : List TopologyVertexKey} {hops : List FirstHop}
  {temporary : List TemporaryEdge} {key : TopologyVertexKey} {own edges out : List SpfEdge}
  {vertices : List SpfVertex}

section

variable (h : vertexEdges keys hops key temporary = some own)
include h

theorem vertexEdges_length : own.length ≤ temporary.countP (·.source == key) := by
  induction temporary generalizing own with
  | nil =>
    obtain rfl : [] = own := by simpa [vertexEdges] using h
    simp
  | cons edge rest ih =>
    rw [vertexEdges] at h
    rw [countP_cons]
    split at h
    · exact Nat.le_add_right_of_le (ih h)
    next same =>
    split at h
    · exact Nat.le_add_right_of_le (ih h)
    split at h
    · cases h
    obtain ⟨others, tail, rfl⟩ := Option.map_eq_some_iff.mp h
    have bound := ih tail
    have counted : (edge.source == key) = true := by simpa using same
    simp only [length_cons, counted, if_true]
    omega

/-- What is published for a pending edge to a vertex that is there. -/
def PublishesAs (keys : List TopologyVertexKey) (hops : List FirstHop) (edge : TemporaryEdge)
    (e : SpfEdge) : Prop :=
  keys[lowerBound keyLess keys edge.target]? = some edge.target ∧
    BitVec.ofNat 32 (lowerBound keyLess keys edge.target) = e.targetVertex ∧
      edge.cost = e.cost ∧ hopToken hops edge.firstHop = some e.firstHop

/-- What is published for a vertex: its pending edges to vertices that are there. -/
theorem mem_vertexEdges {e : SpfEdge} :
    e ∈ own ↔ ∃ edge ∈ temporary, edge.source = key ∧ PublishesAs keys hops edge e := by
  induction temporary generalizing own with
  | nil =>
    obtain rfl : [] = own := by simpa [vertexEdges] using h
    simp
  | cons edge rest ih =>
    rw [vertexEdges] at h
    simp only [mem_cons, or_and_right, exists_or]
    split at h
    · next other =>
      rw [ih h]
      simp [other]
    · next same =>
      split at h
      · next absent =>
        rw [ih h]
        simp [PublishesAs, absent]
      · next present =>
        split at h
        · cases h
        next token numbered =>
        obtain ⟨others, tail, rfl⟩ := Option.map_eq_some_iff.mp h
        rw [mem_cons, ih tail]
        apply or_congr_left
        simp only [PublishesAs]
        obtain ⟨target, cost, hop⟩ := e
        simp only [SpfEdge.mk.injEq]
        grind

/-- No first hop of an edge that is published is missing. -/
theorem vertexEdges_numbered :
    ∀ edge ∈ temporary, edge.source = key →
      keys[lowerBound keyLess keys edge.target]? = some edge.target →
        (hopToken hops edge.firstHop).isSome := by
  induction temporary generalizing own with
  | nil => simp
  | cons edge rest ih =>
    rw [vertexEdges] at h
    rw [forall_mem_cons]
    split at h
    · next other => exact ⟨fun same => absurd same other, ih h⟩
    split at h
    · next absent => exact ⟨fun _ present => absurd present absent, ih h⟩
    split at h
    · cases h
    next token numbered =>
    obtain ⟨others, tail, rfl⟩ := Option.map_eq_some_iff.mp h
    exact ⟨fun _ _ => by simp [numbered], ih tail⟩

end

theorem countP_source_cons (absent : key ∉ rest) (temporary : List TemporaryEdge) :
    temporary.countP (fun edge => (key :: rest).contains edge.source) =
      temporary.countP (·.source == key) +
        temporary.countP (fun edge => rest.contains edge.source) := by
  induction temporary with
  | nil => rfl
  | cons edge others ih =>
    rw [countP_cons, countP_cons, countP_cons, ih]
    by_cases same : edge.source = key
    · simp [same, absent]
      omega
    · simp only [contains_cons, beq_eq_false_iff_ne.mpr same, Bool.false_or]
      simp only [Bool.false_eq_true, if_false]
      omega

variable (h : publishVertices keys hops temporary rest edges = some (vertices, out))
include h

/-- Vertices share out the pending edges, so there are no more published than pending. -/
theorem publishVertices_length (distinct : rest.Nodup) :
    out.length ≤ edges.length + temporary.countP (fun edge => rest.contains edge.source) := by
  induction rest generalizing edges vertices with
  | nil =>
    simp only [publishVertices, Option.some.injEq, Prod.mk.injEq] at h
    simp [← h.2]
  | cons key rest ih =>
    obtain ⟨absent, distinct⟩ := nodup_cons.mp distinct
    rw [publishVertices] at h
    split at h
    · cases h
    next own read =>
    obtain ⟨published, tail, eq⟩ := Option.map_eq_some_iff.mp h
    obtain ⟨rfl, rfl⟩ := eq
    have bound := ih tail distinct
    have mine := vertexEdges_length read
    have shared := countP_source_cons absent temporary
    rw [length_append] at bound
    omega

/-- Each vertex's run of the published edges holds what was published for it. -/
theorem publishVertices_spec (numbered : out.length ≤ 0xffffffff) :
    edges <+: out ∧ ∀ i key, rest[i]? = some key →
      vertexEdges keys hops key temporary = some (edgesFrom vertices out i) := by
  induction rest generalizing edges vertices with
  | nil =>
    obtain ⟨rfl, rfl⟩ := h
    exact ⟨prefix_refl _, by simp⟩
  | cons key rest ih =>
    rw [publishVertices] at h
    split at h
    · cases h
    next own read =>
    obtain ⟨published, tail, eq⟩ := Option.map_eq_some_iff.mp h
    obtain ⟨rfl, rfl⟩ := eq
    obtain ⟨before, others⟩ := ih tail
    obtain ⟨later, split⟩ := before
    refine ⟨⟨own ++ later, by rw [← split]; simp⟩, fun i other at_i => ?_⟩
    cases i with
    | zero =>
      obtain rfl : key = other := by simpa using at_i
      have total : edges.length + own.length ≤ 0xffffffff := by
        have length := congrArg List.length split
        simp only [length_append] at length
        omega
      have start : (BitVec.ofNat 32 edges.length).toNat = edges.length := by
        rw [BitVec.toNat_ofNat]
        omega
      have count : (BitVec.ofNat 32 ((edges ++ own).length - edges.length)).toNat = own.length := by
        rw [BitVec.toNat_ofNat, length_append]
        omega
      simp only [edgesFrom, List.getElem?_cons_zero, outgoing, start, count]
      rw [read, ← split]
      simp
    | succ i =>
      rw [others i other (by simpa using at_i)]
      simp [edgesFrom]

theorem publishVertices_reads (mem : key ∈ rest) :
    ∃ own, vertexEdges keys hops key temporary = some own := by
  induction rest generalizing edges vertices with
  | nil => cases mem
  | cons first rest ih =>
    rw [publishVertices] at h
    split at h
    · cases h
    next own read =>
    obtain ⟨⟨others, out⟩, tail, eq⟩ := Option.map_eq_some_iff.mp h
    cases eq
    cases mem with
    | head => exact ⟨own, read⟩
    | tail _ mem => exact ih tail mem

end Publication

section Graph

/-- The graph has an arc from one vertex to another, with this cost. -/
def Arc (graph : TopologyGraphView) (u v : TopologyVertexKey) (cost : BitVec 32) : Prop :=
  ∃ i, graph.keys[i]? = some u ∧ ∃ edge ∈ edgesFrom graph.vertices graph.edges i,
    graph.keys[edge.targetVertex.toNat]? = some v ∧ edge.cost = cost

variable {sorter : (α : Type) → Sorting.Sorter α} {keys : List TopologyVertexKey}
  {pending : PendingArcs} {root : BitVec 32} {graph : TopologyGraphView}

variable (h : publish sorter keys pending root = some graph)
include h

theorem publish_keys :
    graph.keys = keys ∧ graph.firstHops = (sorter _).sort hopLess pending.hops := by
  unfold publish at h
  split at h
  · cases h
  · obtain ⟨⟨vertices, edges⟩, -, rfl⟩ := Option.map_eq_some_iff.mp h
    exact ⟨rfl, rfl⟩

variable (strict : keys.Pairwise fun a b => keyLess a b = true)
include strict

/-- The published edges between two vertices, each with the token of its first hop. -/
theorem publish_edges (distinct : keys.Nodup) (numbered : keys.length ≤ 0xffffffff)
    (room : pending.edges.length ≤ 0xffffffff) {u v : TopologyVertexKey} {cost : BitVec 32}
    {token : BitVec 16} :
    (∃ i, graph.keys[i]? = some u ∧ ∃ edge ∈ edgesFrom graph.vertices graph.edges i,
      graph.keys[edge.targetVertex.toNat]? = some v ∧ edge.cost = cost ∧ edge.firstHop = token) ↔
      u ∈ keys ∧ v ∈ keys ∧ ∃ edge ∈ pending.edges, edge.source = u ∧ edge.target = v ∧
        edge.cost = cost ∧ hopToken graph.firstHops edge.firstHop = some token := by
  unfold publish at h
  split at h
  · cases h
  obtain ⟨⟨vertices, edges⟩, published, rfl⟩ := Option.map_eq_some_iff.mp h
  have perm := (sorter TemporaryEdge).perm edgeLess pending.edges
  have short : edges.length ≤ 0xffffffff := by
    have bound := publishVertices_length published distinct
    have counted := ((sorter TemporaryEdge).sort edgeLess pending.edges).countP_le_length
      (p := fun edge => keys.contains edge.source)
    rw [perm.length_eq] at counted
    simp only [length_nil, Nat.zero_add] at bound
    exact Nat.le_trans bound (Nat.le_trans counted room)
  have own := (publishVertices_spec published short).2
  have find : ∀ i, keys[i]? = some v → lowerBound keyLess keys v = i :=
    fun i at_i => lowerBound_eq strict keyLess_weak at_i
  have small : ∀ {i} {key : TopologyVertexKey}, keys[i]? = some key →
      (BitVec.ofNat 32 i).toNat = i := by
    intro i key at_i
    have inside := (List.getElem?_eq_some_iff.mp at_i).1
    rw [BitVec.toNat_ofNat]
    omega
  constructor
  · rintro ⟨i, at_i, edge, mem, target, rfl, rfl⟩
    obtain ⟨temporary, pends, source, there, number, cost, token⟩ :=
      (mem_vertexEdges (own i u at_i)).mp mem
    rw [← number] at target
    have reached : temporary.target = v := by
      rw [small there, there] at target
      exact Option.some.inj target
    exact ⟨mem_of_getElem? at_i, mem_of_getElem? target, temporary,
      perm.mem_iff.mp pends, source, reached, cost, token⟩
  · rintro ⟨memU, memV, temporary, pends, source, rfl, cost, numbered⟩
    obtain ⟨i, at_i⟩ := mem_iff_getElem?.mp memU
    obtain ⟨j, at_j⟩ := mem_iff_getElem?.mp memV
    have there : keys[lowerBound keyLess keys temporary.target]? = some temporary.target := by
      rw [find j at_j]
      exact at_j
    let edge : SpfEdge :=
      { targetVertex := BitVec.ofNat 32 (lowerBound keyLess keys temporary.target)
        cost := temporary.cost, firstHop := token }
    refine ⟨i, at_i, edge, (mem_vertexEdges (own i u at_i)).mpr ⟨temporary,
      perm.mem_iff.mpr pends, source, there, rfl, rfl, numbered⟩, ?_, cost, rfl⟩
    simp only [edge, small there]
    exact there

/-- Every pending edge between vertices that are there has a token. -/
theorem publish_numbered {edge : TemporaryEdge} (pends : edge ∈ pending.edges)
    (source : edge.source ∈ keys) (target : edge.target ∈ keys) :
    (hopToken graph.firstHops edge.firstHop).isSome := by
  unfold publish at h
  split at h
  · cases h
  obtain ⟨⟨vertices, edges⟩, published, rfl⟩ := Option.map_eq_some_iff.mp h
  obtain ⟨j, at_j⟩ := mem_iff_getElem?.mp target
  have there : keys[lowerBound keyLess keys edge.target]? = some edge.target := by
    rw [lowerBound_eq strict keyLess_weak at_j]
    exact at_j
  obtain ⟨own, read⟩ := publishVertices_reads published source
  exact vertexEdges_numbered read edge
    (((sorter TemporaryEdge).perm edgeLess pending.edges).mem_iff.mpr pends) rfl there

theorem publish_arcs (distinct : keys.Nodup) (numbered : keys.length ≤ 0xffffffff)
    (room : pending.edges.length ≤ 0xffffffff) {u v : TopologyVertexKey} {cost : BitVec 32} :
    Arc graph u v cost ↔ u ∈ keys ∧ v ∈ keys ∧ ∃ edge ∈ pending.edges,
      edge.source = u ∧ edge.target = v ∧ edge.cost = cost := by
  constructor
  · rintro ⟨i, at_i, edge, mem, target, same⟩
    obtain ⟨memU, memV, temporary, pends, source, reached, cost, -⟩ :=
      (publish_edges h strict distinct numbered room).mp ⟨i, at_i, edge, mem, target, same, rfl⟩
    exact ⟨memU, memV, temporary, pends, source, reached, cost⟩
  · rintro ⟨memU, memV, temporary, pends, rfl, rfl, cost⟩
    obtain ⟨token, known⟩ := Option.isSome_iff_exists.mp (publish_numbered h strict pends memU memV)
    obtain ⟨i, at_i, edge, mem, target, same, -⟩ :=
      (publish_edges h strict distinct numbered room).mpr
        ⟨memU, memV, temporary, pends, rfl, rfl, cost, known⟩
    exact ⟨i, at_i, edge, mem, target, same⟩

end Graph

end RouterSim.Ospf
