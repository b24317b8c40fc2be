import RouterSim.Ospf.SpfTree

namespace RouterSim.Ospf

open List Sample

/-- A path of least cost. -/
def ShortestPath (vertices : List SpfVertex) (edges : List SpfEdge) (root v k : Nat)
    (t : Option (BitVec 16)) : Prop :=
  Path vertices edges root v k t ∧ ∀ k' t', Path vertices edges root v k' t' → k ≤ k'

/-- An edge with a token leads on along shortest paths only from a vertex whose
shortest paths either all have a token already or all have none. -/
def TokensApart (vertices : List SpfVertex) (edges : List SpfEdge) (root : Nat) : Prop :=
  ∀ u k e t s, e ∈ edgesFrom vertices edges u → e.token = some t →
    ShortestPath vertices edges root u k none →
    (∃ hop, ShortestPath vertices edges root e.targetVertex.toNat (k + e.cost.toNat) hop) →
    ¬ ShortestPath vertices edges root u k (some s)

variable {k v : Nat} {t : Option (BitVec 16)}

namespace SpfCalculator

variable {vertices : List SpfVertex} {edges : List SpfEdge} {root : Nat} {count : BitVec 16}
  {scratch : List VertexState}

section

variable (h : Relaxed vertices edges root scratch)
include h

theorem Relaxed.shortest (path : ShortestPath vertices edges root v k t) :
    (stateAt scratch v).distance.toNat = k ∧ (stateAt scratch v).distance < lsInfinity := by
  obtain ⟨hle, hinf⟩ := h.le_path path.1
  have reached : (stateAt scratch v).distance < lsInfinity :=
    BitVec.lt_def.mpr (Nat.lt_of_le_of_lt hle hinf)
  obtain ⟨t', found⟩ := h.toSound.path reached
  have := path.2 _ _ found
  exact ⟨by omega, reached⟩

theorem Relaxed.shortest_of_distance
    (path : Path vertices edges root v (stateAt scratch v).distance.toNat t) :
    ShortestPath vertices edges root v (stateAt scratch v).distance.toNat t :=
  ⟨path, fun _ _ other => (h.le_path other).1⟩

/-- The part of a shortest path before its last edge is a shortest path. -/
theorem Relaxed.init_shortest {u : Nat} {e : SpfEdge} (path : Path vertices edges root u k t)
    (he : e ∈ edgesFrom vertices edges u) (hinf : k + e.cost.toNat < lsInfinity.toNat)
    (last : (stateAt scratch e.targetVertex.toNat).distance.toNat = k + e.cost.toNat) :
    (stateAt scratch u).distance.toNat = k := by
  obtain ⟨hle, _⟩ := h.le_path path
  have reached : (stateAt scratch u).distance < lsInfinity := by
    rw [BitVec.lt_def]
    omega
  have covers := h.relaxed u reached e he (by omega)
  omega

/-- The first token of every shortest path is among the hops of its end. -/
theorem Relaxed.contains_of_shortest (ha : Accepted vertices edges root count)
    (apart : TokensApart vertices edges root) {hop : Option (BitVec 16)}
    (path : Path vertices edges root v k hop) (hk : (stateAt scratch v).distance.toNat = k) :
    ∀ t, hop = some t → (stateAt scratch v).firstHops.contains t = true := by
  induction path with
  | start =>
    intro t ht
    cases ht
  | @extend u k hop e path he hinf ih =>
    intro t ht
    have hu := h.init_shortest path he hinf hk
    have reached : (stateAt scratch u).distance < lsInfinity := by
      rw [BitVec.lt_def]
      omega
    have htoken : ∀ s, e.token = some s → s < maximumEcmpPaths := by
      intro s hs
      have := ha.token u e s he hs
      have := ha.few
      bv_omega
    obtain ⟨_, takes⟩ := h.relaxed u reached e he (by omega)
    apply takes (by omega) t
    rw [contains_proposedHops _ e htoken]
    cases hop with
    | some s =>
      left
      exact ih hu t (by simpa using ht)
    | none =>
      right
      refine ⟨?_, by simpa using ht⟩
      -- With hops at `u`, a token would meet both kinds of shortest path.
      rw [← Bool.not_eq_true, FirstHopBits.present_iff]
      rintro ⟨s, _, hs⟩
      have found := h.hop u s reached hs
      have onward : Path vertices edges root e.targetVertex.toNat
          (stateAt scratch e.targetVertex.toNat).distance.toNat (none.or e.token) := by
        rw [hk]
        exact path.extend he hinf
      refine apart u k e t s he (by simpa using ht) ?_ ⟨none.or e.token, ?_⟩ ?_
      · rw [← hu]
        rw [← hu] at path
        exact h.shortest_of_distance path
      · rw [← hk]
        exact h.shortest_of_distance onward
      · rw [← hu]
        exact h.shortest_of_distance found

end

theorem firstHop_iff {c : SpfCalculator} (hr : c.reachable v = true) (t : BitVec 16) :
    (∃ ordinal, c.firstHop v ordinal = some t) ↔
      t < c.publishedFirstHopCount ∧ (stateAt c.published v).firstHops.contains t = true := by
  simp only [firstHop, hr, settled, ↓reduceIte]
  rw [← mem_iff_getElem?, hopTokens, mem_filter, mem_map]
  constructor
  · rintro ⟨⟨i, hi, rfl⟩, ht⟩
    rw [mem_range] at hi
    exact ⟨by bv_omega, ht⟩
  · rintro ⟨hlt, ht⟩
    refine ⟨⟨t.toNat, ?_, by simp⟩, ht⟩
    rw [mem_range]
    exact BitVec.lt_def.mp hlt

/-- Hops come from tokens of the graph, so they are below its count. -/
theorem path_token_lt (ha : Accepted vertices edges root count)
    {hop : Option (BitVec 16)} (path : Path vertices edges root v k hop) :
    ∀ t, hop = some t → t < count := by
  induction path with
  | start =>
    intro t ht
    cases ht
  | @extend u k hop e path he hinf ih =>
    intro t ht
    cases hop with
    | none => exact ha.token u e t he (by simpa using ht)
    | some s => exact ih t (by simpa using ht)

end SpfCalculator

theorem SpfCalculator.firstHop_shortest (heap : CandidateHeap) (c : SpfCalculator)
    {root : BitVec 32} {vertices : List SpfVertex} {edges : List SpfEdge}
    {firstHopCount : BitVec 16}
    (succeeded : (c.calculate heap root vertices edges firstHopCount).2 = true)
    (apart : TokensApart vertices edges root.toNat)
    (hr : (c.calculate heap root vertices edges firstHopCount).1.reachable v = true)
    (t : BitVec 16) :
    (∃ ordinal,
      (c.calculate heap root vertices edges firstHopCount).1.firstHop v ordinal = some t) ↔
    ∃ k, ShortestPath vertices edges root.toNat v k (some t) := by
  rw [SpfCalculator.firstHop_iff hr]
  rcases c.calculate_cases heap root vertices edges firstHopCount with refused |
    ⟨scratch, accepts, relaxed, heq⟩
  · rw [refused] at succeeded
    cases succeeded
  · have ha := SpfCalculator.accepted accepts
    rw [heq] at hr ⊢
    have reached : (SpfCalculator.stateAt scratch v).distance < lsInfinity := by
      simp only [SpfCalculator.reachable, asserted] at hr
      exact hr.2
    constructor
    · rintro ⟨_, ht⟩
      exact ⟨_, relaxed.shortest_of_distance (relaxed.hop v t reached ht)⟩
    · rintro ⟨k, path⟩
      refine ⟨SpfCalculator.path_token_lt ha path.1 t rfl, ?_⟩
      exact relaxed.contains_of_shortest ha apart path.1 (relaxed.shortest path).1 t rfl

theorem SpfCalculator.reachable_iff (heap : CandidateHeap) (c : SpfCalculator) {root : BitVec 32}
    {vertices : List SpfVertex} {edges : List SpfEdge} {firstHopCount : BitVec 16}
    (succeeded : (c.calculate heap root vertices edges firstHopCount).2 = true)
    (hv : v < vertices.length) :
    (c.calculate heap root vertices edges firstHopCount).1.reachable v = true ↔
      ∃ k t, Path vertices edges root.toNat v k t := by
  rcases c.calculate_cases heap root vertices edges firstHopCount with refused |
    ⟨scratch, _, relaxed, heq⟩
  · rw [refused] at succeeded
    cases succeeded
  · rw [heq]
    simp only [SpfCalculator.reachable, hv, decide_true, settled, asserted]
    constructor
    · intro reached
      exact ⟨_, relaxed.toSound.path reached⟩
    · rintro ⟨k, t, path⟩
      have := relaxed.le_path path
      exact BitVec.lt_def.mpr (Nat.lt_of_le_of_lt this.1 this.2)

/-! ## Numbering and order -/

/-- The second graph is the first with its vertices renumbered by `f` and its edges
in some other order. -/
structure Renumbers (f : Nat → Nat) (vertices : List SpfVertex) (edges : List SpfEdge) (root : Nat)
    (vertices' : List SpfVertex) (edges' : List SpfEdge) (root' : Nat) : Prop where
  injective : ∀ a b, f a = f b → a = b
  source : root' = f root
  forward : ∀ u e, e ∈ edgesFrom vertices edges u → ∃ e' ∈ edgesFrom vertices' edges' (f u),
    e'.targetVertex.toNat = f e.targetVertex.toNat ∧ e'.cost = e.cost ∧ e'.firstHop = e.firstHop
  backward : ∀ u e', e' ∈ edgesFrom vertices' edges' (f u) → ∃ e ∈ edgesFrom vertices edges u,
    e'.targetVertex.toNat = f e.targetVertex.toNat ∧ e'.cost = e.cost ∧ e'.firstHop = e.firstHop

namespace Renumbers

variable {f : Nat → Nat} {vertices vertices' : List SpfVertex} {edges edges' : List SpfEdge}
  {root root' : Nat}

variable (h : Renumbers f vertices edges root vertices' edges' root')
include h

theorem path (path : Path vertices edges root v k t) : Path vertices' edges' root' (f v) k t := by
  induction path with
  | start =>
    rw [← h.source]
    exact .start
  | @extend u k t e _ he hinf ih =>
    obtain ⟨e', he', htarget, hcost, hhop⟩ := h.forward u e he
    have htoken : e'.token = e.token := by rw [SpfEdge.token, SpfEdge.token, hhop]
    rw [← hcost] at hinf ⊢
    rw [← htarget, ← htoken]
    exact ih.extend he' hinf

theorem path_back {v' : Nat} (path : Path vertices' edges' root' v' k t) :
    ∃ v, v' = f v ∧ Path vertices edges root v k t := by
  induction path with
  | start => exact ⟨root, h.source, .start⟩
  | @extend u' k t e' _ he' hinf ih =>
    obtain ⟨u, rfl, path⟩ := ih
    obtain ⟨e, he, htarget, hcost, hhop⟩ := h.backward u e' he'
    have htoken : e'.token = e.token := by rw [SpfEdge.token, SpfEdge.token, hhop]
    rw [hcost] at hinf ⊢
    rw [htoken]
    exact ⟨_, htarget, path.extend he hinf⟩

theorem path_iff (v k : Nat) (t : Option (BitVec 16)) :
    Path vertices' edges' root' (f v) k t ↔ Path vertices edges root v k t := by
  constructor
  · intro path
    obtain ⟨u, heq, path⟩ := h.path_back path
    rw [h.injective _ _ heq]
    exact path
  · exact h.path

theorem shortestPath_iff (v k : Nat) (t : Option (BitVec 16)) :
    ShortestPath vertices' edges' root' (f v) k t ↔ ShortestPath vertices edges root v k t := by
  simp [ShortestPath, h.path_iff]

theorem tokensApart (apart : TokensApart vertices edges root) :
    TokensApart vertices' edges' root' := by
  intro u' k e' t s he' ht bare onward hop
  obtain ⟨u, rfl, _⟩ := h.path_back bare.1
  obtain ⟨e, he, htarget, hcost, hhop⟩ := h.backward u e' he'
  have htoken : e'.token = e.token := by rw [SpfEdge.token, SpfEdge.token, hhop]
  simp only [htarget, hcost, h.shortestPath_iff] at bare onward hop
  exact apart u k e t s he (htoken ▸ ht) bare onward hop

end Renumbers

/-- After a calculation that succeeds on a graph that keeps tokens apart, the
published first hops of every reachable vertex are the first tokens of its shortest
paths, and so they are whatever the numbering of the vertices and the order of the
edges. -/
theorem first_hops_exact (heap : CandidateHeap) (c : SpfCalculator) (root : BitVec 32)
    (vertices : List SpfVertex) (edges : List SpfEdge) (firstHopCount : BitVec 16)
    (succeeded : (c.calculate heap root vertices edges firstHopCount).2 = true)
    (apart : TokensApart vertices edges root.toNat) (v : Nat) (hv : v < vertices.length)
    (hr : (c.calculate heap root vertices edges firstHopCount).1.reachable v = true)
    (t : BitVec 16) :
    ((∃ ordinal,
        (c.calculate heap root vertices edges firstHopCount).1.firstHop v ordinal = some t) ↔
      ∃ k, ShortestPath vertices edges root.toNat v k (some t)) ∧
    ∀ (heap' : CandidateHeap) (c' : SpfCalculator) (root' : BitVec 32)
      (vertices' : List SpfVertex) (edges' : List SpfEdge) (firstHopCount' : BitVec 16)
      (f : Nat → Nat), Renumbers f vertices edges root.toNat vertices' edges' root'.toNat →
      f v < vertices'.length → (c'.calculate heap' root' vertices' edges' firstHopCount').2 = true →
      ((∃ ordinal,
          (c.calculate heap root vertices edges firstHopCount).1.firstHop v ordinal = some t) ↔
        ∃ ordinal, (c'.calculate heap' root' vertices' edges' firstHopCount').1.firstHop (f v)
          ordinal = some t) := by
  have here := c.firstHop_shortest heap succeeded apart hr t
  refine ⟨here, ?_⟩
  intro heap' c' root' vertices' edges' firstHopCount' f renumbers hfv succeeded'
  have hr' : (c'.calculate heap' root' vertices' edges' firstHopCount').1.reachable (f v) =
      true := by
    rw [c'.reachable_iff heap' succeeded' hfv]
    obtain ⟨k, hop, path⟩ := (c.reachable_iff heap succeeded hv).mp hr
    exact ⟨k, hop, renumbers.path path⟩
  rw [here, c'.firstHop_shortest heap' succeeded' (renumbers.tokensApart apart) hr' t]
  simp [renumbers.shortestPath_iff]

namespace Sample

/-- A root with a neighbour and a transit network, both of which lead to the network
at the same cost, and a router behind the network. -/
def transitVertices : List SpfVertex := [⟨0#32, 2#32⟩, ⟨2#32, 1#32⟩, ⟨3#32, 1#32⟩, ⟨4#32, 0#32⟩]

def transitEdges : List SpfEdge :=
  [⟨2#32, 10#32, noFirstHop⟩, ⟨1#32, 5#32, 0#16⟩, ⟨2#32, 5#32, noFirstHop⟩, ⟨3#32, 0#32, 1#16⟩]

/-- The same without the neighbour's way to the network. -/
def plainVertices : List SpfVertex := [⟨0#32, 2#32⟩, ⟨2#32, 0#32⟩, ⟨2#32, 1#32⟩, ⟨3#32, 0#32⟩]

def plainEdges : List SpfEdge := [⟨2#32, 10#32, noFirstHop⟩, ⟨1#32, 5#32, 0#16⟩, ⟨3#32, 0#32, 1#16⟩]

theorem plain_paths (path : Path plainVertices plainEdges 0 v k t) :
    (v, k, t) ∈ [(0, 0, none), (1, 5, some 0#16), (2, 10, none), (3, 10, some 1#16)] := by
  induction path with
  | start => simp
  | @extend u k t e _ he hinf ih =>
    simp only [mem_cons, not_mem_nil, settled] at ih
    rcases ih with ⟨rfl, rfl, rfl⟩ | ⟨rfl, rfl, rfl⟩ | ⟨rfl, rfl, rfl⟩ | ⟨rfl, rfl, rfl⟩ <;>
      simp [edgesFrom, outgoing, plainVertices, plainEdges] at he
    · rcases he with rfl | rfl <;> decide
    · subst he
      decide

theorem plain_tokensApart : TokensApart plainVertices plainEdges 0 := by
  intro u k e t s he ht bare _ hop
  have first := plain_paths bare.1
  have second := plain_paths hop.1
  simp at first second
  omega

theorem transit_costs (path : Path transitVertices transitEdges 0 v k t) :
    (v, k) ∈ [(0, 0), (1, 5), (2, 10), (3, 10)] := by
  induction path with
  | start => simp
  | @extend u k t e _ he hinf ih =>
    simp only [mem_cons, not_mem_nil, settled] at ih
    rcases ih with ⟨rfl, rfl⟩ | ⟨rfl, rfl⟩ | ⟨rfl, rfl⟩ | ⟨rfl, rfl⟩ <;>
      simp [edgesFrom, outgoing, transitVertices, transitEdges] at he
    · rcases he with rfl | rfl <;> simp
    · subst he
      simp
    · subst he
      simp

theorem transit_over_network : ShortestPath transitVertices transitEdges 0 3 10 (some 1#16) := by
  have network : Path transitVertices transitEdges 0 2 10 none :=
    Path.extend (e := ⟨2#32, 10#32, noFirstHop⟩) .start (by decide) (by decide)
  refine ⟨network.extend (e := ⟨3#32, 0#32, 1#16⟩) (by decide) (by decide), fun k t path => ?_⟩
  have := transit_costs path
  simp at this
  omega

end Sample

theorem first_hops_exact_plain :
    (∃ ordinal, ((SpfCalculator.create 4 8).calculate .nearest 0#32 plainVertices
      plainEdges 2#16).1.firstHop 3 ordinal = some 1#16) ∧
    ∃ k, ShortestPath plainVertices plainEdges 0 3 k (some 1#16) := by
  have published : ∃ ordinal, ((SpfCalculator.create 4 8).calculate .nearest 0#32
      plainVertices plainEdges 2#16).1.firstHop 3 ordinal = some 1#16 :=
    ⟨0, by decide +kernel⟩
  have exact := (first_hops_exact .nearest (SpfCalculator.create 4 8) 0#32 plainVertices
    plainEdges 2#16 (by decide +kernel) plain_tokensApart 3 (by decide)
    (by decide +kernel) 1#16).1
  exact ⟨published, exact.mp published⟩

/-- The network is reached with a token at the same cost, so the token behind it is
dropped although the way over the network alone is as short. -/
theorem token_behind_network_dropped :
    ((SpfCalculator.create 4 8).calculate .nearest 0#32 transitVertices
      transitEdges 2#16).2 = true ∧
    ((SpfCalculator.create 4 8).calculate .nearest 0#32 transitVertices
      transitEdges 2#16).1.firstHop 3 0 = some 0#16 ∧
    ((SpfCalculator.create 4 8).calculate .nearest 0#32 transitVertices
      transitEdges 2#16).1.firstHop 3 1 = none ∧
    ShortestPath transitVertices transitEdges 0 3 10 (some 1#16) := by
  refine ⟨by decide +kernel, by decide +kernel, by decide +kernel, transit_over_network⟩

end RouterSim.Ospf
