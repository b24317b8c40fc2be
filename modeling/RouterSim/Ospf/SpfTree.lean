import RouterSim.Ospf.SpfSearch

namespace RouterSim.Ospf

open List

namespace SpfCalculator

variable {vertices : List SpfVertex} {edges : List SpfEdge} {count : BitVec 16}

/-! ## From the initial state -/

theorem initial_stateAt (root : BitVec 32) (hroot : root.toNat < vertices.length) (v : Nat) :
    stateAt (initialWork root vertices).scratch v =
      if v = root.toNat then { distance := 0#32, revision := 1#32 } else {} := by
  unfold initialWork
  rw [stateAt_set (by simpa using hroot)]
  split
  · rfl
  · simp [List.getElem?_replicate]
    split <;> rfl

theorem initial_sound {root : BitVec 32} (ha : Accepted vertices edges root.toNat count) :
    Sound vertices edges root.toNat (initialWork root vertices).scratch := by
  have at' := initial_stateAt root ha.inside
  refine ⟨by simp [initialWork], by rw [at', if_pos rfl], fun v => ?_, fun v => ?_, fun v t => ?_⟩
  · rw [at']
    split <;> decide
  · rw [at']
    split
    · rename_i hv
      intro _ _
      rw [hv]
      exact .start
    · intro hlt
      exact absurd hlt (by decide)
  · rw [at']
    split
    · intro _ ht
      rw [FirstHopBits.contains_empty] at ht
      cases ht
    · intro hlt
      exact absurd hlt (by decide)

theorem initial_pending {root : BitVec 32} (hroot : root.toNat < vertices.length) :
    Pending vertices edges (initialWork root vertices) fun _ _ => False := by
  intro u hu
  rw [initial_stateAt root hroot] at hu ⊢
  split at hu
  · rename_i hu'
    right
    refine ⟨_, mem_cons_self, hu'.symm, ?_, ?_⟩
    · rw [if_pos hu']
    · rw [if_pos hu']
  · exact absurd hu (by decide)

theorem total_le {α : Type} {f : α → Nat} {l : List α} {b : Nat} (h : ∀ a ∈ l, f a ≤ b) :
    (l.map f).foldl (· + ·) 0 ≤ l.length * b := by
  induction l with
  | nil => simp
  | cons a rest ih =>
    have := ih fun other mem => h other (mem_cons_of_mem _ mem)
    have := h a mem_cons_self
    rw [map_cons, foldl_cons, foldl_add, length_cons, Nat.succ_mul]
    omega

theorem initial_remaining {root : BitVec 32} (hroot : root.toNat < vertices.length) :
    remaining (initialWork root vertices) < searchBound vertices := by
  have bounded : ∀ st ∈ (initialWork root vertices).scratch,
      potential st ≤ 0xffffff * 129 + 128 := by
    intro st hst
    obtain ⟨v, hv⟩ := List.getElem?_of_mem hst
    have := initial_stateAt root hroot v
    simp only [getD_eq_getElem?_getD, hv, Option.getD_some] at this
    rw [this]
    split <;> decide
  have := total_le bounded
  have hlength : (initialWork root vertices).scratch.length = vertices.length := by
    simp [initialWork]
  have hone : (initialWork root vertices).candidates.length = 1 := rfl
  simp only [remaining, searchBound]
  omega

/-- A published generation: sound, and with every edge relaxed. -/
structure Relaxed (vertices : List SpfVertex) (edges : List SpfEdge) (root : Nat)
    (scratch : List VertexState) : Prop extends Sound vertices edges root scratch where
  relaxed : ∀ u, (stateAt scratch u).distance < lsInfinity → ∀ e ∈ edgesFrom vertices edges u,
    Covers (stateAt scratch u) e (stateAt scratch e.targetVertex.toNat)

theorem searchFrom_spec (c : SpfCalculator) (heap : CandidateHeap) {root : BitVec 32}
    (ha : Accepted vertices edges root.toNat count) :
    c.searchFrom heap root vertices edges = .full ∨
    ∃ scratch, c.searchFrom heap root vertices edges = .finished scratch ∧
      Relaxed vertices edges root.toNat scratch := by
  rcases search_spec heap c.maximumPendingCandidates ha (initial_sound ha)
    (initial_pending ha.inside) (initial_remaining ha.inside) with full | ⟨scratch, heq, sound, rel⟩
  · exact .inl full
  · exact .inr ⟨scratch, heq, sound, rel⟩

/-- A calculation that succeeds publishes a relaxed generation, and one that fails
publishes nothing. -/
theorem calculate_cases (c : SpfCalculator) (heap : CandidateHeap) (root : BitVec 32)
    (vertices : List SpfVertex) (edges : List SpfEdge) (count : BitVec 16) :
    c.calculate heap root vertices edges count = (c, false) ∨
    ∃ scratch, c.accepts root vertices edges count = true ∧
      Relaxed vertices edges root.toNat scratch ∧
      c.calculate heap root vertices edges count =
        ({ c with
            published := scratch, publishedCount := vertices.length,
            publishedFirstHopCount := count }, true) := by
  unfold calculate
  cases haccepts : c.accepts root vertices edges count with
  | false => exact .inl rfl
  | true =>
    rcases c.searchFrom_spec heap (accepted haccepts) with full | ⟨scratch, heq, relaxed⟩
    · rw [full]
      exact .inl rfl
    · rw [heq]
      exact .inr ⟨scratch, rfl, relaxed, rfl⟩

/-! ## Distances -/

variable {root : Nat} {scratch : List VertexState}

theorem Relaxed.le_path (h : Relaxed vertices edges root scratch) {v k : Nat}
    {t : Option (BitVec 16)} (path : Path vertices edges root v k t) :
    (stateAt scratch v).distance.toNat ≤ k ∧ k < lsInfinity.toNat := by
  induction path with
  | start =>
    rw [h.source]
    decide
  | extend _ he hinf ih =>
    have reached : (stateAt scratch _).distance < lsInfinity :=
      BitVec.lt_def.mpr (Nat.lt_of_le_of_lt ih.1 ih.2)
    have covers := h.relaxed _ reached _ he (by omega)
    exact ⟨by omega, hinf⟩

end SpfCalculator

/-- After a calculation that succeeds, every published cost is the least cost of a
path below infinity, and a vertex without such a path has none; a calculation that
fails leaves what was published; the loop never runs out of rounds. -/
theorem spf_distances_exact (heap : CandidateHeap) (c : SpfCalculator) (root : BitVec 32)
    (vertices : List SpfVertex) (edges : List SpfEdge) (firstHopCount : BitVec 16) :
    ((c.calculate heap root vertices edges firstHopCount).2 = true →
      ∀ v, v < vertices.length →
        (∀ k, (c.calculate heap root vertices edges firstHopCount).1.cost v = some k ↔
          (∃ t, Path vertices edges root.toNat v k.toNat t) ∧
            ∀ k' t, Path vertices edges root.toNat v k' t → k.toNat ≤ k') ∧
        ((c.calculate heap root vertices edges firstHopCount).1.cost v = none ↔
          ∀ k t, ¬ Path vertices edges root.toNat v k t)) ∧
    ((c.calculate heap root vertices edges firstHopCount).2 = false →
      (c.calculate heap root vertices edges firstHopCount).1 = c) ∧
    (c.accepts root vertices edges firstHopCount = true →
      c.searchFrom heap root vertices edges ≠ .outOfFuel) := by
  refine ⟨fun succeeded v hv => ?_, fun failed => ?_, fun accepts => ?_⟩
  · rcases c.calculate_cases heap root vertices edges firstHopCount with refused |
      ⟨scratch, _, relaxed, heq⟩
    · rw [refused] at succeeded
      cases succeeded
    · rw [heq]
      simp only [SpfCalculator.cost, SpfCalculator.reachable, hv, decide_true, settled, asserted]
      by_cases reached : (SpfCalculator.stateAt scratch v).distance < lsInfinity
      · have path := relaxed.toSound.path reached
        simp only [SpfCalculator.stateAt] at reached path
        simp only [reached, ↓reduceIte, Option.some.injEq, reduceCtorEq, false_iff]
        refine ⟨fun k => ⟨?_, ?_⟩, fun none => ?_⟩
        · rintro rfl
          exact ⟨path, fun k' t path' => (relaxed.le_path path').1⟩
        · rintro ⟨⟨t, path'⟩, least⟩
          obtain ⟨t', path⟩ := path
          have lower := (relaxed.le_path path').1
          have upper := least _ _ path
          simp only [SpfCalculator.stateAt] at lower
          exact BitVec.eq_of_toNat_eq (by omega)
        · obtain ⟨t, path⟩ := path
          exact none _ _ path
      · have nowhere : ∀ k t, ¬ Path vertices edges root.toNat v k t := by
          intro k t path
          have := relaxed.le_path path
          exact reached (BitVec.lt_def.mpr (Nat.lt_of_le_of_lt this.1 this.2))
        simp only [reached, ↓reduceIte, reduceCtorEq, false_iff, true_iff]
        refine ⟨fun k h => ?_, nowhere⟩
        obtain ⟨⟨t, path⟩, _⟩ := h
        exact nowhere _ _ path
  · rcases c.calculate_cases heap root vertices edges firstHopCount with refused | ⟨_, _, _, heq⟩
    · rw [refused]
    · rw [heq] at failed
      cases failed
  · rcases c.searchFrom_spec heap (SpfCalculator.accepted accepts) with full | ⟨_, heq, _⟩
    · rw [full]
      simp
    · rw [heq]
      simp

namespace Sample

/-- Two parallel edges to a vertex on a cycle without cost. -/
def cycleVertices : List SpfVertex := [⟨0#32, 2#32⟩, ⟨2#32, 1#32⟩, ⟨3#32, 1#32⟩]

def cycleEdges : List SpfEdge :=
  [⟨1#32, 5#32, noFirstHop⟩, ⟨1#32, 3#32, 0#16⟩, ⟨2#32, 0#32, noFirstHop⟩, ⟨1#32, 0#32, noFirstHop⟩]

end Sample

theorem spf_distances_exact_cycle :
    ((SpfCalculator.create 4 8).calculate .nearest 0#32 Sample.cycleVertices Sample.cycleEdges
      1#16).1.cost 2 = some 3#32 ∧
    ∀ k t, Path Sample.cycleVertices Sample.cycleEdges 0 2 k t → 3 ≤ k := by
  have published : ((SpfCalculator.create 4 8).calculate .nearest 0#32 Sample.cycleVertices
      Sample.cycleEdges 1#16).1.cost 2 = some 3#32 := by decide +kernel
  have exact := (spf_distances_exact .nearest (SpfCalculator.create 4 8) 0#32
    Sample.cycleVertices Sample.cycleEdges 1#16).1 (by decide +kernel) 2 (by decide)
  exact ⟨published, ((exact.1 3#32).mp published).2⟩

end RouterSim.Ospf
