import RouterSim.Lib.Bitmap
import RouterSim.Ospf.Spf

namespace RouterSim.Ospf

open List

/-! ## Sets of first hops -/

namespace FirstHopBits

theorem contains_eq (hops : FirstHopBits) (t : BitVec 16) :
    hops.contains t = (hops.word (t.toNat / 64)).getLsbD (t.toNat % 64) :=
  Bitmap.and_bit_ne_zero _ (by omega)

theorem word_empty (i : Nat) : empty.word i = 0#64 := by
  unfold word empty
  by_cases h : i < 2
  · simp [h]
  · simp [h]

@[simp] theorem contains_empty (t : BitVec 16) : empty.contains t = false := by
  simp [contains_eq, word_empty]

theorem word_merge (a b : FirstHopBits) (i : Nat) : (a.merge b).word i = a.word i ||| b.word i := by
  unfold word merge
  by_cases h : i < 2
  · simp [h]
  · simp [h]

@[simp] theorem contains_merge (a b : FirstHopBits) (t : BitVec 16) :
    (a.merge b).contains t = (a.contains t || b.contains t) := by
  simp [contains_eq, word_merge]

variable {t : BitVec 16}

theorem word_add (hops : FirstHopBits) (ht : t < maximumEcmpPaths) (i : Nat) :
    (hops.add t).word i =
      if i = (t.toNat / 64) then hops.word i ||| (1#64 <<< (t.toNat % 64))
      else hops.word i := by
  have hlt : (t.toNat / 64) < 2 := by bv_omega
  unfold add word
  by_cases h : i = (t.toNat / 64)
  · subst h
    simp [hlt]
  · rw [if_neg h, Vector.getElem?_setIfInBounds_ne (Ne.symm h)]

theorem contains_add (hops : FirstHopBits) (ht : t < maximumEcmpPaths)
    (s : BitVec 16) : (hops.add t).contains s = (s == t || hops.contains s) := by
  have hbit : (t.toNat % 64) < 64 := by bv_omega
  rw [contains_eq, contains_eq, word_add hops ht]
  by_cases hword : (s.toNat / 64) = (t.toNat / 64)
  · rw [if_pos hword, BitVec.getLsbD_or, ← BitVec.twoPow_eq, BitVec.getLsbD_twoPow, Bool.or_comm]
    congr 1
    by_cases hs : s = t
    · simp [hs, hbit]
    · have hne : (t.toNat % 64) ≠ (s.toNat % 64) := by
        intro hmod
        apply hs
        bv_omega
      simp [hs, hne]
  · have hs : s ≠ t := fun h => hword (by rw [h])
    simp [hword, hs]

theorem present_iff (hops : FirstHopBits) :
    hops.present = true ↔ ∃ t, t < maximumEcmpPaths ∧ hops.contains t = true := by
  constructor
  · intro h
    simp only [present, Vector.any_eq_true, asserted] at h
    obtain ⟨i, hi, hne⟩ := h
    obtain ⟨k, hk⟩ : ∃ k, hops[i].getLsbD k = true := by
      apply Classical.byContradiction
      intro none
      apply hne
      apply BitVec.eq_of_getLsbD_eq
      intro k _
      have := fun h => none ⟨k, h⟩
      simpa using this
    have hk64 : k < 64 := BitVec.lt_of_getLsbD hk
    refine ⟨BitVec.ofNat 16 (i * 64 + k), by bv_omega, ?_⟩
    have hword : (BitVec.ofNat 16 (i * 64 + k)).toNat / 64 = i := by bv_omega
    have hbit : (BitVec.ofNat 16 (i * 64 + k)).toNat % 64 = k := by bv_omega
    rw [contains_eq, hword, hbit, word, Vector.getElem?_eq_getElem hi]
    exact hk
  · rintro ⟨t, _, ht⟩
    rw [contains_eq, word] at ht
    have hlt : (t.toNat / 64) < 2 := by
      apply Classical.byContradiction
      intro outside
      rw [Vector.getElem?_eq_none (by omega)] at ht
      simp at ht
    rw [Vector.getElem?_eq_getElem hlt] at ht
    simp only [present, Vector.any_eq_true, asserted]
    refine ⟨_, hlt, fun hz => ?_⟩
    rw [hz] at ht
    simp at ht

theorem contains_small {hops : FirstHopBits} (h : hops.contains t = true) :
    t < maximumEcmpPaths := by
  rw [contains_eq, word] at h
  apply Classical.byContradiction
  intro outside
  rw [Vector.getElem?_eq_none (by bv_omega)] at h
  simp at h

theorem ext_contains {a b : FirstHopBits} (h : ∀ t, a.contains t = b.contains t) : a = b := by
  apply Vector.ext
  intro i hi
  apply BitVec.eq_of_getLsbD_eq
  intro k hk
  have hword : (BitVec.ofNat 16 (i * 64 + k)).toNat / 64 = i := by bv_omega
  have hbit : (BitVec.ofNat 16 (i * 64 + k)).toNat % 64 = k := by bv_omega
  have := h (BitVec.ofNat 16 (i * 64 + k))
  rw [contains_eq, contains_eq, hword, hbit, word, word, Vector.getElem?_eq_getElem hi,
    Vector.getElem?_eq_getElem hi] at this
  exact this

/-- How many hops there are. -/
def count (hops : FirstHopBits) : Nat :=
  (List.range 128).countP fun i => hops.contains (BitVec.ofNat 16 i)

theorem count_le (hops : FirstHopBits) : hops.count ≤ 128 := by
  have := countP_le_length (p := fun i => hops.contains (BitVec.ofNat 16 i)) (l := List.range 128)
  simpa [count] using this

/-- Merging in a hop that was missing makes the set larger. -/
theorem count_merge {a b : FirstHopBits} (h : a.merge b ≠ a) : a.count < (a.merge b).count := by
  obtain ⟨t, ht⟩ : ∃ t, (a.merge b).contains t ≠ a.contains t := by
    apply Classical.byContradiction
    intro none
    apply h
    apply ext_contains
    intro t
    apply Classical.byContradiction
    intro hne
    exact none ⟨t, hne⟩
  have missing : a.contains t = false ∧ (a.merge b).contains t = true := by
    cases ha : a.contains t <;> cases hb : b.contains t <;> simp [ha, hb] at ht ⊢
  have hsmall := contains_small missing.2
  have split : List.range 128 =
      List.range t.toNat ++ t.toNat :: List.range' (t.toNat + 1) (127 - t.toNat) := by
    have joined := List.range'_append_1 (s := 0) (m := t.toNat) (n := 127 - t.toNat + 1)
    rw [Nat.zero_add, show t.toNat + (127 - t.toNat + 1) = 128 by bv_omega] at joined
    rw [range_eq_range', range_eq_range', ← List.range'_succ, joined]
  have grows : ∀ l : List Nat, l.countP (fun i => a.contains (BitVec.ofNat 16 i)) ≤
      l.countP (fun i => (a.merge b).contains (BitVec.ofNat 16 i)) := by
    intro l
    apply countP_mono_left
    intro i _ hi
    rw [contains_merge, hi]
    rfl
  have back : BitVec.ofNat 16 t.toNat = t := by simp
  simp only [count, split, countP_append, countP_cons, back, missing.1, missing.2]
  have left := grows (List.range t.toNat)
  have right := grows (List.range' (t.toNat + 1) (127 - t.toNat))
  simp only [settled, ↓reduceIte]
  omega

end FirstHopBits

/-! ## Paths -/

/-- The forwarding token of an edge, if it has one. -/
def SpfEdge.token (edge : SpfEdge) : Option (BitVec 16) :=
  if edge.firstHop == noFirstHop then none else some edge.firstHop

/-- The directed paths from the root whose running cost stays below infinity, with
the end, the cost and the first token met on the way. -/
inductive Path (vertices : List SpfVertex) (edges : List SpfEdge) (root : Nat) :
    Nat → Nat → Option (BitVec 16) → Prop where
  | start : Path vertices edges root root 0 none
  | extend {u k : Nat} {t : Option (BitVec 16)} {e : SpfEdge} :
    Path vertices edges root u k t → e ∈ edgesFrom vertices edges u →
    k + e.cost.toNat < lsInfinity.toNat →
    Path vertices edges root e.targetVertex.toNat (k + e.cost.toNat) (t.or e.token)

/-- What the validation establishes. -/
structure Accepted (vertices : List SpfVertex) (edges : List SpfEdge) (root : Nat)
    (count : BitVec 16) : Prop where
  inside : root < vertices.length
  few : count ≤ maximumEcmpPaths
  target : ∀ u e, e ∈ edgesFrom vertices edges u → e.targetVertex.toNat < vertices.length
  cost : ∀ u e, e ∈ edgesFrom vertices edges u → e.cost < lsInfinity
  token : ∀ u e t, e ∈ edgesFrom vertices edges u → e.token = some t → t < count

theorem SpfCalculator.accepted {c : SpfCalculator} {root : BitVec 32} {vertices : List SpfVertex}
    {edges : List SpfEdge} {count : BitVec 16} (h : c.accepts root vertices edges count = true) :
    Accepted vertices edges root.toNat count := by
  simp only [SpfCalculator.accepts, Bool.and_eq_true, decide_eq_true_eq, all_eq_true] at h
  obtain ⟨⟨⟨⟨⟨_, _⟩, hroot⟩, _⟩, hcount⟩, hvertices⟩ := h
  have edge : ∀ u e, e ∈ edgesFrom vertices edges u →
      (e.targetVertex.toNat < vertices.length ∧ e.cost < lsInfinity) ∧
        (e.firstHop == noFirstHop || decide (e.firstHop < count)) = true := by
    intro u e he
    unfold edgesFrom at he
    split at he
    · rename_i vertex hvertex
      exact (hvertices vertex (mem_of_getElem? hvertex)).2 e he
    · simp at he
  refine ⟨hroot, hcount, fun u e he => (edge u e he).1.1, fun u e he => (edge u e he).1.2, ?_⟩
  intro u e t he ht
  have hhop := (edge u e he).2
  unfold SpfEdge.token at ht
  split at ht
  · cases ht
  rename_i some
  simp only [some, settled, asserted] at hhop
  cases ht
  exact hhop

/-! ## The invariant of the search -/

namespace SpfCalculator

/-- The state of a vertex, at infinity when there is none. -/
abbrev stateAt (scratch : List VertexState) (v : Nat) : VertexState := scratch.getD v {}

variable {scratch : List VertexState} {v : Nat} {e : SpfEdge} {new : VertexState}

theorem stateAt_set (h : v < scratch.length) (x : VertexState) (u : Nat) :
    stateAt (scratch.set v x) u = if u = v then x else stateAt scratch u := by
  simp only [getD_eq_getElem?_getD]
  by_cases hu : u = v
  · subst hu
    simp [h]
  · rw [List.getElem?_set_ne (Ne.symm hu), if_neg hu]

/-- Relaxing the edge from a vertex in state `st` would not change the target. -/
def Covers (st : VertexState) (e : SpfEdge) (target : VertexState) : Prop :=
  st.distance.toNat + e.cost.toNat < lsInfinity.toNat →
    target.distance.toNat ≤ st.distance.toNat + e.cost.toNat ∧
    (target.distance.toNat = st.distance.toNat + e.cost.toNat →
      ∀ t, (proposedHops st e).contains t = true → target.firstHops.contains t = true)

/-- A state at least as near, with at least the hops at the same distance. -/
structure Improves (old new : VertexState) : Prop where
  nearer : new.distance.toNat ≤ old.distance.toNat
  hops : new.distance = old.distance →
    ∀ t, old.firstHops.contains t = true → new.firstHops.contains t = true

theorem Covers.improves {st old : VertexState} (h : Covers st e old)
    (hi : Improves old new) : Covers st e new := by
  intro hinf
  obtain ⟨hle, hhops⟩ := h hinf
  have hnear := hi.nearer
  refine ⟨by omega, fun heq t ht => ?_⟩
  have same : new.distance = old.distance := by bv_omega
  exact hi.hops same t (hhops (by rw [← same]; exact heq) t ht)

/-- The candidate is the latest one for its vertex. -/
def Current (c : Candidate) (u : Nat) (st : VertexState) : Prop :=
  c.vertex.toNat = u ∧ c.distance = st.distance ∧ c.revision = st.revision

section Search

variable {vertices : List SpfVertex} {edges : List SpfEdge} {root : Nat} {count : BitVec 16}

/-- What the scratch generation says of the paths found so far. -/
structure Sound (vertices : List SpfVertex) (edges : List SpfEdge) (root : Nat)
    (scratch : List VertexState) : Prop where
  length : scratch.length = vertices.length
  source : (stateAt scratch root).distance = 0#32
  bounded : ∀ v, (stateAt scratch v).distance.toNat ≤ lsInfinity.toNat
  bare : ∀ v, (stateAt scratch v).distance < lsInfinity →
    (stateAt scratch v).firstHops.present = false →
    Path vertices edges root v (stateAt scratch v).distance.toNat none
  hop : ∀ v t, (stateAt scratch v).distance < lsInfinity →
    (stateAt scratch v).firstHops.contains t = true →
    Path vertices edges root v (stateAt scratch v).distance.toNat (some t)

theorem Sound.path (h : Sound vertices edges root scratch)
    (hv : (stateAt scratch v).distance < lsInfinity) :
    ∃ t, Path vertices edges root v (stateAt scratch v).distance.toNat t := by
  cases hp : (stateAt scratch v).firstHops.present with
  | false => exact ⟨none, h.bare v hv hp⟩
  | true =>
    obtain ⟨t, _, ht⟩ := (FirstHopBits.present_iff _).mp hp
    exact ⟨some t, h.hop v t hv ht⟩

/-! ### One edge -/

theorem contains_proposedHops (st : VertexState) (e : SpfEdge)
    (htoken : ∀ t, e.token = some t → t < maximumEcmpPaths) (t : BitVec 16) :
    (proposedHops st e).contains t = true ↔
      st.firstHops.contains t = true ∨ st.firstHops.present = false ∧ e.token = some t := by
  unfold proposedHops
  unfold SpfEdge.token at htoken ⊢
  by_cases hbare : e.firstHop = noFirstHop
  · simp [hbare]
  · have hlt := htoken e.firstHop (by simp [hbare])
    cases hp : st.firstHops.present with
    | true => simp [hbare]
    | false =>
      simp only [asserted, ne_eq, hbare, settled, ↓reduceIte, Option.some.injEq]
      rw [FirstHopBits.contains_add _ hlt, Bool.or_eq_true, beq_iff_eq, or_comm, eq_comm (a := t)]

theorem proposedHops_absent {st : VertexState}
    (htoken : ∀ t, e.token = some t → t < maximumEcmpPaths)
    (h : (proposedHops st e).present = false) : st.firstHops.present = false ∧ e.token = none := by
  have none : ∀ t, (proposedHops st e).contains t ≠ true := by
    intro t ht
    have := (FirstHopBits.present_iff _).mpr ⟨t, FirstHopBits.contains_small ht, ht⟩
    rw [h] at this
    cases this
  have bare : st.firstHops.present = false := by
    rw [← Bool.not_eq_true, FirstHopBits.present_iff]
    rintro ⟨t, _, ht⟩
    exact none t ((contains_proposedHops st e htoken t).mpr (.inl ht))
  refine ⟨bare, ?_⟩
  cases ht : e.token with
  | none => rfl
  | some t => exact absurd ((contains_proposedHops st e htoken t).mpr (.inr ⟨bare, ht⟩)) (none t)

theorem improve_none {target : VertexState} {d : BitVec 32} {hops : FirstHopBits}
    (h : improve target d hops = none) :
    target.distance.toNat ≤ d.toNat ∧
      (target.distance = d → ∀ t, hops.contains t = true → target.firstHops.contains t = true) := by
  unfold improve at h
  split at h
  · cases h
  split at h
  · cases h
  rename_i hlt hmerge
  refine ⟨by bv_omega, fun heq t ht => ?_⟩
  simp only [heq, beq_self_eq_true, settled, asserted, Decidable.not_not] at hmerge
  rw [← hmerge, FirstHopBits.contains_merge, ht, Bool.or_true]

/-- How far a vertex still is from where it cannot improve any more. -/
def potential (st : VertexState) : Nat := st.distance.toNat * 129 + (128 - st.firstHops.count)

theorem improve_some {target : VertexState} {d : BitVec 32} {hops : FirstHopBits}
    (h : improve target d hops = some new) :
    Improves target new ∧ new.distance = d ∧ potential new < potential target ∧
    (∀ t, hops.contains t = true → new.firstHops.contains t = true) ∧
    (∀ t, new.firstHops.contains t = true →
      hops.contains t = true ∨ d = target.distance ∧ target.firstHops.contains t = true) ∧
    (new.firstHops.present = false →
      hops.present = false ∨ d = target.distance ∧ target.firstHops.present = false) := by
  unfold improve at h
  split at h
  · rename_i hlt
    cases h
    refine ⟨⟨by bv_omega, fun heq => ?_⟩, rfl, ?_, fun t ht => ht, fun t ht => .inl ht,
      fun hp => .inl hp⟩
    · dsimp only at heq
      bv_omega
    · simp [potential]
      bv_omega
  · split at h
    · rename_i hmerge
      simp only [asserted] at hmerge
      cases h
      have hcount := FirstHopBits.count_merge hmerge.2
      have hle := FirstHopBits.count_le (target.firstHops.merge hops)
      refine ⟨⟨Nat.le_refl _, fun _ t ht => ?_⟩, hmerge.1.symm, ?_, fun t ht => ?_, fun t ht => ?_,
        fun hp => ?_⟩
      · simp [ht]
      · simp [potential]
        omega
      · simp [ht]
      · rw [FirstHopBits.contains_merge, Bool.or_eq_true] at ht
        exact ht.symm.imp id fun ht => ⟨hmerge.1, ht⟩
      · refine .inr ⟨hmerge.1, ?_⟩
        rw [← Bool.not_eq_true, FirstHopBits.present_iff] at hp ⊢
        rintro ⟨t, hsmall, ht⟩
        exact hp ⟨t, hsmall, by simp [ht]⟩
    · cases h

variable {limit u : Nat} {w w' : Work}

/-- Relaxing an edge leaves everything as it is because the target is covered, or
improves the target and leaves a candidate for it. -/
theorem relax_cases (hcost : e.cost < lsInfinity)
    (hbound : (stateAt w.scratch u).distance.toNat ≤ lsInfinity.toNat)
    (h : relax limit u w e = some w') :
    w' = w ∧ Covers (stateAt w.scratch u) e (stateAt w.scratch e.targetVertex.toNat) ∨
    ∃ new, (stateAt w.scratch u).distance.toNat + e.cost.toNat < lsInfinity.toNat ∧
      improve (stateAt w.scratch e.targetVertex.toNat)
        ((stateAt w.scratch u).distance + e.cost)
        (proposedHops (stateAt w.scratch u) e) = some new ∧
      w' = { scratch := w.scratch.set e.targetVertex.toNat new
             candidates := w.candidates ++ [⟨new.distance, e.targetVertex, new.revision⟩] } := by
  unfold relax at h
  dsimp only at h
  split at h
  · rename_i far
    cases h
    refine .inl ⟨rfl, fun hinf => ?_⟩
    change lsInfinity - e.cost ≤ (stateAt w.scratch u).distance at far
    bv_omega
  · rename_i near
    have hinf : (stateAt w.scratch u).distance.toNat + e.cost.toNat < lsInfinity.toNat := by
      change ¬ lsInfinity - e.cost ≤ (stateAt w.scratch u).distance at near
      bv_omega
    have hsum : ((stateAt w.scratch u).distance + e.cost).toNat =
        (stateAt w.scratch u).distance.toNat + e.cost.toNat := by bv_omega
    split at h
    · rename_i unimproved
      cases h
      obtain ⟨hle, hhops⟩ := improve_none unimproved
      refine .inl ⟨rfl, fun _ => ⟨by rw [← hsum]; exact hle, fun heq => hhops ?_⟩⟩
      rw [← hsum] at heq
      exact BitVec.eq_of_toNat_eq heq
    · rename_i new improved
      split at h
      · cases h
      · cases h
        exact .inr ⟨new, hinf, improved, rfl⟩

theorem Sound.relax
    (h : Sound vertices edges root w.scratch) (ha : Accepted vertices edges root count)
    (he : e ∈ edgesFrom vertices edges u) (hr : relax limit u w e = some w') :
    Sound vertices edges root w'.scratch := by
  have htoken : ∀ t, e.token = some t → t < maximumEcmpPaths := by
    intro t ht
    have := ha.token u e t he ht
    have := ha.few
    bv_omega
  rcases relax_cases (ha.cost u e he) (h.bounded u) hr with ⟨rfl, _⟩ | ⟨new, hinf, himprove, rfl⟩
  · exact h
  · obtain ⟨improves, hdistance, _, _, hhops, habsent⟩ := improve_some himprove
    have hin : e.targetVertex.toNat < w.scratch.length := by
      rw [h.length]
      exact ha.target u e he
    have hsum : ((stateAt w.scratch u).distance + e.cost).toNat =
        (stateAt w.scratch u).distance.toNat + e.cost.toNat := by bv_omega
    have hreached : (stateAt w.scratch u).distance < lsInfinity := by bv_omega
    have hfinite : (stateAt w.scratch u).distance + e.cost < lsInfinity := by bv_omega
    -- A path to the vertex goes on along the edge.
    have onward : ∀ t t', Path vertices edges root u (stateAt w.scratch u).distance.toNat t →
        t' = t.or e.token → Path vertices edges root e.targetVertex.toNat
          ((stateAt w.scratch u).distance + e.cost).toNat t' := by
      intro t t' path heq
      rw [hsum, heq]
      exact path.extend he hinf
    refine ⟨by simp [h.length], ?_, ?_, ?_, ?_⟩
    · rw [stateAt_set hin]
      split
      · rename_i hroot
        have := improves.nearer
        rw [← hroot, h.source] at this
        bv_omega
      · exact h.source
    · intro v
      rw [stateAt_set hin]
      split
      · rw [hdistance]
        bv_omega
      · exact h.bounded v
    · intro v
      rw [stateAt_set hin]
      split
      · rename_i hv
        subst hv
        intro _ hp
        rw [hdistance]
        rcases habsent hp with bare | ⟨heq, bare⟩
        · obtain ⟨hbare, hnone⟩ := proposedHops_absent htoken bare
          exact onward none none (h.bare u hreached hbare) (by rw [hnone]; rfl)
        · rw [heq] at hfinite ⊢
          exact h.bare _ hfinite bare
      · exact h.bare v
    · intro v t
      rw [stateAt_set hin]
      split
      · rename_i hv
        subst hv
        intro _ ht
        rw [hdistance]
        rcases hhops t ht with hproposed | ⟨heq, hold⟩
        · rcases (contains_proposedHops _ e htoken t).mp hproposed with hold | ⟨hbare, htok⟩
          · exact onward (some t) _ (h.hop u t hreached hold) (by simp)
          · exact onward none _ (h.bare u hreached hbare) (by simp [htok])
        · rw [heq] at hfinite ⊢
          exact h.hop _ t hfinite hold
      · exact h.hop v t

/-- Every vertex reached has all its edges relaxed, but for those skipped, or a
current candidate. -/
def Pending (vertices : List SpfVertex) (edges : List SpfEdge) (w : Work)
    (skip : Nat → SpfEdge → Prop) : Prop :=
  ∀ u, (stateAt w.scratch u).distance < lsInfinity →
    (∀ e ∈ edgesFrom vertices edges u, ¬ skip u e →
      Covers (stateAt w.scratch u) e (stateAt w.scratch e.targetVertex.toNat)) ∨
    ∃ c ∈ w.candidates, Current c u (stateAt w.scratch u)

theorem Pending.relax {rest : List SpfEdge}
    (h : Pending vertices edges w fun v e' => v = u ∧ e' ∈ e :: rest)
    (hs : Sound vertices edges root w.scratch) (ha : Accepted vertices edges root count)
    (he : e ∈ edgesFrom vertices edges u) (hr : SpfCalculator.relax limit u w e = some w') :
    Pending vertices edges w' fun v e' => v = u ∧ e' ∈ rest := by
  rcases relax_cases (ha.cost u e he) (hs.bounded u) hr with
    ⟨rfl, covers⟩ | ⟨new, hinf, himprove, rfl⟩
  · intro v hv
    rcases h v hv with covered | queued
    · left
      intro e' he' hskip
      by_cases hthis : v = u ∧ e' = e
      · obtain ⟨rfl, rfl⟩ := hthis
        exact covers
      · apply covered e' he'
        rintro ⟨hvu, hmem⟩
        rcases mem_cons.mp hmem with heq | hmem
        · exact hthis ⟨hvu, heq⟩
        · exact hskip ⟨hvu, hmem⟩
    · exact .inr queued
  · have improves := (improve_some himprove).1
    have hin : e.targetVertex.toNat < w.scratch.length := by
      rw [hs.length]
      exact ha.target u e he
    intro v hv
    by_cases hv' : v = e.targetVertex.toNat
    · -- The changed vertex has the new candidate.
      right
      refine ⟨_, mem_append_right _ mem_cons_self, ?_⟩
      subst hv'
      simp only [stateAt_set hin]
      exact ⟨rfl, rfl, rfl⟩
    · have hsame : stateAt (w.scratch.set e.targetVertex.toNat new) v = stateAt w.scratch v := by
        rw [stateAt_set hin, if_neg hv']
      simp only [hsame] at hv ⊢
      have improved : ∀ x, Improves (stateAt w.scratch x)
          (stateAt (w.scratch.set e.targetVertex.toNat new) x) := by
        intro x
        rw [stateAt_set hin]
        split
        · rename_i hx
          rw [hx]
          exact improves
        · exact ⟨Nat.le_refl _, fun _ _ ht => ht⟩
      rcases h v hv with covered | ⟨c, hc, current⟩
      · left
        intro e' he' hskip
        by_cases hthis : v = u ∧ e' = e
        · -- The edge just relaxed: the target now stands where it leads.
          obtain ⟨rfl, rfl⟩ := hthis
          intro _
          obtain ⟨_, hdistance, _, takes, _⟩ := improve_some himprove
          have hsum : ((stateAt w.scratch v).distance + e'.cost).toNat =
              (stateAt w.scratch v).distance.toNat + e'.cost.toNat := by bv_omega
          rw [stateAt_set hin, if_pos rfl, hdistance, hsum]
          exact ⟨Nat.le_refl _, fun _ => takes⟩
        · apply (covered e' he' ?_).improves (improved _)
          rintro ⟨hvu, hmem⟩
          rcases mem_cons.mp hmem with heq | hmem
          · exact hthis ⟨hvu, heq⟩
          · exact hskip ⟨hvu, hmem⟩
      · exact .inr ⟨c, mem_append_left _ hc, current⟩

/-! ### The loop -/

/-- What is left to do: the candidates, and how much the vertices can improve. -/
def remaining (w : Work) : Nat := w.candidates.length + (w.scratch.map potential).foldl (· + ·) 0

theorem foldl_add (xs : List Nat) (a : Nat) : xs.foldl (· + ·) a = a + xs.foldl (· + ·) 0 := by
  induction xs generalizing a with
  | nil => rfl
  | cons x xs ih =>
    rw [foldl_cons, foldl_cons, ih, ih (0 + x)]
    omega

theorem total_set {α : Type} {f : α → Nat} {l : List α} {a new : α} (hv : v < l.length)
    (h : f new < f (l.getD v a)) :
    ((l.set v new).map f).foldl (· + ·) 0 < (l.map f).foldl (· + ·) 0 := by
  induction l generalizing v with
  | nil => simp at hv
  | cons first rest ih =>
    cases v with
    | zero =>
      simp only [getD_cons_zero] at h
      simp only [set_cons_zero, map_cons, foldl_cons]
      rw [foldl_add, foldl_add _ (0 + f first)]
      omega
    | succ v =>
      have := ih (by simpa using hv) h
      simp only [set_cons_succ, map_cons, foldl_cons]
      rw [foldl_add, foldl_add (rest.map f)]
      omega

theorem remaining_relax
    (h : Sound vertices edges root w.scratch) (ha : Accepted vertices edges root count)
    (he : e ∈ edgesFrom vertices edges u) (hr : relax limit u w e = some w') :
    remaining w' ≤ remaining w := by
  rcases relax_cases (ha.cost u e he) (h.bounded u) hr with ⟨rfl, _⟩ | ⟨new, _, himprove, rfl⟩
  · exact Nat.le_refl _
  · have hin : e.targetVertex.toNat < w.scratch.length := by
      rw [h.length]
      exact ha.target u e he
    have := total_set hin (improve_some himprove).2.2.1
    simp only [remaining, length_append, length_cons, length_nil]
    omega

theorem relaxAll (ha : Accepted vertices edges root count)
    {todo : List SpfEdge} (htodo : ∀ e ∈ todo, e ∈ edgesFrom vertices edges u)
    (hs : Sound vertices edges root w.scratch)
    (hp : Pending vertices edges w fun v e => v = u ∧ e ∈ todo)
    (hr : todo.foldlM (relax limit u) w = some w') :
    Sound vertices edges root w'.scratch ∧ Pending vertices edges w' (fun _ _ => False) ∧
      remaining w' ≤ remaining w := by
  induction todo generalizing w with
  | nil =>
    simp only [foldlM_nil, Option.pure_def, Option.some.injEq] at hr
    subst hr
    refine ⟨hs, fun v hv => ?_, Nat.le_refl _⟩
    rcases hp v hv with covered | queued
    · exact .inl fun e he _ => covered e he (by simp)
    · exact .inr queued
  | cons e rest ih =>
    simp only [foldlM_cons, Option.bind_eq_bind, Option.bind_eq_some_iff] at hr
    obtain ⟨next, hnext, hrest⟩ := hr
    have he := htodo e mem_cons_self
    obtain ⟨sound, pending, hle⟩ := ih (fun e' he' => htodo e' (mem_cons_of_mem _ he'))
      (hs.relax ha he hnext) (hp.relax hs ha he hnext) hrest
    exact ⟨sound, pending, Nat.le_trans hle (remaining_relax hs ha he hnext)⟩

/-- Dropping a candidate that is not current loses nothing. -/
theorem Pending.drop {c : Candidate} {rest : List Candidate}
    (h : Pending vertices edges w fun _ _ => False) (hperm : (c :: rest).Perm w.candidates)
    (hstale : ¬ Current c c.vertex.toNat (stateAt w.scratch c.vertex.toNat)) :
    Pending vertices edges { w with candidates := rest } fun _ _ => False := by
  intro u hu
  rcases h u hu with covered | ⟨c', hc', current⟩
  · exact .inl covered
  · right
    refine ⟨c', ?_, current⟩
    rcases mem_cons.mp (hperm.mem_iff.mpr hc') with rfl | hmem
    · exact absurd (current.1 ▸ current) hstale
    · exact hmem

/-- A current candidate may go once the edges of its vertex are about to be relaxed. -/
theorem Pending.take {c : Candidate} {rest : List Candidate}
    (h : Pending vertices edges w fun _ _ => False) (hperm : (c :: rest).Perm w.candidates) :
    Pending vertices edges { w with candidates := rest }
      fun v e => v = c.vertex.toNat ∧ e ∈ edgesFrom vertices edges c.vertex.toNat := by
  intro u hu
  by_cases hthis : u = c.vertex.toNat
  · left
    intro e he hskip
    exact absurd ⟨hthis, hthis ▸ he⟩ hskip
  · rcases h u hu with covered | ⟨c', hc', current⟩
    · exact .inl fun e he _ => covered e he (by simp)
    · right
      refine ⟨c', ?_, current⟩
      rcases mem_cons.mp (hperm.mem_iff.mpr hc') with rfl | hmem
      · exact absurd current.1.symm hthis
      · exact hmem

/-- With fuel for what remains, the loop ends, and then every edge is relaxed. -/
theorem search_spec (heap : CandidateHeap) (limit : Nat) (ha : Accepted vertices edges root count)
    {fuel : Nat} (hs : Sound vertices edges root w.scratch)
    (hp : Pending vertices edges w fun _ _ => False) (hfuel : remaining w < fuel) :
    search heap limit vertices edges fuel w = .full ∨
    ∃ scratch, search heap limit vertices edges fuel w = .finished scratch ∧
      Sound vertices edges root scratch ∧
      ∀ u, (stateAt scratch u).distance < lsInfinity → ∀ e ∈ edgesFrom vertices edges u,
        Covers (stateAt scratch u) e (stateAt scratch e.targetVertex.toNat) := by
  induction fuel generalizing w with
  | zero => omega
  | succ fuel ih =>
    unfold search
    by_cases hempty : w.candidates = []
    · rw [hempty, heap.empty]
      refine .inr ⟨w.scratch, rfl, hs, fun u hu e he => ?_⟩
      rcases hp u hu with covered | ⟨c, hc, _⟩
      · exact covered e he (by simp)
      · rw [hempty] at hc
        cases hc
    · obtain ⟨c, rest, hpop, hperm, _⟩ := heap.least w.candidates hempty
      have hlength := hperm.length_eq
      simp only [length_cons] at hlength
      have hless : remaining { w with candidates := rest } < remaining w := by
        simp only [remaining]
        omega
      rw [hpop]
      dsimp only
      split
      · rename_i stale
        have notCurrent : ¬ Current c c.vertex.toNat (stateAt w.scratch c.vertex.toNat) := by
          rintro ⟨_, hdistance, hrevision⟩
          simp [hdistance, hrevision] at stale
        exact ih (w := { w with candidates := rest }) hs (hp.drop hperm notCurrent) (by omega)
      · split
        · exact .inl rfl
        · rename_i next hnext
          obtain ⟨sound, pending, hle⟩ := relaxAll (w := { w with candidates := rest }) ha
            (fun e he => he) hs (hp.take hperm) hnext
          exact ih sound pending (by omega)

end Search

end SpfCalculator

end RouterSim.Ospf
