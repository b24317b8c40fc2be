import RouterSim.Ospf.ElectionPass

/-! All the routers of one network electing in rounds. In each round every router elects
on the declarations of the round before and then declares what it got. -/
namespace RouterSim.Ospf

open List

open Election

/-- Routers of one network that all hear each other. -/
structure Network (rs : List ElectionRouter) : Prop where
  distinct : (rs.map fun r => (r.priority, r.routerId)).Nodup
  identities : (rs.map (·.electionIdentity)).Nodup
  nonzero : ∀ r ∈ rs, r.electionIdentity ≠ 0#32
  twoWay : ∀ r ∈ rs, r.twoWayOrGreater = true
  remote : ∀ r ∈ rs, r.isLocal = false

/-- The routers as the one at a place sees them. -/
def view (rs : List ElectionRouter) (i : Nat) : List ElectionRouter :=
  rs.modify i fun r => { r with isLocal := true }

/-- A router that declares an election's result. -/
def ElectionRouter.declare (r : ElectionRouter) (result : DrBdrElection) : ElectionRouter :=
  { r with
    declaredDr := result.designatedRouter, declaredBdr := result.backupDesignatedRouter }

/-- One round in which all read the rows in the same order. -/
def round (rs : List ElectionRouter) : List ElectionRouter :=
  rs.mapIdx fun i r => r.declare (electDrBdr (view rs i))

/-- One round, each router reading the rows in an order of its own. -/
def Round (rs rs' : List ElectionRouter) : Prop :=
  rs'.length = rs.length ∧ ∀ (i : Nat) (r : ElectionRouter), rs[i]? = some r →
    ∃ v : List ElectionRouter, v.Perm (view rs i) ∧ rs'[i]? = some (r.declare (electDrBdr v))

/-! ## What stays from round to round -/

/-- A router without its declarations. -/
def ElectionRouter.silent (r : ElectionRouter) : ElectionRouter :=
  { r with
    declaredDr := 0#32, declaredBdr := 0#32 }

variable {rs rs' : List ElectionRouter}

theorem Round.silent (h : Round rs rs') :
    rs'.map ElectionRouter.silent = rs.map ElectionRouter.silent := by
  apply ext_getElem?
  intro i
  rw [List.getElem?_map, List.getElem?_map]
  cases hr : rs[i]? with
  | none =>
    have : rs'[i]? = none := by
      rw [List.getElem?_eq_none_iff] at hr ⊢
      rw [h.1]
      exact hr
    rw [this]
  | some r =>
    obtain ⟨v, _, hr'⟩ := h.2 i r hr
    rw [hr']
    rfl

theorem map_of_silent {α : Type} (h : rs'.map ElectionRouter.silent = rs.map ElectionRouter.silent)
    (f : ElectionRouter → α) (hf : ∀ r, f r.silent = f r) : rs'.map f = rs.map f := by
  have through : ∀ l : List ElectionRouter, l.map f = (l.map ElectionRouter.silent).map f := by
    intro l
    rw [map_map]
    exact map_congr_left fun r _ => (hf r).symm
  rw [through, through rs, h]

theorem exists_iff_map (q : ElectionRouter → Prop) (l : List ElectionRouter) :
    (∃ r ∈ l, q r) ↔ True ∈ l.map q := by
  rw [mem_map]
  exact exists_congr fun r => and_congr_right fun _ => by rw [eq_iff_iff, iff_true]

variable {q : ElectionRouter → Prop} {o : Option Nat} {r : ElectionRouter} {x : Nat}
   {res : Option Nat × Option Nat} {run : Nat → List ElectionRouter}

theorem exists_of_silent (h : rs'.map ElectionRouter.silent = rs.map ElectionRouter.silent)
    (hq : ∀ r, q r.silent = q r) : (∃ r ∈ rs', q r) ↔ ∃ r ∈ rs, q r := by
  rw [exists_iff_map, exists_iff_map, map_of_silent h q hq]

theorem forall_of_silent (h : rs'.map ElectionRouter.silent = rs.map ElectionRouter.silent)
    (hq : ∀ r, q r.silent = q r) (hrs : ∀ r ∈ rs, q r) : ∀ r ∈ rs', q r := by
  intro r hr
  apply Classical.byContradiction
  intro hn
  obtain ⟨s, hs, hns⟩ := (exists_of_silent (q := fun r => ¬ q r) h
    (fun r => by rw [hq])).mp ⟨r, hr, hn⟩
  exact hns (hrs s hs)

theorem Network.round (hn : Network rs) (h : Round rs rs') : Network rs' := by
  have hs := h.silent
  constructor
  · rw [map_of_silent hs _ fun _ => rfl]
    exact hn.distinct
  · rw [map_of_silent hs _ fun _ => rfl]
    exact hn.identities
  · exact forall_of_silent hs (fun _ => rfl) hn.nonzero
  · exact forall_of_silent hs (fun _ => rfl) hn.twoWay
  · exact forall_of_silent hs (fun _ => rfl) hn.remote

theorem Round.candidate (h : Round rs rs') : Electable rs' = Electable rs := by
  funext x
  exact propext (exists_of_silent (q := fun r => r.priority ≠ 0#8 ∧ r.rank = x) h.silent
    fun _ => rfl)

theorem Round.names (h : Round rs rs') : Names rs' = Names rs := by
  funext o identity
  cases o with
  | none => rfl
  | some x =>
    exact propext (exists_of_silent (q := fun r => r.rank = x ∧ r.electionIdentity = identity)
      h.silent fun _ => rfl)

section

variable (hn : Network rs)
include hn

theorem Network.ranks : (rs.map ElectionRouter.rank).Nodup := by
  have hd := hn.distinct
  rw [List.Nodup, pairwise_map] at hd ⊢
  apply hd.imp
  intro a b hne heq
  obtain ⟨hp, hr⟩ := rank_eq_iff.mp heq
  exact hne (by rw [hp, hr])

theorem Network.names_iff (hr : r ∈ rs) : Names rs o r.electionIdentity ↔ o = some r.rank := by
  cases o with
  | none =>
    constructor
    · intro h
      exact absurd h (hn.nonzero r hr)
    · intro h
      cases h
  | some x =>
    constructor
    · rintro ⟨s, hs, rfl, heq⟩
      obtain ⟨i, hi⟩ := mem_iff_getElem?.mp hs
      obtain ⟨j, hj⟩ := mem_iff_getElem?.mp hr
      have place := place_inj hn.identities hi hj heq
      rw [place, hj] at hi
      rw [Option.some.inj hi]
    · intro h
      cases h
      exact ⟨r, hr, rfl, rfl⟩

theorem Network.names_unique {a b : BitVec 32} (ha : Names rs o a) (hb : Names rs o b) : a = b := by
  cases o with
  | none => exact Eq.trans ha (Eq.symm hb)
  | some x =>
    obtain ⟨s, hs, hx, rfl⟩ := ha
    obtain ⟨t, ht, hy, rfl⟩ := hb
    rw [rank_inj hn.ranks hs ht (hx.trans hy.symm)]

/-! ## What a round gives -/

omit hn in
theorem map_view {α : Type} (f : ElectionRouter → α)
    (hf : ∀ r : ElectionRouter, f { r with isLocal := true } = f r) (i : Nat) :
    (view rs i).map f = rs.map f := by
  apply ext_getElem?
  intro j
  rw [List.getElem?_map, List.getElem?_map, view, List.getElem?_modify]
  cases rs[j]? with
  | none => rfl
  | some r =>
    by_cases hij : i = j
    · simp [hij, hf]
    · simp [hij]

omit hn in
theorem exists_view
    (hq : ∀ r : ElectionRouter, q { r with isLocal := true } = q r) {v : List ElectionRouter}
    {i : Nat} (hv : v.Perm (view rs i)) : (∃ r ∈ v, q r) ↔ ∃ r ∈ rs, q r := by
  rw [exists_iff_map q rs, ← map_view q hq i, ← exists_iff_map]
  exact exists_congr fun r => and_congr_left fun _ => hv.mem_iff

theorem Network.viewed {i : Nat} (hr : rs[i]? = some r) {v : List ElectionRouter}
    (hv : v.Perm (view rs i)) : Viewed v { r with isLocal := true } := by
  have at_place : ∀ s ∈ v, ∃ j t, rs[j]? = some t ∧
      s = if i = j then { t with isLocal := true } else t := by
    intro s hs
    obtain ⟨j, hj⟩ := mem_iff_getElem?.mp (hv.mem_iff.mp hs)
    rw [view, List.getElem?_modify] at hj
    cases ht : rs[j]? with
    | none =>
      rw [ht] at hj
      cases hj
    | some t =>
      rw [ht] at hj
      refine ⟨j, t, ht, ?_⟩
      cases hj
      by_cases hij : i = j
      · simp
      · simp
  constructor
  · have hp := hv.map ElectionRouter.rank
    rw [hp.nodup_iff, map_view ElectionRouter.rank fun _ => rfl]
    exact hn.ranks
  · rw [hv.mem_iff, view, mem_iff_getElem?]
    refine ⟨i, ?_⟩
    rw [List.getElem?_modify, hr]
    simp
  · rfl
  · intro s hs hl
    obtain ⟨j, t, ht, rfl⟩ := at_place s hs
    by_cases hij : i = j
    · subst hij
      rw [hr] at ht
      cases ht
      rw [if_pos rfl]
    · rw [if_neg hij, hn.remote t (mem_of_getElem? ht)] at hl
      cases hl
  · intro s hs
    obtain ⟨j, t, ht, rfl⟩ := at_place s hs
    right
    have := hn.twoWay t (mem_of_getElem? ht)
    split <;> exact this

/-- Every router declares the result of the election as run by it. -/
theorem Round.elects (h : Round rs rs') {r' : ElectionRouter} (hr' : r' ∈ rs') :
    ∃ res, ElectsAt (Electable rs) (DeclaresDr rs) (DeclaresBdr rs) r'.rank res ∧
      Names rs res.1 r'.declaredDr ∧ Names rs res.2 r'.declaredBdr := by
  obtain ⟨i, hi'⟩ := mem_iff_getElem?.mp hr'
  obtain ⟨hlt, _⟩ := List.getElem?_eq_some_iff.mp hi'
  rw [h.1] at hlt
  obtain ⟨v, hv, heq⟩ := h.2 i rs[i] (List.getElem?_eq_getElem hlt)
  rw [hi'] at heq
  cases heq
  have viewed := hn.viewed (List.getElem?_eq_getElem hlt) hv
  have nonzero : ∀ r ∈ v, r.electionIdentity ≠ 0#32 := by
    intro r hr hz
    obtain ⟨s, hs, hsz⟩ := (exists_view (q := fun r => r.electionIdentity = 0#32)
      (fun _ => rfl) hv).mp ⟨r, hr, hz⟩
    exact hn.nonzero s hs hsz
  obtain ⟨res, elects, dr, bdr⟩ := elect_elects viewed nonzero
  have candidate : Electable v = Electable rs := funext fun x => propext
    (exists_view (q := fun r => r.priority ≠ 0#8 ∧ r.rank = x) (fun _ => rfl) hv)
  have declaresDr : DeclaresDr v = DeclaresDr rs := funext fun x => propext
    (exists_view (q := fun r => r.declaresDr = true ∧ r.rank = x) (fun _ => rfl) hv)
  have declaresBdr : DeclaresBdr v = DeclaresBdr rs := funext fun x => propext
    (exists_view (q := fun r => r.declaresBdr = true ∧ r.rank = x) (fun _ => rfl) hv)
  have names : ∀ o identity, Names v o identity → Names rs o identity := by
    intro o identity ho
    cases o with
    | none => exact ho
    | some x =>
      exact (exists_view (q := fun r => r.rank = x ∧ r.electionIdentity = identity)
        (fun _ => rfl) hv).mp ho
  rw [candidate, declaresDr, declaresBdr] at elects
  exact ⟨res, elects, names _ _ dr, names _ _ bdr⟩

/-- After a round in which all come to one result, all declare its routers. -/
def Declared (rs : List ElectionRouter) (res : Option Nat × Option Nat) : Prop :=
  ∀ r ∈ rs, Names rs res.1 r.declaredDr ∧ Names rs res.2 r.declaredBdr

omit hn in
theorem electable_mem (h : Electable rs x) : ∃ r ∈ rs, r.rank = x := by
  obtain ⟨r, hr, _, hx⟩ := h
  exact ⟨r, hr, hx⟩

/-- A router declares itself exactly when the result it declares names it. -/
theorem Network.declares (hr : r ∈ rs) (hx : r.rank = x) :
    (Names rs o r.declaredDr → (DeclaresDr rs x ↔ o = some x)) ∧
      (Names rs o r.declaredBdr → (DeclaresBdr rs x ↔ o = some x)) := by
  subst hx
  have dr := exists_rank_iff (q := fun s => s.declaresDr = true) hn.ranks hr
  have bdr := exists_rank_iff (q := fun s => s.declaresBdr = true) hn.ranks hr
  simp only [ElectionRouter.declaresDr, ElectionRouter.declaresBdr, asserted] at dr bdr
  constructor
  · intro hnames
    unfold DeclaresDr
    simp only [ElectionRouter.declaresDr, asserted]
    rw [dr, ← hn.names_iff hr]
    constructor
    · intro heq
      rwa [← heq]
    · intro hown
      exact hn.names_unique hnames hown
  · intro hnames
    unfold DeclaresBdr
    simp only [ElectionRouter.declaresBdr, asserted]
    rw [bdr, ← hn.names_iff hr]
    constructor
    · intro heq
      rwa [← heq]
    · intro hown
      exact hn.names_unique hnames hown

theorem Declared.declares (h : Declared rs res) (hx : Electable rs x) :
    (DeclaresDr rs x ↔ res.1 = some x) ∧ (DeclaresBdr rs x ↔ res.2 = some x) := by
  obtain ⟨r, hr, hrank⟩ := electable_mem hx
  exact ⟨(hn.declares hr hrank).1 (h r hr).1, (hn.declares hr hrank).2 (h r hr).2⟩

/-- The routers have come to a result: all declare it, and it is an election's. -/
def Settled (rs : List ElectionRouter) (res : Option Nat × Option Nat) : Prop :=
  Declared rs res ∧ (((∀ x, ¬ Electable rs x) ∧ res = (none, none)) ∨
    ∃ X D B, res.1 = some X ∧ Sole (Electable rs) D X ∧ Elects (Electable rs) D B res)

variable (h : Round rs rs')
include h

theorem Round.declared
    (all : ∀ x r, ElectsAt (Electable rs) (DeclaresDr rs) (DeclaresBdr rs) x r → r = res) :
    Declared rs' res := by
  intro r hr
  obtain ⟨res', elects, dr, bdr⟩ := h.elects hn hr
  rw [h.names, ← all _ _ elects]
  exact ⟨dr, bdr⟩

/-- When there is a candidate, there is a first pass to speak of. -/
theorem Round.first (hx : Electable rs x) :
    ∃ first, Elects (Electable rs) (DeclaresDr rs) (DeclaresBdr rs) first := by
  rw [← h.candidate] at hx
  obtain ⟨r, hr, _⟩ := electable_mem hx
  obtain ⟨_, ⟨first, _, elects, _⟩, _⟩ := h.elects hn hr
  exact ⟨first, elects⟩

/-- With one declared leader a round settles the network. -/
theorem Round.settled {X : Nat} (sole : Sole (Electable rs) (DeclaresDr rs) X) :
    ∃ res, Settled rs' res ∧ Elects (Electable rs) (DeclaresDr rs) (DeclaresBdr rs) res := by
  have hX := ((sole X).mpr rfl).1
  obtain ⟨first, hfirst⟩ := h.first hn hX
  refine ⟨first, ⟨h.declared hn fun x r he => sole.agrees hfirst he, .inr ?_⟩, hfirst⟩
  rw [h.candidate]
  exact ⟨X, _, _, sole.elects_leader hfirst, sole, hfirst⟩

theorem settled_of_none (empty : ∀ x, ¬ Electable rs x) : Settled rs' (none, none) := by
  refine ⟨h.declared hn fun x r he => no_candidate empty he, .inl ⟨?_, rfl⟩⟩
  rw [h.candidate]
  exact empty

end

/-- Two rounds settle the network, whatever was declared before. -/
theorem settled_after_two {rs'' : List ElectionRouter} (hn : Network rs) (h : Round rs rs')
    (h' : Round rs' rs'') : ∃ res, Settled rs'' res := by
  have hn' := hn.round h
  by_cases any : ∃ c, Electable rs c
  · obtain ⟨c, hc⟩ := any
    obtain ⟨first, hfirst⟩ := h.first hn hc
    obtain ⟨X, hX, _, agree⟩ := leader_agrees hfirst hc
    have sole : Sole (Electable rs') (DeclaresDr rs') X := by
      rw [h.candidate]
      apply sole_of_declared hX
      intro x hx
      rw [← h.candidate] at hx
      obtain ⟨r, hr, hrank⟩ := electable_mem hx
      obtain ⟨res, elects, dr, _⟩ := h.elects hn hr
      rw [← h.names, agree _ _ elects] at dr
      rw [(hn'.declares hr hrank).1 dr, Option.some.injEq]
    obtain ⟨res, settled, _⟩ := h'.settled hn' sole
    exact ⟨res, settled⟩
  · refine ⟨_, settled_of_none hn' h' ?_⟩
    intro x hx
    rw [h.candidate] at hx
    exact any ⟨x, hx⟩

theorem Settled.round (hn : Network rs) (h : Round rs rs')
    (hs : Settled rs res) : Settled rs' res := by
  obtain ⟨declared, ⟨empty, rfl⟩ | ⟨X, D, B, hX, sole, elects⟩⟩ := hs
  · exact settled_of_none hn h empty
  · have hD : ∀ x, Electable rs x → (DeclaresDr rs x ↔ X = x) := by
      intro x hx
      rw [(declared.declares hn hx).1, hX, Option.some.injEq]
    have hB : ∀ x, Electable rs x → (DeclaresBdr rs x ↔ res.2 = some x) :=
      fun x hx => (declared.declares hn hx).2
    have again := sole_of_declared ((sole X).mpr rfl).1 hD
    obtain ⟨res', settled, elects'⟩ := h.settled hn again
    obtain ⟨_, _, same⟩ := elects_declared sole elects (fun x hx => hx) hD hB elects'
    rwa [same fun x hx => hx] at settled

/-- A router that joins a settled network and declares nothing leaves its DR, and its
BDR if it has one. -/
theorem Settled.join (hs : Settled rs res) {X : Nat}
    (hX : res.1 = some X) {newcomer : ElectionRouter} (noDr : newcomer.declaredDr = 0#32)
    (noBdr : newcomer.declaredBdr = 0#32) (hn : Network (rs ++ [newcomer]))
    (h : Round (rs ++ [newcomer]) rs') :
    ∃ res', Settled rs' res' ∧ res'.1 = some X ∧ ∀ z, res.2 = some z → res'.2 = some z := by
  obtain ⟨declared, ⟨_, rfl⟩ | ⟨Y, D, B, hY, sole, elects⟩⟩ := hs
  · cases hX
  rw [hX, Option.some.injEq] at hY
  subst hY
  have sub : ∀ x, Electable rs x → Electable (rs ++ [newcomer]) x := by
    rintro x ⟨r, hr, hrest⟩
    exact ⟨r, mem_append_left _ hr, hrest⟩
  have names : ∀ o identity, Names rs o identity → Names (rs ++ [newcomer]) o identity := by
    intro o identity ho
    cases o with
    | none => exact ho
    | some x =>
      obtain ⟨r, hr, hrest⟩ := ho
      exact ⟨r, mem_append_left _ hr, hrest⟩
  have last : newcomer ∈ rs ++ [newcomer] := mem_append_right _ (mem_singleton.mpr rfl)
  have apart : ∀ z, Electable rs z → newcomer.rank ≠ z := by
    rintro z ⟨r, hr, _, rfl⟩ heq
    have ranks := hn.ranks
    rw [map_append, nodup_append] at ranks
    exact ranks.2.2 r.rank (mem_map_of_mem hr) newcomer.rank
      (mem_map_of_mem (mem_singleton.mpr rfl)) heq.symm
  obtain ⟨hbackup, _⟩ := sole.backup elects
  -- the newcomer declares neither itself nor anybody else
  have silent := (hn.declares (o := none) last rfl).1 noDr
  have silent' := (hn.declares (o := none) last rfl).2 noBdr
  have declares : ∀ x, Electable (rs ++ [newcomer]) x → (DeclaresDr (rs ++ [newcomer]) x ↔ X = x) ∧
        (DeclaresBdr (rs ++ [newcomer]) x ↔ res.2 = some x) := by
    rintro x ⟨r, hr, _, hrank⟩
    have whole := hr
    rw [mem_append, mem_singleton] at hr
    obtain hr | rfl := hr
    · obtain ⟨dr, bdr⟩ := declared r hr
      refine ⟨?_, (hn.declares whole hrank).2 (names _ _ bdr)⟩
      rw [(hn.declares whole hrank).1 (names _ _ dr), hX, Option.some.injEq]
    · subst hrank
      rw [silent, silent']
      constructor
      · simpa using Ne.symm (apart X ((sole X).mpr rfl).1)
      · constructor
        · intro hno
          cases hno
        · intro hback
          exact absurd rfl (apart _ (hbackup _ hback).1)
  have again := sole_of_declared (sub X ((sole X).mpr rfl).1) fun x hx => (declares x hx).1
  obtain ⟨res', settled, elects'⟩ := h.settled hn again
  obtain ⟨leads, kept, _⟩ := elects_declared sole elects sub (fun x hx => (declares x hx).1)
    (fun x hx => (declares x hx).2) elects'
  exact ⟨res', settled, leads, kept⟩

/-! ## Whole runs -/

theorem network_run (hn : Network (run 0))
    (rounds : ∀ n, Round (run n) (run (n + 1))) (n : Nat) : Network (run n) := by
  induction n with
  | zero => exact hn
  | succ n ih => exact ih.round (rounds n)

theorem silent_run (rounds : ∀ n, Round (run n) (run (n + 1))) (n : Nat) :
    (run n).map ElectionRouter.silent = (run 0).map ElectionRouter.silent := by
  induction n with
  | zero => rfl
  | succ n ih => rw [(rounds n).silent, ih]

theorem settled_run (hn : Network (run 0)) (rounds : ∀ n, Round (run n) (run (n + 1))) {k : Nat}
    (hs : Settled (run k) res) (n : Nat) : Settled (run (k + n)) res := by
  induction n with
  | zero => exact hs
  | succ n ih => exact ih.round (network_run hn rounds _) (rounds _)

/-- Only routers of non-zero priority are ever declared. -/
theorem Round.eligible (hn : Network rs) (h : Round rs rs') {s : ElectionRouter} (hr : r ∈ rs')
    (hs : s ∈ rs) (zero : s.priority = 0#8) :
    r.declaredDr ≠ s.electionIdentity ∧ r.declaredBdr ≠ s.electionIdentity := by
  obtain ⟨res, elects, dr, bdr⟩ := h.elects hn hr
  obtain ⟨leads, backs⟩ := elects.candidates
  have no : ¬ Electable rs s.rank := by
    intro hc
    exact (exists_rank_iff (q := fun t => t.priority ≠ 0#8) hn.ranks hs).mp hc zero
  constructor
  · intro heq
    rw [heq, hn.names_iff hs] at dr
    exact no (leads _ dr)
  · intro heq
    rw [heq, hn.names_iff hs] at bdr
    exact no (backs _ bdr)

/-- In a settled network with two candidates the DR and the BDR are two routers. -/
theorem Settled.apart (hn : Network rs) (hs : Settled rs res)
    {a b : ElectionRouter} (ha : a ∈ rs) (hb : b ∈ rs) (hab : a ≠ b) (pa : a.priority ≠ 0#8)
    (pb : b.priority ≠ 0#8) {dr bdr : BitVec 32} (hdr : Names rs res.1 dr)
    (hbdr : Names rs res.2 bdr) : dr ≠ bdr ∧ dr ≠ 0#32 ∧ bdr ≠ 0#32 := by
  obtain ⟨_, ⟨empty, _⟩ | ⟨X, D, B, hX, sole, elects⟩⟩ := hs
  · exact absurd ⟨a, ha, pa, rfl⟩ (empty a.rank)
  obtain ⟨backup, alone⟩ := sole.backup elects
  cases hz : res.2 with
  | none =>
    have same := (alone hz a.rank ⟨a, ha, pa, rfl⟩).trans (alone hz b.rank ⟨b, hb, pb, rfl⟩).symm
    exact absurd (rank_inj hn.ranks ha hb same) hab
  | some z =>
    rw [hX] at hdr
    rw [hz] at hbdr
    obtain ⟨s, hs, hsX, rfl⟩ := hdr
    obtain ⟨t, ht, htz, rfl⟩ := hbdr
    refine ⟨?_, hn.nonzero s hs, hn.nonzero t ht⟩
    intro heq
    have := (hn.names_iff (o := some z) hs).mp ⟨t, ht, htz, heq.symm⟩
    rw [Option.some.injEq, hsX] at this
    exact (backup z hz).2 this

theorem Settled.named (hs : Settled rs res) : ∃ dr bdr, Names rs res.1 dr ∧ Names rs res.2 bdr := by
  obtain ⟨_, ⟨_, rfl⟩ | ⟨X, D, B, hX, sole, elects⟩⟩ := hs
  · exact ⟨0#32, 0#32, rfl, rfl⟩
  obtain ⟨backup, _⟩ := sole.backup elects
  obtain ⟨s, hs, hsX⟩ := electable_mem ((sole X).mpr rfl).1
  rw [hX]
  cases hz : res.2 with
  | none => exact ⟨s.electionIdentity, 0#32, ⟨s, hs, hsX, rfl⟩, rfl⟩
  | some z =>
    obtain ⟨t, ht, htz⟩ := electable_mem (backup z hz).1
    exact ⟨s.electionIdentity, t.electionIdentity, ⟨s, hs, hsX, rfl⟩, ⟨t, ht, htz, rfl⟩⟩

theorem names_run (rounds : ∀ n, Round (run n) (run (n + 1))) (k n : Nat) :
    Names (run (k + n)) = Names (run k) := by
  induction n with
  | zero => rfl
  | succ n ih => exact (rounds (k + n)).names.trans ih

/-- In a run from a settled network all go on declaring its DR and BDR. -/
theorem Settled.declares (hn : Network (run 0))
    (rounds : ∀ n, Round (run n) (run (n + 1))) {k : Nat}
    (hs : Settled (run k) res) (n : Nat) (hr : r ∈ run (k + n)) :
    (∀ dr, Names (run k) res.1 dr → r.declaredDr = dr) ∧
      ∀ bdr, Names (run k) res.2 bdr → r.declaredBdr = bdr := by
  obtain ⟨declared, _⟩ := settled_run hn rounds hs n
  obtain ⟨dr, bdr⟩ := declared r hr
  rw [names_run rounds] at dr bdr
  exact ⟨fun _ h => (network_run hn rounds k).names_unique dr h,
    fun _ h => (network_run hn rounds k).names_unique bdr h⟩

/-- From any declarations, all routers agree after two rounds and from then on; the DR
and the BDR are two routers as soon as two may be elected; no router of priority zero is
ever elected; and a router that joins later without declarations displaces neither. -/
theorem election_converges (run : Nat → List ElectionRouter) (hn : Network (run 0))
    (rounds : ∀ n, Round (run n) (run (n + 1))) :
    (∀ n, ∀ r ∈ run (n + 1), ∀ s ∈ run n, s.priority = 0#8 →
      r.declaredDr ≠ s.electionIdentity ∧ r.declaredBdr ≠ s.electionIdentity) ∧
    ∃ dr bdr, (∀ n, 2 ≤ n → ∀ r ∈ run n, r.declaredDr = dr ∧ r.declaredBdr = bdr) ∧
      ((∃ a ∈ run 0, ∃ b ∈ run 0, a ≠ b ∧ a.priority ≠ 0#8 ∧ b.priority ≠ 0#8) →
        dr ≠ bdr ∧ dr ≠ 0#32 ∧ bdr ≠ 0#32) ∧
      ∀ n, 2 ≤ n → ∀ newcomer : ElectionRouter,
        newcomer.declaredDr = 0#32 → newcomer.declaredBdr = 0#32 →
        ∀ later : Nat → List ElectionRouter, later 0 = run n ++ [newcomer] →
          Network (later 0) → (∀ m, Round (later m) (later (m + 1))) →
          ∀ m, ∀ r ∈ later (m + 1),
            (dr ≠ 0#32 → r.declaredDr = dr) ∧ (bdr ≠ 0#32 → r.declaredBdr = bdr) := by
  constructor
  · intro n r hr s hs zero
    exact (rounds n).eligible (network_run hn rounds n) hr hs zero
  obtain ⟨res, settled⟩ := settled_after_two hn (rounds 0) (rounds 1)
  obtain ⟨dr, bdr, hdr, hbdr⟩ := settled.named
  refine ⟨dr, bdr, ?_, ?_, ?_⟩
  · intro n hle r hr
    obtain ⟨k, rfl⟩ := Nat.exists_eq_add_of_le hle
    obtain ⟨hd, hb⟩ := settled.declares hn rounds k hr
    exact ⟨hd dr hdr, hb bdr hbdr⟩
  · rintro ⟨a, ha, b, hb, hab, pa, pb⟩
    -- the two are still there after two rounds, with other declarations
    have member : ∀ c ∈ run 0, ∃ c' ∈ run 2, c'.rank = c.rank ∧ c'.priority = c.priority := by
      intro c hc
      apply (exists_of_silent (q := fun d => d.rank = c.rank ∧ d.priority = c.priority)
        (silent_run rounds 2) fun _ => rfl).mpr
      exact ⟨c, hc, rfl, rfl⟩
    obtain ⟨a', ha', ra, qa⟩ := member a ha
    obtain ⟨b', hb', rb, qb⟩ := member b hb
    apply settled.apart (network_run hn rounds 2) ha' hb' _ (qa ▸ pa) (qb ▸ pb) hdr hbdr
    intro heq
    rw [heq, rb] at ra
    exact hab (rank_inj hn.ranks ha hb ra.symm)
  · intro n hle newcomer noDr noBdr later start hlater rounds' m r hr
    obtain ⟨k, rfl⟩ := Nat.exists_eq_add_of_le hle
    have here := settled_run hn rounds settled k
    rw [← names_run rounds 2 k] at hdr hbdr
    have joined := hlater
    have first := rounds' 0
    rw [start] at joined first
    cases hX : res.1 with
    | none =>
      -- nobody can be elected, so there is nobody to displace
      obtain ⟨_, ⟨_, rfl⟩ | ⟨X, _, _, hX', _⟩⟩ := here
      · exact ⟨fun h => absurd hdr h, fun h => absurd hbdr h⟩
      · rw [hX] at hX'
        cases hX'
    | some X =>
      obtain ⟨res', settled', hX', kept⟩ := here.join hX noDr noBdr joined first
      rw [Nat.add_comm] at hr
      obtain ⟨hd, hb⟩ := settled'.declares hlater rounds' m hr
      have grows : ∀ o identity, o ≠ none → Names (run (2 + k)) o identity →
          Names (later (0 + 1)) o identity := by
        intro o identity ho names
        rw [names_run rounds' 0 1, start]
        cases o with
        | none => exact absurd rfl ho
        | some x =>
          obtain ⟨s, hs, hrest⟩ := names
          exact ⟨s, mem_append_left _ hs, hrest⟩
      constructor
      · intro _
        apply hd dr
        rw [hX', ← hX]
        exact grows _ _ (by rw [hX]; exact Option.some_ne_none X) hdr
      · intro nonzero
        apply hb bdr
        cases hz : res.2 with
        | none =>
          rw [hz] at hbdr
          exact absurd hbdr nonzero
        | some z =>
          rw [kept z hz, ← hz]
          exact grows _ _ (by rw [hz]; exact Option.some_ne_none z) hbdr

theorem round_round (rs : List ElectionRouter) : Round rs (round rs) := by
  constructor
  · exact length_mapIdx
  · intro i r hr
    refine ⟨view rs i, List.Perm.refl _, ?_⟩
    rw [round, List.getElem?_mapIdx, hr]
    rfl

/-- Three routers, the first of priority zero, that all call themselves DR. -/
def threeDesignated : List ElectionRouter :=
  [{ electionIdentity := 1#32, routerId := 1#32, declaredDr := 1#32, twoWayOrGreater := true },
    { electionIdentity := 2#32, routerId := 2#32, declaredDr := 2#32, priority := 1#8,
      twoWayOrGreater := true },
    { electionIdentity := 3#32, routerId := 3#32, declaredDr := 3#32, priority := 1#8,
      twoWayOrGreater := true }]

theorem election_converges_three :
    ∃ dr bdr, dr ≠ bdr ∧ ∀ n, 2 ≤ n → ∀ r ∈ Nat.repeat round n threeDesignated,
      r.declaredDr = dr ∧ r.declaredBdr = bdr := by
  have hn : Network threeDesignated := by constructor <;> decide
  obtain ⟨_, dr, bdr, agree, apart, _⟩ :=
    election_converges (fun n => Nat.repeat round n threeDesignated) hn fun n => round_round _
  obtain ⟨differ, _, _⟩ := apart (by decide)
  exact ⟨dr, bdr, differ, agree⟩

end RouterSim.Ospf
