import RouterSim.Lib.Election
import RouterSim.Ospf.Election

/-! What one router computes, as an election among ranks. Priority comes before router
identifier; a router's rank carries both. -/
namespace RouterSim.Ospf

open List

open Election

def ElectionRouter.rank (r : ElectionRouter) : Nat :=
  r.priority.toNat * 0x100000000 + r.routerId.toNat

def ElectionRouter.declaresDr (r : ElectionRouter) : Bool := r.declaredDr == r.electionIdentity

def ElectionRouter.declaresBdr (r : ElectionRouter) : Bool := r.declaredBdr == r.electionIdentity

theorem rank_eq_iff {a b : ElectionRouter} :
    a.rank = b.rank ↔ a.priority = b.priority ∧ a.routerId = b.routerId := by
  unfold ElectionRouter.rank
  constructor
  · intro h
    constructor <;> bv_omega
  · rintro ⟨hp, hr⟩
    rw [hp, hr]

theorem better_some (a b : ElectionRow) : better a (some b) = true ↔ b.1.rank < a.1.rank := by
  unfold better ElectionRouter.rank
  simp only [asserted]
  bv_omega

/-! ## One pass -/

/-- The best of the rows with a property. -/
def Best (p : ElectionRouter → Bool) (rows : List ElectionRow) : Option ElectionRow → Prop
  | none => ∀ x ∈ rows, p x.1 = false
  | some x => x ∈ rows ∧ p x.1 = true ∧ ∀ y ∈ rows, p y.1 = true → y.1.rank ≤ x.1.rank

variable {p : ElectionRouter → Bool} {rows : List ElectionRow} {o : Option ElectionRow}

theorem Best.pass (h : Best p rows o) (row : ElectionRow) (hp : p row.1 = false) :
    Best p (rows ++ [row]) o := by
  cases o with
  | none =>
    intro x hx
    rw [mem_append, mem_singleton] at hx
    obtain hx | rfl := hx
    · exact h x hx
    · exact hp
  | some b =>
    refine ⟨mem_append_left _ h.1, h.2.1, ?_⟩
    intro y hy hpy
    rw [mem_append, mem_singleton] at hy
    obtain hy | rfl := hy
    · exact h.2.2 y hy hpy
    · rw [hp] at hpy
      cases hpy

theorem Best.take (h : Best p rows o) (row : ElectionRow) (hp : p row.1 = true) :
    Best p (rows ++ [row]) (if better row o then some row else o) := by
  cases o with
  | none =>
    refine ⟨mem_append_right _ (mem_singleton.mpr rfl), hp, ?_⟩
    intro y hy hpy
    rw [mem_append, mem_singleton] at hy
    obtain hy | rfl := hy
    · rw [h y hy] at hpy
      cases hpy
    · exact Nat.le_refl _
  | some b =>
    by_cases hb : better row (some b) = true
    · rw [if_pos hb]
      refine ⟨mem_append_right _ (mem_singleton.mpr rfl), hp, ?_⟩
      intro y hy hpy
      rw [mem_append, mem_singleton] at hy
      obtain hy | rfl := hy
      · exact Nat.le_trans (h.2.2 y hy hpy) (Nat.le_of_lt ((better_some _ _).mp hb))
      · exact Nat.le_refl _
    · rw [if_neg hb]
      refine ⟨mem_append_left _ h.1, h.2.1, ?_⟩
      intro y hy hpy
      rw [mem_append, mem_singleton] at hy
      obtain hy | rfl := hy
      · exact h.2.2 y hy hpy
      · exact Nat.le_of_not_lt fun lt => hb ((better_some _ _).mpr lt)

/-- What the three scanned candidates are. -/
structure Scanned (project : ElectionRouter → ElectionRouter) (rows : List ElectionRow)
    (s : ElectionScan) : Prop where
  declared : Best (fun r => eligible (project r) && !(project r).declaresDr &&
    (project r).declaresBdr) rows s.declaredBackup
  fallback : Best (fun r => eligible (project r) && !(project r).declaresDr) rows s.fallbackBackup
  leader : Best (fun r => eligible (project r) && (project r).declaresDr) rows s.declaredDesignated

theorem consider_scanned {project : ElectionRouter → ElectionRouter} {s : ElectionScan}
    (h : Scanned project rows s) (row : ElectionRow) :
    Scanned project (rows ++ [row]) (s.consider project row) := by
  unfold ElectionScan.consider
  by_cases he : eligible (project row.1) = true
  · by_cases hd : (project row.1).declaresDr = true
    · have hd' := hd
      unfold ElectionRouter.declaresDr at hd'
      simp only [he, hd']
      constructor
      · exact h.declared.pass row (by simp [hd])
      · exact h.fallback.pass row (by simp [hd])
      · exact h.leader.take row (by simp [he, hd])
    · have hd' := hd
      unfold ElectionRouter.declaresDr at hd'
      simp only [he, hd']
      constructor
      · by_cases hb : (project row.1).declaresBdr = true
        · have taken := h.declared.take row (by simp [he, hd, hb])
          unfold ElectionRouter.declaresBdr at hb
          simp only [hb]
          exact taken
        · have passed := h.declared.pass row (by simp [hb])
          unfold ElectionRouter.declaresBdr at hb
          simp only [hb]
          exact passed
      · exact h.fallback.take row (by simp [he, hd])
      · exact h.leader.pass row (by simp [hd])
  · simp [he]
    constructor
    · exact h.declared.pass row (by simp [he])
    · exact h.fallback.pass row (by simp [he])
    · exact h.leader.pass row (by simp [he])

theorem scan_scanned (project : ElectionRouter → ElectionRouter) (more : List ElectionRow)
    {s : ElectionScan} (h : Scanned project rows s) :
    Scanned project (rows ++ more) (more.foldl (ElectionScan.consider project) s) := by
  induction more generalizing rows s with
  | nil => rwa [append_nil]
  | cons row more ih =>
    have := ih (consider_scanned h row)
    rwa [append_assoc] at this

theorem scanned (project : ElectionRouter → ElectionRouter) (rows : List ElectionRow) :
    Scanned project rows (rows.foldl (ElectionScan.consider project) {}) := by
  have empty : Scanned project [] {} := by
    constructor <;> (intro x hx; cases hx)
  exact scan_scanned project rows empty

def ElectionPair.ranks (pair : ElectionPair) : Option Nat × Option Nat :=
  (pair.designated.map (·.1.rank), pair.backup.map (·.1.rank))

variable {r : ElectionRouter} {row : ElectionRow}

theorem mem_zipIdx_of_mem {v : List ElectionRouter} (h : r ∈ v) : ∃ i, (r, i) ∈ v.zipIdx := by
  obtain ⟨i, hi⟩ := mem_iff_getElem?.mp h
  exact ⟨i, mem_zipIdx_iff_getElem?.mpr hi⟩

theorem Best.greatest {v : List ElectionRouter} (h : Best p v.zipIdx o) {P : Nat → Prop}
    (some_p : ∀ r ∈ v, p r = true ↔ P r.rank) (all : ∀ x, P x → ∃ r ∈ v, r.rank = x) :
    Greatest P (o.map (·.1.rank)) := by
  cases o with
  | none =>
    intro x hx
    obtain ⟨r, hr, rfl⟩ := all x hx
    obtain ⟨i, hi⟩ := mem_zipIdx_of_mem hr
    have := h _ hi
    rw [(some_p r hr).mpr hx] at this
    cases this
  | some b =>
    have hb := fst_mem_of_mem_zipIdx h.1
    refine ⟨(some_p _ hb).mp h.2.1, ?_⟩
    intro y hy
    obtain ⟨r, hr, rfl⟩ := all y hy
    obtain ⟨i, hi⟩ := mem_zipIdx_of_mem hr
    exact h.2.2 (r, i) hi ((some_p r hr).mpr hy)

theorem one_election_elects {v : List ElectionRouter}
    {project : ElectionRouter → ElectionRouter} {S D B : Nat → Prop}
    (hS : ∀ r ∈ v, eligible (project r) = true ↔ S r.rank)
    (hD : ∀ r ∈ v, (project r).declaresDr = true ↔ D r.rank)
    (hB : ∀ r ∈ v, (project r).declaresBdr = true ↔ B r.rank)
    (all : ∀ x, S x → ∃ r ∈ v, r.rank = x) : Elects S D B (oneElection project v.zipIdx).ranks := by
  obtain ⟨declared, fallback, leader⟩ := scanned project v.zipIdx
  refine ⟨_, _, _, declared.greatest ?_ ?_, fallback.greatest ?_ ?_, leader.greatest ?_ ?_, ?_⟩
  · intro r hr
    rw [← hS r hr, ← hD r hr, ← hB r hr]
    simp [and_assoc]
  · exact fun x hx => all x hx.1
  · intro r hr
    rw [← hS r hr, ← hD r hr]
    simp
  · exact fun x hx => all x hx.1
  · intro r hr
    rw [← hS r hr, ← hD r hr]
    simp
  · exact fun x hx => all x hx.1
  · simp [ElectionPair.ranks, oneElection, Option.map_or]

theorem Best.mem (h : Best p rows o) (hrow : o = some row) : row ∈ rows := by
  rw [hrow] at h
  exact h.1

theorem mem_of_or {a b : Option ElectionRow} (h : a.or b = some row)
    (ha : a = some row → row ∈ rows) (hb : b = some row → row ∈ rows) : row ∈ rows := by
  cases a with
  | none => exact hb h
  | some x => exact ha h

theorem elected_mem (project : ElectionRouter → ElectionRouter) (rows : List ElectionRow) :
    (∀ row, (oneElection project rows).designated = some row → row ∈ rows) ∧
      ∀ row, (oneElection project rows).backup = some row → row ∈ rows := by
  obtain ⟨declared, fallback, leader⟩ := scanned project rows
  have backup : ∀ row, (oneElection project rows).backup = some row → row ∈ rows :=
    fun row hrow => mem_of_or hrow declared.mem fallback.mem
  constructor
  · intro row hrow
    exact mem_of_or hrow leader.mem (backup row)
  · exact backup

/-! ## The whole computation -/

/-- The routers as one of them sees them: it is the only local one, and every other is
two-way. -/
structure Viewed (v : List ElectionRouter) (own : ElectionRouter) : Prop where
  distinct : (v.map ElectionRouter.rank).Nodup
  mem : own ∈ v
  isLocal : own.isLocal = true
  only : ∀ r ∈ v, r.isLocal = true → r = own
  twoWay : ∀ r ∈ v, r.isLocal = true ∨ r.twoWayOrGreater = true

def Electable (v : List ElectionRouter) (x : Nat) : Prop := ∃ r ∈ v, r.priority ≠ 0#8 ∧ r.rank = x

def DeclaresDr (v : List ElectionRouter) (x : Nat) : Prop :=
  ∃ r ∈ v, r.declaresDr = true ∧ r.rank = x

def DeclaresBdr (v : List ElectionRouter) (x : Nat) : Prop :=
  ∃ r ∈ v, r.declaresBdr = true ∧ r.rank = x

/-- The identity of the router of a rank; none for no rank. -/
def Names (v : List ElectionRouter) (o : Option Nat) (identity : BitVec 32) : Prop :=
  match o with
  | none => identity = 0#32
  | some x => ∃ r ∈ v, r.rank = x ∧ r.electionIdentity = identity

variable {v : List ElectionRouter} {own : ElectionRouter}

theorem place_inj {α β : Type} {f : α → β} {l : List α} (hd : (l.map f).Nodup) {i j : Nat}
    {a b : α} (ha : l[i]? = some a) (hb : l[j]? = some b) (h : f a = f b) : i = j := by
  obtain ⟨hi, ga⟩ := List.getElem?_eq_some_iff.mp ha
  obtain ⟨hj, gb⟩ := List.getElem?_eq_some_iff.mp hb
  have li : i < (l.map f).length := by rwa [length_map]
  have lj : j < (l.map f).length := by rwa [length_map]
  have values : (l.map f)[i] = (l.map f)[j] := by
    rw [getElem_map, getElem_map, ga, gb, h]
  exact (getElem_inj hd).mp values

section

variable (hd : (v.map ElectionRouter.rank).Nodup)
include hd

theorem same_place {a b : ElectionRow} (ha : a ∈ v.zipIdx) (hb : b ∈ v.zipIdx)
    (h : a.1.rank = b.1.rank) : a = b := by
  have hai := mem_zipIdx_iff_getElem?.mp ha
  have hbi := mem_zipIdx_iff_getElem?.mp hb
  have place := place_inj hd hai hbi h
  apply Prod.ext
  · rw [place, hbi] at hai
    exact (Option.some.inj hai).symm
  · exact place

theorem rank_inj {a b : ElectionRouter} (ha : a ∈ v) (hb : b ∈ v) (h : a.rank = b.rank) :
    a = b := by
  obtain ⟨i, hi⟩ := mem_zipIdx_of_mem ha
  obtain ⟨j, hj⟩ := mem_zipIdx_of_mem hb
  exact congrArg Prod.fst (same_place hd hi hj h)

/-- A property of ranks that reads a property of the routers. -/
theorem exists_rank_iff {q : ElectionRouter → Prop} (hr : r ∈ v) :
    (∃ s ∈ v, q s ∧ s.rank = r.rank) ↔ q r := by
  constructor
  · rintro ⟨s, hs, hq, heq⟩
    rwa [← rank_inj hd hs hr heq]
  · intro hq
    exact ⟨r, hr, hq, rfl⟩

theorem same_iff {o : Option ElectionRow} (ho : ∀ row, o = some row → row ∈ v.zipIdx)
    (hrow : row ∈ v.zipIdx) : same o row = true ↔ o.map (·.1.rank) = some row.1.rank := by
  cases o with
  | none => simp [same]
  | some a =>
    simp only [same, Option.any_some, asserted, Option.map_some, Option.some.injEq]
    constructor
    · intro h
      have ha := mem_zipIdx_iff_getElem?.mp (ho a rfl)
      rw [h, mem_zipIdx_iff_getElem?.mp hrow] at ha
      rw [Option.some.inj ha]
    · intro h
      rw [same_place hd (ho a rfl) hrow h]

/-- The interface state of a role. -/
def roleState : Role → InterfaceState
  | .leader => .designated
  | .backup => .backup
  | .other => .drOther

omit hd in
theorem roleState_inj {a b : Role} : roleState a = roleState b ↔ a = b := by
  cases a <;> cases b <;> decide

theorem roleIn_eq (project : ElectionRouter → ElectionRouter) (hrow : row ∈ v.zipIdx) :
    roleIn (oneElection project v.zipIdx) row =
      roleState (Role.of (oneElection project v.zipIdx).ranks row.1.rank) := by
  obtain ⟨hdes, hback⟩ := elected_mem project v.zipIdx
  have hdr : same (oneElection project v.zipIdx).designated row = true ↔
      (oneElection project v.zipIdx).ranks.1 = some row.1.rank := same_iff hd hdes hrow
  have hbdr : same (oneElection project v.zipIdx).backup row = true ↔
      (oneElection project v.zipIdx).ranks.2 = some row.1.rank := same_iff hd hback hrow
  unfold roleIn Role.of
  by_cases dr : (oneElection project v.zipIdx).ranks.1 = some row.1.rank
  · rw [if_pos dr, if_pos (hdr.mpr dr)]
    rfl
  · rw [if_neg dr, if_neg (fun h => dr (hdr.mp h))]
    by_cases bdr : (oneElection project v.zipIdx).ranks.2 = some row.1.rank
    · rw [if_pos bdr, if_pos (hbdr.mpr bdr)]
      rfl
    · rw [if_neg bdr, if_neg (fun h => bdr (hbdr.mp h))]
      rfl

omit hd in
theorem identity_names {o : Option ElectionRow} (ho : ∀ row, o = some row → row ∈ v.zipIdx) :
    Names v (o.map (·.1.rank)) (identityOf o) := by
  cases o with
  | none => rfl
  | some row => exact ⟨row.1, fst_mem_of_mem_zipIdx (ho row rfl), rfl, rfl⟩

omit hd in
theorem eligible_iff (h : Viewed v own) (hr : r ∈ v) : eligible r = true ↔ r.priority ≠ 0#8 := by
  have := h.twoWay r hr
  simp [eligible, this]

theorem declaredRole_says (hr : r ∈ v) :
    ∃ role, Says (DeclaresDr v) (DeclaresBdr v) r.rank role ∧ declaredRole r = roleState role := by
  have dr := exists_rank_iff (q := fun s => s.declaresDr = true) hd hr
  have bdr := exists_rank_iff (q := fun s => s.declaresBdr = true) hd hr
  unfold declaredRole
  by_cases hdr : r.declaresDr = true
  · refine ⟨.leader, .leader (dr.mpr hdr), ?_⟩
    rw [ElectionRouter.declaresDr] at hdr
    rw [if_pos hdr]
    rfl
  · by_cases hbdr : r.declaresBdr = true
    · refine ⟨.backup, .backup (fun hd => hdr (dr.mp hd)) (bdr.mpr hbdr), ?_⟩
      rw [ElectionRouter.declaresDr] at hdr
      rw [ElectionRouter.declaresBdr] at hbdr
      rw [if_neg hdr, if_pos hbdr]
      rfl
    · refine ⟨.other, .other (fun hd => hdr (dr.mp hd)) (fun hb => hbdr (bdr.mp hb)), ?_⟩
      rw [ElectionRouter.declaresDr] at hdr
      rw [ElectionRouter.declaresBdr] at hbdr
      rw [if_neg hdr, if_neg hbdr]
      rfl

end

/-- The declarations of the second pass are those of the first with the local ones
replaced. -/
theorem projectLocal_reads (h : Viewed v own) (role : Role) (hr : r ∈ v)
    (nonzero : r.electionIdentity ≠ 0#32) :
    eligible (projectLocal (roleState role) r) = eligible r ∧
      ((projectLocal (roleState role) r).declaresDr = true ↔
        put (DeclaresDr v) own.rank (role = .leader) r.rank) ∧
      ((projectLocal (roleState role) r).declaresBdr = true ↔
        put (DeclaresBdr v) own.rank (role = .backup) r.rank) := by
  by_cases hl : r.isLocal = true
  · have hown := h.only r hr hl
    subst hown
    rw [put_self, put_self]
    have hz : (0#32 == r.electionIdentity) = false := by simpa using Ne.symm nonzero
    refine ⟨by simp [projectLocal, eligible, hl], ?_, ?_⟩
    · cases role <;> simp [projectLocal, hl, ElectionRouter.declaresDr, roleState, hz]
    · cases role <;> simp [projectLocal, hl, ElectionRouter.declaresBdr, roleState, hz]
  · have hne : r.rank ≠ own.rank := by
      intro heq
      rw [rank_inj h.distinct hr h.mem heq] at hl
      exact hl h.isLocal
    have hid : projectLocal (roleState role) r = r := by simp [projectLocal, hl]
    rw [hid, put_other _ _ hne, put_other _ _ hne]
    refine ⟨rfl, ?_, ?_⟩
    · exact (exists_rank_iff (q := fun s => s.declaresDr = true) h.distinct hr).symm
    · exact (exists_rank_iff (q := fun s => s.declaresBdr = true) h.distinct hr).symm

/-- What a router computes is the election among ranks as run by it. -/
theorem elect_elects (h : Viewed v own) (nonzero : ∀ r ∈ v, r.electionIdentity ≠ 0#32) :
    ∃ r, ElectsAt (Electable v) (DeclaresDr v) (DeclaresBdr v) own.rank r ∧
      Names v r.1 (electDrBdr v).designatedRouter ∧
      Names v r.2 (electDrBdr v).backupDesignatedRouter := by
  have all : ∀ x, Electable v x → ∃ r ∈ v, r.rank = x := by
    rintro x ⟨r, hr, _, hx⟩
    exact ⟨r, hr, hx⟩
  have candidate : ∀ r ∈ v, eligible r = true ↔ Electable v r.rank := by
    intro r hr
    rw [eligible_iff h hr]
    exact (exists_rank_iff (q := fun s => s.priority ≠ 0#8) h.distinct hr).symm
  have first : Elects (Electable v) (DeclaresDr v) (DeclaresBdr v)
      (oneElection id v.zipIdx).ranks := by
    apply one_election_elects candidate _ _ all
    · exact fun r hr => (exists_rank_iff (q := fun s => s.declaresDr = true) h.distinct hr).symm
    · exact fun r hr => (exists_rank_iff (q := fun s => s.declaresBdr = true) h.distinct hr).symm
  have named := fun project => elected_mem project v.zipIdx
  -- the local row is the one the search finds
  obtain ⟨place, hplace⟩ := mem_zipIdx_of_mem h.mem
  have found : (v.zipIdx.find? (·.1.isLocal)).isSome = true :=
    List.find?_isSome.mpr ⟨(own, place), hplace, h.isLocal⟩
  obtain ⟨row, hfind⟩ := Option.isSome_iff_exists.mp found
  have hrow := mem_of_find?_eq_some hfind
  have hlocal := List.find?_some hfind
  have hown := h.only _ (fst_mem_of_mem_zipIdx hrow) hlocal
  obtain ⟨role, said, hrole⟩ := declaredRole_says h.distinct h.mem
  have again := roleIn_eq h.distinct id hrow
  rw [hown] at again
  unfold electDrBdr
  simp only [hfind, hown]
  by_cases hel : eligible own = true
  · simp only [hel, hrole, again, ne_eq, roleState_inj]
    by_cases hsame : Role.of (oneElection id v.zipIdx).ranks own.rank = role
    · refine ⟨_, ⟨_, role, first, said, .inl ⟨.inr hsame, rfl⟩⟩, ?_, ?_⟩
      · simp [hsame]
        exact identity_names (named id).1
      · simp [hsame]
        exact identity_names (named id).2
    · have reads := fun r hr => projectLocal_reads h
        (Role.of (oneElection id v.zipIdx).ranks own.rank) hr (nonzero r hr)
      have second := one_election_elects
        (fun r hr => by rw [(reads r hr).1]; exact candidate r hr)
        (fun r hr => (reads r hr).2.1) (fun r hr => (reads r hr).2.2) all
      refine ⟨_, ⟨_, role, first, said, .inr ⟨(candidate _ h.mem).mp hel, hsame, second⟩⟩, ?_, ?_⟩
      · simp [hsame]
        exact identity_names (named _).1
      · simp [hsame]
        exact identity_names (named _).2
  · have out : ¬ Electable v own.rank := fun hc => hel ((candidate _ h.mem).mpr hc)
    simp only [hel]
    exact ⟨_, ⟨_, role, first, said, .inl ⟨.inl out, rfl⟩⟩, identity_names (named id).1,
      identity_names (named id).2⟩

end RouterSim.Ospf
