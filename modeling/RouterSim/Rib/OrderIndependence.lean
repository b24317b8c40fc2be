import RouterSim.Rib.Selection

/-! The inputs of a rebuild in another order give the same candidates in another order. -/
namespace RouterSim.Rib

open List

section Best

variable {α : Type} {better : α → α → Bool} {rank : α → List Nat} {entries : List α} {best : α}

def bestFrom (better : α → α → Bool) (current : α) (entries : List α) : α :=
  entries.foldl (fun current candidate => if better candidate current then candidate else current)
    current

theorem bestOf_cons (first : α) (rest : List α) :
    bestOf better (first :: rest) = some (bestFrom better first rest) := by
  have folded : ∀ (entries : List α) (current : α), entries.foldl (betterOf better) (some current) =
        some (bestFrom better current entries) := by
    intro entries
    induction entries with
    | nil => exact fun _ => rfl
    | cons candidate rest ih =>
      intro current
      by_cases h : better candidate current = true
      · simp [betterOf, bestFrom, h, ih]
      · simp [betterOf, bestFrom, h, ih]
  exact folded rest first

/-- The best is one of the entries, and none is ranked below it. -/
theorem bestFrom_spec (ranked : ∀ a b, better a b = true ↔ rank a < rank b) (current : α)
    (entries : List α) : bestFrom better current entries ∈ current :: entries ∧
      ∀ c ∈ current :: entries, ¬ rank c < rank (bestFrom better current entries) := by
  induction entries generalizing current with
  | nil =>
    refine ⟨mem_cons_self, ?_⟩
    intro c mem
    rw [mem_singleton.mp mem]
    exact List.lt_irrefl _
  | cons candidate rest ih =>
    have step : bestFrom better current (candidate :: rest) =
        bestFrom better (if better candidate current then candidate else current) rest := rfl
    rw [step]
    by_cases h : better candidate current = true
    · obtain ⟨member, least⟩ := ih candidate
      rw [if_pos h]
      refine ⟨mem_cons_of_mem _ member, ?_⟩
      intro c mem
      obtain rfl | mem := mem_cons.mp mem
      · intro less
        exact least candidate mem_cons_self (List.lt_trans ((ranked _ _).mp h) less)
      · exact least c mem
    · obtain ⟨member, least⟩ := ih current
      rw [if_neg h]
      refine ⟨?_, ?_⟩
      · obtain eq | mem := mem_cons.mp member
        · rw [eq]
          exact mem_cons_self
        · exact mem_cons_of_mem _ (mem_cons_of_mem _ mem)
      · intro c mem
        obtain rfl | mem := mem_cons.mp mem
        · exact least _ mem_cons_self
        · obtain rfl | mem := mem_cons.mp mem
          · have notBelow : ¬ rank c < rank current := fun less => h ((ranked _ _).mpr less)
            exact List.le_trans (least current mem_cons_self) notBelow
          · exact least c (mem_cons_of_mem _ mem)

theorem bestOf_spec (ranked : ∀ a b, better a b = true ↔ rank a < rank b)
    (h : bestOf better entries = some best) :
    best ∈ entries ∧ ∀ c ∈ entries, ¬ rank c < rank best := by
  cases entries with
  | nil => cases h
  | cons first rest =>
    rw [bestOf_cons] at h
    cases h
    exact bestFrom_spec ranked first rest

theorem bestOf_perm {entries' : List α} (ranked : ∀ a b, better a b = true ↔ rank a < rank b)
    (perm : entries.Perm entries') :
    (bestOf better entries).map rank = (bestOf better entries').map rank := by
  cases found : bestOf better entries with
  | none =>
    cases entries with
    | nil =>
      rw [nil_perm.mp perm]
      rfl
    | cons first rest =>
      rw [bestOf_cons] at found
      cases found
  | some best =>
    obtain ⟨member, least⟩ := bestOf_spec ranked found
    cases found' : bestOf better entries' with
    | none =>
      cases entries' with
      | nil => exact absurd (perm.mem_iff.mp member) not_mem_nil
      | cons first rest =>
        rw [bestOf_cons] at found'
        cases found'
    | some best' =>
      obtain ⟨member', least'⟩ := bestOf_spec ranked found'
      have below := least best' (perm.mem_iff.mpr member')
      have above := least' best (perm.mem_iff.mp member)
      exact congrArg some (List.le_antisymm below above)

end Best

section Dynamic

variable {w : Nat} {ε : Type} {dynamic dynamic' : List (DynamicInput w ε)}

def resolutionKey (entry : DynamicInput w ε) : List Nat :=
  [255 - entry.prefixLength.toNat, entry.preference.toNat, entry.metric.toNat]

theorem resolvesBetter_iff (a b : DynamicInput w ε) :
    a.resolvesBetter b = true ↔ resolutionKey a < resolutionKey b := by
  simp only [DynamicInput.resolvesBetter, resolutionKey, cons_lt_cons_iff, not_lt_nil, settled,
    asserted, BitVec.lt_def, BitVec.toNat_eq]
  omega

theorem resolvesAlike_eq (a b : DynamicInput w ε) :
    a.resolvesAlike b = (resolutionKey a == resolutionKey b) := by
  rw [Bool.eq_iff_iff]
  simp only [DynamicInput.resolvesAlike, resolutionKey, asserted, List.cons.injEq, settled,
    BitVec.toNat_eq]
  omega

theorem resolutions_perm (covers : DynamicInput w ε → Bool) (perm : dynamic.Perm dynamic') :
    (resolutions covers dynamic).Perm (resolutions covers dynamic') := by
  have paths := perm.filter fun candidate => candidate.usable && covers candidate
  have best := bestOf_perm resolvesBetter_iff paths
  cases found : bestOf DynamicInput.resolvesBetter
      (dynamic.filter fun candidate => candidate.usable && covers candidate) with
  | none =>
    cases found' : bestOf DynamicInput.resolvesBetter
        (dynamic'.filter fun candidate => candidate.usable && covers candidate) with
    | none =>
      simp only [resolutions, found, found']
      exact .refl _
    | some best' =>
      rw [found, found'] at best
      cases best
  | some first =>
    cases found' : bestOf DynamicInput.resolvesBetter
        (dynamic'.filter fun candidate => candidate.usable && covers candidate) with
    | none =>
      rw [found, found'] at best
      cases best
    | some second =>
      rw [found, found'] at best
      have ranks : resolutionKey first = resolutionKey second := Option.some.inj best
      have same : (fun candidate : DynamicInput w ε => candidate.resolvesAlike first) =
          fun candidate => candidate.resolvesAlike second := by
        funext candidate
        rw [resolvesAlike_eq, resolvesAlike_eq, ranks]
      simp only [resolutions, found, found', same]
      exact paths.filter _

theorem dominated_perm (perm : dynamic.Perm dynamic') (entry : DynamicInput w ε) :
    entry.dominated dynamic = entry.dominated dynamic' := by
  rw [DynamicInput.dominated, DynamicInput.dominated, perm.any_eq]

theorem undominated_perm (perm : dynamic.Perm dynamic') :
    (dynamic.filter fun entry => entry.usable && !entry.dominated dynamic).Perm
      (dynamic'.filter fun entry => entry.usable && !entry.dominated dynamic') := by
  have same : (fun entry : DynamicInput w ε => entry.usable && !entry.dominated dynamic) =
      fun entry => entry.usable && !entry.dominated dynamic' := by
    funext entry
    rw [dominated_perm perm]
  rw [same]
  exact perm.filter _

end Dynamic

section Candidates

theorem flatMap_perm {α β : Type} {l l' : List α} {f g : α → List β} (perm : l.Perm l')
    (each : ∀ a, (f a).Perm (g a)) : (l.flatMap f).Perm (l'.flatMap g) := by
  have pointwise : (l.flatMap f).Perm (l.flatMap g) := by
    clear perm
    induction l with
    | nil => exact .refl _
    | cons a rest ih =>
      exact (each a).append ih
  exact pointwise.trans (perm.flatMap_right g)

/-- The same entries, the static and the dynamic ones in any order. -/
structure Ipv4Input.Reordered (input input' : Ipv4Input) : Prop where
  connected : input'.connected = input.connected
  statics : input'.statics.Perm input.statics
  dynamic : input'.dynamic.Perm input.dynamic
  paths : input'.maximumEcmpPaths = input.maximumEcmpPaths

structure Ipv6Input.Reordered (input input' : Ipv6Input) : Prop where
  connected : input'.connected = input.connected
  additional : input'.additionalConnected = input.additionalConnected
  statics : input'.statics.Perm input.statics
  dynamic : input'.dynamic.Perm input.dynamic
  paths : input'.maximumEcmpPaths = input.maximumEcmpPaths

theorem staticRoutes4_perm {connected : List ConnectedInput}
    {dynamic dynamic' : List Ipv4DynamicInput} (perm : dynamic.Perm dynamic')
    (entry : StaticInput) :
    (staticRoutes4 connected dynamic entry).Perm (staticRoutes4 connected dynamic' entry) := by
  unfold staticRoutes4
  split
  · exact .refl _
  split
  · exact .refl _
  · exact (resolutions_perm _ perm).map _

theorem Ipv4Input.Reordered.candidates {input input' : Ipv4Input} (h : input.Reordered input') :
    input'.candidates.Perm input.candidates := by
  unfold Ipv4Input.candidates
  rw [h.connected]
  apply List.Perm.append
  · exact ((undominated_perm h.dynamic).map _).append_left _
  · exact flatMap_perm h.statics fun entry => staticRoutes4_perm h.dynamic entry

theorem staticRoutes6_perm {connected additional : List Ipv6ConnectedInput}
    {dynamic dynamic' : List Ipv6DynamicInput} (perm : dynamic.Perm dynamic')
    (entry : Ipv6StaticInput) :
    (staticRoutes6 connected additional dynamic entry).Perm
      (staticRoutes6 connected additional dynamic' entry) := by
  unfold staticRoutes6
  split
  · exact .refl _
  split
  · exact .refl _
  · exact (resolutions_perm _ perm).map _

theorem Ipv6Input.Reordered.candidates {input input' : Ipv6Input} (h : input.Reordered input') :
    input'.candidates.Perm input.candidates := by
  unfold Ipv6Input.candidates
  rw [h.connected, h.additional]
  apply List.Perm.append
  · exact ((undominated_perm h.dynamic).map _).append_left _
  · exact flatMap_perm h.statics fun entry => staticRoutes6_perm h.dynamic entry

end Candidates

end RouterSim.Rib
