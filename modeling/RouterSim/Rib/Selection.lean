import RouterSim.Rib.Ipv6

/-! What a rebuild publishes. Routes are ordered by keys: the prefix, the selection class, the
hop. For each prefix the first candidates of its least class are published, and the keys do
not depend on the order of the inputs. -/
namespace RouterSim.Rib

open List BitVec Compaction

section Keys

variable {w : Nat} {ε : Type} [Egress ε] {left right : Route w ε}

/-- Longer prefixes of a network come first. -/
def prefixKey (route : Route w ε) : List Nat :=
  [route.network.toNat, 255 - route.prefixLength.toNat]

def classKey (route : Route w ε) : List Nat :=
  [route.preference.toNat, route.source.ordinal, pathRank route.ospfPathType,
    route.metric.toNat, route.protocolInstance.toNat]

def hopKey (route : Route w ε) : List Nat := [route.nextHop.toNat, Egress.ordinal route.egress]

def key (route : Route w ε) : List Nat := prefixKey route ++ (classKey route ++ hopKey route)

theorem RouteSource.ordinal_inj {a b : RouteSource} : a.ordinal = b.ordinal ↔ a = b := by
  cases a <;> cases b <;> decide

omit [Egress ε] in
theorem selectionLess_iff : selectionLess left right = true ↔ classKey left < classKey right := by
  simp only [classKey, cons_lt_cons_iff, not_lt_nil, settled, ← toNat_eq, RouteSource.ordinal_inj]
  unfold selectionLess
  by_cases preference : left.preference = right.preference
  · by_cases source : left.source = right.source
    · by_cases rank : pathRank left.ospfPathType = pathRank right.ospfPathType
      · by_cases metric : left.metric = right.metric
        · by_cases number : left.protocolInstance = right.protocolInstance
          · simp [preference, source, rank, metric, number]
          · simp [preference, source, rank, metric, number, lt_def]
        · simp [preference, source, rank, metric, lt_def]
      · simp [preference, source, rank]
    · simp [preference, source]
  · simp [preference, lt_def]

omit [Egress ε] in
theorem sameSelectionClass_eq :
    sameSelectionClass left right = (classKey left == classKey right) := by
  have less : ∀ a b : Route w ε, selectionLess a b = false ↔ ¬ classKey a < classKey b := by
    intro a b
    rw [← selectionLess_iff, Bool.not_eq_true]
  rw [Bool.eq_iff_iff, sameSelectionClass, Bool.and_eq_true, Bool.not_eq_true', Bool.not_eq_true',
    less, less, beq_iff_eq]
  constructor
  · intro both
    exact List.le_antisymm both.2 both.1
  · intro eq
    rw [eq]
    exact ⟨List.lt_irrefl _, List.lt_irrefl _⟩

omit [Egress ε] in
theorem prefixKey_inj : prefixKey left = prefixKey right ↔
    left.network = right.network ∧ left.prefixLength = right.prefixLength := by
  have small := left.prefixLength.isLt
  have small' := right.prefixLength.isLt
  simp only [prefixKey, List.cons.injEq, settled, toNat_eq]
  omega

omit [Egress ε] in
theorem samePrefix_eq : samePrefix left right = (prefixKey left == prefixKey right) := by
  rw [Bool.eq_iff_iff, beq_iff_eq, prefixKey_inj, samePrefix, Bool.and_eq_true, beq_iff_eq,
    beq_iff_eq]

theorem candidateLess_iff : candidateLess left right = true ↔ key left < key right := by
  have prefixes : prefixKey left < prefixKey right ↔ left.network < right.network ∨
      left.network = right.network ∧ right.prefixLength < left.prefixLength := by
    simp only [prefixKey, cons_lt_cons_iff, not_lt_nil, settled, lt_def, toNat_eq]
    omega
  have hops : hopKey left < hopKey right ↔ left.nextHop < right.nextHop ∨
      left.nextHop = right.nextHop ∧ Egress.ordinal left.egress < Egress.ordinal right.egress := by
    simp [hopKey, cons_lt_cons_iff, lt_def, toNat_eq]
  have classes : sameSelectionClass left right = true ↔ classKey left = classKey right := by
    rw [sameSelectionClass_eq, beq_iff_eq]
  have prefixLengths : (prefixKey left).length = (prefixKey right).length := rfl
  have classLengths : (classKey left).length = (classKey right).length := rfl
  rw [key, key, append_lt prefixLengths, append_lt classLengths, prefixes,
    hops, prefixKey_inj, candidateLess]
  by_cases network : left.network = right.network
  · by_cases length : left.prefixLength = right.prefixLength
    · by_cases same : sameSelectionClass left right = true
      · have notLess : ¬ classKey right < classKey right := List.lt_irrefl _
        by_cases hop : left.nextHop = right.nextHop
        · simp [network, length, same, hop, classes.mp same, notLess]
        · simp [network, length, same, hop, classes.mp same, notLess]
      · have other : classKey left ≠ classKey right := fun eq => same (classes.mpr eq)
        simp [network, length, same, other, selectionLess_iff]
    · simp [network, length]
  · simp [network]

theorem candidateLess_weak : Sorting.Weak (candidateLess : Route w ε → Route w ε → Bool) where
  asymm a b less := by
    rw [← Bool.not_eq_true, candidateLess_iff]
    exact List.lt_asymm (candidateLess_iff.mp less)
  trans a b c ba cb := by
    rw [← Bool.not_eq_true, candidateLess_iff] at ba cb ⊢
    exact List.le_trans ba cb

end Keys

section Selected

variable {w : Nat} {ε : Type} [Egress ε] {candidates published : List (Route w ε)}
  {sorter : Sorting.Sorter (Route w ε)} {limit : Nat}

/-- The candidates of a prefix in the least selection class there. -/
def leastClass (candidates : List (Route w ε)) (network : BitVec w) (length : BitVec 8) :
    List (Route w ε) :=
  let ofPrefix := candidates.filter fun route =>
    route.network == network && route.prefixLength == length
  ofPrefix.filter fun route => ofPrefix.all fun other => decide (¬ classKey other < classKey route)

/-- For each prefix the first of its least class, in order of the hop, up to a limit, and
nothing else. -/
structure Selected (candidates : List (Route w ε)) (limit : Nat)
    (published : List (Route w ε)) : Prop where
  first : ∀ network length, ∃ ordered : List (Route w ε),
    ordered.Perm (leastClass candidates network length) ∧
      (ordered.Pairwise fun a b => ¬ hopKey b < hopKey a) ∧
      (published.filter fun route =>
        route.network == network && route.prefixLength == length) = ordered.take limit
  only : ∀ route ∈ published, ∃ candidate ∈ candidates,
    candidate.network = route.network ∧ candidate.prefixLength = route.prefixLength

/-- What the compaction keeps of the sorted candidates. -/
def selection (sorter : Sorting.Sorter (Route w ε)) (limit : Nat)
    (candidates : List (Route w ε)) : List (Route w ε) :=
  select (fun a b => prefixKey a == prefixKey b) (fun a b => classKey a == classKey b)
    limit (sorter.sort candidateLess candidates)

/-- The compaction in place reads rows it has not written, and compares them with a row of the
class it looks for. -/
theorem selectPrimaries_spec [Inhabited ε] :
    (selectPrimaries sorter limit candidates).1.take (selectPrimaries sorter limit candidates).2 =
        selection sorter limit candidates ∧
      (selectPrimaries sorter limit candidates).2 = (selection sorter limit candidates).length := by
  have grouped : (samePrefix : Route w ε → Route w ε → Bool) =
      fun a b => prefixKey a == prefixKey b := by
    funext a b
    exact samePrefix_eq
  have same : (sameSelectionClass : Route w ε → Route w ε → Bool) =
      fun a b => classKey a == classKey b := by
    funext a b
    exact sameSelectionClass_eq
  have length : (sorter.sort candidateLess candidates).length = candidates.length :=
    (sorter.perm _ _).length_eq
  have likeness : ∀ a b x : Route w ε, sameSelectionClass a b = true →
      sameSelectionClass x a = sameSelectionClass x b := by
    intro a b x alike
    rw [sameSelectionClass_eq, beq_iff_eq] at alike
    rw [sameSelectionClass_eq, sameSelectionClass_eq, alike]
  have result := compact_spec samePrefix limit likeness (Nat.le_of_eq length.symm)
  rw [← length, take_length] at result
  rw [selectPrimaries, selection, ← length, ← grouped, ← same]
  exact result

theorem sorted_keys : (sorter.sort candidateLess candidates).Pairwise
    fun a b => ¬ key b < key a := by
  refine (sorter.sorted _ candidates candidateLess_weak).imp ?_
  intro a b after
  rw [← candidateLess_iff, Bool.not_eq_true]
  exact after

theorem key_parts {a b : Route w ε} (h : ¬ key b < key a) :
    ¬ prefixKey b < prefixKey a ∧ (prefixKey a = prefixKey b → ¬ classKey b < classKey a ∧
      (classKey a = classKey b → ¬ hopKey b < hopKey a)) := by
  have prefixLengths : (prefixKey b).length = (prefixKey a).length := rfl
  have classLengths : (classKey b).length = (classKey a).length := rfl
  rw [key, key, append_lt prefixLengths, append_lt classLengths] at h
  refine ⟨fun less => h (.inl less), fun samePrefix => ⟨?_, ?_⟩⟩
  · intro less
    exact h (.inr ⟨samePrefix.symm, .inl less⟩)
  · intro sameClass less
    exact h (.inr ⟨samePrefix.symm, .inr ⟨sameClass.symm, less⟩⟩)

omit [Egress ε] in
theorem ofPrefix_key (network : BitVec w) (length : BitVec 8) :
    (fun route : Route w ε => route.network == network && route.prefixLength == length) =
      fun route => prefixKey route == [network.toNat, 255 - length.toNat] := by
  funext route
  have small := route.prefixLength.isLt
  have small' := length.isLt
  rw [Bool.eq_iff_iff]
  simp only [prefixKey, asserted, List.cons.injEq, settled, toNat_eq]
  omega

omit [Egress ε] in
theorem leastClass_eq (network : BitVec w) (length : BitVec 8) :
    leastClass candidates network length =
      least prefixKey classKey [network.toNat, 255 - length.toNat] candidates := by
  simp only [leastClass, least, ofPrefix_key]

theorem selection_selected : Selected candidates limit (selection sorter limit candidates) where
  first network length := by
    have keys : (sorter.sort candidateLess candidates).Pairwise fun a b => ¬ key b < key a :=
      sorted_keys
    have perm := sorter.perm candidateLess candidates
    refine ⟨least prefixKey classKey [network.toNat, 255 - length.toNat]
      (sorter.sort candidateLess candidates), ?_, ?_, ?_⟩
    · rw [leastClass_eq]
      exact least_perm perm
    · refine (keys.sublist least_sublist).imp_of_mem ?_
      intro a b memA memB after
      obtain ⟨-, inPrefix⟩ := key_parts after
      obtain ⟨prefixes, classes⟩ := least_alike memA memB
      exact (inPrefix prefixes).2 classes
    · rw [ofPrefix_key, selection]
      exact select_filter (keys.imp fun after => (key_parts after).1)
        (keys.imp fun after same => ((key_parts after).2 same).1) _
  only route mem := by
    have sorted := mem_of_mem_select mem
    exact ⟨route, (sorter.perm _ _).mem_iff.mp sorted, rfl, rfl⟩

/-- The keys that are kept are those of any other order of the candidates. -/
theorem selection_keys {candidates' : List (Route w ε)} {sorter' : Sorting.Sorter (Route w ε)}
    (perm : candidates.Perm candidates') :
    (selection sorter limit candidates).map key =
      (selection sorter' limit candidates').map key := by
  have sorted : (sorter.sort candidateLess candidates).map key =
      (sorter'.sort candidateLess candidates').map key :=
    map_key_unique
      ((((sorter.perm _ _).trans perm).trans (sorter'.perm _ _).symm).map key)
      sorted_keys sorted_keys
  have byKey : ∀ (s : Sorting.Sorter (Route w ε)) (l : List (Route w ε)),
      (selection s limit l).map key =
        select (fun x y => x.take 2 == y.take 2)
          (fun x y => (x.drop 2).take 5 == (y.drop 2).take 5) limit
          ((s.sort candidateLess l).map key) := by
    intro s l
    exact map_select key (fun x y : List Nat => x.take 2 == y.take 2)
      (fun x y : List Nat => (x.drop 2).take 5 == (y.drop 2).take 5)
  rw [byKey, byKey, sorted]

end Selected

end RouterSim.Rib
