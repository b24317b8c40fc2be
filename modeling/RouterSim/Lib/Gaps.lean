/-! The gaps between the members of a sorted ring, the last followed by the first: which values
a gap covers. -/
namespace Gaps

open List

variable {κ : Type}

/-- The value lies strictly between the owner of a gap and the next member. A ring of one has
one gap, with everything but its member in it. -/
def covers (cmp : κ → κ → Ordering) (owner next value : κ) : Bool :=
  if cmp owner value = .eq then false
  else
    match cmp owner next with
    | .lt => cmp owner value == .lt && cmp value next == .lt
    | .gt => cmp owner value == .lt || cmp value next == .lt
    | .eq => true

section Partition

variable (cmp : κ → κ → Ordering) {first a value : κ} {rest : List κ}

/-- Each member with the one after it, the last with the first. -/
def gaps (first : κ) (ring : List κ) : List (κ × κ) := ring.zip (ring.tail ++ [first])

/-- How many members the value is equal to, and how many gaps it lies in. -/
def places (first : κ) (ring : List κ) (value : κ) : Nat :=
  ring.countP (fun owner => cmp owner value == .eq) +
    (gaps first ring).countP fun gap => covers cmp gap.1 gap.2 value

theorem places_cons {b : κ} : places cmp first (a :: b :: rest) value =
    (if cmp a value == .eq then 1 else 0) + (if covers cmp a b value then 1 else 0) +
      places cmp first (b :: rest) value := by
  simp only [places, gaps, tail_cons, cons_append, zip_cons_cons, countP_cons]
  omega

theorem places_singleton : places cmp first [a] value =
    (if cmp a value == .eq then 1 else 0) + if covers cmp a first value then 1 else 0 := by
  simp [places, gaps]

variable [Std.TransCmp cmp]

/-- A value before a run of the ring lies in the run's last gap if it is before the first
member, and else nowhere in the run. -/
theorem places_before (sorted : (a :: rest).Pairwise fun a b => cmp a b = .lt)
    (start : (cmp first a).isLE = true) (before : cmp value a = .lt) :
    places cmp first (a :: rest) value = if cmp value first = .lt then 1 else 0 := by
  have after : cmp a value = .gt := Std.OrientedCmp.gt_of_lt before
  induction rest generalizing a with
  | nil =>
    have back : cmp a first = .gt ∨ cmp a first = .eq ∧ cmp value first = .lt := by
      cases order : cmp a first with
      | lt => exact absurd start (Std.OrientedCmp.not_isLE_of_lt order)
      | gt => exact .inl rfl
      | eq => exact .inr ⟨rfl, Std.TransCmp.lt_of_lt_of_eq before order⟩
    obtain back | ⟨back, early⟩ := back
    · simp [places_singleton, covers, after, back]
    · simp [places_singleton, covers, after, back, early]
  | cons b rest ih =>
    obtain ⟨least, others⟩ := pairwise_cons.mp sorted
    have next : cmp a b = .lt := least b mem_cons_self
    have beyond : cmp value b = .lt := Std.TransCmp.lt_trans before next
    have start' : (cmp first b).isLE = true :=
      Std.TransCmp.isLE_trans start (Ordering.isLE_of_eq_lt next)
    rw [places_cons, ih others start' beyond (Std.OrientedCmp.gt_of_lt beyond)]
    simp [covers, after, next]

/-- A value from the start of a run on is one of its members or lies in one of its gaps. -/
theorem places_from (sorted : (a :: rest).Pairwise fun a b => cmp a b = .lt)
    (start : (cmp first a).isLE = true) (from_a : (cmp a value).isLE = true) :
    places cmp first (a :: rest) value = 1 := by
  have late : cmp value first ≠ .lt := fun early =>
    Std.OrientedCmp.not_isLE_of_lt early (Std.TransCmp.isLE_trans start from_a)
  induction rest generalizing a with
  | nil =>
    cases here : cmp a value with
    | gt => simp [here] at from_a
    | eq => simp [places_singleton, covers, here]
    | lt =>
      cases back : cmp a first with
      | lt => exact absurd start (Std.OrientedCmp.not_isLE_of_lt back)
      | gt => simp [places_singleton, covers, here, back]
      | eq => simp [places_singleton, covers, here, back]
  | cons b rest ih =>
    obtain ⟨least, others⟩ := pairwise_cons.mp sorted
    have next : cmp a b = .lt := least b mem_cons_self
    have start' : (cmp first b).isLE = true :=
      Std.TransCmp.isLE_trans start (Ordering.isLE_of_eq_lt next)
    rw [places_cons]
    cases there : cmp value b with
    | lt =>
      rw [places_before cmp others start' there, if_neg late]
      cases here : cmp a value with
      | gt => simp [here] at from_a
      | eq => simp [covers, here]
      | lt => simp [covers, here, next, there]
    | eq | gt =>
      have beyond : (cmp b value).isLE = true :=
        Std.OrientedCmp.isLE_of_isGE (by rw [there]; rfl)
      have here : cmp a value = .lt := Std.TransCmp.lt_of_lt_of_isLE next beyond
      rw [ih others start' beyond]
      simp [covers, here, next, there]

/-- Every value is one member of a sorted ring or lies in one of its gaps. -/
theorem places_ring {ring : List κ} (start : ring[0]? = some first)
    (sorted : ring.Pairwise fun a b => cmp a b = .lt) (value : κ) :
    places cmp first ring value = 1 := by
  cases ring with
  | nil => cases start
  | cons a rest =>
    obtain rfl := Option.some.inj start
    have same : (cmp a a).isLE = true := Std.ReflCmp.isLE_rfl
    cases there : cmp value a with
    | lt => rw [places_before cmp sorted same there, if_pos there]
    | eq | gt =>
      exact places_from cmp sorted same (Std.OrientedCmp.isLE_of_isGE (by rw [there]; rfl))

omit [Std.TransCmp cmp] in
theorem getElem?_gaps {ring : List κ} {i : Nat} {owner next : κ} (start : ring[0]? = some first)
    (here : ring[i]? = some owner) (there : ring[(i + 1) % ring.length]? = some next) :
    (gaps first ring)[i]? = some (owner, next) := by
  have inside := (List.getElem?_eq_some_iff.mp here).1
  rw [gaps, List.getElem?_zip_eq_some]
  refine ⟨here, ?_⟩
  by_cases last : i + 1 = ring.length
  · rw [last, Nat.mod_self, start] at there
    rw [List.getElem?_append_right (by simp; omega), length_tail]
    have zero : i - (ring.length - 1) = 0 := by omega
    rw [zero]
    exact there
  · rw [Nat.mod_eq_of_lt (by omega)] at there
    rw [List.getElem?_append_left (by simp; omega), List.getElem?_tail]
    exact there

theorem covers_of_mem {ring : List κ} (sorted : ring.Pairwise fun a b => cmp a b = .lt) {i : Nat}
    {owner next : κ} (here : ring[i]? = some owner)
    (there : ring[(i + 1) % ring.length]? = some next) (mem : value ∈ ring) :
    covers cmp owner next value = false := by
  obtain ⟨first, start⟩ : ∃ first, ring[0]? = some first :=
    ⟨_, List.getElem?_eq_getElem (length_pos_of_mem mem)⟩
  have whole := places_ring cmp start sorted value
  have same : cmp value value = .eq := Std.ReflCmp.compare_self
  have member : 0 < ring.countP fun owner => cmp owner value == .eq :=
    countP_pos_iff.mpr ⟨value, mem, beq_iff_eq.mpr same⟩
  have none : (gaps first ring).countP (fun gap => covers cmp gap.1 gap.2 value) = 0 := by
    rw [places] at whole
    omega
  exact Bool.eq_false_iff.mpr
    (countP_eq_zero.mp none _ (mem_of_getElem? (getElem?_gaps start here there)))

/-- Rows that name a sorted ring, each with its next member: a value is the member of one row, or
lies in the gap of one. -/
theorem rows_partition {α : Type} {rows : List α} (owner next : α → κ) (some_row : rows ≠ [])
    (sorted : (rows.map owner).Pairwise fun a b => cmp a b = .lt)
    (ring : ∀ (i : Nat) row, rows[i]? = some row →
      rows[(i + 1) % rows.length]?.map owner = some (next row)) (value : κ) :
    rows.countP (fun row => cmp (owner row) value == .eq) +
      rows.countP (fun row => covers cmp (owner row) (next row) value) = 1 := by
  obtain ⟨first, start⟩ : ∃ first, (rows.map owner)[0]? = some first :=
    ⟨_, List.getElem?_eq_getElem (by simpa using length_pos_iff.mpr some_row)⟩
  have gaps : gaps first (rows.map owner) = rows.map fun row => (owner row, next row) := by
    apply ext_getElem?
    intro i
    cases here : rows[i]? with
    | none =>
      have past := List.getElem?_eq_none_iff.mp here
      rw [List.getElem?_eq_none (by simp [Gaps.gaps]; omega),
        List.getElem?_eq_none (by simpa using past)]
    | some row =>
      rw [List.getElem?_map, here]
      apply getElem?_gaps start
      · rw [List.getElem?_map, here]
        rfl
      · rw [List.getElem?_map, length_map, ring i row here]
  have whole := places_ring cmp start sorted value
  rwa [places, gaps, countP_map, countP_map] at whole

end Partition

end Gaps
