import RouterSim.Lib.Checks

/-! Sorting by a strict weak order: what a sort may do, one that does it, and lists that are
in strict order. -/
namespace Sorting

open List

variable {α : Type} {less : α → α → Bool} {l l' : List α} {a b : α}

/-- A strict weak order. -/
structure Weak (less : α → α → Bool) : Prop where
  asymm : ∀ a b, less a b = true → less b a = false
  trans : ∀ a b c, less b a = false → less c b = false → less c a = false

/-- Nothing comes after what it should be before. -/
def Sorted (less : α → α → Bool) (l : List α) : Prop := l.Pairwise fun a b => less b a = false

/-- A sort. The order it leaves equal elements in is its own. -/
structure Sorter (α : Type) where
  sort : (α → α → Bool) → List α → List α
  perm : ∀ less l, (sort less l).Perm l
  sorted : ∀ less l, Weak less → Sorted less (sort less l)

def insert (less : α → α → Bool) (a : α) : List α → List α
  | [] => [a]
  | b :: rest => if less b a then b :: insert less a rest else a :: b :: rest

/-- Insertion sort. -/
def sort (less : α → α → Bool) (l : List α) : List α := l.foldr (insert less) []

theorem insert_perm : (insert less a l).Perm (a :: l) := by
  induction l with
  | nil => exact .refl _
  | cons b rest ih =>
    rw [insert]
    split
    · exact (ih.cons b).trans (.swap a b rest)
    · exact .refl _

theorem sort_perm : (sort less l).Perm l := by
  induction l with
  | nil => exact .refl _
  | cons a rest ih => exact insert_perm.trans (ih.cons a)

theorem insert_sorted (weak : Weak less) (h : Sorted less l) : Sorted less (insert less a l) := by
  induction l with
  | nil => exact pairwise_singleton ..
  | cons b rest ih =>
    obtain ⟨least, others⟩ := pairwise_cons.mp h
    rw [insert]
    split
    next before =>
      refine pairwise_cons.mpr ⟨fun c mem => ?_, ih others⟩
      obtain rfl | mem := mem_cons.mp (insert_perm.mem_iff.mp mem)
      · exact weak.asymm _ _ before
      · exact least c mem
    next after =>
      have first : less b a = false := by simpa using after
      refine pairwise_cons.mpr ⟨fun c mem => ?_, h⟩
      obtain rfl | mem := mem_cons.mp mem
      · exact first
      · exact weak.trans a b c first (least c mem)

theorem sort_sorted (weak : Weak less) : Sorted less (sort less l) := by
  induction l with
  | nil => exact .nil
  | cons a rest ih => exact insert_sorted weak ih

theorem sort_of_sorted (h : Sorted less l) : sort less l = l := by
  induction l with
  | nil => rfl
  | cons a rest ih =>
    obtain ⟨least, others⟩ := pairwise_cons.mp h
    have step : sort less (a :: rest) = insert less a (sort less rest) := rfl
    rw [step, ih others]
    cases rest with
    | nil => rfl
    | cons b rest => simp [insert, least b mem_cons_self]

def insertion : Sorter α where
  sort := sort
  perm := fun _ _ => sort_perm
  sorted := fun _ _ => sort_sorted

/-- Lists in strict order are told apart by their members. -/
theorem eq_of_mem_iff {lt : α → α → Prop} (asymm : ∀ a b, lt a b → ¬ lt b a)
    (h : l.Pairwise lt) (h' : l'.Pairwise lt) (same : ∀ a, a ∈ l ↔ a ∈ l') : l = l' := by
  have distinct : ∀ l : List α, l.Pairwise lt → l.Nodup := by
    intro l ordered
    apply ordered.imp
    rintro a _ less rfl
    exact asymm a a less less
  have perm := (perm_ext_iff_of_nodup (distinct l h) (distinct l' h')).mpr same
  apply perm.eq_of_pairwise _ h h'
  intro a b _ _ ab ba
  exact absurd ba (asymm a b ab)

theorem weak_of_compare {κ : Type} (cmp : κ → κ → Ordering) [Std.TransCmp cmp] (key : α → κ) :
    Weak fun a b => cmp (key a) (key b) == .lt := by
  have swap : ∀ x y, cmp x y = (cmp y x).swap := fun x y => Std.OrientedCmp.eq_swap
  have le : ∀ x y : α, (cmp (key y) (key x) == .lt) = false ↔ (cmp (key x) (key y)).isLE := by
    intro x y
    rw [swap (key x) (key y)]
    cases cmp (key y) (key x) <;> simp
  constructor
  · intro a b less
    have lt : cmp (key a) (key b) = .lt := by simpa using less
    rw [le, lt]
    rfl
  · intro a b c ba cb
    rw [le] at ba cb ⊢
    exact Std.TransCmp.isLE_trans ba cb

theorem weak_of_key (key : α → List Nat) : Weak fun a b => decide (key a < key b) where
  asymm a b less := by
    simp only [asserted, refuted] at *
    exact List.lt_asymm less
  trans a b c ba cb := by
    simp only [refuted] at *
    exact List.le_trans ba cb

/-- Distinct elements in order of keys that tell them apart are in strict order. -/
theorem Sorted.strict_of_key {key : α → List Nat}
    (h : Sorted (fun a b => decide (key a < key b)) l) (distinct : l.Nodup)
    (inj : ∀ a b, key a = key b → a = b) : l.Pairwise fun a b => key a < key b := by
  apply (h.and distinct).imp
  rintro a b ⟨after, ne⟩
  have after : ¬ key b < key a := by simpa using after
  apply Decidable.of_not_not
  intro before
  exact ne (inj a b (List.le_antisymm after before))

/-- Where the first element not less than the given one is, or the end. -/
def lowerBound (less : α → α → Bool) (l : List α) (a : α) : Nat := l.findIdx fun b => !less b a

/-- In strict order an element is found exactly where it is. -/
theorem lowerBound_eq {i : Nat} (h : l.Pairwise fun a b => less a b = true)
    (weak : Weak less) (at_i : l[i]? = some a) : lowerBound less l a = i := by
  obtain ⟨inside, get⟩ := List.getElem?_eq_some_iff.mp at_i
  have irrefl : less a a = false := by
    cases same : less a a with
    | false => rfl
    | true => exact absurd (weak.asymm a a same) (by simp [same])
  rw [lowerBound, findIdx_eq inside]
  constructor
  · simp [get, irrefl]
  · intro j before
    have less := pairwise_iff_getElem.mp h j i (by omega) inside before
    rw [get] at less
    simp [less]

theorem Sorted.strict {κ : Type} {cmp : κ → κ → Ordering} [Std.TransCmp cmp]
    [Std.LawfulEqCmp cmp] {key : α → κ} (h : Sorted (fun a b => cmp (key a) (key b) == .lt) l)
    (distinct : l.Pairwise fun a b => key a ≠ key b) :
    (l.map key).Pairwise fun x y => cmp x y = .lt := by
  apply pairwise_map.mpr
  apply (h.and distinct).imp
  rintro a b ⟨after, ne⟩
  have after : (cmp (key b) (key a) == .lt) = false := after
  have swap : cmp (key b) (key a) = (cmp (key a) (key b)).swap := Std.OrientedCmp.eq_swap
  rw [swap] at after
  cases order : cmp (key a) (key b) with
  | lt => rfl
  | eq => exact absurd (Std.LawfulEqCmp.eq_of_compare order) ne
  | gt => simp [order] at after

/-- The list without what only repeats the element before. -/
def unique [DecidableEq α] : List α → List α
  | a :: b :: rest => if a = b then unique (b :: rest) else a :: unique (b :: rest)
  | l => l

theorem mem_unique [DecidableEq α] : a ∈ unique l ↔ a ∈ l := by
  fun_induction unique l with
  | case1 b rest ih => simp [ih]
  | case2 b c rest ne ih => simp [ih]
  | case3 l => rfl

theorem unique_strict [DecidableEq α] (h : Sorted less l)
    (total : ∀ a b, less a b = false → less b a = false → a = b) :
    (unique l).Pairwise fun a b => less a b = true := by
  fun_induction unique l with
  | case1 b rest ih => exact ih (pairwise_cons.mp h).2
  | case2 b c rest ne ih =>
    obtain ⟨least, others⟩ := pairwise_cons.mp h
    refine pairwise_cons.mpr ⟨fun a mem => ?_, ih others⟩
    have mem := mem_unique.mp mem
    rw [← Bool.not_eq_false]
    intro after
    obtain rfl := total _ _ after (least a mem)
    obtain rfl | mem := mem_cons.mp mem
    · exact ne rfl
    · exact ne (total _ _ ((pairwise_cons.mp others).1 _ mem) (least c mem_cons_self))
  | case3 l short =>
    match l with
    | [] => exact .nil
    | [a] => exact pairwise_singleton ..
    | a :: b :: rest => exact absurd rfl (short a b rest)

end Sorting
