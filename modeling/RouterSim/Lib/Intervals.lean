/-! Rows of half-open intervals of natural numbers, in order and apart from each other. A set of
numbers that has such a row has only one. -/
namespace Intervals

open List

structure Interval where
  first : Nat
  last : Nat
  deriving DecidableEq

namespace Interval

def Has (i : Interval) (n : Nat) : Prop := i.first ≤ n ∧ n < i.last

instance (i : Interval) (n : Nat) : Decidable (i.Has n) :=
  inferInstanceAs (Decidable (i.first ≤ n ∧ n < i.last))

def length (i : Interval) : Nat := i.last - i.first

end Interval

def Covers (row : List Interval) (n : Nat) : Prop := ∃ i ∈ row, i.Has n

/-- Each interval has a number, and the next one leaves a number between them. -/
structure Separated (row : List Interval) : Prop where
  filled : ∀ i ∈ row, i.first < i.last
  apart : row.Pairwise fun a b => a.last < b.first

/-- The interval grown over the leading ones that it meets. -/
def absorb (x : Interval) : List Interval → List Interval
  | [] => [x]
  | r :: rest =>
    if r.first ≤ x.last then absorb { first := min r.first x.first, last := max r.last x.last } rest
    else x :: r :: rest

def insert (x : Interval) : List Interval → List Interval
  | [] => [x]
  | r :: rest => if r.last < x.first then r :: insert x rest else absorb x (r :: rest)

section Rows

variable {row rest : List Interval} {r x : Interval} {n bound : Nat}

@[simp] theorem covers_nil : ¬ Covers [] n := by simp [Covers]

@[simp] theorem covers_cons : Covers (r :: rest) n ↔ r.Has n ∨ Covers rest n := by simp [Covers]

theorem separated_nil : Separated [] := ⟨by simp, .nil⟩

theorem separated_cons : Separated (r :: rest) ↔
    r.first < r.last ∧ (∀ i ∈ rest, r.last < i.first) ∧ Separated rest := by
  constructor
  · rintro ⟨filled, apart⟩
    obtain ⟨own, others⟩ := pairwise_cons.mp apart
    obtain ⟨this, those⟩ := forall_mem_cons.mp filled
    exact ⟨this, own, those, others⟩
  · rintro ⟨this, own, those, others⟩
    exact ⟨forall_mem_cons.mpr ⟨this, those⟩, pairwise_cons.mpr ⟨own, others⟩⟩

/-- What bounds the first numbers from below bounds those of the row that absorbs. -/
theorem absorb_above (above : ∀ i ∈ row, bound < i.first) (own : bound < x.first) :
    ∀ i ∈ absorb x row, bound < i.first := by
  induction row generalizing x with
  | nil => simpa [absorb] using own
  | cons r rest ih =>
    obtain ⟨this, those⟩ := forall_mem_cons.mp above
    rw [absorb]
    split
    · apply ih those
      dsimp only
      omega
    · exact forall_mem_cons.mpr ⟨own, above⟩

theorem absorb_below (below : ∀ i ∈ row, i.last ≤ bound) (own : x.last ≤ bound) :
    ∀ i ∈ absorb x row, i.last ≤ bound := by
  induction row generalizing x with
  | nil => simpa [absorb] using own
  | cons r rest ih =>
    obtain ⟨this, those⟩ := forall_mem_cons.mp below
    rw [absorb]
    split
    · apply ih those
      dsimp only
      omega
    · exact forall_mem_cons.mpr ⟨own, below⟩

theorem separated_absorb (separated : Separated row) (filled : x.first < x.last) :
    Separated (absorb x row) := by
  induction row generalizing x with
  | nil => exact separated_cons.mpr ⟨filled, by simp, separated_nil⟩
  | cons r rest ih =>
    obtain ⟨this, own, those⟩ := separated_cons.mp separated
    rw [absorb]
    split
    · apply ih those
      dsimp only
      omega
    · next apart =>
      refine separated_cons.mpr ⟨filled, ?_, separated⟩
      refine forall_mem_cons.mpr ⟨by omega, fun i mem => ?_⟩
      have := own i mem
      omega

theorem covers_absorb (separated : Separated row) (filled : x.first < x.last)
    (meets : ∀ i ∈ row, x.first ≤ i.last) : Covers (absorb x row) n ↔ x.Has n ∨ Covers row n := by
  induction row generalizing x with
  | nil => simp [absorb]
  | cons r rest ih =>
    obtain ⟨this, own, those⟩ := separated_cons.mp separated
    obtain ⟨meet, others⟩ := forall_mem_cons.mp meets
    rw [absorb]
    split
    · next touch =>
      rw [ih those (by dsimp only; omega) (fun i mem => by
        have := others i mem
        dsimp only
        omega), covers_cons, ← or_assoc]
      refine or_congr ?_ Iff.rfl
      simp only [Interval.Has]
      omega
    · simp

theorem insert_above (above : ∀ i ∈ row, bound < i.first) (own : bound < x.first) :
    ∀ i ∈ insert x row, bound < i.first := by
  induction row with
  | nil => simpa [insert] using own
  | cons r rest ih =>
    obtain ⟨this, those⟩ := forall_mem_cons.mp above
    rw [insert]
    split
    · exact forall_mem_cons.mpr ⟨this, ih those⟩
    · exact absorb_above above own

theorem insert_below (below : ∀ i ∈ row, i.last ≤ bound) (own : x.last ≤ bound) :
    ∀ i ∈ insert x row, i.last ≤ bound := by
  induction row with
  | nil => simpa [insert] using own
  | cons r rest ih =>
    obtain ⟨this, those⟩ := forall_mem_cons.mp below
    rw [insert]
    split
    · exact forall_mem_cons.mpr ⟨this, ih those⟩
    · exact absorb_below below own

theorem separated_insert (separated : Separated row) (filled : x.first < x.last) :
    Separated (insert x row) := by
  induction row with
  | nil => exact separated_cons.mpr ⟨filled, by simp, separated_nil⟩
  | cons r rest ih =>
    obtain ⟨this, own, those⟩ := separated_cons.mp separated
    rw [insert]
    split
    · next before => exact separated_cons.mpr ⟨this, insert_above own before, ih those⟩
    · exact separated_absorb separated filled

theorem covers_insert (separated : Separated row) (filled : x.first < x.last) :
    Covers (insert x row) n ↔ x.Has n ∨ Covers row n := by
  induction row with
  | nil => simp [insert]
  | cons r rest ih =>
    obtain ⟨this, own, those⟩ := separated_cons.mp separated
    rw [insert]
    split
    · rw [covers_cons, covers_cons, ih those, or_left_comm]
    apply covers_absorb separated filled
    refine forall_mem_cons.mpr ⟨by omega, fun i mem => ?_⟩
    have := own i mem
    have := those.filled i mem
    omega

theorem insert_behind (behind : ∀ i ∈ row, i.last < x.first) : insert x row = row ++ [x] := by
  induction row with
  | nil => rfl
  | cons r rest ih =>
    obtain ⟨this, those⟩ := forall_mem_cons.mp behind
    rw [insert, if_pos this, ih those]
    rfl

theorem Separated.sublist {part : List Interval} (separated : Separated row)
    (sublist : part.Sublist row) : Separated part where
  filled i mem := separated.filled i (sublist.subset mem)
  apart := separated.apart.sublist sublist

theorem covers_first (filled : r.first < r.last) (own : ∀ i ∈ rest, r.last < i.first) :
    Covers (r :: rest) r.first ∧ ∀ n, Covers (r :: rest) n → r.first ≤ n := by
  refine ⟨covers_cons.mpr (.inl ⟨Nat.le_refl _, filled⟩), fun n covered => ?_⟩
  obtain here | ⟨i, mem, here⟩ := covers_cons.mp covered
  · exact here.1
  · have := own i mem
    exact Nat.le_trans (by omega) here.1

theorem not_covers_last (own : ∀ i ∈ rest, r.last < i.first) : ¬ Covers (r :: rest) r.last := by
  intro covered
  obtain here | ⟨i, mem, here⟩ := covers_cons.mp covered
  · exact Nat.lt_irrefl _ here.2
  · have := own i mem
    exact absurd here.1 (by omega)

/-- What the rest of a row covers lies behind its first interval. -/
theorem covers_rest (own : ∀ i ∈ rest, r.last < i.first) :
    Covers rest n ↔ Covers (r :: rest) n ∧ r.last ≤ n := by
  rw [covers_cons]
  constructor
  · rintro ⟨i, mem, here⟩
    have := own i mem
    exact ⟨.inr ⟨i, mem, here⟩, Nat.le_trans (by omega) here.1⟩
  · rintro ⟨here | there, behind⟩
    · exact absurd here.2 (by omega)
    · exact there

theorem separated_ext {row' : List Interval} (separated : Separated row)
    (separated' : Separated row') (same : ∀ n, Covers row n ↔ Covers row' n) : row = row' := by
  induction row generalizing row' with
  | nil =>
    cases row' with
    | nil => rfl
    | cons r' rest' =>
      have filled := (separated_cons.mp separated').1
      have here : Covers (r' :: rest') r'.first := covers_cons.mpr (.inl ⟨Nat.le_refl _, filled⟩)
      exact absurd ((same _).mpr here) covers_nil
  | cons r rest ih =>
    obtain ⟨filled, own, others⟩ := separated_cons.mp separated
    cases row' with
    | nil =>
      have here : Covers (r :: rest) r.first := covers_cons.mpr (.inl ⟨Nat.le_refl _, filled⟩)
      exact absurd ((same _).mp here) covers_nil
    | cons r' rest' =>
      obtain ⟨filled', own', others'⟩ := separated_cons.mp separated'
      have start := covers_first filled own
      have start' := covers_first filled' own'
      have first : r.first = r'.first := by
        have here := (start.2 _ ((same _).mpr start'.1))
        have there := (start'.2 _ ((same _).mp start.1))
        omega
      have last : r.last = r'.last := by
        have ends := not_covers_last own
        have ends' := not_covers_last own'
        rw [same, covers_cons, not_or] at ends
        rw [← same, covers_cons, not_or] at ends'
        have here := ends.1
        have there := ends'.1
        simp only [Interval.Has] at here there
        omega
      obtain rfl : r = r' := by
        cases r
        cases r'
        simp_all
      rw [ih others others' fun n => ?_]
      rw [covers_rest own, covers_rest own', same]

end Rows

section Sums

/-- The sum of a function over so many numbers from the first on. -/
def sumFrom (f : Nat → Nat) (first : Nat) : Nat → Nat
  | 0 => 0
  | n + 1 => f first + sumFrom f (first + 1) n

/-- The sum of a function over an interval. -/
def sumOver (f : Nat → Nat) (first last : Nat) : Nat := sumFrom f first (last - first)

def total : List Interval → Nat
  | [] => 0
  | r :: rest => r.length + total rest

instance decidableCovers (row : List Interval) (n : Nat) : Decidable (Covers row n) :=
  List.decidableBEx _ _

variable {f g : Nat → Nat} {first last : Nat}

theorem sumFrom_append (f : Nat → Nat) (first m n : Nat) :
    sumFrom f first (m + n) = sumFrom f first m + sumFrom f (first + m) n := by
  induction m generalizing first with
  | zero => simp [sumFrom]
  | succ m ih =>
    rw [Nat.succ_add, sumFrom, sumFrom, ih, Nat.add_assoc, Nat.add_assoc, Nat.add_comm 1 m]

theorem sumOver_split {middle : Nat} (low : first ≤ middle) (high : middle ≤ last) :
    sumOver f first last = sumOver f first middle + sumOver f middle last := by
  have same : first + (middle - first) = middle := by omega
  have size : last - first = (middle - first) + (last - middle) := by omega
  rw [sumOver, size, sumFrom_append, same]
  rfl

theorem sumOver_congr (same : ∀ n, first ≤ n → n < last → f n = g n) :
    sumOver f first last = sumOver g first last := by
  have each : ∀ len first, (∀ n, first ≤ n → n < first + len → f n = g n) →
      sumFrom f first len = sumFrom g first len := by
    intro len
    induction len with
    | zero => exact fun _ _ => rfl
    | succ len ih =>
      intro first same
      rw [sumFrom, sumFrom, same first (Nat.le_refl _) (by omega),
        ih _ fun n low high => same n (by omega) (by omega)]
  exact each _ _ fun n low high => same n low (by omega)

theorem sumOver_const {c : Nat} (same : ∀ n, first ≤ n → n < last → f n = c) :
    sumOver f first last = (last - first) * c := by
  have each : ∀ len first, sumFrom (fun _ => c) first len = len * c := by
    intro len
    induction len with
    | zero => simp [sumFrom]
    | succ len ih => exact fun first => by rw [sumFrom, ih, Nat.succ_mul, Nat.add_comm]
  rw [sumOver_congr same, sumOver, each]

/-- A sum is smaller than another one exactly when it is so somewhere. -/
theorem sumOver_lt_iff (less : ∀ n, f n ≤ g n) :
    sumOver f first last < sumOver g first last ↔ ∃ n, first ≤ n ∧ n < last ∧ f n < g n := by
  have le : ∀ len first, sumFrom f first len ≤ sumFrom g first len := by
    intro len
    induction len with
    | zero => exact fun _ => Nat.le_refl _
    | succ len ih => exact fun first => Nat.add_le_add (less first) (ih _)
  have each : ∀ len first, sumFrom f first len < sumFrom g first len ↔
      ∃ n, first ≤ n ∧ n < first + len ∧ f n < g n := by
    intro len
    induction len with
    | zero =>
      intro first
      simp only [sumFrom, Nat.lt_irrefl, false_iff]
      rintro ⟨n, low, high, -⟩
      omega
    | succ len ih =>
      intro first
      have here := less first
      have there := le len (first + 1)
      have split : sumFrom f first (len + 1) < sumFrom g first (len + 1) ↔
          f first < g first ∨ sumFrom f (first + 1) len < sumFrom g (first + 1) len := by
        rw [sumFrom, sumFrom]
        omega
      rw [split, ih]
      constructor
      · rintro (lt | ⟨n, low, high, lt⟩)
        · exact ⟨first, Nat.le_refl _, by omega, lt⟩
        · exact ⟨n, by omega, by omega, lt⟩
      · rintro ⟨n, low, high, lt⟩
        by_cases same : n = first
        · exact .inl (same ▸ lt)
        · exact .inr ⟨n, by omega, by omega, lt⟩
  rw [sumOver, sumOver, each]
  constructor
  · rintro ⟨n, low, high, lt⟩
    exact ⟨n, low, by omega, lt⟩
  · rintro ⟨n, low, high, lt⟩
    exact ⟨n, low, by omega, lt⟩

theorem total_eq_sumOver {row : List Interval} (separated : Separated row)
    (above : ∀ i ∈ row, first ≤ i.first) (below : ∀ i ∈ row, i.last ≤ last) :
    total row = sumOver (fun n => if Covers row n then 1 else 0) first last := by
  induction row generalizing first with
  | nil =>
    rw [sumOver_const fun n _ _ => if_neg covers_nil]
    rfl
  | cons r rest ih =>
    obtain ⟨filled, own, others⟩ := separated_cons.mp separated
    obtain ⟨low, -⟩ := forall_mem_cons.mp above
    obtain ⟨high, behind⟩ := forall_mem_cons.mp below
    have start := covers_first filled own
    have nothing : sumOver (fun n => if Covers (r :: rest) n then 1 else 0) first r.first = 0 := by
      rw [sumOver_const (c := 0) fun n _ less => if_neg fun covered => ?_, Nat.mul_zero]
      exact absurd (start.2 n covered) (by omega)
    have all : sumOver (fun n => if Covers (r :: rest) n then 1 else 0) r.first r.last =
        r.length := by
      rw [sumOver_const (c := 1) fun n low less => if_pos (covers_cons.mpr (.inl ⟨low, less⟩)),
        Nat.mul_one, Interval.length]
    rw [sumOver_split low (by omega), sumOver_split (Nat.le_of_lt filled) high, nothing, all,
      Nat.zero_add, total, ih others (fun i mem => Nat.le_of_lt (own i mem)) behind]
    congr 1
    apply sumOver_congr
    intro n less _
    have same : Covers rest n ↔ Covers (r :: rest) n := (covers_rest own).trans (and_iff_left less)
    simp only [same]

/-- A row that covers what another one does has a larger total when it covers more. -/
theorem total_lt_iff {row row' : List Interval} (separated : Separated row)
    (separated' : Separated row') (within : ∀ n, Covers row n → Covers row' n) :
    total row < total row' ↔ ∃ n, Covers row' n ∧ ¬ Covers row n := by
  have bounded : ∀ l : List Interval, ∃ bound, ∀ i ∈ l, i.last ≤ bound := by
    intro l
    induction l with
    | nil => exact ⟨0, by simp⟩
    | cons r rest ih =>
      obtain ⟨bound, below⟩ := ih
      refine ⟨max r.last bound, forall_mem_cons.mpr ⟨by omega, fun i mem => ?_⟩⟩
      have := below i mem
      omega
  obtain ⟨bound, below⟩ := bounded (row ++ row')
  obtain ⟨here, there⟩ := forall_mem_append.mp below
  rw [total_eq_sumOver separated (fun _ _ => Nat.zero_le _) here,
    total_eq_sumOver separated' (fun _ _ => Nat.zero_le _) there, sumOver_lt_iff fun n => ?_]
  · constructor
    · rintro ⟨n, -, -, lt⟩
      refine ⟨n, ?_, ?_⟩
      · apply Decidable.of_not_not
        intro not
        simp [not] at lt
      · intro covered
        simp [covered, within n covered] at lt
    · rintro ⟨n, covered, not⟩
      obtain ⟨i, mem, own⟩ := covered
      refine ⟨n, Nat.zero_le _, Nat.lt_of_lt_of_le own.2 (there i mem), ?_⟩
      have more : Covers row' n := ⟨i, mem, own⟩
      simp [more, not]
  · by_cases covered : Covers row n
    · simp [covered, within n covered]
    · simp [covered]

end Sums

end Intervals
