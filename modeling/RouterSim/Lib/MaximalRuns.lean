import RouterSim.Lib.Checks

/-! The maximal runs of a predicate on the naturals inside a window, and the
list of their starts from the top of the window down. -/
namespace MaximalRuns

variable {p : Nat → Bool} {low high first last : Nat}

/-- `[first, last)` is a maximal run of `p` inside `[low, high)`. -/
structure Run (p : Nat → Bool) (low high first last : Nat) : Prop where
  above : low ≤ first
  filled : first < last
  below : last ≤ high
  all : ∀ n, first ≤ n → n < last → p n = true
  opens : first = low ∨ p (first - 1) = false
  closes : last = high ∨ p last = false

section

variable (a : Run p low high first last)
include a

theorem Run.first_le (b : Run p low high first' last') (mem : first ≤ n ∧ n < last)
    (mem' : first' ≤ n ∧ n < last') : first ≤ first' := by
  by_cases behind : first ≤ first'
  · exact behind
  · obtain bottom | missing := a.opens
    · have := b.above
      omega
    · rw [b.all (first - 1) (by omega) (by omega)] at missing
      cases missing

theorem Run.last_le (b : Run p low high first' last') (mem : first ≤ n ∧ n < last)
    (mem' : first' ≤ n ∧ n < last') : last ≤ last' := by
  by_cases ahead : last ≤ last'
  · exact ahead
  · obtain top | missing := b.closes
    · have := a.below
      omega
    · rw [a.all last' (by omega) (by omega)] at missing
      cases missing

theorem Run.unique (b : Run p low high first' last') (mem : first ≤ n ∧ n < last)
    (mem' : first' ≤ n ∧ n < last') : first = first' ∧ last = last' :=
  ⟨Nat.le_antisymm (a.first_le b mem mem') (b.first_le a mem' mem),
    Nat.le_antisymm (a.last_le b mem mem') (b.last_le a mem' mem)⟩

/-- A filled stretch around a point of a run lies in the run. -/
theorem Run.stretch (mem : first ≤ n ∧ n < last) (inside : low ≤ first' ∧ last' ≤ high)
    (around : first' ≤ n ∧ n < last') (all : ∀ m, first' ≤ m → m < last' → p m = true) :
    first ≤ first' ∧ last' ≤ last := by
  constructor
  · by_cases behind : first ≤ first'
    · exact behind
    · obtain bottom | missing := a.opens
      · omega
      · rw [all (first - 1) (by omega) (by omega)] at missing
        cases missing
  · by_cases ahead : last' ≤ last
    · exact ahead
    · obtain top | missing := a.closes
      · omega
      · rw [all last (by omega) (by omega)] at missing
        cases missing

end

theorem Run.congr {q : Nat → Bool} (run : Run p low high first last)
    (same : ∀ n, n < high → p n = q n) : Run q low high first last := by
  obtain ⟨above, filled, below, all, opens, closes⟩ := run
  refine ⟨above, filled, below, fun n lower upper => ?_, opens.imp id fun missing => ?_, ?_⟩
  · rw [← same n (by omega)]
    exact all n lower upper
  · rw [← same (first - 1) (by omega)]
    exact missing
  · by_cases top : last = high
    · exact .inl top
    · rw [← same last (by omega)]
      exact .inr (closes.resolve_left top)

theorem Run.shift (base : Nat) :
    Run (fun n => p (base + n)) low high first last ↔
      Run p (base + low) (base + high) (base + first) (base + last) := by
  constructor
  · rintro ⟨above, filled, below, all, opens, closes⟩
    refine ⟨by omega, by omega, by omega, fun n lower upper => ?_, ?_, ?_⟩
    · have own := all (n - base) (by omega) (by omega)
      rwa [Nat.add_sub_cancel' (by omega)] at own
    · by_cases bottom : first = low
      · exact .inl (by omega)
      · have missing := opens.resolve_left bottom
        exact .inr (by rwa [Nat.add_sub_assoc (by omega)])
    · exact closes.imp (by omega) id
  · rintro ⟨above, filled, below, all, opens, closes⟩
    refine ⟨by omega, by omega, by omega, fun n lower upper => all _ (by omega) (by omega), ?_, ?_⟩
    · by_cases bottom : first = low
      · exact .inl bottom
      · have missing := opens.resolve_left (by omega)
        exact .inr (by rwa [Nat.add_sub_assoc (by omega)] at missing)
    · exact closes.imp (by omega) id

/-- A run starts here. -/
def isStart (p : Nat → Bool) (low n : Nat) : Bool :=
  decide (low ≤ n) && p n && (n == low || !p (n - 1))

/-- The starts below a bound, from the top down. -/
def starts (p : Nat → Bool) (low : Nat) : Nat → List Nat
  | 0 => []
  | n + 1 => if isStart p low n then n :: starts p low n else starts p low n

theorem mem_starts {bound : Nat} : n ∈ starts p low bound ↔ n < bound ∧ isStart p low n = true := by
  induction bound with
  | zero => simp [starts]
  | succ bound ih =>
    by_cases here : isStart p low bound = true
    · simp only [starts, here, if_true, List.mem_cons, ih]
      constructor
      · rintro (rfl | ⟨below, own⟩)
        · exact ⟨Nat.lt_succ_self _, here⟩
        · exact ⟨Nat.lt_succ_of_lt below, own⟩
      · rintro ⟨below, own⟩
        by_cases top : n = bound
        · exact .inl top
        · exact .inr ⟨by omega, own⟩
    · simp only [starts, here, settled, ih]
      constructor
      · rintro ⟨below, own⟩
        exact ⟨Nat.lt_succ_of_lt below, own⟩
      · rintro ⟨below, own⟩
        refine ⟨?_, own⟩
        by_cases top : n = bound
        · exact absurd (top ▸ own) here
        · omega

theorem starts_nodup (p : Nat → Bool) (low bound : Nat) : (starts p low bound).Nodup := by
  induction bound with
  | zero => exact List.nodup_nil
  | succ bound ih =>
    unfold starts
    split
    · refine List.nodup_cons.mpr ⟨fun mem => ?_, ih⟩
      exact Nat.lt_irrefl _ (mem_starts.mp mem).1
    · exact ih

theorem starts_low {bound : Nat} (below : bound ≤ low) : starts p low bound = [] := by
  refine List.eq_nil_iff_forall_not_mem.mpr fun n mem => ?_
  obtain ⟨small, start⟩ := mem_starts.mp mem
  simp only [isStart, asserted] at start
  omega

theorem starts_missing (missing : p n = false) : starts p low (n + 1) = starts p low n := by
  simp [starts, isStart, missing]

/-- Below the top of a run only its first point starts one. -/
theorem starts_filled {bound : Nat} (above : low ≤ first) (filled : first < bound)
    (all : ∀ n, first ≤ n → n < bound → p n = true) (opens : first = low ∨ p (first - 1) = false) :
    starts p low bound = first :: starts p low first := by
  induction bound with
  | zero => omega
  | succ bound ih =>
    by_cases bottom : first = bound
    · subst bottom
      have start : isStart p low first = true := by
        have here := all first (Nat.le_refl _) filled
        obtain atLow | missing := opens
        · simp [isStart, here, ← atLow]
        · simp [isStart, here, above, missing]
      simp [starts, start]
    · have inner : isStart p low bound = false := by
        have behind := all (bound - 1) (by omega) (by omega)
        have apart : (bound == low) = false := by simp; omega
        simp [isStart, behind, apart]
      simp only [starts, inner]
      exact ih (by omega) fun n lower upper => all n lower (by omega)

theorem Run.isStart (run : Run p low high first last) : isStart p low first = true := by
  have here := run.all first (Nat.le_refl _) run.filled
  obtain bottom | missing := run.opens
  · simp [MaximalRuns.isStart, here, ← bottom]
  · simp [MaximalRuns.isStart, here, run.above, missing]

end MaximalRuns
