import RouterSim.Lib.Checks

/-! The best value that a scan over rows has met. -/
namespace Scan

open List

variable {α β : Type}

/-- Keep the value of a row that counts when it beats the one kept so far. -/
def best (counts : α → Bool) (value : α → β) (beats : β → β → Bool) (rows : List α) : Option β :=
  rows.foldl (fun kept row =>
    if counts row && kept.all (beats (value row)) then some (value row) else kept) none

variable {counts : α → Bool} {value : α → β} {beats : β → β → Bool} {rows : List α}

/-- No row counts, or the value is that of a row that counts and none that counts ranks above. -/
def Found (counts : α → Bool) (value : α → β) (rank : β → Int) (rows : List α) : Option β → Prop
  | none => ∀ row ∈ rows, counts row = false
  | some found => (∃ row ∈ rows, counts row = true ∧ value row = found) ∧
      ∀ row ∈ rows, counts row = true → rank (value row) ≤ rank found

variable (rank : β → Int) (ranks : ∀ a b, if beats a b then rank b ≤ rank a else rank a ≤ rank b)
include ranks

theorem Found.row {kept : Option β} (h : Found counts value rank rows kept) (row : α) :
    Found counts value rank (rows ++ [row])
      (if counts row && kept.all (beats (value row)) then some (value row) else kept) := by
  have last : ∀ {p : α → Prop}, (∀ old ∈ rows, p old) → p row → ∀ any ∈ rows ++ [row], p any := by
    intro p old new any mem
    obtain mem | mem := mem_append.mp mem
    · exact old any mem
    · exact mem_singleton.mp mem ▸ new
  cases counted : counts row with
  | false =>
    cases kept with
    | none => exact last h counted
    | some found =>
      obtain ⟨⟨best, mem, same⟩, most⟩ := h
      exact ⟨⟨best, mem_append_left _ mem, same⟩, last most (by simp [counted])⟩
  | true =>
    have new : ∃ any ∈ rows ++ [row], counts any = true ∧ value any = value row :=
      ⟨row, by simp, counted, rfl⟩
    cases kept with
    | none =>
      exact ⟨new, last (fun old mem yes => by simp [h old mem] at yes) fun _ => Int.le_refl _⟩
    | some found =>
      obtain ⟨⟨best, mem, same⟩, most⟩ := h
      have order := ranks (value row) found
      cases beaten : beats (value row) found with
      | true =>
        rw [beaten, if_pos rfl] at order
        simp only [Option.all_some, beaten]
        exact ⟨new, last (fun old mem yes => Int.le_trans (most old mem yes) order)
          fun _ => Int.le_refl _⟩
      | false =>
        rw [beaten, if_neg Bool.false_ne_true] at order
        simp only [Option.all_some, beaten]
        exact ⟨⟨best, mem_append_left _ mem, same⟩, last most fun _ => order⟩

variable (beats) in
theorem best_found (counts : α → Bool) (value : α → β) (rows : List α) :
    Found counts value rank rows (best counts value beats rows) := by
  have from_seen : ∀ (later seen : List α) kept, Found counts value rank seen kept →
      Found counts value rank (seen ++ later) (later.foldl (fun kept row =>
        if counts row && kept.all (beats (value row)) then some (value row) else kept) kept) := by
    intro later
    induction later with
    | nil =>
      intro seen kept h
      rwa [append_nil]
    | cons row later ih =>
      intro seen kept h
      rw [append_cons]
      exact ih _ _ (h.row rank ranks row)
  exact from_seen rows [] none fun _ absent => absurd absent not_mem_nil

end Scan
