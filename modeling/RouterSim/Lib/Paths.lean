import RouterSim.Lib.Checks

/-! Names as paths. A path is below its suffixes; it exists when something is owned at or
below it, and a path that does not exist has a closest suffix that does. -/
namespace Paths

variable {α : Type} {owners : List (List α)} {path other c d : List α}

def Exist (owners : List (List α)) (path : List α) : Prop := ∃ owner ∈ owners, path <:+ owner

instance decidableExist [DecidableEq α] (owners : List (List α)) (path : List α) :
    Decidable (Exist owners path) :=
  inferInstanceAs (Decidable (∃ owner ∈ owners, path <:+ owner))

theorem Exist.above (h : Exist owners path) (below : other <:+ path) : Exist owners other := by
  obtain ⟨owner, mem, suffix⟩ := h
  exact ⟨owner, mem, below.trans suffix⟩

/-- The longest suffix of a path that exists. -/
structure Closest (owners : List (List α)) (path c : List α) : Prop where
  above : c <:+ path
  exist : Exist owners c
  longest : ∀ other, other <:+ path → Exist owners other → other <:+ c

theorem suffix_antisymm (h : c <:+ d) (h' : d <:+ c) : c = d :=
  h.eq_of_length (Nat.le_antisymm h.length_le h'.length_le)

theorem Closest.unique (h : Closest owners path c) (h' : Closest owners path d) : c = d :=
  suffix_antisymm (h'.longest c h.above h.exist) (h.longest d h'.above h'.exist)

/-- Below a path that does not exist nothing comes closer. -/
theorem Closest.below (h : Closest owners path c) (absent : ¬ Exist owners path)
    (below : path <:+ other) : Closest owners other c where
  above := h.above.trans below
  exist := h.exist
  longest := by
    intro ancestor suffix exist
    obtain within | beyond := List.suffix_or_suffix_of_suffix suffix below
    · exact h.longest ancestor within exist
    · exact absurd (exist.above beyond) absent

/-- The next closer path: one element longer than a proper suffix. -/
theorem exists_next (h : c <:+ path) (lt : c.length < path.length) : ∃ a, (a :: c) <:+ path := by
  obtain ⟨front, rfl⟩ := h
  obtain rfl | ⟨front, a, rfl⟩ := List.eq_nil_or_concat front
  · simp at lt
  · exact ⟨a, front, by simp⟩

/-- An existing path is the closest of the absent paths directly under it. -/
theorem closest_parent {a : α} (absent : ¬ Exist owners (a :: c)) (exist : Exist owners c) :
    Closest owners (a :: c) c where
  above := List.suffix_cons a c
  exist := exist
  longest := by
    intro other suffix here
    obtain rfl | above := List.suffix_cons_iff.mp suffix
    · exact absurd here absent
    · exact above

end Paths
