/-! A circular arena: a list used as a ring, addressed by offsets from a head. -/
namespace Circular

open List

variable {α : Type}

def slot (size head offset : Nat) : Nat := (head + offset) % size

/-- The `n` elements that start at the head, in ring order. -/
def window (arena : List α) (fallback : α) (head n : Nat) : List α :=
  (List.range n).map fun i => arena.getD (slot arena.length head i) fallback

/-- Store a list at consecutive offsets. -/
def store (arena : List α) (head : Nat) : Nat → List α → List α
  | _, [] => arena
  | offset, x :: xs => store (arena.set (slot arena.length head offset) x) head (offset + 1) xs

/-- Change every one of the `n` elements that start at the head. -/
def update (arena : List α) (head : Nat) (f : α → α) : Nat → List α
  | 0 => arena
  | n + 1 => (update arena head f n).modify (slot arena.length head n) f

variable {size head i j n : Nat}

theorem slot_lt (h : 0 < size) (head offset : Nat) : slot size head offset < size :=
  Nat.mod_lt _ h

theorem slot_advance (size head count offset : Nat) :
    slot size ((head + count) % size) offset = slot size head (count + offset) := by
  simp [slot, Nat.add_assoc]

/-- Offsets less than one turn apart name different slots. -/
theorem slot_ne (hij : i < j) (hj : j < i + size) : slot size head i ≠ slot size head j := by
  intro h
  have hd : (head + j - (head + i)) % size = 0 := Nat.sub_mod_eq_zero_of_mod_eq h.symm
  have hs : head + j - (head + i) = j - i := by omega
  rw [hs, Nat.mod_eq_of_lt (by omega)] at hd
  omega

theorem slot_inj (hi : i < size) (hj : j < size)
    (h : slot size head i = slot size head j) : i = j := by
  rcases Nat.lt_trichotomy i j with hlt | heq | hgt
  · exact absurd h (slot_ne hlt (by omega))
  · exact heq
  · exact absurd h.symm (slot_ne hgt (by omega))

@[simp] theorem window_length (arena : List α) (fallback : α) (head n : Nat) :
    (window arena fallback head n).length = n := by simp [window]

theorem window_getElem {arena : List α} {fallback : α}
    (h : i < (window arena fallback head n).length) :
    (window arena fallback head n)[i] = arena.getD (slot arena.length head i) fallback := by
  simp [window]

theorem window_succ (arena : List α) (fallback : α) (head n : Nat) :
    window arena fallback head (n + 1) =
      window arena fallback head n ++ [arena.getD (slot arena.length head n) fallback] := by
  simp [window, range_succ]

theorem window_append (arena : List α) (fallback : α) (head n m : Nat) :
    window arena fallback head (n + m) = window arena fallback head n ++
      window arena fallback ((head + n) % arena.length) m := by
  induction m with
  | zero => simp [window]
  | succ m ih =>
    rw [← Nat.add_assoc, window_succ, ih, window_succ, slot_advance, append_assoc]

theorem window_take (arena : List α) (fallback : α) {k : Nat} (h : k ≤ n) :
    (window arena fallback head n).take k = window arena fallback head k := by
  obtain ⟨m, rfl⟩ := Nat.exists_eq_add_of_le h
  rw [window_append, take_left' (window_length _ _ _ _)]

theorem window_drop (arena : List α) (fallback : α) (head : Nat) {k : Nat} (h : k ≤ n) :
    (window arena fallback head n).drop k =
      window arena fallback ((head + k) % arena.length) (n - k) := by
  obtain ⟨m, rfl⟩ := Nat.exists_eq_add_of_le h
  rw [window_append, drop_left' (window_length _ _ _ _), Nat.add_sub_cancel_left]

theorem window_set_outside {arena : List α} {fallback x : α} (hn : n ≤ j) (hj : j < arena.length) :
    window (arena.set (slot arena.length head j) x) fallback head n =
      window arena fallback head n := by
  apply map_congr_left
  intro i hi
  have hin := mem_range.mp hi
  have hne : slot arena.length head i ≠ slot arena.length head j := slot_ne (by omega) (by omega)
  simp [List.getElem?_set_ne hne.symm]

theorem window_push {arena : List α} {fallback x : α} (hn : n < arena.length) :
    window (arena.set (slot arena.length head n) x) fallback head (n + 1) =
      window arena fallback head n ++ [x] := by
  have hs : slot arena.length head n < arena.length := slot_lt (by omega) _ _
  rw [window_succ, window_set_outside (Nat.le_refl n) hn, length_set,
    getD_eq_getElem?_getD, List.getElem?_set_self hs, Option.getD_some]

@[simp] theorem store_length (arena : List α) (head offset : Nat) (xs : List α) :
    (store arena head offset xs).length = arena.length := by
  induction xs generalizing arena offset with
  | nil => rfl
  | cons x xs ih => simp [store, ih]

theorem window_store {arena : List α} (fallback : α) (head : Nat) {xs : List α}
    (h : n + xs.length ≤ arena.length) :
    window (store arena head n xs) fallback head (n + xs.length) =
      window arena fallback head n ++ xs := by
  induction xs generalizing arena n with
  | nil => simp [store]
  | cons x xs ih =>
    simp only [length_cons] at h
    have hl : (arena.set (slot arena.length head n) x).length = arena.length := by simp
    have tail := @ih (n + 1) (arena.set (slot arena.length head n) x) (by rw [hl]; omega)
    rw [window_push (by omega)] at tail
    simp only [store, length_cons]
    rw [show n + (xs.length + 1) = n + 1 + xs.length by omega, tail]
    simp

/-- Storing over a released prefix leaves the rest of the window alone. -/
theorem window_store_before {arena : List α} (fallback : α) (head start m : Nat)
    (xs : List α) (h : start + xs.length + m ≤ arena.length) :
    window (store arena head start xs) fallback ((head + start + xs.length) % arena.length) m =
      window arena fallback ((head + start + xs.length) % arena.length) m := by
  induction xs generalizing arena start with
  | nil => rfl
  | cons x xs ih =>
    simp only [length_cons] at h
    have hl : (arena.set (slot arena.length head start) x).length = arena.length := by simp
    have tail := @ih (arena.set (slot arena.length head start) x) (start + 1) (by rw [hl]; omega)
    rw [hl] at tail
    simp only [store, length_cons]
    rw [show head + start + (xs.length + 1) = head + (start + 1) + xs.length by omega, tail]
    apply map_congr_left
    intro i hi
    have him := mem_range.mp hi
    have hne : slot arena.length head start ≠
        slot arena.length ((head + (start + 1) + xs.length) % arena.length) i := by
      rw [show head + (start + 1) + xs.length = head + ((start + 1) + xs.length) by omega,
        slot_advance]
      exact slot_ne (by omega) (by omega)
    simp [List.getElem?_set_ne hne]

theorem window_cons (arena : List α) (fallback : α) (n : Nat) (h : head < arena.length) :
    window arena fallback head (n + 1) =
      arena.getD head fallback :: window arena fallback ((head + 1) % arena.length) n := by
  have first : window arena fallback head 1 = [arena.getD head fallback] := by
    simp [window, slot, Nat.mod_eq_of_lt h]
  rw [Nat.add_comm, window_append, first, singleton_append]

/-- Overwriting the head leaves the rest of the window alone. -/
theorem window_set_head {arena : List α} (fallback x : α) (h : head < arena.length)
    (hn : n + 1 ≤ arena.length) :
    window (arena.set head x) fallback ((head + 1) % arena.length) n =
      window arena fallback ((head + 1) % arena.length) n := by
  have rest := @window_store_before _ arena fallback head 0 n [x] (by rw [length_singleton]; omega)
  simpa [store, slot, Nat.mod_eq_of_lt h] using rest

@[simp] theorem update_length (arena : List α) (head n : Nat) (f : α → α) :
    (update arena head f n).length = arena.length := by
  induction n with
  | zero => rfl
  | succ n ih => simp [update, ih]

theorem getElem?_update (arena : List α) (head : Nat) (f : α → α)
    (hn : n ≤ arena.length) (hi : i < arena.length) :
    (update arena head f n)[slot arena.length head i]? =
      (arena[slot arena.length head i]?).map (if i < n then f else id) := by
  induction n with
  | zero => simp [update]
  | succ n ih =>
    rw [update, List.getElem?_modify, ih (by omega)]
    by_cases same : i = n
    · subst same
      simp
    · have hne : slot arena.length head n ≠ slot arena.length head i :=
        fun heq => same (slot_inj (by omega) hi heq).symm
      have hiff : i < n + 1 ↔ i < n := by omega
      simp [hne, hiff]

theorem window_update (arena : List α) (fallback : α) (head : Nat) (f : α → α)
    (hn : n ≤ arena.length) :
    window (update arena head f n) fallback head n = (window arena fallback head n).map f := by
  simp only [window, map_map]
  apply map_congr_left
  intro i hi
  have hin := mem_range.mp hi
  have hs : slot arena.length head i < arena.length := slot_lt (by omega) _ _
  simp [getElem?_update arena head f hn (by omega : i < arena.length), hin,
    List.getElem?_eq_getElem hs]

end Circular
