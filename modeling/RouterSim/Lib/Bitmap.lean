import RouterSim.Lib.Checks

/-! A bitmap packed into octets, bit `i` being bit `i % 8` of octet `i / 8`. -/
namespace Bitmap

open BitVec

def mask (i : Nat) : BitVec 8 := 1#8 <<< (i % 8)

def get (bits : List (BitVec 8)) (i : Nat) : Bool := (bits.getD (i / 8) 0#8 &&& mask i) != 0#8

def set (bits : List (BitVec 8)) (i : Nat) (value : Bool) : List (BitVec 8) :=
  let byte := bits.getD (i / 8) 0#8
  bits.set (i / 8) (if value then byte ||| mask i else byte &&& ~~~mask i)

theorem and_bit_ne_zero {w : Nat} (x : BitVec w) {i : Nat} (h : i < w) :
    ((x &&& (1#w <<< i)) != 0#w) = x.getLsbD i := by
  have hne : twoPow w i ≠ 0#w := by
    intro hz
    have hbit := congrArg (fun y => y.getLsbD i) hz
    simp [h] at hbit
  rw [← twoPow_eq, and_twoPow]
  cases x.getLsbD i <;> simp [hne]

theorem getLsbD_mask (i k : Nat) : (mask i).getLsbD k = decide (i % 8 = k) := by
  rw [mask, ← twoPow_eq, getLsbD_twoPow]
  have hi : i % 8 < 8 := Nat.mod_lt _ (by decide)
  simp [hi]

@[simp] theorem length_set (bits : List (BitVec 8)) (i : Nat) (value : Bool) :
    (set bits i value).length = bits.length := by simp [set]

theorem get_eq_bit (bits : List (BitVec 8)) (i : Nat) :
    get bits i = (bits.getD (i / 8) 0#8).getLsbD (i % 8) := by
  rw [get, mask, and_bit_ne_zero _ (Nat.mod_lt i (by decide))]

theorem get_set {bits : List (BitVec 8)} {i j : Nat} (value : Bool) (hj : j / 8 < bits.length) :
    get (set bits j value) i = if i = j then value else get bits i := by
  have hi := Nat.mod_lt i (show 0 < 8 by decide)
  rw [get_eq_bit, get_eq_bit]
  by_cases hbyte : i / 8 = j / 8
  · have hbit : ((set bits j value).getD (i / 8) 0#8) =
        if value then bits.getD (j / 8) 0#8 ||| mask j else bits.getD (j / 8) 0#8 &&& ~~~mask j := by
      simp [set, hbyte, hj]
    rw [hbit, hbyte]
    by_cases h : i = j
    · subst h
      cases value <;> simp [getLsbD_and, getLsbD_not, getLsbD_or, getLsbD_mask, -getLsbD_eq_getElem]
    · have hother : (mask j).getLsbD (i % 8) = false := by
        rw [getLsbD_mask]
        exact decide_eq_false (by omega)
      cases value <;> simp only [settled, ↓reduceIte, h, getLsbD_and, getLsbD_not, getLsbD_or,
        hother, hi, decide_true]
  · have hne : i ≠ j := by intro h; exact hbyte (by rw [h])
    have hother : (set bits j value).getD (i / 8) 0#8 = bits.getD (i / 8) 0#8 := by
      simp [set, List.getElem?_set_ne (Ne.symm hbyte)]
    rw [hother, if_neg hne]

theorem length_clear (bits : List (BitVec 8)) (positions : List Nat) :
    (positions.foldl (fun bits j => set bits j false) bits).length = bits.length := by
  induction positions generalizing bits with
  | nil => rfl
  | cons j rest ih => simp [ih]

theorem get_clear {bits : List (BitVec 8)} {positions : List Nat} (i : Nat)
    (inside : ∀ j ∈ positions, j / 8 < bits.length) :
    get (positions.foldl (fun bits j => set bits j false) bits) i =
      if i ∈ positions then false else get bits i := by
  induction positions generalizing bits with
  | nil => simp
  | cons j rest ih =>
    have hrest : ∀ k ∈ rest, k / 8 < (set bits j false).length := by
      intro k hk
      rw [length_set]
      exact inside k (List.mem_cons_of_mem _ hk)
    rw [List.foldl_cons, ih hrest, get_set false (inside j List.mem_cons_self)]
    by_cases hi : i = j <;> simp [hi]

theorem get_replicate_zero (n i : Nat) : get (List.replicate n 0#8) i = false := by
  rw [get_eq_bit, List.getD_eq_getElem?_getD, List.getElem?_replicate]
  split <;> simp

end Bitmap
