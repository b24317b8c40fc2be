/-! The two running sums of the Fletcher checksum, modulo 255, and the check octets that bring
both to zero. -/
namespace Fletcher

def step (sums : Nat × Nat) (octet : BitVec 8) : Nat × Nat :=
  let c0 := (sums.1 + octet.toNat) % 255
  (c0, (sums.2 + c0) % 255)

/-- The first sum, before the division. -/
def total : List (BitVec 8) → Nat
  | [] => 0
  | octet :: rest => octet.toNat + total rest

/-- The second sum, before the division: each octet counts as often as octets are left. -/
def weighted : List (BitVec 8) → Nat
  | [] => 0
  | octet :: rest => (rest.length + 1) * octet.toNat + weighted rest

theorem total_append (l more : List (BitVec 8)) : total (l ++ more) = total l + total more := by
  induction l with
  | nil => simp [total]
  | cons octet rest ih => rw [List.cons_append, total, total, ih, Nat.add_assoc]

theorem weighted_append (l more : List (BitVec 8)) :
    weighted (l ++ more) = weighted l + more.length * total l + weighted more := by
  induction l with
  | nil => simp [weighted, total]
  | cons octet rest ih =>
    rw [List.cons_append, weighted, weighted, total, ih, List.length_append]
    grind

theorem foldl_step (l : List (BitVec 8)) (sums : Nat × Nat) (small : sums.1 < 255 ∧ sums.2 < 255) :
    l.foldl step sums = ((sums.1 + total l) % 255,
      (sums.2 + l.length * sums.1 + weighted l) % 255) := by
  induction l generalizing sums with
  | nil => simp [total, weighted, Nat.mod_eq_of_lt small.1, Nat.mod_eq_of_lt small.2]
  | cons octet rest ih =>
    have next : (step sums octet).1 < 255 ∧ (step sums octet).2 < 255 :=
      ⟨Nat.mod_lt _ (by decide), Nat.mod_lt _ (by decide)⟩
    rw [List.foldl_cons, ih _ next]
    simp only [step, total, weighted, List.length_cons]
    refine Prod.ext ?_ ?_
    · simp [Nat.add_assoc]
    · dsimp only
      have split := Nat.div_add_mod (sums.1 + octet.toNat) 255
      generalize (sums.1 + octet.toNat) / 255 = q at split
      generalize (sums.1 + octet.toNat) % 255 = c at split
      have whole : sums.2 + (rest.length + 1) * sums.1 +
          ((rest.length + 1) * octet.toNat + weighted rest) =
            sums.2 + c + (rest.length * c + weighted rest) + 255 * ((rest.length + 1) * q) := by
        grind
      rw [whole, Nat.add_mul_mod_self_left, Nat.add_assoc, Nat.mod_add_mod]

theorem mod_eq_zero {n : Nat} {z : Int} (h : (n : Int) = 255 * z) : n % 255 = 0 := by omega

/-- The sums over a string with two octets in it, before the division. -/
theorem sums_between (before after : List (BitVec 8)) (x y : BitVec 8) :
    total (before ++ x :: y :: after) = total (before ++ 0#8 :: 0#8 :: after) + x.toNat + y.toNat ∧
      weighted (before ++ x :: y :: after) = weighted (before ++ 0#8 :: 0#8 :: after) +
        (after.length + 2) * x.toNat + (after.length + 1) * y.toNat := by
  simp only [total_append, weighted_append, total, weighted, List.length_cons]
  grind

/-- Two octets that make up for what the rest of the string adds. -/
theorem foldl_solved {before after : List (BitVec 8)} {x y : BitVec 8} {j k : Int}
    (hx : (x.toNat : Int) = (after.length + 1) *
        ((before ++ 0#8 :: 0#8 :: after).foldl step (0, 0)).1 -
      ((before ++ 0#8 :: 0#8 :: after).foldl step (0, 0)).2 + 255 * j)
    (hy : (y.toNat : Int) = 255 * k -
      ((before ++ 0#8 :: 0#8 :: after).foldl step (0, 0)).1 - x.toNat) :
    (before ++ x :: y :: after).foldl step (0, 0) = (0, 0) := by
  have small : (0, 0).1 < 255 ∧ (0, 0).2 < 255 := by decide
  obtain ⟨totals, weights⟩ := sums_between before after x y
  rw [foldl_step _ _ small] at hx hy ⊢
  simp only [Nat.zero_add, Nat.mul_zero, weights] at hx hy ⊢
  have first := Nat.div_add_mod (total (before ++ 0#8 :: 0#8 :: after)) 255
  have second := Nat.div_add_mod (weighted (before ++ 0#8 :: 0#8 :: after)) 255
  generalize total (before ++ 0#8 :: 0#8 :: after) = t at *
  generalize weighted (before ++ 0#8 :: 0#8 :: after) = w at *
  generalize t % 255 = c0 at *
  generalize w % 255 = c1 at *
  refine Prod.ext (mod_eq_zero (z := k + (t / 255 : Nat)) ?_)
    (mod_eq_zero (z := (w / 255 : Nat) + j + k * (after.length + 1)) ?_)
  · omega
  · generalize w / 255 = b at *
    subst second
    simp only [Int.natCast_add, Int.natCast_mul]
    generalize (x.toNat : Int) = x at *
    grind

end Fletcher
