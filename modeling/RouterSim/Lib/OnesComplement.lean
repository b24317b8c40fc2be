/-! Sums of the sixteen-bit words of an octet string in ones' complement. -/
namespace OnesComplement

/-- The sum of the big-endian words; a last odd octet is a high one. -/
def wordSum : List (BitVec 8) → Nat
  | high :: low :: rest => high.toNat * 256 + low.toNat + wordSum rest
  | [high] => high.toNat * 256
  | [] => 0

variable {bytes more : List (BitVec 8)}

theorem wordSum_append (h : bytes.length % 2 = 0) :
    wordSum (bytes ++ more) = wordSum bytes + wordSum more := by
  induction bytes using wordSum.induct with
  | case1 high low rest ih =>
    have even : rest.length % 2 = 0 := by
      simp only [List.length_cons] at h
      omega
    simp only [List.cons_append, wordSum]
    omega
  | case2 high => simp at h
  | case3 => simp [wordSum]

theorem wordSum_le (bytes : List (BitVec 8)) :
    wordSum bytes ≤ 0xffff * ((bytes.length + 1) / 2) := by
  induction bytes using wordSum.induct with
  | case1 high low rest ih =>
    simp only [wordSum, List.length_cons]
    omega
  | case2 high =>
    simp only [wordSum, List.length_cons]
    omega
  | case3 => exact Nat.zero_le _

/-- One round of the end-around carry. -/
def fold (sum : Nat) : Nat := sum % 0x10000 + sum / 0x10000

/-- Adding the complement of a carried sum leaves all ones. -/
theorem fold_complement {sum : Nat} (positive : 0 < sum) (h : sum + 0xffff < 0x100000000) :
    fold (fold (sum + (0xffff - fold (fold sum)))) = 0xffff := by
  unfold fold
  omega

end OnesComplement
