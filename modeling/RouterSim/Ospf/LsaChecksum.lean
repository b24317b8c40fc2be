import RouterSim.Ospf.LsaRoundTrip

/-! The checksum of an advertisement of any content: what its update changes, and that it does not
cover the age. -/
namespace RouterSim.Ospf

open List Octets

variable {lsa updated : List (BitVec 8)}

theorem split_at_checksum (long : 20 ≤ lsa.length) :
    ∃ before a b after, lsa = before ++ a :: b :: after ∧ before.length = 16 ∧
      2 ≤ after.length := by
  have first := drop_eq_getElem_cons (l := lsa) (i := 16) (by omega)
  have second := drop_eq_getElem_cons (l := lsa) (i := 17) (by omega)
  refine ⟨lsa.take 16, lsa[16], lsa[17], lsa.drop 18, ?_, ?_, ?_⟩
  · rw [← second, ← first, take_append_drop]
  · rw [length_take]
    omega
  · rw [length_drop]
    omega

theorem updateLsaChecksum_cleared {before after : List (BitVec 8)} (first : before.length = 16)
    (a b : BitVec 8) :
    updateLsaChecksum (before ++ a :: b :: after) =
      updateLsaChecksum (before ++ 0#8 :: 0#8 :: after) := by
  have cleared : ∀ a b : BitVec 8, write16 (before ++ a :: b :: after) 16 0#16 =
      before ++ 0#8 :: 0#8 :: after := by
    intro a b
    rw [write16, set_append_right 16 _ (by omega), first,
      set_append_right 17 _ (by omega), first]
    rfl
  simp [updateLsaChecksum, cleared]

theorem verifyLsaChecksum_write_age (lsa : List (BitVec 8)) (age : BitVec 16) :
    verifyLsaChecksum (write16 lsa 0 age) = verifyLsaChecksum lsa := by
  have same : (write16 lsa 0 age).drop 2 = lsa.drop 2 := by
    rw [write16, drop_set_of_lt (by omega), drop_set_of_lt (by omega)]
  rw [verifyLsaChecksum, verifyLsaChecksum, same, length_write16]

/-- The products of the check octets stay within 32 bits, with their sign. -/
theorem checksumX_fits (short : lsa.length ≤ 65535) {sums : Nat × Nat} (small : sums.1 < 255)
    (small' : sums.2 < 255) :
    -0x80000000 ≤ ((lsa.length : Int) - 16 - 1) * sums.1 - sums.2 ∧
      ((lsa.length : Int) - 16 - 1) * sums.1 - sums.2 < 0x80000000 := by
  have low : -17 * (sums.1 : Int) ≤ ((lsa.length : Int) - 16 - 1) * sums.1 :=
    Int.mul_le_mul_of_nonneg_right (by omega) (by omega)
  have high : ((lsa.length : Int) - 16 - 1) * sums.1 ≤ 65518 * (sums.1 : Int) :=
    Int.mul_le_mul_of_nonneg_right (by omega) (by omega)
  omega

/-- The update succeeds on every advertisement, writes two check octets that are not zero and
nothing else, and what it leaves verifies, whatever age is written then. -/
theorem checksum_generation_correct (lsa : List (BitVec 8)) (long : 20 ≤ lsa.length)
    (short : lsa.length ≤ 65535) :
    (∃ updated, updateLsaChecksum lsa = some updated ∧ updated.length = lsa.length ∧
      (∀ i, i ≠ 16 → i ≠ 17 → Octets.get updated i = Octets.get lsa i) ∧
      Octets.get updated 16 ≠ 0#8 ∧ Octets.get updated 17 ≠ 0#8 ∧ verifyLsaChecksum updated = true ∧
      (∀ age, verifyLsaChecksum (Octets.write16 updated 0 age) = true) ∧
      ∀ (record : LsaRecord) (now : Time), record.bytes = updated →
        verifyLsaChecksum (record.prematureAge now).bytes = true) ∧
    ∀ sums, sums = ((Octets.write16 lsa 16 0#16).drop 2).foldl fletcher (0, 0) →
      -0x80000000 ≤ ((lsa.length : Int) - 16 - 1) * sums.1 - sums.2 ∧
        ((lsa.length : Int) - 16 - 1) * sums.1 - sums.2 < 0x80000000 := by
  constructor
  · obtain ⟨before, a, b, after, rfl, first, rest⟩ := split_at_checksum long
    obtain ⟨x, y, hx, hy, updated, verified⟩ := updateLsaChecksum_spec first rest
    have get16 : ∀ x y : BitVec 8, Octets.get (before ++ x :: y :: after) 16 = x := by
      intro x y
      rw [get_append_right (by omega), first]
      rfl
    have get17 : ∀ x y : BitVec 8, Octets.get (before ++ x :: y :: after) 17 = y := by
      intro x y
      rw [get_append_right (by omega), first]
      rfl
    refine ⟨_, (updateLsaChecksum_cleared first a b).trans updated, by simp, ?_, ?_, ?_, verified,
      ?_, ?_⟩
    · intro i not16 not17
      by_cases inFront : i < 16
      · rw [get_append_left (by omega), get_append_left (by omega)]
      · obtain ⟨k, hk⟩ : ∃ k, i - before.length = k + 2 := ⟨i - 18, by omega⟩
        rw [get_append_right (by omega), get_append_right (by omega), hk]
        rfl
    · rw [get16]
      exact hx
    · rw [get17]
      exact hy
    · intro age
      rw [verifyLsaChecksum_write_age]
      exact verified
    · rintro record now rfl'
      rw [LsaRecord.prematureAge, rfl', verifyLsaChecksum_write_age]
      exact verified
  · rintro sums rfl
    rw [fletcher_eq, Fletcher.foldl_step _ _ (by decide)]
    exact checksumX_fits short (Nat.mod_lt _ (by decide)) (Nat.mod_lt _ (by decide))

/-- Of another octet behind the age the checksum misses only zero for 255 and 255 for zero. -/
theorem corrupted_octet_verifies_iff (high low old octet : BitVec 8)
    (before after : List (BitVec 8)) :
    verifyLsaChecksum (high :: low :: (before ++ old :: after)) = true ∧
        verifyLsaChecksum (high :: low :: (before ++ octet :: after)) = true ↔
      verifyLsaChecksum (high :: low :: (before ++ old :: after)) = true ∧
        octet.toNat % 255 = old.toNat % 255 := by
  have sums : ∀ x, verifyLsaChecksum (high :: low :: (before ++ x :: after)) = true ↔
      lsaHeaderOctets ≤ before.length + (after.length + 1) + 2 ∧
        (Fletcher.total before + (x.toNat + Fletcher.total after)) % 255 = 0 ∧
        (Fletcher.weighted before + (after.length + 1) * Fletcher.total before +
          ((after.length + 1) * x.toNat + Fletcher.weighted after)) % 255 = 0 := by
    intro x
    rw [verifyLsaChecksum, drop_succ_cons, drop_succ_cons, drop_zero, fletcher_eq,
      Fletcher.foldl_step _ _ (by decide)]
    simp [Fletcher.total_append, Fletcher.weighted_append, Fletcher.total, Fletcher.weighted]
  rw [sums, sums]
  refine and_congr_right fun verified => ⟨fun _ => by omega, fun same => ?_⟩
  have scaled : (after.length + 1) * octet.toNat % 255 = (after.length + 1) * old.toNat % 255 := by
    rw [Nat.mul_mod, same, ← Nat.mul_mod]
  omega

/-- A header alone, of sequence number one. -/
def bareHeader : List (BitVec 8) :=
  [0, 1, 2, 1, 10, 0, 0, 1, 10, 0, 0, 1, 0x80, 0, 0, 1, 0, 0, 0, 20].map (BitVec.ofNat 8)

theorem bareHeader_checksum : (updateLsaChecksum bareHeader).any verifyLsaChecksum = true := by
  obtain ⟨⟨updated, written, -, -, -, -, verified, -⟩, -⟩ :=
    checksum_generation_correct bareHeader (by decide) (by decide)
  rw [written]
  exact verified

end RouterSim.Ospf
