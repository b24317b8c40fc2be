import RouterSim.Lib.Checks

/-! Serial-number arithmetic on 32-bit counters (RFC 1982 comparisons). A stream
position is a natural number; a counter shows it modulo 2^32 from an origin. -/
namespace Serial

abbrev halfSpace : BitVec 32 := 0x80000000#32

def before (left right : BitVec 32) : Bool := left != right && decide (right - left < halfSpace)

def beforeOrEqual (left right : BitVec 32) : Bool := left == right || before left right

def after (left right : BitVec 32) : Bool := before right left

def afterOrEqual (left right : BitVec 32) : Bool := left == right || after left right

theorem before_iff (left right : BitVec 32) :
    before left right = true ↔ 0 < (right - left).toNat ∧ (right - left).toNat < 0x80000000 := by
  simp only [before, asserted]
  constructor <;> intro h <;> bv_omega

theorem beforeOrEqual_iff (left right : BitVec 32) :
    beforeOrEqual left right = true ↔ (right - left).toNat < 0x80000000 := by
  simp only [beforeOrEqual, asserted, before_iff]
  constructor <;> intro h <;> bv_omega

theorem after_iff (left right : BitVec 32) :
    after left right = true ↔ 0 < (left - right).toNat ∧ (left - right).toNat < 0x80000000 :=
  before_iff right left

/-- Every difference can be read off the offsets from one base. -/
theorem sub_offset (base x y : BitVec 32) :
    (x - y).toNat = ((x - base).toNat + 0x100000000 - (y - base).toNat) % 0x100000000 := by
  bv_omega

variable {base x y : BitVec 32} {p q : Nat}

/-- Inside one half space above a base the serial order is the order of offsets. -/
theorem before_offset (hx : (x - base).toNat < 0x80000000) (hy : (y - base).toNat < 0x80000000) :
    before x y = true ↔ (x - base).toNat < (y - base).toNat := by
  rw [before_iff, sub_offset base y x]
  omega

theorem beforeOrEqual_offset
    (hx : (x - base).toNat < 0x80000000) (hy : (y - base).toNat < 0x80000000) :
    beforeOrEqual x y = true ↔ (x - base).toNat ≤ (y - base).toNat := by
  rw [beforeOrEqual_iff, sub_offset base y x]
  omega

theorem eq_of_offset_eq (h : (x - base).toNat = (y - base).toNat) : x = y := by
  bv_omega

/-- The counter value shown at stream position `p`. -/
def counter (origin : BitVec 32) (p : Nat) : BitVec 32 := origin + BitVec.ofNat 32 p

section

variable (origin : BitVec 32)

@[simp] theorem counter_zero : counter origin 0 = origin := by
  simp [counter]

theorem counter_add (p n : Nat) :
    counter origin (p + n) = counter origin p + BitVec.ofNat 32 n := by
  simp only [counter, BitVec.ofNat_add]
  ac_rfl

/-- Positions less than a whole cycle apart are told apart by their counters. -/
theorem counter_sub (h : p ≤ q) (hq : q < p + 0x100000000) :
    (counter origin q - counter origin p).toNat = q - p := by
  obtain ⟨n, rfl⟩ := Nat.exists_eq_add_of_le h
  rw [counter_add]
  bv_omega

theorem counter_before (hp : p < q + 0x80000000) (hq : q < p + 0x80000000) :
    before (counter origin p) (counter origin q) = true ↔ p < q := by
  rw [before_iff]
  by_cases h : p ≤ q
  · rw [counter_sub origin h (by omega)]
    omega
  · have hd := counter_sub origin (p := q) (q := p) (by omega) (by omega)
    bv_omega

theorem counter_beforeOrEqual (hp : p < q + 0x80000000) (hq : q < p + 0x80000000) :
    beforeOrEqual (counter origin p) (counter origin q) = true ↔ p ≤ q := by
  rw [beforeOrEqual_iff]
  by_cases h : p ≤ q
  · rw [counter_sub origin h (by omega)]
    omega
  · have hd := counter_sub origin (p := q) (q := p) (by omega) (by omega)
    bv_omega

end

theorem counter_of_sub (x origin : BitVec 32) : counter origin (x - origin).toNat = x := by
  rw [counter, BitVec.ofNat_toNat, BitVec.setWidth_eq]
  bv_omega

end Serial
