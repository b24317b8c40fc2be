import RouterSim.Lib.Checks

/-! Octet strings read and written at an offset, integers most significant octet first.
An octet beyond the end reads as zero. -/
namespace Octets

open List

def get (bytes : List (BitVec 8)) (i : Nat) : BitVec 8 := bytes.getD i 0#8

def read16 (bytes : List (BitVec 8)) (i : Nat) : BitVec 16 := get bytes i ++ get bytes (i + 1)

def read32 (bytes : List (BitVec 8)) (i : Nat) : BitVec 32 :=
  get bytes i ++ get bytes (i + 1) ++ get bytes (i + 2) ++ get bytes (i + 3)

def octets16 (value : BitVec 16) : List (BitVec 8) := [(value >>> 8).setWidth 8, value.setWidth 8]

def octets32 (value : BitVec 32) : List (BitVec 8) :=
  [(value >>> 24).setWidth 8, (value >>> 16).setWidth 8, (value >>> 8).setWidth 8, value.setWidth 8]

/-- The high octet of the result is zero. -/
def read24 (bytes : List (BitVec 8)) (i : Nat) : BitVec 32 :=
  0#8 ++ get bytes i ++ get bytes (i + 1) ++ get bytes (i + 2)

def read128 (bytes : List (BitVec 8)) (i : Nat) : BitVec 128 :=
  read32 bytes i ++ read32 bytes (i + 4) ++ read32 bytes (i + 8) ++ read32 bytes (i + 12)

/-- The low three octets. -/
def octets24 (value : BitVec 32) : List (BitVec 8) :=
  [(value >>> 16).setWidth 8, (value >>> 8).setWidth 8, value.setWidth 8]

def octets128 (value : BitVec 128) : List (BitVec 8) :=
  octets32 ((value >>> 96).setWidth 32) ++ octets32 ((value >>> 64).setWidth 32) ++
    octets32 ((value >>> 32).setWidth 32) ++ octets32 (value.setWidth 32)

def write16 (bytes : List (BitVec 8)) (i : Nat) (value : BitVec 16) : List (BitVec 8) :=
  (bytes.set i ((value >>> 8).setWidth 8)).set (i + 1) (value.setWidth 8)

/-- Zeros up to a least length. -/
def pad (bytes : List (BitVec 8)) (least : Nat) : List (BitVec 8) :=
  bytes ++ List.replicate (least - bytes.length) 0#8

variable {bytes more : List (BitVec 8)} {i j n : Nat}

theorem ext (h : bytes.length = more.length)
    (eq : ∀ i < bytes.length, get bytes i = get more i) : bytes = more := by
  apply ext_getElem h
  intro i hi hj
  simpa [get, hi, hj] using eq i hi

theorem get_of_length_le (h : bytes.length ≤ i) : get bytes i = 0#8 := by
  simp [get, List.getElem?_eq_none h]

theorem get_append_left (h : i < bytes.length) : get (bytes ++ more) i = get bytes i := by
  simp [get, List.getElem?_append_left h]

theorem get_append_right (h : bytes.length ≤ i) :
    get (bytes ++ more) i = get more (i - bytes.length) := by
  simp [get, List.getElem?_append_right h]

theorem get_take (h : i < n) : get (bytes.take n) i = get bytes i := by
  simp [get, h]

theorem get_drop : get (bytes.drop n) i = get bytes (n + i) := by simp [get]

theorem get_set_eq (h : i < bytes.length) (value : BitVec 8) :
    get (bytes.set i value) i = value := by
  simp [get, h]

theorem get_set_ne (h : i ≠ j) (value : BitVec 8) : get (bytes.set i value) j = get bytes j := by
  simp [get, List.getElem?_set_ne h]

@[simp] theorem length_write16 (value : BitVec 16) :
    (write16 bytes i value).length = bytes.length := by simp [write16]

theorem get_write16_ne (h : j ≠ i) (h' : j ≠ i + 1) (value : BitVec 16) :
    get (write16 bytes i value) j = get bytes j := by
  rw [write16, get_set_ne (Ne.symm h'), get_set_ne (Ne.symm h)]

theorem append_parts {w m n : Nat} (value : BitVec w) (shift : Nat) :
    ((value >>> (shift + n)).setWidth m ++ (value >>> shift).setWidth n : BitVec (m + n)) =
      (value >>> shift).setWidth (m + n) := by
  apply BitVec.eq_of_getLsbD_eq
  intro i hi
  simp only [BitVec.getLsbD_append]
  by_cases h : i < n
  · simp [h, hi]
  · have high : i - n < m := by omega
    have same : shift + n + (i - n) = shift + i := by omega
    simp [h, hi, high, same]

theorem append_split {m n : Nat} (value : BitVec (m + n)) :
    ((value >>> n).setWidth m ++ value.setWidth n : BitVec (m + n)) = value := by
  have parts := append_parts (m := m) (n := n) value 0
  rwa [Nat.zero_add, BitVec.ushiftRight_zero, BitVec.setWidth_eq] at parts

theorem append_quarters {n : Nat} (value : BitVec (n + n + n + n)) :
    ((value >>> (n + n + n)).setWidth n ++ (value >>> (n + n)).setWidth n ++
      (value >>> n).setWidth n ++ value.setWidth n : BitVec (n + n + n + n)) = value := by
  rw [append_parts, append_parts, append_split]

theorem append_halves (value : BitVec 16) :
    ((value >>> 8).setWidth 8 ++ value.setWidth 8 : BitVec 16) = value :=
  append_split (m := 8) (n := 8) value

theorem read16_write16 (h : i + 1 < bytes.length) (value : BitVec 16) :
    read16 (write16 bytes i value) i = value := by
  have high : get (write16 bytes i value) i = (value >>> 8).setWidth 8 := by
    rw [write16, get_set_ne (by omega), get_set_eq (by omega)]
  have low : get (write16 bytes i value) (i + 1) = value.setWidth 8 := by
    rw [write16, get_set_eq (by simpa using h)]
  rw [read16, high, low, append_halves]

theorem high_read16 : (read16 bytes i >>> 8).setWidth 8 = get bytes i := by
  apply BitVec.eq_of_getLsbD_eq
  intro k hk
  have high : ¬ 8 + k < 8 := by omega
  rw [BitVec.getLsbD_setWidth, BitVec.getLsbD_ushiftRight, read16, BitVec.getLsbD_append,
    if_neg high, Nat.add_sub_cancel_left, decide_eq_true hk, Bool.true_and]

theorem low_read16 : (read16 bytes i).setWidth 8 = get bytes (i + 1) := by
  apply BitVec.eq_of_getLsbD_eq
  intro k hk
  rw [BitVec.getLsbD_setWidth, read16, BitVec.getLsbD_append, if_pos hk, decide_eq_true hk,
    Bool.true_and]

/-- Writing the integer that was read restores both octets. -/
theorem get_write16_read16 (h : i + 1 < bytes.length) (hj : j = i ∨ j = i + 1) :
    get (write16 bytes i (read16 more i)) j = get more j := by
  obtain rfl | rfl := hj
  · rw [write16, get_set_ne (by omega), get_set_eq (by omega), high_read16]
  · rw [write16, get_set_eq (by simpa using h), low_read16]

theorem read16_octets16 (value : BitVec 16) : read16 (octets16 value) 0 = value :=
  append_halves value

theorem octets16_read16 : octets16 (read16 bytes i) = [get bytes i, get bytes (i + 1)] := by
  rw [octets16, high_read16, low_read16]

theorem take_succ_get (h : n < bytes.length) : bytes.take (n + 1) = bytes.take n ++ [get bytes n] := by
  rw [take_add_one, get, getD_eq_getElem?_getD, List.getElem?_eq_getElem h]
  rfl

theorem map_get {bytes : List (BitVec 8)} {n : Nat} (h : n ≤ bytes.length) :
    (List.range n).map (get bytes) = bytes.take n := by
  induction n with
  | zero => rfl
  | succ n ih => rw [range_succ, map_append, ih (by omega), take_succ_get h]; rfl

/-- The words of the octets, written one behind the other. -/
theorem flatMap_read16 (count : Nat) (enough : 2 * count ≤ bytes.length) :
    ((List.range count).map fun k => read16 bytes (2 * k)).flatMap octets16 =
      bytes.take (2 * count) := by
  induction count with
  | zero => rfl
  | succ count ih =>
    rw [range_succ, map_append, flatMap_append, ih (by omega),
      show 2 * (count + 1) = 2 * count + 1 + 1 by omega, take_succ_get (by omega),
      take_succ_get (by omega), append_assoc]
    simp [octets16_read16]

theorem read32_octets32 (value : BitVec 32) : read32 (octets32 value) 0 = value :=
  append_quarters (n := 8) value

theorem quarters_append {n : Nat} (a b c d : BitVec n) :
    ((a ++ b ++ c ++ d) >>> (n + n + n)).setWidth n = a ∧
      ((a ++ b ++ c ++ d) >>> (n + n)).setWidth n = b ∧
      ((a ++ b ++ c ++ d) >>> n).setWidth n = c ∧ (a ++ b ++ c ++ d).setWidth n = d := by
  have past : ∀ k, ¬ n + k < n := by omega
  refine ⟨?_, ?_, ?_, ?_⟩
  all_goals
    apply BitVec.eq_of_getLsbD_eq
    intro k hk
    simp [BitVec.getLsbD_append, -BitVec.getLsbD_eq_getElem, hk, past, Nat.add_assoc]

theorem octets32_read32 : octets32 (read32 bytes i) =
    [get bytes i, get bytes (i + 1), get bytes (i + 2), get bytes (i + 3)] := by
  simp only [octets32, cons.injEq, and_true]
  exact quarters_append (get bytes i) (get bytes (i + 1)) (get bytes (i + 2)) (get bytes (i + 3))

theorem read24_octets24 {value : BitVec 32} (h : ¬ 0x00ffffff#32 < value) :
    read24 (octets24 value) 0 = value := by
  have high : (value >>> 24).setWidth 8 = 0#8 := by
    apply BitVec.eq_of_toNat_eq
    have bound : value.toNat ≤ 0xffffff := by simpa [BitVec.lt_def] using h
    rw [BitVec.toNat_setWidth, BitVec.toNat_ushiftRight, Nat.shiftRight_eq_div_pow,
      Nat.div_eq_of_lt (by omega)]
    rfl
  have whole := read32_octets32 value
  unfold read32 octets32 at whole
  simp only [high] at whole
  exact whole

theorem get_octets128 (value : BitVec 128) {i : Nat} (h : i < 16) {j : Nat} (hj : j < 8) :
    (get (octets128 value) i).getLsbD j = value.getLsbD (8 * (15 - i) + j) := by
  have octet : i = 0 ∨ i = 1 ∨ i = 2 ∨ i = 3 ∨ i = 4 ∨ i = 5 ∨ i = 6 ∨ i = 7 ∨ i = 8 ∨ i = 9 ∨
    i = 10 ∨ i = 11 ∨ i = 12 ∨ i = 13 ∨ i = 14 ∨ i = 15 := by omega
  rcases octet with rfl | rfl | rfl | rfl | rfl | rfl | rfl | rfl | rfl | rfl | rfl | rfl | rfl |
    rfl | rfl | rfl
  all_goals
    simp only [octets128, octets32, get, cons_append, nil_append, getD_cons_zero, getD_cons_succ]
    have inside : ∀ k, k ≤ 24 → k + j < 32 := by omega
    have low : j < 32 := by omega
    simp [hj, inside, low, ← Nat.add_assoc]

@[simp] theorem length_octets128 (value : BitVec 128) : (octets128 value).length = 16 := rfl

theorem read128_congr (same : ∀ k < 16, get bytes (i + k) = get more (j + k)) :
    read128 bytes i = read128 more j := by
  have word : ∀ k, k + 3 < 16 → read32 bytes (i + k) = read32 more (j + k) := by
    intro k hk
    simp [read32, Nat.add_assoc, same k (by omega), same (k + 1) (by omega),
      same (k + 2) (by omega), same (k + 3) (by omega)]
  rw [read128, read128, show read32 bytes i = read32 more j from word 0 (by omega),
    word 4 (by omega), word 8 (by omega), word 12 (by omega)]

section Records

variable {α : Type} {record : α → List (BitVec 8)} {width : Nat}

theorem drop_records (wide : ∀ a, (record a).length = width) (l : List α) (i : Nat) :
    (l.flatMap record).drop (i * width) = (l.drop i).flatMap record := by
  induction l generalizing i with
  | nil => simp
  | cons a rest ih =>
    cases i with
    | zero => simp
    | succ i =>
      have sum : (i + 1) * width = (record a).length + i * width := by
        rw [wide, Nat.succ_mul, Nat.add_comm]
      rw [flatMap_cons, sum, ← drop_drop, drop_left, ih, drop_succ_cons]

theorem length_records (wide : ∀ a, (record a).length = width) (l : List α) :
    (l.flatMap record).length = l.length * width := by
  induction l with
  | nil => simp
  | cons a rest ih => rw [flatMap_cons, length_append, wide, ih, length_cons,
      Nat.succ_mul, Nat.add_comm]

/-- Reading the records one by one gives what was written. -/
theorem map_records {β : Type} (wide : ∀ a, (record a).length = width)
    (read : List (BitVec 8) → β) (value : α → β)
    (reads : ∀ a more, read (record a ++ more) = value a) (l : List α) :
    ((List.range l.length).map fun i => read ((l.flatMap record).drop (i * width))) =
      l.map value := by
  apply ext_getElem
  · simp
  · intro i hi hj
    have inside : i < l.length := by simpa using hi
    simp only [getElem_map, getElem_range]
    rw [drop_records wide, drop_eq_getElem_cons inside, flatMap_cons, reads]

end Records

theorem read128_octets128 (value : BitVec 128) : read128 (octets128 value) 0 = value := by
  have w0 : read32 (octets128 value) 0 = (value >>> 96).setWidth 32 := read32_octets32 _
  have w1 : read32 (octets128 value) 4 = (value >>> 64).setWidth 32 := read32_octets32 _
  have w2 : read32 (octets128 value) 8 = (value >>> 32).setWidth 32 := read32_octets32 _
  have w3 : read32 (octets128 value) 12 = value.setWidth 32 := read32_octets32 _
  rw [read128, w0, w1, w2, w3]
  exact append_quarters (n := 32) value

end Octets
