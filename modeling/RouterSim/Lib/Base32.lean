/-! Base 32 without padding, in the extended hex alphabet: the octets of a word are regrouped
into fives of bits, and back. -/
namespace Base32

/-- `0` to `9`, then `A` to `V`. -/
def digit (value : Nat) : BitVec 8 := BitVec.ofNat 8 (if value < 10 then 48 + value else 55 + value)

/-- The digits that the pending bits fill, and the bits that are left. -/
def drain : Nat → Nat → Nat → List (BitVec 8) × Nat × Nat
  | 0, bits, count => ([], bits, count)
  | steps + 1, bits, count =>
    if count < 5 then ([], bits, count)
    else
      let more := drain steps (bits % 1 <<< (count - 5)) (count - 5)
      (digit (bits / 1 <<< (count - 5) % 32) :: more.1, more.2)

def encodeFrom (bits count : Nat) : List (BitVec 8) → List (BitVec 8)
  | [] => if count = 0 then [] else [digit (bits * 1 <<< (5 - count) % 32)]
  | octet :: rest =>
    let drained := drain (count + 8) (bits * 256 + octet.toNat) (count + 8)
    drained.1 ++ encodeFrom drained.2.1 drained.2.2 rest

def base32hex (input : List (BitVec 8)) : List (BitVec 8) := encodeFrom 0 0 input

/-- The value of a digit, in either case. -/
def value (octet : BitVec 8) : Option Nat :=
  if 48#8 ≤ octet ∧ octet ≤ 57#8 then some (octet.toNat - 48)
  else
    let upper := if 97#8 ≤ octet ∧ octet ≤ 118#8 then octet - 32#8 else octet
    if 65#8 ≤ upper ∧ upper ≤ 86#8 then some (10 + upper.toNat - 65) else none

/-- Bits left over at the end are padding and must be zero. -/
def decodeFrom (bits count : Nat) : List (BitVec 8) → Option (List (BitVec 8))
  | [] => if count ≠ 0 ∧ bits ≠ 0 then none else some []
  | octet :: rest =>
    match value octet with
    | none => none
    | some value =>
      let bits := bits * 32 + value
      let count := count + 5
      if 8 ≤ count then
        (decodeFrom (bits % 1 <<< (count - 8)) (count - 8) rest).map
          (BitVec.ofNat 8 (bits / 1 <<< (count - 8)) :: ·)
      else decodeFrom bits count rest

def decodeBase32hex (text : List (BitVec 8)) : Option (List (BitVec 8)) := decodeFrom 0 0 text

theorem value_digit {v : Nat} (h : v < 32) : value (digit v) = some v := by
  have all : ∀ k : Fin 32, value (digit k.val) = some k.val := by decide
  exact all ⟨v, h⟩

theorem drain_steps {steps more bits count : Nat} (h : count ≤ steps) :
    drain steps bits count = drain (steps + more) bits count := by
  induction steps generalizing bits count with
  | zero =>
    obtain rfl : count = 0 := by omega
    cases more <;> simp [drain]
  | succ steps ih =>
    rw [Nat.succ_add]
    simp only [drain]
    split
    · rfl
    · rw [ih]
      omega

theorem decodeFrom_full {bits count v : Nat} {rest : List (BitVec 8)} (pending : BitVec 8)
    (h : v < 32) (full : 3 ≤ count) (whole : (bits * 32 + v) / 1 <<< (count - 3) = pending.toNat) :
    decodeFrom bits count (digit v :: rest) =
      (decodeFrom ((bits * 32 + v) % 1 <<< (count - 3)) (count - 3) rest).map (pending :: ·) := by
  have left : count + 5 - 8 = count - 3 := by omega
  have octet : BitVec.ofNat 8 ((bits * 32 + v) / 1 <<< (count - 3)) = pending := by
    rw [whole]
    simp
  simp only [decodeFrom, value_digit h, left, octet]
  rw [if_pos (by omega)]

theorem decodeFrom_more {bits count v : Nat} {rest : List (BitVec 8)} (h : v < 32)
    (few : count < 3) :
    decodeFrom bits count (digit v :: rest) = decodeFrom (bits * 32 + v) (count + 5) rest := by
  simp only [decodeFrom, value_digit h]
  rw [if_neg (by omega)]

/-- The encoder holds the low bits of an octet and the decoder its high bits. -/
structure Halves (count bits high : Nat) (pending : BitVec 8) : Prop where
  held : 0 < count
  few : count < 5
  low : bits < 1 <<< count
  split : pending.toNat = high * 1 <<< count + bits

theorem Halves.of {count bits high : Nat} {pending : BitVec 8} (power : Nat)
    (value : 1 <<< count = power) (held : 0 < count) (few : count < 5) (low : bits < power)
    (split : pending.toNat = high * power + bits) : Halves count bits high pending := by
  subst value
  exact ⟨held, few, low, split⟩

/-- What is encoded is read back, whatever part of an octet is pending between the two. -/
theorem decodeFrom_encodeFrom (input : List (BitVec 8)) :
    (decodeFrom 0 0 (encodeFrom 0 0 input) = some input) ∧
      ∀ count bits high pending, Halves count bits high pending →
        decodeFrom high (8 - count) (encodeFrom bits count input) = some (pending :: input) := by
  induction input with
  | nil =>
    refine ⟨rfl, fun count bits high pending ⟨held, few, low, split⟩ => ?_⟩
    obtain rfl | rfl | rfl | rfl : count = 1 ∨ count = 2 ∨ count = 3 ∨ count = 4 := by omega
    all_goals
      simp only [encodeFrom, Nat.reduceEqDiff, if_false]
      rw [decodeFrom_full pending (by omega) (by omega)
        (by simp only [Nat.shiftLeft_eq, Nat.reduceSub, Nat.reducePow]; omega)]
      simp only [Nat.shiftLeft_eq, decodeFrom]
      rw [if_neg (by omega)]
      rfl
  | cons octet rest ih =>
    constructor
    · -- five bits go at once, and three stay behind
      have three : Halves 3 (octet.toNat % 8) (octet.toNat / 8) octet :=
        .of 8 rfl (by omega) (by omega) (by omega) (by omega)
      simp only [encodeFrom, drain, Nat.reduceSub, Nat.reduceLT, if_true, if_false,
        Nat.shiftLeft_eq, Nat.zero_add, List.cons_append]
      rw [decodeFrom_more (by omega) (by omega), Nat.mod_eq_of_lt (by omega)]
      simpa using ih.2 3 _ _ octet three
    · rintro count bits high pending ⟨held, few, low, split⟩
      obtain rfl | rfl | rfl | rfl : count = 1 ∨ count = 2 ∨ count = 3 ∨ count = 4 := by omega
      all_goals
        simp only [encodeFrom, drain, Nat.reduceAdd, Nat.reduceSub, Nat.reduceLT, if_true,
          if_false, List.cons_append, List.nil_append]
        rw [decodeFrom_full pending (by omega) (by omega)
          (by simp only [Nat.shiftLeft_eq, Nat.reduceSub, Nat.reducePow]; omega)]
        simp only [Nat.shiftLeft_eq]
      · rw [ih.2 4 _ _ octet (.of 16 rfl (by omega) (by omega) (by omega) (by omega))]
        rfl
      · rw [decodeFrom_full octet (by omega) (by omega)
          (by simp only [Nat.shiftLeft_eq, Nat.reduceSub, Nat.reducePow]; omega)]
        simp only [Nat.shiftLeft_eq, Nat.reduceSub, Nat.reducePow, Nat.one_mul, Nat.mod_one, ih.1]
        rfl
      · rw [decodeFrom_more (by omega) (by omega),
          ih.2 1 _ _ octet (.of 2 rfl (by omega) (by omega) (by omega) (by omega))]
        rfl
      · rw [decodeFrom_more (by omega) (by omega),
          ih.2 2 _ _ octet (.of 4 rfl (by omega) (by omega) (by omega) (by omega))]
        rfl

theorem decode_base32hex (input : List (BitVec 8)) :
    decodeBase32hex (base32hex input) = some input := (decodeFrom_encodeFrom input).1

end Base32
