import RouterSim.Lib.Bitmap
import RouterSim.Lib.Runs

namespace RouterSim.Ipsec

open List

inductive ReplayStatus
  | admissible | zeroSequence | duplicate | tooOld | invalidWindow | sequenceSpaceExhausted
  deriving DecidableEq

/-- What `check` reports, with the complete sequence number where it has one. -/
structure ReplayCandidate where
  status : ReplayStatus := .invalidWindow
  sequence : BitVec 64 := 0#64
  deriving DecidableEq

structure ReplayWindow where
  highest : BitVec 64 := 0#64
  bitmap : BitVec 64 := 0#64
  width : BitVec 8
  extended : Bool
  deriving DecidableEq

namespace ReplayWindow

def create (width : BitVec 8) (extendedSequenceNumbers : Bool) : ReplayWindow where
  width := if width ≤ 64#8 then width else 0#8
  extended := extendedSequenceNumbers

def activeMask (w : ReplayWindow) : BitVec 64 :=
  if w.width == 0#8 then 0#64
  else if w.width == 64#8 then BitVec.allOnes 64
  else (1#64 <<< w.width.toNat) - 1#64

/-- The complete sequence number behind the low word on the wire. -/
def reconstruct (w : ReplayWindow) (receivedLow : BitVec 32) : Option (BitVec 64) :=
  if w.width == 0#8 || (receivedLow == 0#32 && (!w.extended || w.highest == 0#64)) then none
  else if !w.extended then some (receivedLow.setWidth 64)
  else if w.highest == 0#64 then some (receivedLow.setWidth 64)
  else
    let highestLow := w.highest.setWidth 32
    let highestHigh := (w.highest >>> 32).setWidth 32
    let behind := w.width.setWidth 32 - 1#32
    let join (high : BitVec 32) := (high.setWidth 64 <<< 32) ||| receivedLow.setWidth 64
    if highestLow < behind then
      let previousFloor := 0xffffffff#32 - (behind - highestLow) + 1#32
      if previousFloor ≤ receivedLow then
        if highestHigh == 0#32 then none else some (join (highestHigh - 1#32))
      else some (join highestHigh)
    else if receivedLow < highestLow - behind then
      if highestHigh == 0xffffffff#32 then none else some (join (highestHigh + 1#32))
    else some (join highestHigh)

/-- The bit that stands for the sequence number `distance` behind the highest. -/
def marked (w : ReplayWindow) (distance : BitVec 64) : Bool :=
  (w.bitmap &&& (1#64 <<< distance.toNat)) != 0#64

def check (w : ReplayWindow) (receivedLow : BitVec 32) : ReplayCandidate :=
  if w.width == 0#8 then { status := .invalidWindow }
  else
    match w.reconstruct receivedLow with
    | none => { status := if receivedLow == 0#32 then .zeroSequence else .sequenceSpaceExhausted }
    | some reconstructed =>
      if w.highest == 0#64 || decide (w.highest < reconstructed) then
        { status := .admissible, sequence := reconstructed }
      else
        let distance := w.highest - reconstructed
        if w.width.setWidth 64 ≤ distance then { status := .tooOld, sequence := reconstructed }
        else if w.marked distance then { status := .duplicate, sequence := reconstructed }
        else { status := .admissible, sequence := reconstructed }

def commit (w : ReplayWindow) (authenticatedSequence : BitVec 64) : ReplayWindow × Bool :=
  if w.width == 0#8 || authenticatedSequence == 0#64 ||
      (!w.extended && decide (0xffffffff#64 < authenticatedSequence)) then (w, false)
  else if w.highest == 0#64 then ({ w with highest := authenticatedSequence, bitmap := 1#64 }, true)
  else if w.highest < authenticatedSequence then
    let advance := authenticatedSequence - w.highest
    let shifted := if w.width.setWidth 64 ≤ advance then 1#64
      else (w.bitmap <<< advance.toNat) ||| 1#64
    ({ w with highest := authenticatedSequence, bitmap := shifted &&& w.activeMask }, true)
  else
    let distance := w.highest - authenticatedSequence
    if decide (w.width.setWidth 64 ≤ distance) || w.marked distance then (w, false)
    else ({ w with bitmap := w.bitmap ||| (1#64 <<< distance.toNat) }, true)

theorem commit_width (w : ReplayWindow) (s : BitVec 64) : (w.commit s).1.width = w.width := by
  unfold commit
  split
  · rfl
  split
  · rfl
  split
  · rfl
  · dsimp only
    split <;> rfl

variable {s : BitVec 64}

theorem commit_false {w : ReplayWindow} (h : (w.commit s).2 = false) : (w.commit s).1 = w := by
  revert h
  unfold commit
  split
  · exact fun _ => rfl
  split
  · exact fun h => absurd h (by simp)
  split
  · exact fun h => absurd h (by simp)
  dsimp only
  split
  · exact fun _ => rfl
  · exact fun h => absurd h (by simp)

theorem marked_eq (w : ReplayWindow) {distance : BitVec 64} (h : distance.toNat < 64) :
    w.marked distance = w.bitmap.getLsbD distance.toNat :=
  Bitmap.and_bit_ne_zero w.bitmap h

/-! ## What the bitmap records -/

/-- The window stands for the sequence numbers committed so far: the bit `d` places
up says whether the number `d` behind the highest is one of them. -/
structure Records (w : ReplayWindow) (committed : List (BitVec 64)) : Prop where
  positive : 0 < w.width.toNat
  bounded : w.width.toNat ≤ 64
  within : ∀ s ∈ committed, 0 < s.toNat ∧ s.toNat ≤ w.highest.toNat
  marks : ∀ d, d < w.width.toNat → (w.bitmap.getLsbD d = true ↔
    d ≤ w.highest.toNat ∧ w.highest - BitVec.ofNat 64 d ∈ committed)

variable {w : ReplayWindow} {committed : List (BitVec 64)}

theorem activeMask_bit (hb : w.width.toNat ≤ 64) {d : Nat} (hd : d < w.width.toNat) :
    w.activeMask.getLsbD d = true := by
  have hp : 0 < w.width.toNat := by omega
  have hne : (w.width == 0#8) = false := by
    rw [beq_eq_false_iff_ne]
    intro hz
    simp [hz] at hp
  rw [activeMask, hne]
  by_cases full : w.width = 64#8
  · have hd64 : d < 64 := by omega
    simp only [full, beq_self_eq_true, settled, ↓reduceIte]
    rw [BitVec.getLsbD_allOnes]
    exact decide_eq_true hd64
  · have hlt : w.width.toNat < 64 := by
      have : w.width.toNat ≠ 64 := fun hw => full (by bv_omega)
      omega
    have hmask : ((1#64 <<< w.width.toNat) - 1#64).toNat = 2 ^ w.width.toNat - 1 := by
      have hpow : 2 ^ w.width.toNat < 2 ^ 64 := Nat.pow_lt_pow_right (by decide) hlt
      have hpos : 0 < 2 ^ w.width.toNat := Nat.two_pow_pos _
      rw [← BitVec.twoPow_eq, BitVec.toNat_sub, BitVec.toNat_twoPow, Nat.mod_eq_of_lt hpow]
      simp only [BitVec.toNat_ofNat]
      omega
    simp only [settled, ↓reduceIte, asserted, full]
    rw [BitVec.getLsbD, hmask, Nat.testBit_two_pow_sub_one]
    exact decide_eq_true hd

theorem Records.first (h : w.Records committed) (hz : w.highest = 0#64)
    (hs : s ≠ 0#64) : Records { w with highest := s, bitmap := 1#64 } (s :: committed) := by
  have empty : ∀ t, t ∉ committed := by
    intro t ht
    have := h.within t ht
    rw [hz] at this
    simp at this
    omega
  have hpos : 0 < s.toNat := by
    have : s.toNat ≠ 0 := fun h0 => hs (by bv_omega)
    omega
  refine ⟨h.positive, h.bounded, ?_, ?_⟩
  · intro t ht
    rcases mem_cons.mp ht with rfl | ht
    · exact ⟨hpos, Nat.le_refl _⟩
    · exact absurd ht (empty t)
  · intro d hd
    simp only [mem_cons, empty, settled]
    constructor
    · intro hbit
      have : d = 0 := by simpa using hbit
      subst this
      simp
    · rintro ⟨hle, heq⟩
      have : d = 0 := by bv_omega
      simp [this]

theorem Records.advance (h : w.Records committed) (hs : w.highest < s) :
    Records { w with
      highest := s, bitmap := (if w.width.setWidth 64 ≤ s - w.highest then 1#64
        else (w.bitmap <<< (s - w.highest).toNat) ||| 1#64) &&& w.activeMask } (s :: committed) := by
  have hb := h.bounded
  refine ⟨h.positive, hb, ?_, ?_⟩
  · intro t ht
    rcases mem_cons.mp ht with rfl | ht
    · exact ⟨by bv_omega, Nat.le_refl _⟩
    · have := h.within t ht
      exact ⟨this.1, by bv_omega⟩
  · intro d hd
    dsimp only at hd
    have hd64 : d < 64 := by omega
    have older : s - BitVec.ofNat 64 d ∈ committed → (s - w.highest).toNat ≤ d := by
      intro hmem
      have := h.within _ hmem
      bv_omega
    rw [BitVec.getLsbD_and, activeMask_bit hb hd, Bool.and_true]
    simp only [mem_cons]
    by_cases far : w.width.setWidth 64 ≤ s - w.highest
    · rw [if_pos far, BitVec.getLsbD_one]
      have hfar : w.width.toNat ≤ (s - w.highest).toNat := by
        have := BitVec.le_def.mp far
        exact this
      constructor
      · intro hbit
        have : d = 0 := by simpa using hbit
        subst this
        exact ⟨Nat.zero_le _, .inl (by simp)⟩
      · rintro ⟨hle, heq | hmem⟩
        · have : d = 0 := by bv_omega
          simp [this]
        · have := older hmem
          omega
    · rw [if_neg far, BitVec.getLsbD_or, BitVec.getLsbD_shiftLeft, BitVec.getLsbD_one]
      by_cases hold : (s - w.highest).toNat ≤ d
      · have hmarks := h.marks (d - (s - w.highest).toNat) (by omega)
        have same : w.highest - BitVec.ofNat 64 (d - (s - w.highest).toNat) =
            s - BitVec.ofNat 64 d := by bv_omega
        rw [same] at hmarks
        have hdpos : d ≠ 0 := by bv_omega
        have hshift : ¬ d < (s - w.highest).toNat := by omega
        simp only [hd64, decide_true, hshift, decide_false, settled, hdpos]
        rw [hmarks]
        constructor
        · rintro ⟨hle, hmem⟩
          exact ⟨by bv_omega, .inr hmem⟩
        · rintro ⟨hle, heq | hmem⟩
          · exact absurd heq (by bv_omega)
          · exact ⟨by bv_omega, hmem⟩
      · have hshift : d < (s - w.highest).toNat := by omega
        simp only [hshift]
        constructor
        · intro hbit
          have : d = 0 := by simpa using hbit
          subst this
          exact ⟨Nat.zero_le _, .inl (by simp)⟩
        · rintro ⟨hle, heq | hmem⟩
          · have : d = 0 := by bv_omega
            simp [this]
          · exact absurd (older hmem) hold

theorem Records.mark (h : w.Records committed) (hs : s ≠ 0#64)
    (hle : s ≤ w.highest) (hnear : (w.highest - s).toNat < w.width.toNat) :
    Records { w with bitmap := w.bitmap ||| (1#64 <<< (w.highest - s).toNat) }
      (s :: committed) := by
  have hb := h.bounded
  refine ⟨h.positive, hb, ?_, ?_⟩
  · intro t ht
    rcases mem_cons.mp ht with rfl | ht
    · exact ⟨by bv_omega, BitVec.le_def.mp hle⟩
    · exact h.within t ht
  · intro d hd
    have hmarks := h.marks d hd
    rw [BitVec.getLsbD_or, ← BitVec.twoPow_eq, BitVec.getLsbD_twoPow, Bool.or_eq_true, hmarks]
    have hlt : (w.highest - s).toNat < 64 := by omega
    simp only [hlt, decide_true, settled, asserted, mem_cons]
    constructor
    · rintro (⟨hd', hmem⟩ | heq)
      · exact ⟨hd', .inr hmem⟩
      · exact ⟨by bv_omega, .inl (by bv_omega)⟩
    · rintro ⟨hd', heq | hmem⟩
      · exact .inr (by bv_omega)
      · exact .inl ⟨hd', hmem⟩

/-- Every commit is refused and changes nothing, or records a new number. -/
theorem Records.commit (h : w.Records committed) (s : BitVec 64) :
    w.commit s = (w, false) ∨
    (w.commit s).2 = true ∧ s ∉ committed ∧ (w.commit s).1.Records (s :: committed) := by
  unfold ReplayWindow.commit
  split
  · exact .inl rfl
  rename_i ready
  simp only [asserted, not_or] at ready
  have hs : s ≠ 0#64 := ready.1.2
  split
  · rename_i empty
    have hz : w.highest = 0#64 := by simpa using empty
    refine .inr ⟨rfl, fun hmem => ?_, h.first hz hs⟩
    have := h.within s hmem
    rw [hz] at this
    simp at this
    omega
  · split
    · rename_i above
      refine .inr ⟨rfl, fun hmem => ?_, h.advance above⟩
      have := h.within s hmem
      bv_omega
    · rename_i inside
      dsimp only
      split
      · exact .inl rfl
      rename_i fresh
      simp only [asserted, not_or, refuted] at fresh
      have hb := h.bounded
      have hnear : (w.highest - s).toNat < w.width.toNat := by
        have := mt BitVec.le_def.mpr fresh.1
        rw [BitVec.toNat_setWidth_of_le (by decide)] at this
        omega
      have hle : s ≤ w.highest := by bv_omega
      refine .inr ⟨rfl, fun hmem => ?_, h.mark hs hle hnear⟩
      have unset := fresh.2
      rw [w.marked_eq (by omega), ← Bool.not_eq_true, h.marks _ hnear] at unset
      apply unset
      refine ⟨by bv_omega, ?_⟩
      rwa [show w.highest - BitVec.ofNat 64 (w.highest - s).toNat = s by bv_omega]

/-! ## What a window remembers from wherever it started -/

/-- Nothing of what was committed can be committed again. -/
structure Remembers (w : ReplayWindow) (committed : List (BitVec 64)) : Prop where
  bounded : w.width.toNat ≤ 64
  within : ∀ s ∈ committed, 0 < s.toNat ∧ s.toNat ≤ w.highest.toNat
  marks : ∀ s ∈ committed, (w.highest - s).toNat < w.width.toNat →
    w.bitmap.getLsbD (w.highest - s).toNat = true

theorem Remembers.subset (h : w.Remembers committed) {fewer : List (BitVec 64)}
    (sub : ∀ s ∈ fewer, s ∈ committed) : w.Remembers fewer :=
  ⟨h.bounded, fun s hs => h.within s (sub s hs), fun s hs => h.marks s (sub s hs)⟩

theorem Remembers.none (bounded : w.width.toNat ≤ 64) : w.Remembers [] := ⟨bounded, nofun, nofun⟩

theorem Remembers.advance (h : w.Remembers committed) (hs : w.highest < s) :
    Remembers { w with
      highest := s, bitmap := (if w.width.setWidth 64 ≤ s - w.highest then 1#64
        else (w.bitmap <<< (s - w.highest).toNat) ||| 1#64) &&& w.activeMask } (s :: committed) := by
  have hb := h.bounded
  refine ⟨hb, ?_, ?_⟩
  · intro t ht
    obtain rfl | ht := mem_cons.mp ht
    · exact ⟨by bv_omega, Nat.le_refl _⟩
    · have before := h.within t ht
      exact ⟨before.1, by bv_omega⟩
  · intro t ht hd
    dsimp only at hd ⊢
    rw [BitVec.getLsbD_and, activeMask_bit hb hd, Bool.and_true]
    obtain rfl | ht := mem_cons.mp ht
    · rw [BitVec.sub_self]
      split <;> simp
    · have before := h.within t ht
      have apart : (s - t).toNat = (s - w.highest).toNat + (w.highest - t).toNat := by bv_omega
      split
      · next far =>
        have far := BitVec.le_def.mp far
        rw [BitVec.toNat_setWidth_of_le (by decide)] at far
        omega
      · have old := h.marks t ht (by omega)
        have inside : (s - t).toNat < 64 := by omega
        have shift : ¬ (s - t).toNat < (s - w.highest).toNat := by omega
        rw [BitVec.getLsbD_or, BitVec.getLsbD_shiftLeft]
        simp only [inside, decide_true, shift, decide_false, settled]
        rw [show (s - t).toNat - (s - w.highest).toNat = (w.highest - t).toNat by omega, old,
          Bool.true_or]

/-- A commit that succeeds is of a number not committed before. -/
theorem Remembers.commit (h : w.Remembers committed) (committing : (w.commit s).2 = true) :
    s ∉ committed ∧ (w.commit s).1.Remembers (s :: committed) := by
  have hb := h.bounded
  unfold ReplayWindow.commit at committing ⊢
  by_cases refused : (w.width == 0#8 || s == 0#64 ||
      (!w.extended && decide (0xffffffff#64 < s))) = true
  · rw [if_pos refused] at committing
    cases committing
  · rw [if_neg refused] at committing ⊢
    have hs : s ≠ 0#64 := by
      rintro rfl
      simp at refused
    by_cases empty : (w.highest == 0#64) = true
    · rw [if_pos empty]
      have none : ∀ t, t ∉ committed := by
        intro t ht
        have before := h.within t ht
        rw [beq_iff_eq.mp empty] at before
        simp at before
        omega
      refine ⟨none s, hb, ?_, ?_⟩
      · intro t ht
        obtain rfl | ht := mem_cons.mp ht
        · exact ⟨by bv_omega, Nat.le_refl _⟩
        · exact absurd ht (none t)
      · intro t ht _
        obtain rfl | ht := mem_cons.mp ht
        · simp
        · exact absurd ht (none t)
    · rw [if_neg empty] at committing ⊢
      by_cases above : w.highest < s
      · rw [if_pos above]
        refine ⟨fun ht => ?_, h.advance above⟩
        have before := h.within s ht
        bv_omega
      · rw [if_neg above] at committing ⊢
        by_cases marked : (decide (w.width.setWidth 64 ≤ w.highest - s) ||
            w.marked (w.highest - s)) = true
        · rw [if_pos marked] at committing
          cases committing
        · rw [if_neg marked]
          simp only [asserted, not_or, refuted] at marked
          have near : (w.highest - s).toNat < w.width.toNat := by
            have near := mt BitVec.le_def.mpr marked.1
            rw [BitVec.toNat_setWidth_of_le (by decide)] at near
            omega
          have free := marked.2
          rw [w.marked_eq (by omega)] at free
          refine ⟨fun ht => ?_, hb, ?_, ?_⟩
          · rw [h.marks s ht near] at free
            cases free
          · intro t ht
            obtain rfl | ht := mem_cons.mp ht
            · exact ⟨by bv_omega, by dsimp only; bv_omega⟩
            · exact h.within t ht
          · intro t ht hd
            rw [BitVec.getLsbD_or, ← BitVec.twoPow_eq, BitVec.getLsbD_twoPow]
            obtain rfl | ht := mem_cons.mp ht
            · have inside : (w.highest - t).toNat < 64 := by omega
              simp only [inside, decide_true, Bool.and_self, settled]
            · rw [h.marks t ht hd, Bool.true_or]

/-! ## Checking and committing -/

theorem join_eq_zero (high low : BitVec 32) :
    (high.setWidth 64 <<< 32) ||| low.setWidth 64 = 0#64 ↔ high = 0#32 ∧ low = 0#32 := by
  rw [BitVec.or_eq_zero_iff]
  constructor
  · rintro ⟨hhigh, hlow⟩
    constructor <;> bv_omega
  · rintro ⟨rfl, rfl⟩
    exact ⟨rfl, rfl⟩

/-- Zero comes back only from a low word of zero that is taken for the start of the
first subspace. -/
theorem reconstruct_zero_iff (hp : 0 < w.width.toNat) (hb : w.width.toNat ≤ 64) (low : BitVec 32) :
    w.reconstruct low = some 0#64 ↔
      w.extended = true ∧ low = 0#32 ∧ w.highest ≠ 0#64 ∧ w.highest.toNat < w.width.toNat := by
  unfold reconstruct
  cases extended : w.extended with
  | false =>
    by_cases hlow : low = 0#32
    · simp [hlow]
    · have : ¬ low.setWidth 64 = 0#64 := by bv_omega
      simp [this]
  | true =>
    by_cases hz : w.highest = 0#64
    · by_cases hlow : low = 0#32
      · simp [hlow, hz]
      · have : ¬ low.setWidth 64 = 0#64 := by bv_omega
        simp [hz, this]
    · simp [hz]
      split
      · split
        · split
          · simp
            bv_omega
          · rw [Option.some.injEq, join_eq_zero]
            bv_omega
        · rw [Option.some.injEq, join_eq_zero]
          bv_omega
      · split
        · split
          · simp
            bv_omega
          · rw [Option.some.injEq, join_eq_zero]
            bv_omega
        · rw [Option.some.injEq, join_eq_zero]
          bv_omega

theorem reconstruct_narrow (he : w.extended = false) {low : BitVec 32}
    (h : w.reconstruct low = some s) : s ≤ 0xffffffff#64 := by
  unfold reconstruct at h
  split at h
  · cases h
  rw [he] at h
  simp only [settled, ↓reduceIte, Option.some.injEq] at h
  bv_omega

/-- A commit of what `check` reports goes the way `check` said. -/
def agreesAt (w : ReplayWindow) (low : BitVec 32) : Bool :=
  match (w.check low).status with
  | .admissible => (w.commit (w.check low).sequence).2
  | .duplicate | .tooOld => !(w.commit (w.check low).sequence).2
  | .zeroSequence | .invalidWindow | .sequenceSpaceExhausted => true

theorem agreesAt_of_reconstruct_ne_zero (hp : 0 < w.width.toNat) (low : BitVec 32)
    (hne : w.reconstruct low ≠ some 0#64) : w.agreesAt low = true := by
  have hw : (w.width == 0#8) = false := by
    rw [beq_eq_false_iff_ne]
    intro hz
    simp [hz] at hp
  unfold agreesAt check
  rw [hw]
  cases hr : w.reconstruct low with
  | none =>
    by_cases hlow : low = 0#32
    · simp [hlow]
    · simp [hlow]
  | some s =>
    have hs : (s == 0#64) = false := by
      rw [beq_eq_false_iff_ne]
      intro hz
      exact hne (by rw [hr, hz])
    have narrow : (!w.extended && decide (0xffffffff#64 < s)) = false := by
      cases he : w.extended with
      | true => rfl
      | false =>
        have := reconstruct_narrow he hr
        simp only [settled, refuted]
        bv_omega
    unfold commit
    by_cases hz : w.highest = 0#64
    · simp [hz, hw, hs, narrow]
    · by_cases above : w.highest < s
      · simp [hz, above, hw, hs, narrow]
      · by_cases far : w.width.setWidth 64 ≤ w.highest - s
        · simp [hz, above, far]
        · cases hm : w.marked (w.highest - s) with
          | true => simp [hz, above, far, hm, hw, hs, narrow]
          | false => simp [hz, above, far, hm, hw, hs, narrow]

/-- Zero is never committed, yet a window that still covers it finds it free. -/
theorem Records.disagreesAt_zero (h : w.Records committed) (he : w.extended = true)
    (hz : w.highest ≠ 0#64) (hlt : w.highest.toNat < w.width.toNat) : w.agreesAt 0#32 = false := by
  have hb := h.bounded
  have hr := (reconstruct_zero_iff h.positive hb 0#32).mpr ⟨he, rfl, hz, hlt⟩
  have unmarked : w.marked w.highest = false := by
    rw [w.marked_eq (by omega), ← Bool.not_eq_true, h.marks _ hlt]
    rintro ⟨_, hmem⟩
    have := h.within _ hmem
    bv_omega
  have hw : (w.width == 0#8) = false := by
    rw [beq_eq_false_iff_ne]
    intro hw0
    simp [hw0] at hlt
  have near : ¬ w.width.setWidth 64 ≤ w.highest := by
    rw [BitVec.le_def, BitVec.toNat_setWidth_of_le (by decide)]
    omega
  have status : w.check 0#32 = { status := .admissible, sequence := 0#64 } := by
    unfold check
    simp [hw, hr, near, unmarked]
  have refused : (w.commit 0#64).2 = false := by simp [ReplayWindow.commit]
  unfold agreesAt
  rw [status]
  exact refused

/-- The agreement fails exactly at a low word of zero in an extended window that
still reaches back to the start of the sequence space. -/
theorem Records.agreesAt_iff (h : w.Records committed) (low : BitVec 32) :
    w.agreesAt low = true ↔
      w.extended = false ∨ low ≠ 0#32 ∨ w.highest = 0#64 ∨ w.width.setWidth 64 ≤ w.highest := by
  have hwidth : (w.width.setWidth 64).toNat = w.width.toNat :=
    BitVec.toNat_setWidth_of_le (by decide)
  constructor
  · intro agrees
    by_cases he : w.extended = true
    · by_cases hlow : low = 0#32
      · by_cases hz : w.highest = 0#64
        · exact .inr (.inr (.inl hz))
        · by_cases hlt : w.highest.toNat < w.width.toNat
          · rw [hlow, h.disagreesAt_zero he hz hlt] at agrees
            cases agrees
          · refine .inr (.inr (.inr ?_))
            rw [BitVec.le_def, hwidth]
            omega
      · exact .inr (.inl hlow)
    · exact .inl (by simpa using he)
  · intro condition
    apply agreesAt_of_reconstruct_ne_zero h.positive
    intro hr
    obtain ⟨he, hlow, hz, hlt⟩ := (reconstruct_zero_iff h.positive h.bounded low).mp hr
    rcases condition with hc | hc | hc | hc
    · rw [he] at hc
      cases hc
    · exact hc hlow
    · exact hz hc
    · rw [BitVec.le_def, hwidth] at hc
      omega

/-! ## Extended sequence numbers -/

theorem join_toNat (high low : BitVec 32) :
    ((high.setWidth 64 <<< 32) ||| low.setWidth 64).toNat =
      high.toNat * 0x100000000 + low.toNat := by
  have wide : ((high.setWidth 64) <<< 32).toNat = high.toNat <<< 32 := by
    rw [BitVec.toNat_shiftLeft, BitVec.toNat_setWidth_of_le (by decide), Nat.shiftLeft_eq]
    omega
  rw [BitVec.toNat_or, wide, BitVec.toNat_setWidth_of_le (by decide),
    ← Nat.shiftLeft_add_eq_or_of_lt low.isLt, Nat.shiftLeft_eq]

/-- Of the numbers from the edge of the window on, as many as there are low words, each is found
again. -/
theorem reconstruct_low (extended : w.extended = true)
    (positive : 0 < w.width.toNat) (bounded : w.width.toNat ≤ 64) (started : 0 < w.highest.toNat)
    (numbered : 0 < s.toNat) (floor : w.highest.toNat < s.toNat + w.width.toNat)
    (reach : s.toNat + w.width.toNat ≤ w.highest.toNat + 0x100000000) :
    w.reconstruct (s.setWidth 32) = some s := by
  have used : (w.width == 0#8) = false := by
    rw [beq_eq_false_iff_ne]
    intro zero
    simp [zero] at positive
  have ahead : (w.highest == 0#64) = false := by
    rw [beq_eq_false_iff_ne]
    intro zero
    simp [zero] at started
  have behind : (w.width.setWidth 32 - 1#32).toNat = w.width.toNat - 1 := by bv_omega
  have low : (w.highest.setWidth 32).toNat = w.highest.toNat % 0x100000000 := by simp
  have high : ((w.highest >>> 32).setWidth 32).toNat = w.highest.toNat / 0x100000000 := by
    simp
    omega
  have received : (s.setWidth 32).toNat = s.toNat % 0x100000000 := by simp
  have same : ∀ part : BitVec 32, part.toNat * 0x100000000 + s.toNat % 0x100000000 = s.toNat →
      (part.setWidth 64 <<< 32) ||| (s.setWidth 32).setWidth 64 = s := by
    intro part whole
    apply BitVec.eq_of_toNat_eq
    rw [join_toNat, received, whole]
  unfold reconstruct
  simp only [used, extended, ahead, settled, Bool.or_self, ↓reduceIte]
  generalize (w.highest >>> 32).setWidth 32 = highestHigh at *
  generalize w.highest.setWidth 32 = highestLow at *
  generalize w.width.setWidth 32 - 1#32 = reachBack at *
  split
  · next near =>
    split
    · next previous =>
      have borrow : highestHigh ≠ 0#32 := by bv_omega
      rw [if_neg (by simpa using borrow)]
      rw [same _ (by bv_omega)]
    · next current =>
      rw [same _ (by bv_omega)]
  · next far =>
    split
    · next later =>
      have carry : highestHigh ≠ 0xffffffff#32 := by bv_omega
      rw [if_neg (by simpa using carry)]
      rw [same _ (by bv_omega)]
    · next current =>
      rw [same _ (by bv_omega)]
/-- A check reports the number its low word was cut from, in any window. -/
theorem check_reconstructs {s : BitVec 64} (extended : w.extended = true)
    (positive : 0 < w.width.toNat) (bounded : w.width.toNat ≤ 64) (started : 0 < w.highest.toNat)
    (numbered : 0 < s.toNat) (floor : w.highest.toNat < s.toNat + w.width.toNat)
    (reach : s.toNat + w.width.toNat ≤ w.highest.toNat + 0x100000000) :
    (w.check (s.setWidth 32)).sequence = s := by
  have used : (w.width == 0#8) = false := by
    rw [beq_eq_false_iff_ne]
    intro zero
    simp [zero] at positive
  have found := reconstruct_low extended positive bounded started numbered floor reach
  simp only [check, used, found, settled, ↓reduceIte]
  repeat' split
  all_goals rfl

/-- A window at the end of a subspace takes a small low word for the next one. -/
theorem check_reconstructs_carry :
    (check { highest := 0x1ffffffff#64, bitmap := 1#64, width := 64#8, extended := true }
      5#32).sequence = 0x200000005#64 :=
  check_reconstructs (s := 0x200000005#64) rfl (by decide) (by decide) (by decide) (by decide)
    (by decide) (by decide)

end ReplayWindow

/-! ## Runs -/

inductive ReplayOp
  | check (receivedLow : BitVec 32)
  | commit (authenticatedSequence : BitVec 64)

/-- A window with the sequence numbers it has committed, the latest first. -/
structure ReplayRun where
  window : ReplayWindow
  committed : List (BitVec 64) := []

namespace ReplayRun

def step (t : ReplayRun) : ReplayOp → ReplayRun
  | .check _ => t
  | .commit s =>
    { window := (t.window.commit s).1
      committed := if (t.window.commit s).2 then s :: t.committed else t.committed }

/-- The window records what was committed, and nothing was committed twice. -/
structure Inv (t : ReplayRun) (width : BitVec 8) (extended : Bool) : Prop where
  records : t.window.Records t.committed
  distinct : t.committed.Nodup
  width : t.window.width = width
  extended : t.window.extended = extended

theorem create_inv {width : BitVec 8} (hp : 0#8 < width) (hb : width ≤ 64#8) (extended : Bool) :
    Inv { window := ReplayWindow.create width extended } width extended := by
  have hw : (ReplayWindow.create width extended).width = width := if_pos hb
  refine ⟨⟨?_, ?_, ?_, ?_⟩, nodup_nil, hw, rfl⟩
  · rw [hw]
    bv_omega
  · rw [hw]
    bv_omega
  · intro s hs
    cases hs
  · intro d _
    simp [ReplayWindow.create]

theorem step_inv {width : BitVec 8} {extended : Bool} (t : ReplayRun) (op : ReplayOp)
    (h : t.Inv width extended) : (t.step op).Inv width extended := by
  cases op with
  | check low => exact h
  | commit s =>
    have kept : (t.window.commit s).1.width = t.window.width ∧
        (t.window.commit s).1.extended = t.window.extended := by
      unfold ReplayWindow.commit
      dsimp only
      repeat' split
      all_goals exact ⟨rfl, rfl⟩
    rcases h.records.commit s with refused | ⟨admitted, fresh, records⟩
    · simp [step, refused]
      exact h
    · simp [step, admitted]
      exact ⟨records, nodup_cons.mpr ⟨fresh, h.distinct⟩, kept.1.trans h.width,
        kept.2.trans h.extended⟩

end ReplayRun

/-- Over every run of checks and commits nothing is committed twice and the bitmap
marks exactly what was committed; a commit then goes the way a check said, except
for a low word of zero in an extended window that still reaches back to zero. -/
theorem replay_window_exact (width : BitVec 8) (extended : Bool) (ops : List ReplayOp)
    (hp : 0#8 < width) (hb : width ≤ 64#8) :
    ∀ t, t = Runs.run ReplayRun.step { window := ReplayWindow.create width extended } ops →
      t.committed.Nodup ∧
      (∀ d, d < width.toNat → d ≤ t.window.highest.toNat →
        (t.window.bitmap.getLsbD d = true ↔ t.window.highest - BitVec.ofNat 64 d ∈ t.committed)) ∧
      ∀ low, t.window.agreesAt low = true ↔
        extended = false ∨ low ≠ 0#32 ∨ t.window.highest = 0#64 ∨
          width.setWidth 64 ≤ t.window.highest := by
  rintro t rfl
  have inv := Runs.invariant (P := fun t => ReplayRun.Inv t width extended) ReplayRun.step_inv ops
    (ReplayRun.create_inv hp hb extended)
  have marks := inv.records.marks
  have agrees := inv.records.agreesAt_iff
  rw [inv.width] at marks agrees
  rw [inv.extended] at agrees
  refine ⟨inv.distinct, fun d hd hle => ?_, agrees⟩
  rw [marks d hd]
  exact and_iff_right hle

/-- Three packets, the last of them ahead of the window of eight. -/
theorem replay_window_exact_three_packets :
    (Runs.run ReplayRun.step { window := ReplayWindow.create 8#8 true }
      [.commit 3#64, .check 3#32, .commit 1#64, .commit 3#64, .commit 20#64]).committed =
        [20#64, 1#64, 3#64] ∧
    (Runs.run ReplayRun.step { window := ReplayWindow.create 8#8 true }
      [.commit 3#64, .check 3#32, .commit 1#64, .commit 3#64, .commit 20#64]).committed.Nodup := by
  refine ⟨by decide +kernel, ?_⟩
  exact (replay_window_exact 8#8 true _ (by decide) (by decide) _ rfl).1

/-- After one packet an extended window of two finds sequence number zero
admissible, and refuses to commit it. -/
theorem zero_admissible_but_not_committed :
    ((Runs.run ReplayRun.step { window := ReplayWindow.create 2#8 true }
      [.commit 1#64]).window.check 0#32) = { status := .admissible, sequence := 0#64 } ∧
    ((Runs.run ReplayRun.step { window := ReplayWindow.create 2#8 true }
      [.commit 1#64]).window.commit 0#64).2 = false := by
  decide

end RouterSim.Ipsec
