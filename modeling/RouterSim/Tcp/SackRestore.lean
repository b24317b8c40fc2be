import RouterSim.Tcp.SackNext
import RouterSim.Tcp.Checkpoint

/-! Images of a scoreboard. An image is taken over only if its markers lie in the flight and its
ranges are in order. -/
namespace RouterSim.Tcp

open Intervals (Interval)
open List Bool Serial

deriving instance DecidableEq for SackScoreboardCheckpoint

/-- The ranges lie in the flight, each behind the one before it. -/
def validRanges (highAck highDataEnd : BitVec 32) : Option SackRange → List SackRange → Bool
  | _, [] => true
  | previous, range :: rest =>
    boundedRange range.first range.last && !before range.first highAck &&
      !after range.last highDataEnd &&
      previous.all (fun earlier => before earlier.last range.first) &&
      validRanges highAck highDataEnd (some range) rest

def SackScoreboardCheckpoint.validateCheckpoint (state : SackScoreboardCheckpoint)
    (capacity : Nat) : Bool :=
  if capacity == 0 || decide (capacity < state.ranges.length) ||
      decide (0x40000000#32 < state.highDataEnd - state.highAck) ||
      after state.highRetransmittedEnd state.highDataEnd ||
      before state.highRetransmittedEnd state.highAck || before state.recoveryPoint state.highAck ||
      after state.recoveryPoint state.highDataEnd || (state.recovery && state.recoverySuppressed) ||
      (state.rescuePresent &&
        (!state.recovery || before state.rescueRetransmitted state.highAck ||
          after state.rescueRetransmitted state.recoveryPoint)) ||
      (state.recovery && state.duplicateAcknowledgments != 0#32) then false
  else validRanges state.highAck state.highDataEnd none state.ranges

/-- Stage the ranges of an image. -/
def restoreRanges (capacity : Nat) (highAck highDataEnd : BitVec 32) :
    List SackRange → List SackRange → Option (List SackRange)
  | staged, [] => some staged
  | staged, range :: rest =>
    if !boundedRange range.first range.last || before range.first highAck ||
        after range.last highDataEnd then none
    else
      match insertWorkspace capacity staged range highAck with
      | none => none
      | some staged => restoreRanges capacity highAck highDataEnd staged rest

namespace SackScoreboard

def checkpoint (k : SackScoreboard) : SackScoreboardCheckpoint where
  ranges := k.live
  highAck := k.highAck
  highDataEnd := k.highDataEnd
  highRetransmittedEnd := k.highRetransmittedEnd
  recoveryPoint := k.recoveryPoint
  rescueRetransmitted := k.rescueRetransmitted
  duplicateAcknowledgments := k.duplicateAcknowledgments
  recovery := k.recovery
  rescuePresent := k.rescuePresent
  recoverySuppressed := k.recoverySuppressed

/-- Take over an image with its ranges staged. -/
def adopt (k : SackScoreboard) (state : SackScoreboardCheckpoint) (staged : List SackRange) :
    SackScoreboard :=
  { k with
    ranges := staged ++ List.replicate (k.ranges.length - staged.length) {}, count := staged.length,
    highAck := state.highAck, highDataEnd := state.highDataEnd,
    highRetransmittedEnd := state.highRetransmittedEnd, recoveryPoint := state.recoveryPoint,
    rescueRetransmitted := state.rescueRetransmitted
    duplicateAcknowledgments := state.duplicateAcknowledgments, recovery := state.recovery,
    rescuePresent := state.rescuePresent, recoverySuppressed := state.recoverySuppressed }

def restore (k : SackScoreboard) (state : SackScoreboardCheckpoint) : SackScoreboard × Bool :=
  if !k.valid || !state.validateCheckpoint k.ranges.length then (k, false)
  else
    match restoreRanges k.ranges.length state.highAck state.highDataEnd [] state.ranges with
    | none => (k, false)
    | some staged =>
      if staged.length != state.ranges.length then (k, false) else (k.adopt state staged, true)

variable {k fresh : SackScoreboard}

theorem Sound.range_inside (sound : k.Sound) {r : SackRange} (mem : r ∈ k.live) :
    boundedRange r.first r.last = true ∧ before r.first k.highAck = false ∧
      after r.last k.highDataEnd = false := by
  have image := mem_map_of_mem (f := SackRange.interval k.highAck) mem
  have filled : k.offset r.first < k.offset r.last := sound.staged.separated.filled _ image
  have below : k.offset r.last ≤ k.window := sound.staged.below _ image
  have small := sound.small
  have length : (r.last - r.first).toNat = k.offset r.last - k.offset r.first :=
    Sound.length_toNat filled
  unfold flightLimit at small
  refine ⟨?_, ?_, ?_⟩
  · simp [boundedRange]
    constructor <;> bv_omega
  · rw [← not_eq_true, sound.before_iff _ _ (by omega) (by simp [offset])]
    simp [offset]
  · rw [Serial.after, ← not_eq_true, sound.before_iff _ _ (Nat.le_refl _) below]
    exact Nat.not_lt.mpr below

theorem Sound.validRanges (sound : k.Sound) {rest : List SackRange}
    (within : ∀ r ∈ rest, r ∈ k.live) {previous : Option SackRange}
    (sorted : rest.Pairwise fun a b => k.offset a.last < k.offset b.first)
    (behind : ∀ p, previous = some p →
      p ∈ k.live ∧ ∀ r ∈ rest, k.offset p.last < k.offset r.first) :
    Tcp.validRanges k.highAck k.highDataEnd previous rest = true := by
  induction rest generalizing previous with
  | nil => rfl
  | cons r rest ih =>
    obtain ⟨own, others⟩ := pairwise_cons.mp sorted
    obtain ⟨this, those⟩ := forall_mem_cons.mp within
    obtain ⟨bounded, back, past⟩ := sound.range_inside this
    have apart : previous.all (fun earlier => before earlier.last r.first) = true := by
      cases found : previous with
      | none => rfl
      | some p =>
        obtain ⟨mem, ahead⟩ := behind p found
        have first := sound.staged.below _ (mem_map_of_mem mem)
        have second := sound.staged.below _ (mem_map_of_mem this)
        have filled := sound.staged.separated.filled _ (mem_map_of_mem this)
        have second : k.offset r.last ≤ k.window := second
        have filled : k.offset r.first < k.offset r.last := filled
        rw [Option.all_some, sound.before_iff _ _ first (by omega)]
        exact ahead r mem_cons_self
    have next : Tcp.validRanges k.highAck k.highDataEnd (some r) rest = true := by
      apply ih those others
      rintro p ⟨⟩
      exact ⟨this, own⟩
    simp [Tcp.validRanges, bounded, back, past, apart, next]

/-- What makes an image of a scoreboard acceptable, besides its ranges. -/
structure Restorable (k : SackScoreboard) : Prop extends Sound k where
  roomy : 0 < k.ranges.length
  repaired : k.repaired ≤ k.window
  point : k.offset k.recoveryPoint ≤ k.window
  exclusive : k.recovery = true → k.recoverySuppressed = false
  rescue : k.rescuePresent = true →
    k.recovery = true ∧ k.offset k.rescueRetransmitted ≤ k.offset k.recoveryPoint
  counted : k.recovery = true → k.duplicateAcknowledgments = 0#32

theorem Restorable.validates (restorable : k.Restorable) :
    k.checkpoint.validateCheckpoint k.ranges.length = true := by
  obtain ⟨sound, roomy, repaired, point, exclusive, rescue, counted⟩ := restorable
  have small := sound.small
  have start : k.offset k.highAck = 0 := by simp [offset]
  have data : k.offset k.highDataEnd = k.window := rfl
  have few : k.live.length ≤ k.ranges.length := sound.staged.fits
  have long : ¬ 0x40000000#32 < k.highDataEnd - k.highAck := by
    unfold flightLimit window at small
    bv_omega
  have marks : after k.highRetransmittedEnd k.highDataEnd = false ∧
      before k.highRetransmittedEnd k.highAck = false := by
    have inside : k.offset k.highRetransmittedEnd ≤ k.window := repaired
    rw [Serial.after, ← not_eq_true, ← not_eq_true,
      sound.before_iff _ _ (Nat.le_refl _) inside, sound.before_iff _ _ inside (by omega)]
    omega
  have points : before k.recoveryPoint k.highAck = false ∧
      after k.recoveryPoint k.highDataEnd = false := by
    rw [Serial.after, ← not_eq_true, ← not_eq_true,
      sound.before_iff _ _ (Nat.le_refl _) point, sound.before_iff _ _ point (by omega)]
    omega
  have rescues : (k.rescuePresent && (!k.recovery ||
      before k.rescueRetransmitted k.highAck ||
        after k.rescueRetransmitted k.recoveryPoint)) = false := by
    cases present : k.rescuePresent with
    | false => rfl
    | true =>
      obtain ⟨recovering, below⟩ := rescue present
      have front : before k.rescueRetransmitted k.highAck = false := by
        rw [← not_eq_true, sound.before_iff _ _ (by omega) (by omega)]
        omega
      have back : after k.rescueRetransmitted k.recoveryPoint = false := by
        rw [Serial.after, ← not_eq_true, sound.before_iff _ _ point (by omega)]
        omega
      simp [recovering, front, back]
  have exclusives : (k.recovery && k.recoverySuppressed) = false := by
    cases recovering : k.recovery with
    | false => rfl
    | true => simp [exclusive recovering]
  have counts : (k.recovery && k.duplicateAcknowledgments != 0#32) = false := by
    cases recovering : k.recovery with
    | false => rfl
    | true => simp [counted recovering]
  have sorted : k.live.Pairwise fun a b => k.offset a.last < k.offset b.first :=
    pairwise_map.mp sound.staged.separated.apart
  have ranges : Tcp.validRanges k.highAck k.highDataEnd none k.live = true :=
    sound.validRanges (fun _ mem => mem) sorted (by rintro p ⟨⟩)
  unfold SackScoreboardCheckpoint.validateCheckpoint checkpoint
  rw [if_neg, ranges]
  have capacity : (k.ranges.length == 0) = false := beq_false_of_ne (by omega)
  have fits : ¬ k.ranges.length < k.live.length := Nat.not_lt.mpr few
  simp [marks, points, rescues, exclusives, counts, decide_eq_false long, decide_eq_false fits,
    capacity]

theorem insertWorkspace_behind {capacity limit : Nat} {base : BitVec 32}
    {front rest : List SackRange} {r : SackRange}
    (staged : Staged base limit capacity (front ++ r :: rest)) :
    insertWorkspace capacity front r base = some (front ++ [r]) := by
  have room := staged.fits
  rw [length_append, length_cons] at room
  obtain ⟨result, inserted⟩ := insertWorkspace_isSome r base (by omega : front.length < capacity)
  have row := insertWorkspace_interval inserted
  have apart := staged.separated.apart
  rw [map_append, map_cons] at apart
  have behind : ∀ i ∈ front.map (SackRange.interval base), i.last < (r.interval base).first :=
    fun i mem => (pairwise_append.mp apart).2.2 i mem _ mem_cons_self
  rw [Intervals.insert_behind behind, ← map_singleton, ← map_append,
    map_inj_right (fun _ _ => interval_injective)] at row
  rw [inserted, row]

/-- Staging the ranges of a sound scoreboard gives them back. -/
theorem Sound.restoreRanges (sound : k.Sound) {capacity : Nat} {front rest : List SackRange}
    (staged : Staged k.highAck k.window capacity (front ++ rest))
    (within : ∀ r ∈ rest, r ∈ k.live) :
    Tcp.restoreRanges capacity k.highAck k.highDataEnd front rest = some (front ++ rest) := by
  induction rest generalizing front with
  | nil => rw [Tcp.restoreRanges, append_nil]
  | cons r rest ih =>
    obtain ⟨this, those⟩ := forall_mem_cons.mp within
    obtain ⟨bounded, back, past⟩ := sound.range_inside this
    rw [Tcp.restoreRanges, if_neg (by simp [bounded, back, past]), insertWorkspace_behind staged]
    have shifted : front ++ r :: rest = front ++ [r] ++ rest := by simp
    rw [shifted] at staged ⊢
    exact ih staged those

theorem adopt_live (k : SackScoreboard) (state : SackScoreboardCheckpoint)
    (staged : List SackRange) : (k.adopt state staged).live = staged := by
  simp [adopt, live]

/-- An image of a sound scoreboard brings its ranges back. -/
theorem Sound.restore_adopts (sound : k.Sound) {state : SackScoreboardCheckpoint}
    (image : state = k.checkpoint) (ready : fresh.valid = true)
    (accepted : state.validateCheckpoint fresh.ranges.length = true)
    (fits : k.live.length ≤ fresh.ranges.length) :
    fresh.restore state = (fresh.adopt state k.live, true) := by
  subst image
  have staged : Staged k.highAck k.window fresh.ranges.length ([] ++ k.live) :=
    ⟨sound.staged.separated, sound.staged.below, fits⟩
  have ranges := sound.restoreRanges staged fun _ mem => mem
  have lists : k.checkpoint.ranges = k.live ∧ k.checkpoint.highAck = k.highAck ∧
      k.checkpoint.highDataEnd = k.highDataEnd := ⟨rfl, rfl, rfl⟩
  rw [restore, if_neg (by simp [ready, accepted]), lists.1, lists.2.1, lists.2.2, ranges]
  simp

/-- An image of a scoreboard with its markers in place is taken over, and is the image of what
takes it over. -/
theorem Restorable.restores (restorable : k.Restorable) (ready : fresh.valid = true)
    (same : fresh.ranges.length = k.ranges.length) :
    (fresh.restore k.checkpoint).2 = true ∧
      (fresh.restore k.checkpoint).1.checkpoint = k.checkpoint := by
  have accepted := restorable.validates
  rw [← same] at accepted
  have fits : k.live.length ≤ fresh.ranges.length := by
    rw [same]
    exact restorable.staged.fits
  rw [restorable.toSound.restore_adopts rfl ready accepted fits]
  refine ⟨rfl, ?_⟩
  rw [checkpoint, adopt_live]
  rfl

end SackScoreboard

end RouterSim.Tcp
