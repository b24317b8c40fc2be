import RouterSim.Tcp.SackCoverage

/-! What a scoreboard takes to be in flight, octet by octet. Whether an octet is lost depends only
on the ranges behind it, so it is the same all over a gap between two ranges. -/
namespace RouterSim.Tcp

open Intervals (Interval sumOver)
open List Serial SackRange

namespace SackScoreboard

/-- The ranges as intervals of offsets from the cumulative acknowledgment. -/
def row (k : SackScoreboard) : List Interval := k.live.map (interval k.highAck)

/-- The ranges behind an offset. -/
def behind (k : SackScoreboard) (offset : Nat) : List Interval :=
  k.row.filter fun i => decide (offset < i.first)

/-- The sequence number at an offset. -/
def sequenceAt (k : SackScoreboard) (offset : Nat) : BitVec 32 := k.highAck + BitVec.ofNat 32 offset

/-- How often the octet at an offset counts: once if it is not lost, and once if it was
retransmitted. -/
def octetPipe (k : SackScoreboard) (offset : Nat) : Nat :=
  if Intervals.Covers k.row offset then 0
  else
    (if k.isLost (k.sequenceAt offset) then 0 else 1) +
      (if before (k.sequenceAt offset) k.highRetransmittedEnd then 1 else 0)

variable {k : SackScoreboard} {s : BitVec 32}

theorem sequenceAt_offset (k : SackScoreboard) (offset : Nat) (small : offset < 0x100000000) :
    (k.sequenceAt offset - k.highAck).toNat = offset := by
  unfold sequenceAt
  bv_omega

theorem sequenceAt_sub (k : SackScoreboard) (s : BitVec 32) :
    k.sequenceAt (s - k.highAck).toNat = s :=
  counter_of_sub s k.highAck

theorem Sound.covered_iff (sound : k.Sound) :
    k.Covered s ↔ Intervals.Covers k.row (s - k.highAck).toNat :=
  Tcp.covered_iff sound.staged

/-- How a range lies to an octet that is not acknowledged. -/
theorem Sound.sides (sound : k.Sound) (inside : (s - k.highAck).toNat < k.window)
    (missing : ¬ k.Covered s) {r : SackRange} (mem : r ∈ k.live) :
    (beforeOrEqual r.last (s + 1#32) = false ↔
        (s - k.highAck).toNat < (r.interval k.highAck).first) ∧
      ((s - k.highAck).toNat < (r.interval k.highAck).first →
        after r.first s = true ∧ before r.first (s + 1#32) = false) := by
  have image := mem_map_of_mem (f := interval k.highAck) mem
  have filled := sound.staged.separated.filled _ image
  have below := sound.staged.below _ image
  have small := sound.small
  have apart : ¬ r.Covers s := fun covers => missing ⟨r, mem, covers⟩
  rw [covers_iff filled, Interval.Has] at apart
  simp only [interval, flightLimit] at filled below small apart ⊢
  have next : (s + 1#32 - k.highAck).toNat = (s - k.highAck).toNat + 1 := by bv_omega
  have ends : beforeOrEqual r.last (s + 1#32) = true ↔
      (r.last - k.highAck).toNat ≤ (s + 1#32 - k.highAck).toNat :=
    beforeOrEqual_offset (by omega) (by omega)
  have starts : before s r.first = true ↔ (s - k.highAck).toNat < (r.first - k.highAck).toNat :=
    before_offset (by omega) (by omega)
  have passes : before r.first (s + 1#32) = true ↔
      (r.first - k.highAck).toNat < (s + 1#32 - k.highAck).toNat :=
    before_offset (by omega) (by omega)
  refine ⟨?_, fun ahead => ⟨starts.mpr ahead, ?_⟩⟩
  · rw [← Bool.not_eq_true, ends]
    omega
  · rw [← Bool.not_eq_true, passes]
    omega

theorem behind_eq (k : SackScoreboard) (offset : Nat) : k.behind offset =
    (k.live.filter fun r => decide (offset < (r.interval k.highAck).first)).map
      (interval k.highAck) := by
  rw [behind, row, filter_map]
  rfl

/-- An octet that is not acknowledged is lost when enough comes behind it. -/
theorem Sound.isLost_eq (sound : k.Sound) (inside : (s - k.highAck).toNat < k.window)
    (missing : ¬ k.Covered s) :
    k.isLost s = (decide (3 ≤ (k.behind (s - k.highAck).toNat).length) ||
      decide (2 * k.senderMss.toNat < Intervals.total (k.behind (s - k.highAck).toNat))) := by
  have small := sound.small
  have guard : (!k.valid || before s k.highAck || !before s k.highDataEnd) = false := by
    have back : before s k.highAck = false := by
      rw [← Bool.not_eq_true, before_iff]
      unfold flightLimit at small
      bv_omega
    have ahead : before s k.highDataEnd = true := by
      rw [before_iff]
      unfold flightLimit window at small
      unfold window at inside
      bv_omega
    simp [sound.valid, back, ahead]
  have above : (k.live.filter fun r => !beforeOrEqual r.last (s + 1#32)) =
      k.live.filter fun r => decide ((s - k.highAck).toNat < (r.interval k.highAck).first) := by
    apply filter_congr
    intro r mem
    rw [Bool.eq_iff_iff, Bool.not_eq_true', decide_eq_true_eq]
    exact (sound.sides inside missing mem).1
  have each : ∀ r ∈ k.live.filter fun r =>
      decide ((s - k.highAck).toNat < (r.interval k.highAck).first),
      after r.first s = true ∧ before r.first (s + 1#32) = false := by
    intro r mem
    obtain ⟨mem, ahead⟩ := mem_filter.mp mem
    exact (sound.sides inside missing mem).2 (of_decide_eq_true ahead)
  have staged : Staged k.highAck k.window k.ranges.length
      (k.live.filter fun r => decide ((s - k.highAck).toNat < (r.interval k.highAck).first)) :=
    sound.staged.sublist filter_sublist
  unfold isLost
  rw [guard]
  simp only [above]
  rw [behind_eq]
  generalize k.live.filter
    (fun r => decide ((s - k.highAck).toNat < (r.interval k.highAck).first)) = kept at each staged
  have discontiguous : (kept.filter fun r => after r.first s) = kept :=
    filter_eq_self.mpr fun r mem => (each r mem).1
  have octets : kept.map (fun r =>
      (r.last - (if before r.first (s + 1#32) then s + 1#32 else r.first)).toNat) =
        kept.map (·.length.toNat) := by
    apply map_congr_left
    intro r mem
    rw [(each r mem).2]
    rfl
  have sum := sackedOctets_total staged
  rw [sackedOctets] at sum
  rw [discontiguous, octets, sum, length_map]
  rfl

/-- The part of the flight up to here was retransmitted. -/
def repaired (k : SackScoreboard) : Nat := (k.highRetransmittedEnd - k.highAck).toNat

/-- Offsets between which no range lies. -/
def Gap (k : SackScoreboard) (first last : Nat) : Prop :=
  ∀ i ∈ k.row, i.last ≤ first ∨ last ≤ i.first

section Gaps

variable {first last n : Nat}

theorem Gap.missing (gap : k.Gap first last) (low : first ≤ n) (high : n < last) :
    ¬ Intervals.Covers k.row n := by
  rintro ⟨i, mem, has⟩
  have := has.1
  have := has.2
  obtain before | after := gap i mem <;> omega

theorem Sound.isLost_gap (sound : k.Sound) (gap : k.Gap first last) (low : first ≤ n)
    (high : n < last) (inside : last ≤ k.window) :
    k.isLost (k.sequenceAt n) = k.isLost (k.sequenceAt first) := by
  have small := sound.small
  unfold flightLimit at small
  have here := k.sequenceAt_offset n (by omega)
  have there := k.sequenceAt_offset first (by omega)
  have same : k.behind n = k.behind first := by
    apply filter_congr
    intro i mem
    rw [Bool.eq_iff_iff, decide_eq_true_eq, decide_eq_true_eq]
    obtain before | after := gap i mem
    · have := sound.staged.separated.filled i mem
      omega
    · omega
  rw [sound.isLost_eq (by omega), sound.isLost_eq (by omega), here, there, same]
  · rw [sound.covered_iff, there]
    exact gap.missing (Nat.le_refl _) (by omega)
  · rw [sound.covered_iff, here]
    exact gap.missing low high

theorem Sound.octetPipe_gap (sound : k.Sound) (repaired : k.repaired ≤ k.window)
    (gap : k.Gap first last) (low : first ≤ n) (high : n < last) (inside : last ≤ k.window) :
    k.octetPipe n = (if k.isLost (k.sequenceAt first) then 0 else 1) +
      (if n < k.repaired then 1 else 0) := by
  have small := sound.small
  unfold flightLimit at small
  have here := k.sequenceAt_offset n (by omega)
  have edge : before (k.sequenceAt n) k.highRetransmittedEnd = true ↔ n < k.repaired := by
    unfold SackScoreboard.repaired at repaired ⊢
    rw [before_offset (by omega) (by omega : (k.highRetransmittedEnd - k.highAck).toNat < _),
      here]
  rw [octetPipe, if_neg (gap.missing low high), sound.isLost_gap gap low high inside]
  simp [edge]

theorem Sound.unsackedPipe_eq (sound : k.Sound) (repaired : k.repaired ≤ k.window)
    (gap : k.Gap first last) (ordered : first ≤ last) (inside : last ≤ k.window) :
    k.unsackedPipe (k.sequenceAt first) (k.sequenceAt last) = sumOver k.octetPipe first last := by
  have small := sound.small
  unfold flightLimit at small
  have here := k.sequenceAt_offset first (by omega)
  have there := k.sequenceAt_offset last (by omega)
  by_cases empty : first = last
  · subst empty
    simp [unsackedPipe, sumOver, Intervals.sumFrom]
  · have apart : k.sequenceAt first ≠ k.sequenceAt last := by
      intro same
      rw [same] at here
      omega
    have length : (k.sequenceAt last - k.sequenceAt first).toNat = last - first := by
      rw [sub_offset k.highAck, here, there]
      omega
    have reached : before (k.sequenceAt first) k.highRetransmittedEnd = true ↔
        first < k.repaired := by
      unfold SackScoreboard.repaired at repaired ⊢
      rw [before_offset (by omega)
        (by omega : (k.highRetransmittedEnd - k.highAck).toNat < _), here]
    have passed : before (k.sequenceAt last) k.highRetransmittedEnd = true ↔ last < k.repaired := by
      unfold SackScoreboard.repaired at repaired ⊢
      rw [before_offset (by omega)
        (by omega : (k.highRetransmittedEnd - k.highAck).toNat < _), there]
    have part : (k.highRetransmittedEnd - k.sequenceAt first).toNat =
        (k.repaired + 0x100000000 - first) % 0x100000000 := by
      rw [sub_offset k.highAck, here]
      rfl
    -- The octets before the mark were retransmitted, those behind it were not.
    obtain ⟨mark, low, high, front, back⟩ : ∃ mark, first ≤ mark ∧ mark ≤ last ∧
        (∀ n, n < mark → first ≤ n → n < k.repaired) ∧ ∀ n, mark ≤ n → n < last → k.repaired ≤ n :=
      ⟨max first (min last k.repaired), by omega, by omega, by omega, by omega⟩
    have frontSum : sumOver k.octetPipe first mark =
        (mark - first) * ((if k.isLost (k.sequenceAt first) then 0 else 1) + 1) := by
      apply Intervals.sumOver_const
      intro n below above
      rw [sound.octetPipe_gap repaired gap below (by omega) inside, if_pos (front n above below)]
    have backSum : sumOver k.octetPipe mark last =
        (last - mark) * (if k.isLost (k.sequenceAt first) then 0 else 1) := by
      apply Intervals.sumOver_const
      intro n below above
      have past : ¬ n < k.repaired := Nat.not_lt.mpr (back n below above)
      rw [sound.octetPipe_gap repaired gap (by omega) above inside, if_neg past, Nat.add_zero]
    rw [Intervals.sumOver_split low high, frontSum, backSum, unsackedPipe, beq_false_of_ne apart,
      length]
    simp only [reached, passed]
    have ends := front (mark - 1)
    have starts := back mark
    cases k.isLost (k.sequenceAt first) <;> simp only [settled] <;>
      split <;> (try split) <;> omega

/-- The gaps from a cursor on, before and behind the ranges that are left. -/
theorem Sound.pipeFrom_eq (sound : k.Sound) (repaired : k.repaired ≤ k.window)
    {rest : List SackRange} {cursor : Nat} (inside : cursor ≤ k.window)
    (sorted : Intervals.Separated (rest.map (interval k.highAck)))
    (ahead : ∀ i ∈ rest.map (interval k.highAck), cursor ≤ i.first)
    (within : ∀ i ∈ rest.map (interval k.highAck), i ∈ k.row)
    (split : ∀ i ∈ k.row, i.last ≤ cursor ∨ i ∈ rest.map (interval k.highAck)) :
    k.pipeFrom (k.sequenceAt cursor) rest = sumOver k.octetPipe cursor k.window := by
  induction rest generalizing cursor with
  | nil =>
    have gap : k.Gap cursor k.window := fun i mem => .inl ((split i mem).resolve_right (by simp))
    have data : k.highDataEnd = k.sequenceAt k.window := (k.sequenceAt_sub _).symm
    rw [pipeFrom, data]
    exact sound.unsackedPipe_eq repaired gap inside (Nat.le_refl _)
  | cons r rest ih =>
    obtain ⟨filled, own, others⟩ := Intervals.separated_cons.mp sorted
    obtain ⟨low, -⟩ := forall_mem_cons.mp ahead
    obtain ⟨this, those⟩ := forall_mem_cons.mp within
    have below := sound.staged.below _ this
    have gap : k.Gap cursor (r.interval k.highAck).first := by
      intro i mem
      obtain before | left := split i mem
      · exact .inl before
      · obtain rfl | later := mem_cons.mp left
        · exact .inr (Nat.le_refl _)
        · have := own i later
          exact .inr (by omega)
    have covered : sumOver k.octetPipe (r.interval k.highAck).first
        (r.interval k.highAck).last = 0 := by
      rw [Intervals.sumOver_const fun n low high => ?_, Nat.mul_zero]
      exact if_pos ⟨_, this, low, high⟩
    have first : r.first = k.sequenceAt (r.interval k.highAck).first :=
      (k.sequenceAt_sub r.first).symm
    have last : r.last = k.sequenceAt (r.interval k.highAck).last := (k.sequenceAt_sub r.last).symm
    rw [Intervals.sumOver_split low (by omega), Intervals.sumOver_split (Nat.le_of_lt filled) below,
      covered, Nat.zero_add, pipeFrom, ← sound.unsackedPipe_eq repaired gap low (by omega), ← first]
    congr 1
    rw [last]
    apply ih below others (fun i mem => Nat.le_of_lt (own i mem)) those
    intro i mem
    obtain before | left := split i mem
    · exact .inl (by omega)
    · obtain rfl | later := mem_cons.mp left
      · exact .inl (Nat.le_refl _)
      · exact .inr later

end Gaps

/-- The pipe counts every octet of the flight that is not acknowledged. -/
theorem pipe_counts_octets (sound : k.Sound) (repaired : k.repaired ≤ k.window) :
    k.pipe.toNat = min (sumOver k.octetPipe 0 k.window) 0xffffffff := by
  have start : k.sequenceAt 0 = k.highAck := by simp [sequenceAt]
  have sum : k.pipeFrom k.highAck k.live = sumOver k.octetPipe 0 k.window := by
    rw [← start]
    exact sound.pipeFrom_eq repaired (Nat.zero_le _) sound.staged.separated
      (fun _ _ => Nat.zero_le _) (fun _ mem => mem) fun _ mem => .inr mem
  rw [pipe, sound.valid, sum]
  simp only [settled]
  split
  · next large =>
    rw [Nat.min_eq_right (Nat.le_of_lt large)]
    rfl
  · next fits =>
    rw [Nat.min_eq_left (by omega), BitVec.toNat_ofNat]
    omega

theorem twoRanges_pipe :
    twoRanges.pipe.toNat = min (sumOver twoRanges.octetPipe 0 twoRanges.window) 0xffffffff ∧
      sumOver twoRanges.octetPipe 0 twoRanges.window = 80 :=
  ⟨pipe_counts_octets twoRanges_sound (by decide), by decide +kernel⟩

end SackScoreboard

end RouterSim.Tcp
