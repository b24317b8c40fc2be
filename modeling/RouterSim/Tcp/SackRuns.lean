import RouterSim.Tcp.SackRestore

/-! Scoreboards as they can be reached: what they send next, and when their images are
acceptable. -/
namespace RouterSim.Tcp

open List

/-- What can happen to a scoreboard, besides taking over an image. -/
inductive SackOperation
  | reset (highAck highDataEnd : BitVec 32)
  | update (highAck highDataEnd : BitVec 32) (blocks : List SackBlock)
  | duplicateAck (carriesNewSack : Bool)
  | enterRecovery
  | commit (segment : SackNextSegment)
  | onRetransmissionTimeout
  | reduceSenderMss (senderMss : BitVec 32)

namespace SackOperation

def apply (k : SackScoreboard) : SackOperation → SackScoreboard
  | reset highAck highDataEnd => (k.reset highAck highDataEnd).1
  | update highAck highDataEnd blocks => (k.update highAck highDataEnd blocks).1
  | duplicateAck carriesNewSack => (k.duplicateAck carriesNewSack).1
  | enterRecovery => k.enterRecovery
  | commit segment => (k.commit segment).1
  | onRetransmissionTimeout => k.onRetransmissionTimeout
  | reduceSenderMss senderMss => k.reduceSenderMss senderMss

/-- New data comes from a range that was checked against the window. -/
def WindowChecked (k : SackScoreboard) : SackOperation → Prop
  | commit segment =>
    segment.reason = .newData → (segment.range.last - k.highAck).toNat ≤ flightLimit
  | _ => True

/-- What leaves the markers of a scoreboard where its images may have them. -/
def MarkersKept (k : SackScoreboard) : SackOperation → Prop
  | update highAck highDataEnd blocks =>
    (k.update highAck highDataEnd blocks).2.applied = true →
      highAck ≠ k.highAck + 0x80000000#32 ∧
        (k.recovery = true → k.rescuePresent = true →
          Serial.beforeOrEqual k.recoveryPoint highAck = true ∨
            Serial.before k.rescueRetransmitted highAck = false)
  | commit segment =>
    (segment.reason = .newData → (segment.range.last - k.highAck).toNat ≤ flightLimit) ∧
      ((k.commit segment).2 = true → segment.reason = .lostRetransmission →
        k.highRetransmittedEnd = k.highAck → k.rescuePresent = false →
          Serial.after segment.range.last k.recoveryPoint = false)
  | _ => True

theorem MarkersKept.windowChecked {k : SackScoreboard} {op : SackOperation}
    (kept : op.MarkersKept k) : op.WindowChecked k := by
  cases op with
  | commit segment => exact kept.1
  | _ => trivial

end SackOperation

/-- The scoreboards that a connection can have. Images are taken of scoreboards it can have. -/
inductive SackReached (allowed : SackScoreboard → SackOperation → Prop) : SackScoreboard → Prop
  | create (ranges workspace : List SackRange) (senderMss : BitVec 32)
    (valid : (SackScoreboard.create ranges workspace senderMss).valid = true) :
    SackReached allowed (SackScoreboard.create ranges workspace senderMss)
  | step {k : SackScoreboard} (op : SackOperation) (reached : SackReached allowed k)
    (checked : allowed k op) : SackReached allowed (op.apply k)
  | restore {k saved : SackScoreboard} (reached : SackReached allowed k)
    (other : SackReached allowed saved) : SackReached allowed (k.restore saved.checkpoint).1

namespace SackScoreboard

variable {k k' : SackScoreboard}

/-- Soundness does not depend on the markers of a recovery. -/
theorem Sound.of_same (sound : k.Sound) (valid : k'.valid = k.valid) (ranges : k'.ranges = k.ranges)
    (count : k'.count = k.count) (highAck : k'.highAck = k.highAck)
    (highDataEnd : k'.highDataEnd = k.highDataEnd) : k'.Sound := by
  have window : k'.window = k.window := by rw [window, window, highAck, highDataEnd]
  have live : k'.live = k.live := by rw [live, live, ranges, count]
  refine ⟨valid ▸ sound.valid, window ▸ sound.small, ?_, ?_⟩
  · rw [count, ranges]
    exact sound.count
  · rw [highAck, window, ranges, live]
    exact sound.staged

theorem sound_of_empty (valid : k.valid = true) (small : k.window ≤ flightLimit)
    (empty : k.count = 0) : k.Sound where
  valid
  small
  count := by omega
  staged := by
    have live : k.live = [] := by rw [live, empty, take_zero]
    rw [live]
    exact staged_nil

/-- New data that starts where the flight ends makes the flight no shorter. -/
theorem Sound.grown (sound : k.Sound) {first last : BitVec 32} (starts : first = k.highDataEnd)
    (bounded : boundedRange first last = true) : k.window ≤ (last - k.highAck).toNat := by
  have small := sound.small
  rw [starts] at bounded
  simp only [boundedRange, asserted] at bounded
  unfold flightLimit at small
  unfold window at small ⊢
  bv_omega

theorem Sound.commit (sound : k.Sound) {segment : SackNextSegment}
    (checked : SackOperation.WindowChecked k (.commit segment)) : (k.commit segment).1.Sound := by
  unfold SackScoreboard.commit
  split
  · exact sound
  next guard =>
  split
  · next new =>
    split
    · exact sound
    next ends =>
    have small := checked (by simpa using new)
    have first : segment.range.first = k.highDataEnd := by simpa using ends
    simp only [asserted, not_or, refuted] at guard
    have grown := sound.grown first guard.2
    exact ⟨sound.valid, small, sound.count, sound.staged.separated,
      fun i mem => Nat.le_trans (sound.staged.below i mem) grown, sound.staged.fits⟩
  · split
    · exact sound
    · rw [commitRepair_frame]
      exact sound.of_same rfl rfl rfl rfl rfl

theorem Sound.apply (sound : k.Sound) (op : SackOperation) (checked : op.WindowChecked k) :
    (op.apply k).Sound := by
  cases op with
  | reset highAck highDataEnd =>
    rw [SackOperation.apply, SackScoreboard.reset]
    split
    · exact sound
    next guard =>
    rw [Bool.or_eq_true, not_or, decide_eq_true_eq] at guard
    have short := guard.2
    refine sound_of_empty sound.valid ?_ rfl
    dsimp only [window, flightLimit]
    bv_omega
  | update highAck highDataEnd blocks =>
    cases applied : (k.update highAck highDataEnd blocks).2.applied with
    | true => exact (sound.update applied).2.2.2.1
    | false =>
      rw [SackOperation.apply, update_refused applied]
      exact sound.of_same rfl rfl rfl rfl rfl
  | duplicateAck carriesNewSack =>
    rw [SackOperation.apply, duplicateAck_frame]
    exact sound.of_same rfl rfl rfl rfl rfl
  | enterRecovery =>
    rw [SackOperation.apply, SackScoreboard.enterRecovery]
    split
    · exact sound
    · exact sound.of_same rfl rfl rfl rfl rfl
  | commit segment => exact sound.commit checked
  | onRetransmissionTimeout =>
    rw [SackOperation.apply, SackScoreboard.onRetransmissionTimeout]
    split
    · exact sound
    · refine sound_of_empty sound.valid ?_ rfl
      exact sound.small
  | reduceSenderMss senderMss =>
    rw [SackOperation.apply, reduceSenderMss_frame]
    exact sound.of_same rfl rfl rfl rfl rfl

theorem restore_cases (k : SackScoreboard) (state : SackScoreboardCheckpoint) :
    (k.restore state).1 = k ∨ k.valid = true ∧ state.validateCheckpoint k.ranges.length = true := by
  unfold SackScoreboard.restore
  split
  · exact .inl rfl
  next guard =>
  simp only [asserted, not_or, refuted] at guard
  exact .inr guard

theorem validate_fits {state : SackScoreboardCheckpoint} {capacity : Nat}
    (accepted : state.validateCheckpoint capacity = true) : state.ranges.length ≤ capacity := by
  unfold SackScoreboardCheckpoint.validateCheckpoint at accepted
  split at accepted
  · cases accepted
  next guard =>
  simp only [asserted, not_or] at guard
  omega

theorem Sound.restore {saved : SackScoreboard} (sound : k.Sound) (other : saved.Sound) :
    (k.restore saved.checkpoint).1.Sound := by
  obtain refused | ⟨ready, accepted⟩ := k.restore_cases saved.checkpoint
  · rw [refused]
    exact sound
  · have fits : saved.live.length ≤ k.ranges.length := validate_fits accepted
    rw [other.restore_adopts rfl ready accepted fits]
    have length : (k.adopt saved.checkpoint saved.live).ranges.length = k.ranges.length := by
      simp only [adopt, length_append, length_replicate]
      omega
    refine ⟨ready, other.small, ?_, ?_⟩
    · rw [length]
      exact fits
    · rw [adopt_live, length]
      exact ⟨other.staged.separated, other.staged.below, fits⟩

theorem create_sound {ranges workspace : List SackRange} {senderMss : BitVec 32}
    (valid : (create ranges workspace senderMss).valid = true) :
    (create ranges workspace senderMss).Sound ∧
      (create ranges workspace senderMss).senderMss ≠ 0#32 := by
  refine ⟨sound_of_empty valid (by simp [window, create]) rfl, ?_⟩
  simp only [create, asserted] at valid
  exact valid.2

theorem apply_senderMss (sized : k.senderMss ≠ 0#32) (op : SackOperation) :
    (op.apply k).senderMss ≠ 0#32 := by
  cases op with
  | reset highAck highDataEnd =>
    rw [SackOperation.apply, SackScoreboard.reset]
    split <;> exact sized
  | update highAck highDataEnd blocks =>
    have settled : ∀ k : SackScoreboard, k.settleRecovery.senderMss = k.senderMss := by
      intro k
      unfold settleRecovery
      dsimp only
      repeat' split
      all_goals rfl
    cases applied : (k.update highAck highDataEnd blocks).2.applied with
    | true =>
      obtain ⟨-, existing, staged, -, -, result⟩ := update_applied applied
      rw [SackOperation.apply, result, install, settled]
      exact sized
    | false =>
      rw [SackOperation.apply, update_refused applied]
      exact sized
  | duplicateAck carriesNewSack =>
    rw [SackOperation.apply, duplicateAck_frame]
    exact sized
  | enterRecovery =>
    rw [SackOperation.apply, SackScoreboard.enterRecovery]
    split <;> exact sized
  | commit segment =>
    rw [SackOperation.apply, SackScoreboard.commit]
    split
    · exact sized
    split
    · split <;> exact sized
    split
    · exact sized
    · rw [commitRepair_frame]
      exact sized
  | onRetransmissionTimeout =>
    rw [SackOperation.apply, SackScoreboard.onRetransmissionTimeout]
    split <;> exact sized
  | reduceSenderMss senderMss =>
    rw [SackOperation.apply, SackScoreboard.reduceSenderMss]
    split
    · next smaller =>
      rw [Bool.and_eq_true, bne_iff_ne] at smaller
      exact smaller.1
    · exact sized

theorem restore_senderMss (k : SackScoreboard) (state : SackScoreboardCheckpoint) :
    (k.restore state).1.senderMss = k.senderMss := by
  unfold SackScoreboard.restore
  repeat' split
  all_goals rfl

end SackScoreboard

open SackScoreboard

theorem SackReached.sound {allowed : SackScoreboard → SackOperation → Prop} {k : SackScoreboard}
    (checked : ∀ k op, allowed k op → SackOperation.WindowChecked k op)
    (reached : SackReached allowed k) : k.Sound ∧ k.senderMss ≠ 0#32 := by
  induction reached with
  | create ranges workspace senderMss valid => exact create_sound valid
  | step op reached own ih => exact ⟨ih.1.apply op (checked _ _ own), apply_senderMss ih.2 op⟩
  | restore reached other ih saved =>
    refine ⟨ih.1.restore saved.1, ?_⟩
    rw [restore_senderMss]
    exact ih.2

namespace SackScoreboard

/-- A recovery with three ranges acknowledged out of a hundred octets. -/
def threeHoles : SackScoreboard :=
  (SackOperation.enterRecovery).apply
    ((SackOperation.update 0#32 100#32 [⟨20#32, 30#32⟩, ⟨40#32, 50#32⟩, ⟨60#32, 70#32⟩]).apply
      ((SackOperation.reset 0#32 100#32).apply (create [{}, {}, {}, {}] [{}, {}, {}, {}] 10#32)))

theorem threeHoles_reached {allowed : SackScoreboard → SackOperation → Prop}
    (reset : ∀ k, allowed k (.reset 0#32 100#32)) (enter : ∀ k, allowed k .enterRecovery)
    (update : allowed ((SackOperation.reset 0#32 100#32).apply
        (create [{}, {}, {}, {}] [{}, {}, {}, {}] 10#32))
      (.update 0#32 100#32 [⟨20#32, 30#32⟩, ⟨40#32, 50#32⟩, ⟨60#32, 70#32⟩])) :
    SackReached allowed threeHoles :=
  (((SackReached.create [{}, {}, {}, {}] [{}, {}, {}, {}] 10#32 (by decide)).step
    (.reset 0#32 100#32) (reset _)).step _ update).step .enterRecovery (enter _)

variable {k : SackScoreboard}

/-- How the markers stand once a cumulative acknowledgment is taken in. -/
theorem install_marks (k : SackScoreboard) (highAck highDataEnd : BitVec 32) (added : Bool)
    (staged : List SackRange) :
    (k.install highAck highDataEnd added staged).recovery =
      (k.recovery && !Serial.beforeOrEqual k.recoveryPoint highAck) ∧
    (k.install highAck highDataEnd added staged).recoverySuppressed =
      (k.recoverySuppressed && !Serial.beforeOrEqual k.recoveryPoint highAck) ∧
    (k.install highAck highDataEnd added staged).highRetransmittedEnd =
      (if Serial.before k.highRetransmittedEnd highAck then highAck
        else k.highRetransmittedEnd) ∧
    (k.install highAck highDataEnd added staged).rescueRetransmitted = k.rescueRetransmitted ∧
    (k.install highAck highDataEnd added staged).duplicateAcknowledgments =
      (if Serial.after highAck k.highAck then 0#32 else k.duplicateAcknowledgments) ∧
    (k.install highAck highDataEnd added staged).rescuePresent =
      (k.rescuePresent && !(k.recovery && Serial.beforeOrEqual k.recoveryPoint highAck)) ∧
    (k.install highAck highDataEnd added staged).recoveryPoint =
      if !(k.install highAck highDataEnd added staged).recovery &&
          !(k.install highAck highDataEnd added staged).recoverySuppressed &&
          Serial.before k.recoveryPoint highAck then highAck
      else k.recoveryPoint := by
  unfold install settleRecovery
  cases k.recovery <;> cases k.recoverySuppressed <;>
    cases hb : Serial.beforeOrEqual k.recoveryPoint highAck <;>
    cases hl : Serial.before k.recoveryPoint highAck <;>
    simp [hb, hl]

/-- A cumulative acknowledgment that stays within half the sequence space of the old one. -/
theorem Sound.shifted (sound : k.Sound) {highAck highDataEnd : BitVec 32}
    (edges : k.malformedEdges highAck highDataEnd = false)
    (apart : highAck ≠ k.highAck + 0x80000000#32) {x : BitVec 32} (inside : k.offset x ≤ k.window) :
    (Serial.before x highAck = true ↔ k.offset x < k.offset highAck) ∧
      (Serial.beforeOrEqual x highAck = true ↔ k.offset x ≤ k.offset highAck) ∧
        (k.offset highAck ≤ k.offset x →
          (x - highAck).toNat = k.offset x - k.offset highAck ∧
            (x - highAck).toNat ≤ (highDataEnd - highAck).toNat) := by
  have small := sound.small
  simp only [malformedEdges, refuted] at edges
  obtain ⟨⟨⟨⟨-, back⟩, shrunk⟩, order⟩, long⟩ := edges
  rw [← Bool.not_eq_true, Serial.before_iff] at back shrunk
  rw [← Bool.not_eq_true, Serial.after_iff] at order
  unfold flightLimit at small
  have near : k.offset highAck < 0x80000000 := by
    unfold offset
    bv_omega
  refine ⟨Serial.before_offset (by unfold offset at inside; omega) near,
    Serial.beforeOrEqual_offset (by unfold offset at inside; omega) near, fun ahead => ?_⟩
  unfold offset window at *
  constructor <;> bv_omega

theorem Restorable.update (restorable : k.Restorable) {highAck highDataEnd : BitVec 32}
    {blocks : List SackBlock}
    (kept : SackOperation.MarkersKept k (.update highAck highDataEnd blocks)) :
    (k.update highAck highDataEnd blocks).1.Restorable := by
  obtain ⟨sound, roomy, repaired, point, exclusive, rescue, counted⟩ := restorable
  cases applied : (k.update highAck highDataEnd blocks).2.applied with
  | false =>
    rw [update_refused applied]
    exact ⟨sound.of_same rfl rfl rfl rfl rfl, roomy, repaired, point, exclusive, rescue, counted⟩
  | true =>
    obtain ⟨apart, rescued⟩ := kept applied
    obtain ⟨ack, data, length, next, -, -⟩ := sound.update applied
    obtain ⟨edges, existing, staged, -, -, result⟩ := update_applied applied
    have shape : (k.update highAck highDataEnd blocks).1 = k.install highAck highDataEnd
        (decide (sackedOctets existing < sackedOctets staged)) staged := by rw [result]
    have marks := k.install_marks highAck highDataEnd
      (decide (sackedOctets existing < sackedOctets staged)) staged
    rw [← shape] at marks
    obtain ⟨recovers, suppressed, repairs, rescues, counts, presents, points⟩ := marks
    have newWindow : (k.update highAck highDataEnd blocks).1.window =
        (highDataEnd - highAck).toNat := by rw [window, ack, data]
    have newOffset : ∀ x, (k.update highAck highDataEnd blocks).1.offset x =
        (x - highAck).toNat := fun x => by rw [offset, ack]
    obtain ⟨pointBefore, pointReached, pointAhead⟩ := sound.shifted edges apart point
    refine ⟨next, by omega, ?_, ?_, ?_, ?_, ?_⟩
    · have moved : (k.update highAck highDataEnd blocks).1.repaired =
          (k.update highAck highDataEnd blocks).1.offset
            (k.update highAck highDataEnd blocks).1.highRetransmittedEnd := rfl
      obtain ⟨before, -, ahead⟩ := sound.shifted edges apart repaired
      rw [moved, newOffset, newWindow, repairs]
      split
      · simp
      next beyond =>
      rw [before] at beyond
      exact (ahead (by omega)).2
    · rw [newOffset, newWindow, points]
      split
      · simp
      next beyond =>
      refine (pointAhead (Nat.not_lt.mp fun passed => beyond ?_)).2
      have reached := pointReached.mpr (Nat.le_of_lt passed)
      rw [recovers, suppressed, reached, pointBefore.mpr passed]
      simp
    · rw [recovers, suppressed]
      simp only [asserted, refuted]
      exact fun recovering => .inl (exclusive recovering.1)
    · intro present
      rw [presents, Bool.and_eq_true, Bool.not_eq_true', Bool.and_eq_false_iff] at present
      obtain ⟨present, stays⟩ := present
      obtain ⟨recovering, below⟩ := rescue present
      have open' : Serial.beforeOrEqual k.recoveryPoint highAck = false :=
        stays.resolve_left (by simp [recovering])
      have still : (k.update highAck highDataEnd blocks).1.recovery = true := by
        rw [recovers, recovering, open']
        rfl
      refine ⟨still, ?_⟩
      have behind : Serial.before k.rescueRetransmitted highAck = false :=
        (rescued recovering present).resolve_left (by simp [open'])
      have inside : k.offset k.rescueRetransmitted ≤ k.window := Nat.le_trans below point
      obtain ⟨before, -, ahead⟩ := sound.shifted edges apart inside
      rw [← Bool.not_eq_true, before] at behind
      rw [← Bool.not_eq_true, pointReached] at open'
      rw [newOffset, newOffset, rescues, points, still, (ahead (by omega)).1]
      simp only [settled]
      rw [(pointAhead (by omega)).1]
      omega
    · rw [recovers, counts]
      simp only [asserted]
      intro recovering
      rw [counted recovering.1]
      split <;> rfl

/-- A repair that is admitted ends in the flight, if it ends behind the mark. -/
theorem Restorable.repair_inside (restorable : k.Restorable) {r : SackRange}
    (past : Serial.after r.last k.highDataEnd = false)
    (ahead : Serial.after r.last k.highRetransmittedEnd = true) : k.offset r.last ≤ k.window := by
  have small := restorable.small
  have repaired := restorable.repaired
  rw [← Bool.not_eq_true, Serial.after_iff] at past
  rw [Serial.after_iff] at ahead
  unfold flightLimit at small
  unfold SackScoreboard.repaired at repaired
  unfold offset window at *
  bv_omega

theorem Restorable.commit (restorable : k.Restorable) {segment : SackNextSegment}
    (kept : SackOperation.MarkersKept k (.commit segment)) : (k.commit segment).1.Restorable := by
  have sound := restorable.toSound.commit kept.windowChecked
  obtain ⟨-, marked⟩ := kept
  have inside := restorable.repair_inside (r := segment.range)
  have ⟨own, roomy, repaired, point, exclusive, rescue, counted⟩ := restorable
  unfold SackScoreboard.commit at sound marked ⊢
  split
  · exact restorable
  next guard =>
  rw [if_neg guard] at sound marked
  simp only [asserted, not_or, refuted] at guard
  obtain ⟨⟨⟨-, -⟩, recovering⟩, bounded⟩ := guard
  split
  · next new =>
    rw [if_pos new] at sound
    split
    · exact restorable
    next ends =>
    rw [if_neg ends] at sound
    have grown := own.grown (by simpa using ends) bounded
    exact ⟨sound, roomy, Nat.le_trans repaired grown, Nat.le_trans point grown, exclusive,
      rescue, counted⟩
  · next old =>
    rw [if_neg old] at sound marked
    split
    · exact restorable
    next edges =>
    rw [if_neg edges] at sound marked
    simp only [asserted, not_or, refuted] at edges
    have inside := inside edges.2
    unfold commitRepair at sound ⊢
    split
    · next rescues =>
      rw [if_pos rescues] at sound
      exact ⟨sound, roomy, repaired, point, exclusive,
        fun _ => ⟨recovering, Nat.le_refl _⟩, counted⟩
    · next other =>
      rw [if_neg other] at sound
      split
      · next ahead =>
        rw [if_pos ahead] at sound
        split
        · next first =>
          rw [if_pos first] at sound
          simp only [asserted] at first
          obtain ⟨⟨lost, starts⟩, unmarked⟩ := first
          have below := marked rfl lost starts unmarked
          rw [Serial.after, ← Bool.not_eq_true, own.before_iff _ _ point (inside ahead)] at below
          exact ⟨sound, roomy, inside ahead, point, exclusive,
            fun _ => ⟨recovering, Nat.not_lt.mp below⟩, counted⟩
        · next later =>
          rw [if_neg later] at sound
          exact ⟨sound, roomy, inside ahead, point, exclusive, rescue, counted⟩
      · next within =>
        rw [if_neg within] at sound
        exact ⟨sound, roomy, repaired, point, exclusive, rescue, counted⟩

theorem Restorable.apply (restorable : k.Restorable) (op : SackOperation)
    (kept : op.MarkersKept k) : (op.apply k).Restorable := by
  have sound := restorable.toSound.apply op kept.windowChecked
  have ⟨own, roomy, repaired, point, exclusive, rescue, counted⟩ := restorable
  cases op with
  | reset highAck highDataEnd =>
    rw [SackOperation.apply, SackScoreboard.reset] at sound ⊢
    split
    · exact restorable
    next guard =>
    rw [if_neg guard] at sound
    refine ⟨sound, by simpa using roomy, by simp [SackScoreboard.repaired], Nat.le_refl _, ?_, ?_,
      ?_⟩ <;> rintro ⟨⟩
  | update highAck highDataEnd blocks => exact restorable.update kept
  | duplicateAck carriesNewSack =>
    rw [SackOperation.apply] at sound ⊢
    have counts : (k.duplicateAck carriesNewSack).1.recovery = true →
        (k.duplicateAck carriesNewSack).1.duplicateAcknowledgments = 0#32 := by
      unfold SackScoreboard.duplicateAck
      split
      · exact counted
      next guard =>
      intro recovering
      simp only [asserted, not_or] at guard
      exact absurd recovering guard.1.2
    rw [duplicateAck_frame] at sound counts ⊢
    exact ⟨sound, roomy, repaired, point, exclusive, rescue, counts⟩
  | enterRecovery =>
    rw [SackOperation.apply, SackScoreboard.enterRecovery] at sound ⊢
    split
    · exact restorable
    next guard =>
    rw [if_neg guard] at sound
    simp only [asserted, not_or, refuted] at guard
    refine ⟨sound, roomy, by simp [SackScoreboard.repaired], Nat.le_refl _, fun _ => guard.2,
      ?_, fun _ => rfl⟩
    rintro ⟨⟩
  | commit segment => exact restorable.commit kept
  | onRetransmissionTimeout =>
    rw [SackOperation.apply, SackScoreboard.onRetransmissionTimeout] at sound ⊢
    split
    · exact restorable
    next guard =>
    rw [if_neg guard] at sound
    refine ⟨sound, by simpa using roomy, by simp [SackScoreboard.repaired], Nat.le_refl _, ?_, ?_,
      ?_⟩ <;> rintro ⟨⟩
  | reduceSenderMss senderMss =>
    rw [SackOperation.apply, reduceSenderMss_frame] at sound ⊢
    exact ⟨sound, roomy, repaired, point, exclusive, rescue, counted⟩

theorem Restorable.restore {saved : SackScoreboard} (restorable : k.Restorable)
    (other : saved.Restorable) : (k.restore saved.checkpoint).1.Restorable := by
  have sound := restorable.toSound.restore other.toSound
  obtain refused | ⟨ready, accepted⟩ := k.restore_cases saved.checkpoint
  · rw [refused]
    exact restorable
  · have fits : saved.live.length ≤ k.ranges.length := validate_fits accepted
    rw [other.toSound.restore_adopts rfl ready accepted fits] at sound ⊢
    obtain ⟨-, -, repaired, point, exclusive, rescue, counted⟩ := other
    refine ⟨sound, ?_, repaired, point, exclusive, rescue, counted⟩
    have roomy := restorable.roomy
    simp only [adopt, length_append, length_replicate]
    omega

theorem create_restorable {ranges workspace : List SackRange} {senderMss : BitVec 32}
    (valid : (create ranges workspace senderMss).valid = true) :
    (create ranges workspace senderMss).Restorable := by
  refine ⟨(create_sound valid).1, ?_, by simp [SackScoreboard.repaired, create],
    by simp [offset, create], by rintro ⟨⟩, by rintro ⟨⟩, by rintro ⟨⟩⟩
  simp only [create, asserted, isEmpty_eq_false_iff] at valid
  have some := length_pos_iff.mpr valid.1.1
  simp only [create]
  split
  · simpa using some
  · exact some

end SackScoreboard

theorem SackReached.restorable {k : SackScoreboard}
    (reached : SackReached SackOperation.MarkersKept k) : k.Restorable := by
  induction reached with
  | create ranges workspace senderMss valid => exact create_restorable valid
  | step op reached kept ih => exact ih.apply op kept
  | restore reached other ih saved => exact ih.restore saved

/-- Where every step keeps the markers in place, each image is acceptable and gives the scoreboard
back. -/
theorem scoreboard_checkpoint_restorable {k : SackScoreboard}
    (reached : SackReached SackOperation.MarkersKept k) :
    k.checkpoint.validateCheckpoint k.ranges.length = true ∧
      ∀ fresh : SackScoreboard, fresh.valid = true → fresh.ranges.length = k.ranges.length →
        (fresh.restore k.checkpoint).2 = true ∧
          (fresh.restore k.checkpoint).1.checkpoint = k.checkpoint :=
  ⟨reached.restorable.validates, fun _ ready same => reached.restorable.restores ready same⟩

theorem threeHoles_restorable :
    threeHoles.checkpoint.validateCheckpoint threeHoles.ranges.length = true ∧
      (threeHoles.restore threeHoles.checkpoint).2 = true := by
  have reached : SackReached SackOperation.MarkersKept threeHoles :=
    threeHoles_reached (fun _ => trivial) (fun _ => trivial)
      fun _ => ⟨by decide +kernel, fun recovering => absurd recovering (by decide +kernel)⟩
  obtain ⟨validates, restores⟩ := scoreboard_checkpoint_restorable reached
  exact ⟨validates, (restores threeHoles (by decide +kernel) rfl).1⟩

/-- The first lost octets are sent again, and a partial acknowledgment passes them. -/
def overtaken : SackScoreboard :=
  (SackOperation.update 15#32 100#32 []).apply
    ((SackOperation.commit (threeHoles.nextSegment none)).apply threeHoles)

theorem overtaken_not_restorable :
    SackReached SackOperation.WindowChecked overtaken ∧
      overtaken.checkpoint.validateCheckpoint overtaken.ranges.length = false := by
  have checked : SackOperation.WindowChecked threeHoles
      (.commit (threeHoles.nextSegment none)) := by
    intro new
    have reason : (threeHoles.nextSegment none).reason = .lostRetransmission := by decide +kernel
    rw [reason] at new
    cases new
  refine ⟨SackReached.step _ (SackReached.step _ ?_ checked) trivial, by decide +kernel⟩
  exact threeHoles_reached (fun _ => trivial) (fun _ => trivial) trivial

end RouterSim.Tcp
