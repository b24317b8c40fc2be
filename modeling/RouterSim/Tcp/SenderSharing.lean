import RouterSim.Tcp.SenderRuns
import RouterSim.Tcp.Connection

/-! A connection stages copies of its sender. A copy has fields of its own but the
arenas of the live sender, so each can be changed under the other. -/
namespace RouterSim.Tcp

open List SackScoreboard

/-! ## Arenas changed under a repository -/

namespace SendBuffer.Refines

variable {b live : SendBuffer} {origin : BitVec 32} {s older : SendStream}

/-- A write into the live queue leaves a shorter queue at the same head alone. -/
theorem under_write (h : b.Refines origin older) (hlive : live.Refines origin s)
    (hstorage : b.storage = live.storage) (hhead : b.head = live.head)
    (hreleased : older.released = s.released) (hle : older.accepted.length ≤ s.accepted.length)
    (input : List Octet) :
    Refines { b with storage := (live.write input).1.storage } origin older := by
  have hlen : (live.write input).1.storage.length = b.storage.length := by
    rw [hstorage]
    unfold SendBuffer.write
    split
    · rfl
    · simp
  refine { h with nonempty := ?_, bounded := ?_, fits := ?_, head := ?_, queue := ?_ }
  · simpa only [hlen] using h.nonempty
  · simpa only [hlen] using h.bounded
  · simpa only [hlen] using h.fits
  · simpa only [hlen] using h.head
  · have grown := (hlive.write input).queue
    have before := hlive.queue
    have hrel := s.released_le
    have hsent := s.sent_le
    have hhead' : (live.write input).1.head = live.head := by
      unfold SendBuffer.write
      split <;> rfl
    rw [hhead'] at grown
    have short := @Circular.window_take _ live.head.toNat
      ((s.accepted ++ input.take (live.write input).2).length - s.released)
      (live.write input).1.storage 0#8 (older.accepted.length - older.released) (by simp; omega)
    have kept := @Circular.window_take _ live.head.toNat (s.accepted.length - s.released)
      live.storage 0#8 (older.accepted.length - older.released) (by omega)
    have hqueue := h.queue
    rw [hstorage, hhead] at hqueue
    dsimp only at grown ⊢
    rw [hhead, ← short, grown, ← hqueue, ← kept, before,
      drop_append_of_le_length (by omega), take_append_of_le_length (by simp; omega)]

/-- With the arena overwritten the repository holds some other stream of the same
shape. -/
theorem overwritten (h : b.Refines origin s) {storage : List Octet}
    (hlen : storage.length = b.storage.length) :
    ∃ t : SendStream, t.released = s.released ∧ t.sent = s.sent ∧
      t.accepted.length = s.accepted.length ∧ Refines { b with storage } origin t := by
  have hrel := s.released_le
  have hsent := s.sent_le
  have hsize : (s.accepted.take s.released ++ Circular.window storage 0#8 b.head.toNat
      (s.accepted.length - s.released)).length = s.accepted.length := by
    simp
    omega
  refine ⟨⟨s.accepted.take s.released ++ Circular.window storage 0#8 b.head.toNat
      (s.accepted.length - s.released), s.released, s.sent, hrel, by omega⟩, rfl, rfl, hsize, ?_⟩
  exact {
    valid := h.valid
    nonempty := by simpa only [hlen] using h.nonempty
    bounded := by simpa only [hlen] using h.bounded
    fits := by simpa only [hsize, hlen] using h.fits
    unacknowledged := h.unacknowledged
    next := h.next
    written := by simpa only [hsize] using h.written
    head := by simpa only [hlen] using h.head
    queue := by
      simp only [hsize]
      rw [drop_append_of_le_length (by rw [length_take]; omega),
        drop_of_length_le (length_take_le _ _)]
      rfl }

end SendBuffer.Refines

theorem SendBuffer.acknowledge_storage (b : SendBuffer) (acknowledgment : BitVec 32) :
    (b.acknowledge acknowledgment).1.storage.length = b.storage.length := by
  unfold SendBuffer.acknowledge
  repeat' split
  all_goals simp

theorem TransmissionHistory.acknowledgeLoop_records (h : TransmissionHistory)
    (acknowledgment : BitVec 32) (rounds : Nat) :
    (h.acknowledgeLoop acknowledgment rounds).records.length = h.records.length := by
  induction rounds generalizing h with
  | zero => rfl
  | succ rounds ih =>
    unfold acknowledgeLoop
    dsimp only
    split
    · rw [ih]
      simp
    · split
      · simp
      · rfl

theorem TransmissionHistory.acknowledge_records (h : TransmissionHistory)
    (acknowledgment : BitVec 32) :
    (h.acknowledge acknowledgment).records.length = h.records.length := by
  unfold acknowledge
  dsimp only
  split <;> exact acknowledgeLoop_records h acknowledgment h.count

theorem SackScoreboard.update_ranges (k : SackScoreboard) (highAck highDataEnd : BitVec 32)
    (blocks : List SackBlock) :
    k.ranges.length ≤ (k.update highAck highDataEnd blocks).1.ranges.length := by
  unfold update
  split
  · exact Nat.le_refl _
  split
  · exact Nat.le_refl _
  split
  · exact Nat.le_refl _
  rw [install, (settleRecovery_frame _).2.2.1]
  simp
  omega

namespace Sender

variable {s : Sender} {origin : BitVec 32} {stream : SendStream}

theorem acknowledgeScoreboard_ranges (s : Sender) (acknowledgment : BitVec 32)
    (blocks : List SackBlock) :
    s.sack.ranges.length ≤ (s.acknowledgeScoreboard acknowledgment blocks).1.sack.ranges.length := by
  unfold acknowledgeScoreboard
  dsimp only
  generalize (if s.sackEnabled then blocks else []) = offered
  split
  · exact update_ranges _ _ _ _
  · exact Nat.le_trans (update_ranges _ _ _ _) (update_ranges _ _ _ _)

theorem enterRecovery_ranges (k : SackScoreboard) : k.enterRecovery.ranges = k.ranges := by
  unfold enterRecovery
  split <;> rfl

theorem detectLoss_ranges (s : Sender) (newSackInformation : Bool) :
    (s.detectLoss newSackInformation).sack.ranges = s.sack.ranges := by
  have counted : (s.sack.duplicateAck true).1.ranges = s.sack.ranges := by
    rw [duplicateAck_frame]
  unfold detectLoss
  dsimp only
  split
  · split
    · exact (enterRecovery_ranges _).trans counted
    · exact counted
  · rfl

section

variable (h : s.Steady origin stream)
include h

theorem Steady.acknowledge_ranges (acknowledgment receiverWindow : BitVec 32)
    (duplicateAckEligible : Bool) (now : Instant) (timestampRtt : Option Duration)
    (blocks : List SackBlock) :
    s.sack.ranges.length ≤ (s.acknowledge acknowledgment receiverWindow duplicateAckEligible now
      timestampRtt blocks).1.sack.ranges.length := by
  have scored := s.acknowledgeScoreboard_ranges acknowledgment blocks
  rcases h.bytes.acknowledge_cases acknowledgment with ⟨_, hack⟩ | ⟨_, _, hack⟩ |
    ⟨_, _, next, hbytes, _, _, hnext, _, hstatus⟩
  · rw [acknowledge_beyond _ _ _ _ _ _ h.valid hack]
    exact Nat.le_refl _
  · rw [acknowledge_duplicate _ _ _ _ _ _ h.valid hack]
    simp only [updatePersist]
    rw [detectLoss_ranges]
    obtain ⟨_, _, _, heq, _⟩ := onDuplicate_eq
      ((s.acknowledgeScoreboard acknowledgment blocks).1.takeWindow receiverWindow)
      duplicateAckEligible
    rw [heq]
    exact scored
  · have hkept : (s.bytes.acknowledge acknowledgment).1.sendNext = s.bytes.sendNext := by
      rw [hbytes.next, h.bytes.next, hnext]
    rw [acknowledge_advanced _ _ _ _ _ _ h.valid hstatus hkept]
    simp only [updatePersist]
    rw [detectLoss_ranges]
    obtain ⟨_, _, _, _, heq⟩ := onAdvanced_eq
      (takeWindow { (s.acknowledgeScoreboard acknowledgment blocks).1 with
        bytes := (s.bytes.acknowledge acknowledgment).1 } receiverWindow)
      acknowledgment (acknowledgment - s.bytes.sendUnacknowledged) s.sack.recovery now timestampRtt
    rw [heq]
    exact scored

/-! ## A steady sender stays steady -/

theorem Steady.updatePersist (now : Instant) : (s.updatePersist now).Steady origin stream :=
  ⟨h.valid, h.bytes, h.ring, h.sack⟩

omit h in
theorem write_count (hv : s.valid = true) (input : List Octet) (now : Instant) :
    (s.write input now).2 = (s.bytes.write input).2 := by
  unfold Sender.write
  rw [if_neg (by simp [hv])]
  dsimp only
  split <;> rfl

theorem Steady.write (input : List Octet) (now : Instant) :
    ∃ fits, (s.write input now).1.Steady origin
      ⟨stream.accepted ++ input.take (s.write input now).2, stream.released, stream.sent,
        stream.released_le, fits⟩ := by
  have fits : stream.sent ≤ (stream.accepted ++ input.take (s.write input now).2).length := by
    have := stream.sent_le
    simp only [length_append]
    omega
  have hbytes := h.bytes.write input
  obtain ⟨_, heq⟩ := write_frame h.valid input now
  refine ⟨fits, ?_⟩
  simp only [← write_count h.valid input now] at hbytes
  rw [heq]
  exact ⟨h.valid, hbytes, h.ring, h.sack⟩

theorem Steady.reduceMss (senderMss : BitVec 32) :
    (s.reduceMss senderMss).1.Steady origin stream := by
  rcases reduceMss_cases s senderMss with same | ⟨_, heq⟩
  · rw [same]
    exact h
  · rw [heq]
    exact ⟨h.valid, h.bytes, h.ring, h.sack.reduceSenderMss senderMss⟩

/-- An acknowledgment leaves the sender steady: either its repository is as it was,
or the octets before the acknowledgment are released. -/
theorem Steady.acknowledge (acknowledgment receiverWindow : BitVec 32) (duplicateAckEligible : Bool)
    (now : Instant) (timestampRtt : Option Duration) (blocks : List SackBlock) :
    (acknowledgmentAdvances acknowledgment s.bytes.sendUnacknowledged s.bytes.sendNext = false ∧
      (s.acknowledge acknowledgment receiverWindow duplicateAckEligible now timestampRtt
        blocks).1.bytes = s.bytes ∧
      (s.acknowledge acknowledgment receiverWindow duplicateAckEligible now timestampRtt
        blocks).1.Steady origin stream) ∨
    (acknowledgmentAdvances acknowledgment s.bytes.sendUnacknowledged s.bytes.sendNext = true ∧
      ∃ next : SendStream, next.accepted = stream.accepted ∧ next.sent = stream.sent ∧
        stream.released ≤ next.released ∧ acknowledgment = Serial.counter origin next.released ∧
        (s.acknowledge acknowledgment receiverWindow duplicateAckEligible now timestampRtt
          blocks).1.Steady origin next) := by
  have hsent := stream.sent_le
  have hspan := h.bytes.span
  rcases h.acknowledge_cases acknowledgment receiverWindow duplicateAckEligible now timestampRtt
    blocks with ⟨hn, heq⟩ | ⟨hn, hu, _, _, _, _, _, heq, tracks, _⟩ |
      ⟨hn, hu, next, _, _, _, _, _, _, _, _, _, hbytes, hcounter, hadvance, hnext, haccepted, heq,
        tracks, _⟩
  · left
    rw [heq]
    refine ⟨?_, rfl, h.updatePersist now⟩
    simp only [acknowledgmentAdvances, refuted]
    right
    rw [← Bool.not_eq_true, Serial.beforeOrEqual_iff]
    rw [Serial.after_iff] at hn
    bv_omega
  · left
    rw [heq]
    refine ⟨?_, rfl, h.valid, h.bytes, h.ring, tracks⟩
    simp [acknowledgmentAdvances, hu]
  · right
    have hle := next.released_le
    obtain ⟨ring, _⟩ := TransmissionHistory.acknowledge_live h.ring acknowledgment
    rw [heq]
    refine ⟨?_, next, haccepted, hnext, Nat.le_of_lt hadvance, hcounter, h.valid, hbytes, ring,
      tracks⟩
    simp only [acknowledgmentAdvances, hu]
    rw [h.bytes.next, hcounter, ← hnext]
    exact (Serial.counter_beforeOrEqual origin (by omega) (by omega)).mpr hle

/-- Only the deadline fields differ between a sender and what a preparation leaves. -/
theorem Steady.prepareNew (now : Instant) (pushed : Bool) :
    (s.prepareNew now pushed).1.Steady origin stream ∧
    (s.prepareNew now pushed).1.bytes = s.bytes := by
  obtain ⟨_, heq⟩ := s.prepareNew_frame now pushed h.valid
  rw [heq]
  exact ⟨⟨h.valid, h.bytes, h.ring, h.sack⟩, rfl⟩

theorem Steady.preparePersistProbe (now : Instant) :
    (s.preparePersistProbe now).1.Steady origin stream ∧
    (s.preparePersistProbe now).1.bytes = s.bytes := by
  rw [s.preparePersistProbe_frame now h.valid]
  exact ⟨h.updatePersist now, rfl⟩

/-- A commit changes nothing or moves SND.NXT over the new data. -/
theorem Steady.commit {intent : PreparedTransmission} (hi : intent.Shaped) (now : Instant) :
    s.commit intent now = (s, false) ∨
    ((s.commit intent now).2 = true ∧
      ∃ next : SendStream, next.accepted = stream.accepted ∧ next.released = stream.released ∧
        (s.commit intent now).1.Steady origin next ∧
        (s.commit intent now).1.bytes.sendNext =
          if intent.range.retransmission then s.bytes.sendNext
          else s.bytes.sendNext + intent.range.length) := by
  rcases h.commit_cases hi now with refused | ⟨next, admitted, haccepted, applied⟩
  · exact .inl refused
  · right
    obtain ⟨_, final, _⟩ := admitted.apply_steady hi h.bytes.flight_zero
    obtain ⟨first, hfirst, hlast, _, _, hrepair, hnew⟩ := admitted.positions
    rw [applied]
    refine ⟨rfl, next, haccepted, admitted.released,
      ⟨final.valid, final.bytes, final.ring, final.sack⟩, ?_⟩
    rw [final.bytes.next]
    cases hr : intent.range.retransmission with
    | true => rw [(hrepair hr).2, if_pos rfl, h.bytes.next]
    | false =>
      obtain ⟨hsent, hnext⟩ := hnew hr
      rw [if_neg (by simp), hnext, hsent, Serial.counter_add, ← h.bytes.next, BitVec.ofNat_toNat,
        BitVec.setWidth_eq]

/-! ## Copies over shared arenas -/

/-- Over the live arenas, the copy stands for the stream as it was when the copy
was made: at most some octets shorter. -/
structure Staged (copy live : Sender) (origin : BitVec 32) (stream : SendStream) : Prop where
  head : copy.bytes.head = live.bytes.head
  steady : ∃ older : SendStream, older.accepted <+: stream.accepted ∧
    older.released = stream.released ∧ older.sent = stream.sent ∧
    (copy.share live).Steady origin older

theorem Steady.staged : Staged s s origin stream where
  head := rfl
  steady := ⟨stream, prefix_rfl, rfl, rfl, h⟩

end

variable {copy live : Sender}

theorem Staged.write (h : Staged copy live origin stream) (hlive : live.Steady origin stream)
    (input : List Octet) (now : Instant) {fits} :
    Staged copy (live.write input now).1 origin
      ⟨stream.accepted ++ input.take (live.write input now).2, stream.released, stream.sent,
        stream.released_le, fits⟩ := by
  obtain ⟨older, hprefix, hreleased, hsent, steady⟩ := h.steady
  obtain ⟨_, heq⟩ := write_frame hlive.valid input now
  have hhead : (live.bytes.write input).1.head = live.bytes.head := by
    unfold SendBuffer.write
    split <;> rfl
  have hbytes := steady.bytes.under_write hlive.bytes rfl h.head hreleased hprefix.length_le input
  refine ⟨?_, older, hprefix.trans (prefix_append _ _), hreleased, hsent, ?_⟩
  · rw [heq]
    exact h.head.trans hhead.symm
  · rw [heq]
    exact ⟨steady.valid, hbytes, ⟨steady.ring.valid, steady.ring.nonempty, steady.ring.head,
      steady.ring.count⟩, ⟨steady.sack.valid, steady.sack.count, steady.sack.highAck,
      steady.sack.highDataEnd, steady.sack.recovery⟩⟩

theorem Staged.reduceMss (h : Staged copy live origin stream) (senderMss : BitVec 32) :
    Staged copy (live.reduceMss senderMss).1 origin stream := by
  obtain ⟨older, hprefix, hreleased, hsent, steady⟩ := h.steady
  rcases reduceMss_cases live senderMss with same | ⟨_, heq⟩
  · rw [same]
    exact h
  · have hranges : (live.sack.reduceSenderMss senderMss).ranges = live.sack.ranges := by
      rw [reduceSenderMss_frame]
    refine ⟨?_, older, hprefix, hreleased, hsent, ?_⟩
    · rw [heq]
      exact h.head
    · rw [heq]
      refine ⟨steady.valid, steady.bytes, steady.ring, ?_⟩
      simp only [share, hranges]
      exact steady.sack

/-- An acknowledgment on a dropped copy leaves the sender steady, though not
always for the same octets. -/
theorem Steady.share_acknowledged (h : s.Steady origin stream)
    (acknowledgment receiverWindow : BitVec 32) (duplicateAckEligible : Bool) (now : Instant)
    (timestampRtt : Option Duration) (blocks : List SackBlock) :
    ∃ t : SendStream, t.released = stream.released ∧ t.sent = stream.sent ∧
      (acknowledgmentAdvances acknowledgment s.bytes.sendUnacknowledged s.bytes.sendNext = false →
        t.accepted = stream.accepted) ∧
      (s.share (s.acknowledge acknowledgment receiverWindow duplicateAckEligible now timestampRtt
        blocks).1).Steady origin t := by
  have ranges := h.acknowledge_ranges acknowledgment receiverWindow duplicateAckEligible now
    timestampRtt blocks
  have sack : ∀ k : SackScoreboard, s.sack.ranges.length ≤ k.ranges.length →
      SackScoreboard.Tracks { s.sack with ranges := k.ranges } origin stream.released stream.sent :=
    fun _ hle => ⟨h.sack.valid, Nat.le_trans h.sack.count hle, h.sack.highAck, h.sack.highDataEnd,
      h.sack.recovery⟩
  rcases h.acknowledge_cases acknowledgment receiverWindow duplicateAckEligible now timestampRtt
    blocks with ⟨_, heq⟩ | ⟨_, _, _, _, _, _, _, heq, _⟩ |
      ⟨_, hu, next, _, _, _, _, _, _, _, _, _, hbytes, hcounter, _, hnext, _, heq, _⟩
  · refine ⟨stream, rfl, rfl, fun _ => rfl, ?_⟩
    rw [heq]
    exact h
  · refine ⟨stream, rfl, rfl, fun _ => rfl, ?_⟩
    rw [heq] at ranges ⊢
    exact ⟨h.valid, h.bytes, h.ring, sack _ ranges⟩
  · obtain ⟨t, hreleased, hsent, _, overwritten⟩ := h.bytes.overwritten
      (s.bytes.acknowledge_storage acknowledgment)
    have hrecords := s.history.acknowledge_records acknowledgment
    have hle := next.released_le
    have hspan := hbytes.span
    have hsize := next.sent_le
    have inside : acknowledgmentAdvances acknowledgment s.bytes.sendUnacknowledged
        s.bytes.sendNext = true := by
      simp only [acknowledgmentAdvances, hu]
      rw [h.bytes.next, hcounter, ← hnext]
      exact (Serial.counter_beforeOrEqual origin (by omega) (by omega)).mpr hle
    refine ⟨t, hreleased, hsent, fun outside => ?_, ?_⟩
    · rw [inside] at outside
      cases outside
    · rw [heq] at ranges ⊢
      refine ⟨h.valid, overwritten, ⟨h.ring.valid, ?_, ?_, ?_⟩, ?_⟩
      · exact Nat.lt_of_lt_of_eq h.ring.nonempty hrecords.symm
      · exact Nat.lt_of_lt_of_eq h.ring.head hrecords.symm
      · exact Nat.le_trans h.ring.count (Nat.le_of_eq hrecords.symm)
      · rw [hreleased, hsent]
        exact sack _ ranges

end Sender

end RouterSim.Tcp
