import RouterSim.Tcp.Sender

namespace RouterSim.Tcp

open Serial TransmissionHistory

/-- What a recovery transmission reports to the scoreboard. -/
abbrev PreparedTransmission.segment (intent : PreparedTransmission) : SackNextSegment :=
  { range := { first := intent.range.sequence, last := intent.rangeEnd }
    reason := intent.sackReason }

/-! ## Runs of a sender -/

/-- A sender with every transmission it has prepared so far. -/
structure SenderRun where
  sender : Sender
  issued : List PreparedTransmission := []

inductive SenderOp
  | write (input : List Octet) (now : Instant)
  | updateReceiverWindow (receiverWindow : BitVec 32) (now : Instant)
  | setNagleEnabled (enabled : Bool)
  | setSackEnabled (enabled : Bool)
  | reduceMss (senderMss : BitVec 32)
  | prepareNew (now : Instant) (pushed : Bool)
  | preparePersistProbe (now : Instant)
  | prepareSackRecovery (now : Instant)
  | prepareFastRetransmission
  | prepareTimeoutRetransmission (now : Instant)
  | commit (index : Nat) (now : Instant)
  | acknowledge (acknowledgment receiverWindow : BitVec 32) (duplicateAckEligible : Bool)
      (now : Instant) (timestampRtt : Option Duration) (sackBlocks : List SackBlock)
  | takeFailureAction (now : Instant)

namespace SenderRun

def issue (t : SenderRun) (prepared : Sender × PreparedTransmission) : SenderRun :=
  { sender := prepared.1, issued := t.issued ++ [prepared.2] }

/-- A commit may name any transmission prepared earlier, in any order and any
number of times. -/
def step (t : SenderRun) : SenderOp → SenderRun
  | .write input now => { t with sender := (t.sender.write input now).1 }
  | .updateReceiverWindow receiverWindow now =>
    { t with sender := t.sender.updateReceiverWindow receiverWindow now }
  | .setNagleEnabled enabled => { t with sender := t.sender.setNagleEnabled enabled }
  | .setSackEnabled enabled => { t with sender := t.sender.setSackEnabled enabled }
  | .reduceMss senderMss => { t with sender := (t.sender.reduceMss senderMss).1 }
  | .prepareNew now pushed => t.issue (t.sender.prepareNew now pushed)
  | .preparePersistProbe now => t.issue (t.sender.preparePersistProbe now)
  | .prepareSackRecovery now => t.issue (t.sender, t.sender.prepareSackRecovery now)
  | .prepareFastRetransmission => t.issue (t.sender, t.sender.prepareFastRetransmission)
  | .prepareTimeoutRetransmission now =>
    t.issue (t.sender, t.sender.prepareTimeoutRetransmission now)
  | .commit index now => { t with sender := (t.sender.commit (t.issued.getD index {}) now).1 }
  | .acknowledge acknowledgment receiverWindow duplicateAckEligible now timestampRtt sackBlocks =>
    { t with
      sender := (t.sender.acknowledge acknowledgment receiverWindow duplicateAckEligible now
        timestampRtt sackBlocks).1 }
  | .takeFailureAction now => { t with sender := (t.sender.takeFailureAction now).1 }

end SenderRun

/-! ## The three records of the flight agree -/

/-- The repository and the scoreboard describe the same flight of the same stream,
whatever the records of the history say. -/
structure Sender.Steady (s : Sender) (origin : BitVec 32) (stream : SendStream) : Prop where
  valid : s.valid = true
  bytes : s.bytes.Refines origin stream
  ring : s.history.Ring
  sack : s.sack.Tracks origin stream.released stream.sent

/-- The repository, the transmission history and the scoreboard describe the same
flight of the same stream. -/
structure Sender.WellFormed (s : Sender) (origin : BitVec 32) (stream : SendStream) : Prop
    extends s.Steady origin stream where
  covers : Covers origin stream.released s.history.live stream.sent

/-- A recovery transmission carries new data exactly when its range is not a repair. -/
def PreparedTransmission.Shaped (intent : PreparedTransmission) : Prop :=
  intent.present = true → intent.reason = .sackRecovery →
    (intent.sackReason = .newData ↔ intent.range.retransmission = false)

/-- A sender whose repository has admitted the transmission, with the history and
the scoreboard still at the flight before it. -/
structure Sender.Admitted (s : Sender) (intent : PreparedTransmission) (now : Instant)
    (origin : BitVec 32) (stream next : SendStream) : Prop where
  valid : s.valid = true
  bytes : s.bytes.Refines origin next
  ring : s.history.Ring
  sack : s.sack.Tracks origin stream.released stream.sent
  released : next.released = stream.released
  current : s.current intent = true
  due : s.dueForCommit intent now = true
  original : intent.range.retransmission = false →
    s.history.canRecordOriginal intent.range.sequence intent.rangeEnd now = true
  repair : intent.range.retransmission = true →
    s.history.canRecordRetransmission intent.range.sequence intent.rangeEnd now = true
  positions : ∃ first, intent.range.sequence = Serial.counter origin first ∧
    intent.rangeEnd = Serial.counter origin (first + intent.range.length.toNat) ∧
    0 < intent.range.length.toNat ∧ stream.released ≤ first ∧
    (intent.range.retransmission = true →
      first + intent.range.length.toNat ≤ stream.sent ∧ next.sent = stream.sent) ∧
    (intent.range.retransmission = false →
      first = stream.sent ∧ next.sent = first + intent.range.length.toNat)

theorem SendBuffer.Refines.span {b : SendBuffer} {origin : BitVec 32} {s : SendStream}
    (h : b.Refines origin s) : s.accepted.length ≤ s.released + 0x40000000 := by
  have := h.bounded
  have := h.fits
  omega

theorem SendBuffer.Refines.flight_zero {b : SendBuffer} {origin : BitVec 32} {s : SendStream}
    (h : b.Refines origin s) : b.flightSize = 0#32 ↔ s.released = s.sent := by
  have hf := h.flight
  have := s.released_le
  constructor
  · intro hz
    rw [hz] at hf
    simp only [BitVec.toNat_ofNat] at hf
    omega
  · intro same
    apply BitVec.eq_of_toNat_eq
    rw [hf, same]
    simp

namespace Sender.Admitted

variable {s : Sender} {intent : PreparedTransmission} {now : Instant} {origin : BitVec 32}
  {stream next : SendStream}

variable (h : s.Admitted intent now origin stream next)
include h

theorem span : stream.sent ≤ next.sent ∧ next.sent ≤ stream.released + 0x40000000 := by
  have hspan := h.bytes.span
  have hle := next.sent_le
  have hreleased := h.released
  obtain ⟨first, _, _, _, _, hrepair, hnew⟩ := h.positions
  cases hr : intent.range.retransmission with
  | true =>
    have := (hrepair hr).2
    omega
  | false =>
    have := hnew hr
    omega

theorem bounded : boundedRange intent.range.sequence intent.rangeEnd = true := by
  obtain ⟨_, hspan⟩ := h.span
  obtain ⟨first, hfirst, hlast, hlen, hge, hrepair, hnew⟩ := h.positions
  have hle : first + intent.range.length.toNat ≤ stream.released + 0x40000000 := by
    cases hr : intent.range.retransmission with
    | true =>
      have := hrepair hr
      omega
    | false =>
      have := hnew hr
      omega
  have hdiff := counter_sub origin (p := first) (q := first + intent.range.length.toNat)
    (by omega) (by omega)
  simp only [boundedRange, asserted]
  constructor <;> bv_omega

/-- New data is recorded and extends the covered flight. -/
theorem record_original (hr : intent.range.retransmission = false) :
    (s.recordOriginal intent now).2 = true ∧ (s.recordOriginal intent now).1.history.Ring ∧
    (Covers origin stream.released s.history.live stream.sent →
      Covers origin next.released (s.recordOriginal intent now).1.history.live next.sent) ∧
    ∃ r, r.first = intent.range.sequence ∧ r.last = intent.rangeEnd ∧
      (s.recordOriginal intent now).1.history.live = s.history.live ++ [r] := by
  obtain ⟨first, hfirst, hlast, hlen, _, _, hnew⟩ := h.positions
  obtain ⟨hsent, hnext⟩ := hnew hr
  obtain ⟨hok, ring, hlive⟩ := recordOriginal_live h.ring (h.original hr)
  refine ⟨hok, ring, ?_, _, rfl, rfl, hlive⟩
  intro covers
  rw [h.released]
  exact recordOriginal_covers h.ring covers (h.original hr) (by omega)
    (hsent ▸ hfirst) (hnext ▸ hlast)

/-- A repair is recorded and leaves the covered flight as it is. -/
theorem record_repair (hr : intent.range.retransmission = true) :
    (s.recordRetransmission intent now).2 = true ∧
    (s.recordRetransmission intent now).1.history.Ring ∧
    (Covers origin stream.released s.history.live stream.sent →
      Covers origin next.released (s.recordRetransmission intent now).1.history.live next.sent) ∧
    (s.recordRetransmission intent now).1.history.live =
      s.history.live.map (·.repair intent.range.sequence intent.rangeEnd now) := by
  obtain ⟨first, _, _, _, _, hrepair, _⟩ := h.positions
  obtain ⟨_, hnext⟩ := hrepair hr
  obtain ⟨hok, ring, hlive⟩ := recordRetransmission_live h.ring (h.repair hr)
  refine ⟨by simpa [Sender.recordRetransmission] using hok, ring, ?_, hlive⟩
  intro covers
  rw [h.released, hnext]
  exact recordRetransmission_covers h.ring covers (h.repair hr)

theorem record_transmission : (s.recordTransmission intent now).2 = true ∧
    (s.recordTransmission intent now).1.history.Ring ∧
    (Covers origin stream.released s.history.live stream.sent →
      Covers origin next.released (s.recordTransmission intent now).1.history.live next.sent) := by
  unfold Sender.recordTransmission
  cases hr : intent.range.retransmission with
  | true =>
    obtain ⟨hrec, ring, covers, _⟩ := h.record_repair hr
    exact ⟨hrec, ring, covers⟩
  | false =>
    obtain ⟨hrec, ring, covers, _⟩ := h.record_original hr
    exact ⟨hrec, ring, covers⟩

theorem extend : (s.sack.update s.bytes.sendUnacknowledged s.bytes.sendNext []).2.applied = true ∧
    (s.sack.update s.bytes.sendUnacknowledged s.bytes.sendNext []).1.Tracks origin
      next.released next.sent ∧
    (s.sack.update s.bytes.sendUnacknowledged s.bytes.sendNext []).1.recovery =
      s.sack.recovery := by
  obtain ⟨hle, hspan⟩ := h.span
  have hrel := stream.released_le
  rw [h.bytes.unacknowledged, h.bytes.next, h.released]
  have applied := h.sack.update_nil (Nat.le_refl _) hrel hle hspan
  have moved := h.sack.update [] (Nat.le_refl _) hrel hle hspan
  rw [if_pos applied] at moved
  obtain ⟨tracks, added, staged, heq⟩ := moved
  refine ⟨applied, tracks, ?_⟩
  rw [heq, SackScoreboard.install, (SackScoreboard.settleRecovery_recovery _).1]
  cases hrec : s.sack.recovery with
  | false => rfl
  | true =>
    obtain ⟨point, hp, hpl, hcounter⟩ := h.sack.recovery hrec
    have ahead := counter_beforeOrEqual origin (p := point) (q := stream.released)
      (by omega) (by omega)
    rw [hcounter, Bool.true_and, Bool.not_eq_true', ← Bool.not_eq_true, ahead]
    omega

end Sender.Admitted

/-! ## What a commit changes

Each kind of transmission, once admitted, changes the fields listed and no other. -/

namespace Sender

theorem markRttRetransmitted_frame (s : Sender) (range : PreparedSendRange) :
    ∃ retransmitted, s.markRttRetransmitted range =
      { s with rttProbeRetransmitted := retransmitted } := by
  unfold markRttRetransmitted
  split
  · exact ⟨true, rfl⟩
  · exact ⟨s.rttProbeRetransmitted, rfl⟩

theorem startRttProbe_frame (s : Sender) (intent : PreparedTransmission) (now : Instant) :
    ∃ last sent present retransmitted, s.startRttProbe intent now =
      { s with
        rttSequenceEnd := last, rttSentAt := sent, rttProbePresent := present,
        rttProbeRetransmitted := retransmitted } := by
  unfold startRttProbe
  split
  · exact ⟨s.rttSequenceEnd, s.rttSentAt, s.rttProbePresent, s.rttProbeRetransmitted, rfl⟩
  · exact ⟨intent.rangeEnd, now, true, false, rfl⟩

theorem not_malformed {status : SackUpdateStatus} (h : status.applied = true) :
    (status != .malformed) = true := by
  cases status <;> first | rfl | cases h

variable {s : Sender} {intent : PreparedTransmission} {now : Instant}

section

variable (previousFlight : BitVec 32)

theorem commitNewData_eq (hrec : (s.recordOriginal intent now).2 = true)
    (hext : (s.sack.update s.bytes.sendUnacknowledged s.bytes.sendNext []).2.applied = true) :
    ∃ last sent present retransmitted, s.commitNewData intent previousFlight now =
      ({ s with
        history := (s.recordOriginal intent now).1.history
        sack := (s.sack.update s.bytes.sendUnacknowledged s.bytes.sendNext []).1
        failure := if previousFlight == 0#32 then
          (s.failure.begin intent.range.sequence intent.rangeEnd false now).1 else s.failure
        retransmissionDeadline := if previousFlight == 0#32 then
          some (now + s.retransmission.timeout) else s.retransmissionDeadline
        swsOverrideDeadline := none, rttSequenceEnd := last, rttSentAt := sent,
        rttProbePresent := present, rttProbeRetransmitted := retransmitted }, true) := by
  have hok : (s.recordOriginal intent now).1.extendScoreboard.2 = true := not_malformed hext
  unfold commitNewData
  simp only [hrec, hok]
  cases hz : previousFlight == 0#32 with
  | true =>
    obtain ⟨last, sent, present, retransmitted, heq⟩ := startRttProbe_frame
      ((s.recordOriginal intent now).1.extendScoreboard.1.beginFlight intent now) intent now
    refine ⟨last, sent, present, retransmitted, ?_⟩
    simp only [↓reduceIte, heq]
    rfl
  | false =>
    obtain ⟨last, sent, present, retransmitted, heq⟩ := startRttProbe_frame
      (s.recordOriginal intent now).1.extendScoreboard.1 intent now
    refine ⟨last, sent, present, retransmitted, ?_⟩
    simp only [settled, ↓reduceIte, heq]
    rfl

theorem commitFastRetransmit_eq (hrec : (s.recordRetransmission intent now).2 = true) :
    ∃ action retransmitted, s.commitFastRetransmit intent now =
      ({ s with
        history := (s.recordRetransmission intent now).1.history
        failure := (s.failure.retransmitted intent.range.sequence intent.rangeEnd now).1
        pendingFailureAction := action, rttProbeRetransmitted := retransmitted,
        fastRetransmissionPending := false }, true) := by
  unfold commitFastRetransmit
  simp only [hrec]
  obtain ⟨retransmitted, heq⟩ := markRttRetransmitted_frame
    ((s.recordRetransmission intent now).1.noteRepair intent.range.sequence intent.rangeEnd now)
    intent.range
  rw [heq]
  exact ⟨_, retransmitted, rfl⟩

theorem commitTimeoutRetransmit_eq (hrec : (s.recordRetransmission intent now).2 = true) :
    ∃ action retransmitted, s.commitTimeoutRetransmit intent previousFlight now =
      ({ s with
        history := (s.recordRetransmission intent now).1.history
        failure := (s.failure.retransmitted intent.range.sequence intent.rangeEnd now).1
        pendingFailureAction := action, rttProbeRetransmitted := retransmitted,
        congestion := s.congestion.onRetransmissionTimeout previousFlight
        sack := s.sack.onRetransmissionTimeout, retransmission := s.retransmission.onTimeout false,
        retransmissionDeadline := some (now + (s.retransmission.onTimeout false).timeout)
        fastRetransmissionPending := false }, true) := by
  unfold commitTimeoutRetransmit
  simp only [hrec]
  obtain ⟨retransmitted, heq⟩ := markRttRetransmitted_frame
    ((s.recordRetransmission intent now).1.noteRepair intent.range.sequence intent.rangeEnd now)
    intent.range
  rw [heq]
  exact ⟨_, retransmitted, rfl⟩

theorem probeCommitted_of_due {p : PersistTimer} (h : p.due now = true) :
    (p.probeCommitted now).2 = true ∧ (p.probeCommitted now).1.deadline.isSome = true := by
  simp [PersistTimer.probeCommitted, h]

theorem commitPersistProbe_eq (hdue : s.persist.due now = true)
    (hrec : (s.recordTransmission intent now).2 = true)
    (hext : intent.range.retransmission = false →
      (s.sack.update s.bytes.sendUnacknowledged s.bytes.sendNext []).2.applied = true) :
    ∃ retransmitted, s.commitPersistProbe intent now =
      ({ s with
        history := (s.recordTransmission intent now).1.history
        sack := if intent.range.retransmission then s.sack
          else (s.sack.update s.bytes.sendUnacknowledged s.bytes.sendNext []).1
        persist := (s.persist.probeCommitted now).1, swsOverrideDeadline := none,
        rttProbeRetransmitted := retransmitted }, true) := by
  have hprobe := (probeCommitted_of_due hdue).1
  unfold commitPersistProbe
  simp only [hrec]
  cases hr : intent.range.retransmission with
  | true =>
    obtain ⟨retransmitted, heq⟩ := markRttRetransmitted_frame
      (s.recordTransmission intent now).1 intent.range
    refine ⟨retransmitted, ?_⟩
    simp only [recordTransmission, hr, ↓reduceIte, recordRetransmission] at heq ⊢
    simp [heq, hprobe]
  | false =>
    have hok : (s.recordTransmission intent now).1.extendScoreboard.2 = true := by
      simp only [recordTransmission, hr]
      exact not_malformed (hext hr)
    obtain ⟨retransmitted, heq⟩ := markRttRetransmitted_frame
      (s.recordTransmission intent now).1.extendScoreboard.1 intent.range
    refine ⟨retransmitted, ?_⟩
    simp only [recordTransmission, hr, settled, ↓reduceIte, recordOriginal,
      extendScoreboard] at heq hok ⊢
    simp [hok, heq, hprobe]

theorem commitSackRecovery_repair_eq (hr : intent.range.retransmission = true)
    (hrec : (s.recordRetransmission intent now).2 = true)
    (hsack : (s.sack.commit intent.segment).2 = true) :
    ∃ action retransmitted, s.commitSackRecovery intent previousFlight now =
      ({ s with
        history := (s.recordRetransmission intent now).1.history
        sack := (s.sack.commit intent.segment).1
        failure := (s.failure.retransmitted intent.range.sequence intent.rangeEnd now).1
        pendingFailureAction := action, rttProbeRetransmitted := retransmitted }, true) := by
  unfold commitSackRecovery recordTransmission
  simp only [hr, ↓reduceIte, hrec]
  have hsack' : ((s.recordRetransmission intent now).1.sack.commit intent.segment).2 = true := hsack
  simp only [hsack']
  obtain ⟨retransmitted, heq⟩ := markRttRetransmitted_frame (noteRepair
    { (s.recordRetransmission intent now).1 with
      sack := (s.sack.commit intent.segment).1 }
    intent.range.sequence intent.rangeEnd now) intent.range
  exact ⟨_, retransmitted, congrArg (·, true) heq⟩

theorem commitSackRecovery_new_eq (hr : intent.range.retransmission = false)
    (hflight : previousFlight ≠ 0#32) (hrec : (s.recordOriginal intent now).2 = true)
    (hsack : (s.sack.commit intent.segment).2 = true) :
    s.commitSackRecovery intent previousFlight now =
      ({ s with
        history := (s.recordOriginal intent now).1.history
        sack := (s.sack.commit intent.segment).1 }, true) := by
  unfold commitSackRecovery recordTransmission
  have hnz : (previousFlight == 0#32) = false := by simpa using hflight
  have hsack' : ((s.recordOriginal intent now).1.sack.commit intent.segment).2 = true := hsack
  simp only [hr, hrec, hsack', hnz, settled, ↓reduceIte]
  rfl

end

/-- A current transmission is present and repairs exactly as its reason says. -/
theorem current_reason (h : s.current intent = true) :
    intent.present = true ∧ (intent.reason = .newData → intent.range.retransmission = false) ∧
    (intent.reason = .fastRetransmit → intent.range.retransmission = true) ∧
    (intent.reason = .timeoutRetransmit → intent.range.retransmission = true ∧
      s.retransmissionDeadline.isSome = true) ∧
    (intent.reason = .sackRecovery → s.sack.recovery = true) := by
  unfold current at h
  split at h
  · cases h
  rename_i guard
  simp only [asserted, not_or, refuted] at guard
  refine ⟨guard.1, ?_, ?_, ?_, ?_⟩ <;> intro reason <;> simp only [reason] at h
  · simpa using h
  · exact (Bool.and_eq_true _ _ ▸ h).1
  · exact Bool.and_eq_true _ _ ▸ h
  · exact (Bool.and_eq_true _ _ ▸ h).2

/-- The history has been asked for what the range is, whatever the reason. -/
theorem canRecord_kind (hcur : s.current intent = true) (hrecord : s.canRecord intent now = true) :
    (intent.range.retransmission = false →
      s.history.canRecordOriginal intent.range.sequence intent.rangeEnd now = true) ∧
    (intent.range.retransmission = true →
      s.history.canRecordRetransmission intent.range.sequence intent.rangeEnd now = true) := by
  obtain ⟨_, hnew, hfast, htimeout, _⟩ := current_reason hcur
  constructor
  · intro hr
    cases hreason : intent.reason with
    | fastRetransmit => simp [hfast hreason] at hr
    | timeoutRetransmit => simp [(htimeout hreason).1] at hr
    | newData => simpa [canRecord, hreason] using hrecord
    | persistProbe => simpa [canRecord, hreason, hr] using hrecord
    | sackRecovery => simpa [canRecord, hreason, hr] using hrecord
  · intro hr
    cases hreason : intent.reason with
    | newData => simp [hnew hreason] at hr
    | fastRetransmit => simpa [canRecord, hreason] using hrecord
    | timeoutRetransmit => simpa [canRecord, hreason] using hrecord
    | persistProbe => simpa [canRecord, hreason, hr] using hrecord
    | sackRecovery => simpa [canRecord, hreason, hr] using hrecord

namespace Admitted

variable {origin : BitVec 32} {stream next : SendStream}

theorem sackCommit (h : s.Admitted intent now origin stream next) (hi : intent.Shaped)
    (hreason : intent.reason = .sackRecovery) : (s.sack.commit intent.segment).2 = true ∧
    (s.sack.commit intent.segment).1.Tracks origin next.released next.sent ∧
    (s.sack.commit intent.segment).1.recovery = s.sack.recovery := by
  obtain ⟨hpresent, _, _, _, hrecovery⟩ := current_reason h.current
  have shape := hi hpresent hreason
  obtain ⟨first, hfirst, hlast, hlen, hge, hrepair, hnew⟩ := h.positions
  obtain ⟨_, hspan⟩ := h.span
  rw [h.released]
  cases hr : intent.range.retransmission with
  | true =>
    obtain ⟨hle, hsent⟩ := hrepair hr
    have hrepaired : intent.sackReason ≠ .newData := by
      intro fresh
      rw [shape.mp fresh] at hr
      cases hr
    rw [hsent]
    exact h.sack.commit_repair (hrecovery hreason) hrepaired hge (by omega) hle (by omega) hfirst
      hlast h.bounded
  | false =>
    obtain ⟨hsent, hnext⟩ := hnew hr
    exact h.sack.commit_new (hrecovery hreason) (shape.mpr hr) (by omega) (hsent ▸ hfirst)
      (hnext ▸ hlast) h.bounded

/-- An admitted transmission is always applied: the records never contradict the
stream. -/
theorem apply_steady (h : s.Admitted intent now origin stream next) (hi : intent.Shaped)
    {previousFlight : BitVec 32} (hflight : previousFlight = 0#32 ↔ stream.released = stream.sent) :
    (s.applyCommit intent previousFlight now).2 = true ∧
    (s.applyCommit intent previousFlight now).1.Steady origin next ∧
    (Covers origin stream.released s.history.live stream.sent →
      Covers origin next.released (s.applyCommit intent previousFlight now).1.history.live
        next.sent) := by
  obtain ⟨_, hnew, hfast, htimeout, hrecovery⟩ := current_reason h.current
  unfold applyCommit
  cases hreason : intent.reason with
  | newData =>
    obtain ⟨hrec, ring, covers, _⟩ := h.record_original (hnew hreason)
    obtain ⟨hext, tracks, _⟩ := h.extend
    obtain ⟨_, _, _, _, heq⟩ := commitNewData_eq previousFlight hrec hext
    simp only [heq]
    exact ⟨trivial, ⟨h.valid, h.bytes, ring, tracks⟩, covers⟩
  | fastRetransmit =>
    obtain ⟨hrec, ring, covers, _⟩ := h.record_repair (hfast hreason)
    obtain ⟨_, _, heq⟩ := commitFastRetransmit_eq hrec
    obtain ⟨_, _, _, _, _, hrepair, _⟩ := h.positions
    simp only [heq]
    refine ⟨trivial, ⟨h.valid, h.bytes, ring, ?_⟩, covers⟩
    rw [h.released, (hrepair (hfast hreason)).2]
    exact h.sack
  | timeoutRetransmit =>
    obtain ⟨hr, _⟩ := htimeout hreason
    obtain ⟨hrec, ring, covers, _⟩ := h.record_repair hr
    obtain ⟨_, _, heq⟩ := commitTimeoutRetransmit_eq previousFlight hrec
    obtain ⟨_, _, _, _, _, hrepair, _⟩ := h.positions
    simp only [heq]
    refine ⟨trivial, ⟨h.valid, h.bytes, ring, ?_⟩, covers⟩
    rw [h.released, (hrepair hr).2]
    exact h.sack.onRetransmissionTimeout
  | persistProbe =>
    have hdue : s.persist.due now = true := by
      have := h.due
      simpa only [dueForCommit, hreason] using this
    obtain ⟨hext, tracks, _⟩ := h.extend
    obtain ⟨hrec, ring, covers⟩ := h.record_transmission
    obtain ⟨_, heq⟩ := commitPersistProbe_eq hdue hrec (fun _ => hext)
    simp only [heq]
    refine ⟨trivial, ⟨h.valid, h.bytes, ring, ?_⟩, covers⟩
    cases hr : intent.range.retransmission with
    | true =>
      obtain ⟨_, _, _, _, _, hrepair, _⟩ := h.positions
      rw [if_pos rfl, h.released, (hrepair hr).2]
      exact h.sack
    | false => exact tracks
  | sackRecovery =>
    obtain ⟨hsack, tracks, _⟩ := h.sackCommit hi hreason
    cases hr : intent.range.retransmission with
    | true =>
      obtain ⟨hrec, ring, covers, _⟩ := h.record_repair hr
      obtain ⟨_, _, heq⟩ := commitSackRecovery_repair_eq previousFlight hr hrec hsack
      simp only [heq]
      exact ⟨trivial, ⟨h.valid, h.bytes, ring, tracks⟩, covers⟩
    | false =>
      obtain ⟨hrec, ring, covers, _⟩ := h.record_original hr
      obtain ⟨point, hp, hle, _⟩ := h.sack.recovery (hrecovery hreason)
      have hne : previousFlight ≠ 0#32 := fun hz => by
        have := hflight.mp hz
        omega
      simp only [commitSackRecovery_new_eq previousFlight hr hne hrec hsack]
      exact ⟨trivial, ⟨h.valid, h.bytes, ring, tracks⟩, covers⟩

end Admitted

theorem Steady.admitted {origin : BitVec 32} {stream : SendStream}
    (h : s.Steady origin stream) (hcur : s.current intent = true)
    (hdue : s.dueForCommit intent now = true) (hrecord : s.canRecord intent now = true)
    (hrange : s.bytes.rangeIsCurrent intent.range = true) :
    ∃ next, Admitted { s with bytes := (s.bytes.commit intent.range).1 } intent now origin stream
        next ∧ next.accepted = stream.accepted := by
  obtain ⟨horiginal, hrecorded⟩ := canRecord_kind hcur hrecord
  obtain ⟨fits, hbytes⟩ := h.bytes.commit hrange
  obtain ⟨first, hfirst, hlast, hlen, hge, hrepair, hfresh⟩ := h.bytes.current_positions hrange
  refine ⟨_, ⟨h.valid, hbytes, h.ring, h.sack, rfl, hcur, hdue, horiginal, hrecorded,
    first, hfirst, hlast, hlen, hge, ?_, ?_⟩, rfl⟩
  · intro hr
    exact ⟨hrepair hr, by simp [hr]⟩
  · intro hr
    exact ⟨(hfresh hr).1, by simp [hr, (hfresh hr).1]⟩

/-- A commit is refused, or the intent was current, due and recordable and its octets are sent. -/
theorem commit_admits (s : Sender) (intent : PreparedTransmission) (now : Instant) :
    s.commit intent now = (s, false) ∨
    s.current intent = true ∧ s.dueForCommit intent now = true ∧ s.canRecord intent now = true ∧
    s.bytes.rangeIsCurrent intent.range = true ∧
    s.commit intent now =
      let applied := applyCommit { s with bytes := (s.bytes.commit intent.range).1 } intent
        s.bytes.flightSize now
      if !applied.2 then (applied.1, false)
      else ({ applied.1 with generation := applied.1.generation + 1#64 }, true) := by
  cases hguard : (!s.current intent || !s.dueForCommit intent now || !s.canRecord intent now) with
  | true => exact .inl (by simp only [Sender.commit, hguard, ↓reduceIte])
  | false =>
    cases hrange : s.bytes.rangeIsCurrent intent.range with
    | false =>
      have hrefused : s.bytes.commit intent.range = (s.bytes, false) := by
        simp [SendBuffer.commit, hrange]
      exact .inl (by simp [Sender.commit, hguard, hrefused])
    | true =>
      have hok : (s.bytes.commit intent.range).2 = true := by simp [SendBuffer.commit, hrange]
      have guards := hguard
      simp only [refuted] at guards
      obtain ⟨⟨hcur, hdue⟩, hrecord⟩ := guards
      refine .inr ⟨hcur, hdue, hrecord, rfl, ?_⟩
      simp [Sender.commit, hguard, hok]

/-- A commit either changes nothing or applies an admitted transmission. -/
theorem Steady.commit_cases {origin : BitVec 32} {stream : SendStream}
    (h : s.Steady origin stream) (hi : intent.Shaped) (now : Instant) :
    s.commit intent now = (s, false) ∨
    ∃ next, Admitted { s with bytes := (s.bytes.commit intent.range).1 } intent now origin stream
        next ∧
      next.accepted = stream.accepted ∧
      s.commit intent now =
        ({ (applyCommit { s with bytes := (s.bytes.commit intent.range).1 } intent
              s.bytes.flightSize now).1 with
            generation := (applyCommit { s with bytes := (s.bytes.commit intent.range).1 } intent
              s.bytes.flightSize now).1.generation + 1#64 }, true) := by
  obtain refused | ⟨hcur, hdue, hrecord, hrange, applied⟩ := s.commit_admits intent now
  · exact .inl refused
  · obtain ⟨next, admitted, haccepted⟩ := h.admitted hcur hdue hrecord hrange
    have happlied := (admitted.apply_steady hi h.bytes.flight_zero).1
    refine .inr ⟨next, admitted, haccepted, ?_⟩
    rw [applied]
    simp [happlied]

theorem WellFormed.commit {origin : BitVec 32} {stream : SendStream}
    (h : s.WellFormed origin stream) (hi : intent.Shaped) (now : Instant) :
    ∃ next, (s.commit intent now).1.WellFormed origin next := by
  rcases h.commit_cases hi now with refused | ⟨next, admitted, _, applied⟩
  · rw [refused]
    exact ⟨stream, h⟩
  · obtain ⟨_, final, covers⟩ := admitted.apply_steady hi h.bytes.flight_zero
    rw [applied]
    exact ⟨next, ⟨final.valid, final.bytes, final.ring, final.sack⟩, covers h.covers⟩

/-! ## What an acknowledgment changes -/

theorem watchOldest_frame (s : Sender) (at_ : TransmissionRecord → Instant) :
    s.watchOldest at_ = { s with
      failure := match s.history.oldest with
        | none => s.failure
        | some oldest => (s.failure.begin oldest.first oldest.last false (at_ oldest)).1 } := by
  unfold watchOldest
  cases s.history.oldest <;> rfl

theorem observeRtt_frame (s : Sender) (acknowledgment : BitVec 32) (now : Instant)
    (timestampRtt : Option Duration) :
    ∃ estimator present retransmitted, s.observeRtt acknowledgment now timestampRtt =
      { s with
        retransmission := estimator, rttProbePresent := present,
        rttProbeRetransmitted := retransmitted } := by
  unfold observeRtt
  cases timestampRtt with
  | none =>
    dsimp only
    split
    · exact ⟨_, _, _, rfl⟩
    · exact ⟨s.retransmission, s.rttProbePresent, s.rttProbeRetransmitted, rfl⟩
  | some rtt =>
    dsimp only
    split
    · exact ⟨_, _, _, rfl⟩
    · exact ⟨_, s.rttProbePresent, s.rttProbeRetransmitted, rfl⟩

/-- The failure detector after an advancing acknowledgment. -/
def failureAfter (s : Sender) (acknowledgment : BitVec 32) : FailureDetector :=
  if !(s.failure.acknowledge acknowledgment).active && s.receiverWindow != 0#32 then
    match (s.history.acknowledge acknowledgment).oldest with
    | none => s.failure.acknowledge acknowledgment
    | some oldest =>
      ((s.failure.acknowledge acknowledgment).begin oldest.first oldest.last false
        oldest.firstTransmittedAt).1
  else s.failure.acknowledge acknowledgment

theorem onAdvanced_eq (s : Sender) (acknowledgment newlyAcknowledged : BitVec 32)
    (sackWasRecovering : Bool) (now : Instant) (timestampRtt : Option Duration) :
    ∃ estimator deadline present retransmitted,
      s.onAdvanced acknowledgment newlyAcknowledged sackWasRecovering now timestampRtt =
      { s with
        history := s.history.acknowledge acknowledgment, failure := s.failureAfter acknowledgment,
        congestion := if sackWasRecovering then s.congestion.onSackAck !s.sack.recovery
          else s.congestion.onNewAck newlyAcknowledged
        fastRetransmissionPending := false, retransmission := estimator,
        retransmissionDeadline := if s.bytes.flightSize == 0#32 then none else some deadline
        rttProbePresent := present, rttProbeRetransmitted := retransmitted,
        generation := s.generation + 1#64 } := by
  unfold onAdvanced failureAfter
  dsimp only
  generalize hw : (if !(s.failure.acknowledge acknowledgment).active && s.receiverWindow != 0#32
    then _ else _ : Sender) = watched
  have hwatched : watched = { s with
      history := s.history.acknowledge acknowledgment
      failure := if !(s.failure.acknowledge acknowledgment).active && s.receiverWindow != 0#32 then
          match (s.history.acknowledge acknowledgment).oldest with
          | none => s.failure.acknowledge acknowledgment
          | some oldest =>
            ((s.failure.acknowledge acknowledgment).begin oldest.first oldest.last false
              oldest.firstTransmittedAt).1
        else s.failure.acknowledge acknowledgment } := by
    rw [← hw]
    split
    · rw [watchOldest_frame]
    · rfl
  obtain ⟨estimator, present, retransmitted, heq⟩ := observeRtt_frame
    { watched with
      congestion := if sackWasRecovering then watched.congestion.onSackAck !watched.sack.recovery
        else watched.congestion.onNewAck newlyAcknowledged
      fastRetransmissionPending := false } acknowledgment now timestampRtt
  rw [heq, hwatched]
  dsimp only
  cases hz : s.bytes.flightSize == 0#32 with
  | true => exact ⟨estimator, 0, false, retransmitted, rfl⟩
  | false => exact ⟨estimator, now + estimator.timeout, present, retransmitted, rfl⟩

theorem onDuplicate_eq (s : Sender) (duplicateAckEligible : Bool) :
    ∃ congestion pending generation, s.onDuplicate duplicateAckEligible =
      { s with congestion, fastRetransmissionPending := pending, generation } ∧
      congestion.sackRecovery = s.congestion.sackRecovery := by
  unfold onDuplicate
  split
  · exact ⟨_, _, _, rfl, CongestionController.onDuplicateAck_sackRecovery _ _⟩
  · exact ⟨s.congestion, s.fastRetransmissionPending, s.generation, rfl, rfl⟩

variable {origin : BitVec 32} {stream : SendStream}

/-- An acknowledgment inside the flight moves HighACK to it, whatever the blocks,
and ends a recovery or its suppression exactly at the recovery point. -/
theorem acknowledgeScoreboard_inside {released sent a : Nat}
    (h : s.sack.Tracks origin released sent) (hnext : s.bytes.sendNext = Serial.counter origin sent)
    (ha : released ≤ a) (hsent : a ≤ sent) (hspan : sent ≤ released + 0x40000000)
    (blocks : List SackBlock) :
    ∃ k, (s.acknowledgeScoreboard (Serial.counter origin a) blocks).1 = { s with sack := k } ∧
      k.Tracks origin a sent ∧
      k.recovery = (s.sack.recovery &&
        !Serial.beforeOrEqual s.sack.recoveryPoint (Serial.counter origin a)) ∧
      k.recoverySuppressed = (s.sack.recoverySuppressed &&
        !Serial.beforeOrEqual s.sack.recoveryPoint (Serial.counter origin a)) := by
  simp only [acknowledgeScoreboard, hnext]
  generalize (if s.sackEnabled then blocks else []) = offered
  have first := h.update offered ha hsent (Nat.le_refl _) hspan
  split at first
  · rename_i applied
    obtain ⟨tracks, _, _, heq⟩ := first
    rw [if_pos applied]
    refine ⟨_, rfl, tracks, ?_⟩
    rw [heq, SackScoreboard.install]
    exact ⟨(SackScoreboard.settleRecovery_recovery _).1,
      (SackScoreboard.settleRecovery_recovery _).2.1⟩
  · rename_i refused
    have cleared : SackScoreboard.Tracks { s.sack with lastUpdateAddedSack := false }
        origin released sent := ⟨h.valid, h.count, h.highAck, h.highDataEnd, h.recovery⟩
    have second := cleared.update [] ha hsent (Nat.le_refl _) hspan
    rw [if_pos (cleared.update_nil ha hsent (Nat.le_refl _) hspan)] at second
    obtain ⟨tracks, _, _, heq⟩ := second
    rw [if_neg refused, first]
    refine ⟨_, rfl, tracks, ?_⟩
    rw [heq, SackScoreboard.install]
    exact ⟨(SackScoreboard.settleRecovery_recovery _).1,
      (SackScoreboard.settleRecovery_recovery _).2.1⟩

/-- An acknowledgment below SND.UNA leaves the scoreboard as it was and brings no
new information. -/
theorem acknowledgeScoreboard_old {acknowledgment : BitVec 32}
    (h : s.sack.malformedEdges acknowledgment s.bytes.sendNext = true) (blocks : List SackBlock) :
    s.acknowledgeScoreboard acknowledgment blocks =
      ({ s with sack := { s.sack with lastUpdateAddedSack := false } }, false) := by
  have again : SackScoreboard.malformedEdges { s.sack with lastUpdateAddedSack := false }
      acknowledgment s.bytes.sendNext = true := h
  simp only [acknowledgeScoreboard, SackScoreboard.update, h, again, ↓reduceIte]
  rfl

/-- Loss detection leaves the two recovery flags alone unless it fires; then the
controller enters recovery, and the scoreboard does so unless suppressed. -/
theorem detectLoss_eq {released sent : Nat} (h : s.sack.Tracks origin released sent)
    (hflight : s.bytes.flightSize ≠ 0#32 → released < sent) (newSackInformation : Bool) :
    ∃ sack congestion pending generation, s.detectLoss newSackInformation =
      { s with sack, congestion, fastRetransmissionPending := pending, generation } ∧
      sack.Tracks origin released sent ∧
      (sack.recovery = s.sack.recovery ∧ congestion.sackRecovery = s.congestion.sackRecovery ∨
        (s.sackEnabled && newSackInformation && !s.sack.recovery &&
          (s.sack.duplicateAck true).2) = true ∧
        sack.recovery = !s.sack.recoverySuppressed ∧ congestion.sackRecovery = true) := by
  have hframe := SackScoreboard.duplicateAck_frame s.sack true
  unfold detectLoss
  split
  · rename_i guard
    simp only [asserted] at guard
    obtain ⟨⟨⟨henabled, hnew⟩, hpresent⟩, hout⟩ := guard
    dsimp only
    split
    · rename_i entered
      refine ⟨_, _, _, _, rfl, (h.duplicateAck true).enterRecovery (hflight hpresent), .inr ⟨?_, ?_, rfl⟩⟩
      · simp [henabled, hnew, hout, entered]
      · rw [hframe]
        cases hs : s.sack.recoverySuppressed <;>
          simp [SackScoreboard.enterRecovery, h.valid, hout]
    · refine ⟨_, s.congestion, s.fastRetransmissionPending, s.generation, rfl, h.duplicateAck true,
        .inl ⟨?_, rfl⟩⟩
      rw [hframe]
  · exact ⟨s.sack, s.congestion, s.fastRetransmissionPending, s.generation, rfl, h, .inl ⟨rfl, rfl⟩⟩

end Sender

/-- The three fates of an acknowledgment: beyond SND.NXT, not advancing, or
releasing the octets before a stream position inside the flight. -/
theorem SendBuffer.Refines.acknowledge_cases {b : SendBuffer} {origin : BitVec 32} {s : SendStream}
    (h : b.Refines origin s) (acknowledgment : BitVec 32) :
    (Serial.after acknowledgment b.sendNext = true ∧
      b.acknowledge acknowledgment = (b, { status := .beyondSent })) ∨
    (Serial.after acknowledgment b.sendNext = false ∧
      Serial.after acknowledgment b.sendUnacknowledged = false ∧
      b.acknowledge acknowledgment = (b, { status := .duplicate })) ∨
    (Serial.after acknowledgment b.sendNext = false ∧
      Serial.after acknowledgment b.sendUnacknowledged = true ∧
      ∃ next, (b.acknowledge acknowledgment).1.Refines origin next ∧
        acknowledgment = Serial.counter origin next.released ∧
        s.released < next.released ∧ next.sent = s.sent ∧ next.accepted = s.accepted ∧
        (b.acknowledge acknowledgment).2 =
          { status := .advanced, newlyAcknowledged := acknowledgment - b.sendUnacknowledged }) := by
  cases hn : Serial.after acknowledgment b.sendNext with
  | true => exact .inl ⟨rfl, by simp [SendBuffer.acknowledge, h.valid, hn]⟩
  | false =>
    cases hu : Serial.after acknowledgment b.sendUnacknowledged with
    | false => exact .inr (.inl ⟨rfl, rfl, by simp [SendBuffer.acknowledge, h.valid, hn, hu]⟩)
    | true =>
      have hpos := (after_iff _ _).mp hu
      refine .inr (.inr ⟨rfl, rfl, _, h.acknowledge hn hu, ?_, ?_, rfl, rfl, ?_⟩)
      · rw [counter_add, ← h.unacknowledged, BitVec.ofNat_toNat, BitVec.setWidth_eq]
        bv_omega
      · dsimp only
        omega
      · simp [SendBuffer.acknowledge, h.valid, hn, hu]

namespace Sender

variable {s : Sender} {origin : BitVec 32} {stream : SendStream}

/-- The blocks bring new selective information and the scoreboard takes it for a
loss. -/
def detectsLoss (s : Sender) (acknowledgment : BitVec 32) (blocks : List SackBlock) : Bool :=
  let scored := s.acknowledgeScoreboard acknowledgment blocks
  s.sackEnabled && scored.2 && !scored.1.sack.recovery && (scored.1.sack.duplicateAck true).2

/-- Recovery is suppressed after a timeout, and the acknowledgment does not lift it. -/
def suppressedAt (s : Sender) (acknowledgment : BitVec 32) : Bool :=
  s.sack.recoverySuppressed && !Serial.beforeOrEqual s.sack.recoveryPoint acknowledgment

/-- How the two recovery flags come out of an acknowledgment. -/
def RecoveryOutcome (s : Sender) (acknowledgment : BitVec 32) (blocks : List SackBlock)
    (kept : Bool) (mirrored : Bool) (sack : SackScoreboard) (congestion : CongestionController) :
    Prop :=
  sack.recovery = kept ∧ congestion.sackRecovery = mirrored ∨
  s.detectsLoss acknowledgment blocks = true ∧ sack.recovery = !s.suppressedAt acknowledgment ∧
    congestion.sackRecovery = true

/-- An acknowledgment that does not advance SND.UNA, or lies below it. -/
theorem Steady.scoreboard_duplicate (h : s.Steady origin stream) {acknowledgment : BitVec 32}
    (hu : Serial.after acknowledgment s.bytes.sendUnacknowledged = false)
    (blocks : List SackBlock) :
    ∃ k, (s.acknowledgeScoreboard acknowledgment blocks).1 = { s with sack := k } ∧
      k.Tracks origin stream.released stream.sent ∧ k.recovery = s.sack.recovery ∧
      ((s.acknowledgeScoreboard acknowledgment blocks).2 = true →
        k.recoverySuppressed = s.suppressedAt acknowledgment) := by
  have hrel := stream.released_le
  have hsent := stream.sent_le
  have hspan := h.bytes.span
  by_cases same : acknowledgment = s.bytes.sendUnacknowledged
  · rw [same, h.bytes.unacknowledged]
    obtain ⟨k, heq, tracks, hrec, hsup⟩ := acknowledgeScoreboard_inside h.sack h.bytes.next
      (Nat.le_refl _) hrel (by omega) blocks
    refine ⟨k, heq, tracks, ?_, fun _ => hsup⟩
    cases hr : s.sack.recovery with
    | false => simpa [hr] using hrec
    | true =>
      obtain ⟨point, hp, hpl, hcounter⟩ := h.sack.recovery hr
      have ahead := counter_beforeOrEqual origin (p := point) (q := stream.released)
        (by omega) (by omega)
      have hfar : Serial.beforeOrEqual s.sack.recoveryPoint
          (Serial.counter origin stream.released) = false := by
        rw [hcounter, ← Bool.not_eq_true, ahead]
        omega
      simpa [hr, hfar] using hrec
  · have hf := h.bytes.flight
    rw [SendBuffer.flightSize, if_pos h.bytes.valid] at hf
    have hmalformed : s.sack.malformedEdges acknowledgment s.bytes.sendNext = true := by
      rw [← Bool.not_eq_true, after_iff] at hu
      have hack : s.sack.highAck = s.bytes.sendUnacknowledged := by
        rw [h.sack.highAck, h.bytes.unacknowledged]
      simp only [SackScoreboard.malformedEdges, hack, asserted, before_iff]
      by_cases hback : 0 < (s.bytes.sendUnacknowledged - acknowledgment).toNat ∧
          (s.bytes.sendUnacknowledged - acknowledgment).toNat < 0x80000000
      · exact .inl (.inl (.inl (.inr hback)))
      · right
        bv_omega
    rw [acknowledgeScoreboard_old hmalformed]
    refine ⟨_, rfl, ⟨h.sack.valid, h.sack.count, h.sack.highAck, h.sack.highDataEnd,
      h.sack.recovery⟩, rfl, ?_⟩
    intro absurdity
    cases absurdity

section acknowledge

variable (acknowledgment receiverWindow : BitVec 32) (duplicateAckEligible : Bool) (now : Instant)
  (timestampRtt : Option Duration) (blocks : List SackBlock)

theorem acknowledge_beyond (hv : s.valid = true)
    (hack : s.bytes.acknowledge acknowledgment = (s.bytes, { status := .beyondSent })) :
    (s.acknowledge acknowledgment receiverWindow duplicateAckEligible now timestampRtt blocks).1 =
      s.updatePersist now := by
  unfold acknowledge
  rw [if_neg (by simp [hv]), hack]

theorem acknowledge_duplicate (hv : s.valid = true)
    (hack : s.bytes.acknowledge acknowledgment = (s.bytes, { status := .duplicate })) :
    (s.acknowledge acknowledgment receiverWindow duplicateAckEligible now timestampRtt blocks).1 =
      ((((s.acknowledgeScoreboard acknowledgment blocks).1.takeWindow receiverWindow).onDuplicate
        duplicateAckEligible).detectLoss
          (s.acknowledgeScoreboard acknowledgment blocks).2).updatePersist now := by
  unfold acknowledge
  rw [if_neg (by simp [hv]), hack]

theorem acknowledgeScoreboard_bytes {bytes : SendBuffer} (hb : bytes.sendNext = s.bytes.sendNext) :
    acknowledgeScoreboard { s with bytes } acknowledgment blocks =
      ({ (s.acknowledgeScoreboard acknowledgment blocks).1 with bytes },
        (s.acknowledgeScoreboard acknowledgment blocks).2) := by
  unfold acknowledgeScoreboard
  simp [hb]

theorem acknowledge_advanced (hv : s.valid = true) {newlyAcknowledged : BitVec 32}
    (hstatus : (s.bytes.acknowledge acknowledgment).2 = { status := .advanced, newlyAcknowledged })
    (hnext : (s.bytes.acknowledge acknowledgment).1.sendNext = s.bytes.sendNext) :
    (s.acknowledge acknowledgment receiverWindow duplicateAckEligible now timestampRtt blocks).1 =
      (((takeWindow { (s.acknowledgeScoreboard acknowledgment blocks).1 with
          bytes := (s.bytes.acknowledge acknowledgment).1 } receiverWindow).onAdvanced acknowledgment
        newlyAcknowledged s.sack.recovery now timestampRtt).detectLoss
          (s.acknowledgeScoreboard acknowledgment blocks).2).updatePersist now := by
  unfold acknowledge
  rw [if_neg (by simp [hv])]
  dsimp only
  rw [acknowledgeScoreboard_bytes acknowledgment blocks hnext, hstatus]

end acknowledge

theorem Steady.acknowledge_cases (h : s.Steady origin stream)
    (acknowledgment receiverWindow : BitVec 32) (duplicateAckEligible : Bool) (now : Instant)
    (timestampRtt : Option Duration) (blocks : List SackBlock) :
    (Serial.after acknowledgment s.bytes.sendNext = true ∧
      (s.acknowledge acknowledgment receiverWindow duplicateAckEligible now timestampRtt blocks).1 =
        s.updatePersist now) ∨
    (Serial.after acknowledgment s.bytes.sendNext = false ∧
      Serial.after acknowledgment s.bytes.sendUnacknowledged = false ∧
      ∃ sack widest congestion pending generation,
        (s.acknowledge acknowledgment receiverWindow duplicateAckEligible now timestampRtt
          blocks).1 = updatePersist
          { s with
            sack, receiverWindow, maximumReceiverWindow := widest, congestion,
            fastRetransmissionPending := pending, generation } now ∧
        sack.Tracks origin stream.released stream.sent ∧
        s.RecoveryOutcome acknowledgment blocks s.sack.recovery s.congestion.sackRecovery sack
          congestion) ∨
    (Serial.after acknowledgment s.bytes.sendNext = false ∧
      Serial.after acknowledgment s.bytes.sendUnacknowledged = true ∧
      ∃ next sack widest congestion pending generation estimator deadline present retransmitted,
        (s.bytes.acknowledge acknowledgment).1.Refines origin next ∧
        acknowledgment = Serial.counter origin next.released ∧
        stream.released < next.released ∧ next.sent = stream.sent ∧
        next.accepted = stream.accepted ∧
        (s.acknowledge acknowledgment receiverWindow duplicateAckEligible now timestampRtt
          blocks).1 = updatePersist
          { s with
            bytes := (s.bytes.acknowledge acknowledgment).1, sack, receiverWindow,
            maximumReceiverWindow := widest, history := s.history.acknowledge acknowledgment,
            failure := failureAfter { s with receiverWindow } acknowledgment, congestion,
            fastRetransmissionPending := pending, generation, retransmission := estimator
            retransmissionDeadline :=
              if (s.bytes.acknowledge acknowledgment).1.flightSize == 0#32 then none
              else some deadline
            rttProbePresent := present, rttProbeRetransmitted := retransmitted } now ∧
        sack.Tracks origin next.released next.sent ∧
        s.RecoveryOutcome acknowledgment blocks
          (s.sack.recovery && !Serial.beforeOrEqual s.sack.recoveryPoint acknowledgment)
          (if s.sack.recovery then s.congestion.sackRecovery && (s.sack.recovery &&
            !Serial.beforeOrEqual s.sack.recoveryPoint acknowledgment)
            else s.congestion.sackRecovery) sack congestion) := by
  have hrel := stream.released_le
  have hsent := stream.sent_le
  have hspan := h.bytes.span
  rcases h.bytes.acknowledge_cases acknowledgment with ⟨hn, hack⟩ | ⟨hn, hu, hack⟩ |
    ⟨hn, hu, next, hbytes, hcounter, hadvance, hnext, haccepted, hstatus⟩
  · refine .inl ⟨hn, ?_⟩
    exact acknowledge_beyond _ _ _ _ _ _ h.valid hack
  · refine .inr (.inl ⟨hn, hu, ?_⟩)
    obtain ⟨k, hscored, tracks, hrecovery, hsuppressed⟩ := h.scoreboard_duplicate hu blocks
    rw [acknowledge_duplicate _ _ _ _ _ _ h.valid hack]
    obtain ⟨congestion, pending, generation, hdup, hsame⟩ := onDuplicate_eq
      ((s.acknowledgeScoreboard acknowledgment blocks).1.takeWindow receiverWindow)
      duplicateAckEligible
    rw [hscored] at hdup
    obtain ⟨sack, congestion', pending', generation', hloss, tracks', houtcome⟩ := detectLoss_eq
      (s := { s with
        sack := k, receiverWindow,
        maximumReceiverWindow := maximum s.maximumReceiverWindow receiverWindow, congestion,
        fastRetransmissionPending := pending, generation }) tracks
      (fun hf => by
        have := mt h.bytes.flight_zero.mpr hf
        omega) (s.acknowledgeScoreboard acknowledgment blocks).2
    refine ⟨sack, maximum s.maximumReceiverWindow receiverWindow, congestion', pending', generation',
      ?_, tracks', ?_⟩
    · rw [hscored, hdup]
      exact congrArg (updatePersist · now) hloss
    · dsimp only at houtcome
      rcases houtcome with ⟨hk, hc⟩ | ⟨hdetected, hk, hc⟩
      · exact .inl ⟨hk.trans hrecovery, hc.trans hsame⟩
      · refine .inr ⟨?_, ?_, hc⟩
        · simpa only [detectsLoss, hscored] using hdetected
        · simp at hdetected
          rw [hk, hsuppressed hdetected.1.1.2]
  · refine .inr (.inr ⟨hn, hu, ?_⟩)
    have hle := next.released_le
    rw [hnext] at hle
    obtain ⟨k, hscored, tracks, hrecovery, hsuppressed⟩ := acknowledgeScoreboard_inside
      h.sack h.bytes.next (Nat.le_of_lt hadvance) hle (by omega) blocks
    rw [← hcounter] at hscored hrecovery hsuppressed
    have hkept : (s.bytes.acknowledge acknowledgment).1.sendNext = s.bytes.sendNext := by
      rw [hbytes.next, h.bytes.next, hnext]
    rw [acknowledge_advanced _ _ _ _ _ _ h.valid hstatus hkept, hscored]
    obtain ⟨estimator, deadline, present, retransmitted, hadvanced⟩ := onAdvanced_eq
      (takeWindow { s with sack := k, bytes := (s.bytes.acknowledge acknowledgment).1 }
        receiverWindow) acknowledgment (acknowledgment - s.bytes.sendUnacknowledged)
      s.sack.recovery now timestampRtt
    rw [hadvanced]
    obtain ⟨sack, congestion, pending, generation, hloss, tracks', houtcome⟩ := detectLoss_eq
      (s := { s with
        bytes := (s.bytes.acknowledge acknowledgment).1, sack := k, receiverWindow,
        maximumReceiverWindow := maximum s.maximumReceiverWindow receiverWindow
        history := s.history.acknowledge acknowledgment
        failure := failureAfter { s with receiverWindow } acknowledgment
        congestion := if s.sack.recovery then s.congestion.onSackAck !k.recovery
          else s.congestion.onNewAck (acknowledgment - s.bytes.sendUnacknowledged)
        fastRetransmissionPending := false, retransmission := estimator
        retransmissionDeadline :=
          if (s.bytes.acknowledge acknowledgment).1.flightSize == 0#32 then none else some deadline
        rttProbePresent := present, rttProbeRetransmitted := retransmitted,
        generation := s.generation + 1#64 }) tracks
      (fun hf => by
        have hzero := mt hbytes.flight_zero.mpr hf
        omega) (s.acknowledgeScoreboard acknowledgment blocks).2
    refine ⟨next, sack, maximum s.maximumReceiverWindow receiverWindow, congestion, pending,
      generation, estimator, deadline, present, retransmitted, hbytes, hcounter, hadvance, hnext,
      haccepted, congrArg (updatePersist · now) hloss, hnext ▸ tracks', ?_⟩
    rcases houtcome with ⟨hk, hc⟩ | ⟨hdetected, hk, hc⟩
    · refine .inl ⟨hk.trans hrecovery, hc.trans ?_⟩
      cases hr : s.sack.recovery <;> simp [hr, hrecovery]
    · refine .inr ⟨?_, ?_, hc⟩
      · simpa only [detectsLoss, hscored] using hdetected
      · rw [hk, hsuppressed, suppressedAt]

/-! ## What the other operations change -/

/-- The persist timer after the window is known to be `receiverWindow`. -/
def persistAfter (s : Sender) (receiverWindow : BitVec 32) (now : Instant) : PersistTimer :=
  s.persist.update (receiverWindow == 0#32) (s.bytes.queuedOctets != 0#32)
    s.retransmission.timeout now

theorem updateReceiverWindow_cases (hv : s.valid = true) (receiverWindow : BitVec 32)
    (now : Instant) :
    (s.receiverWindow = receiverWindow ∧ ∃ widest,
      s.updateReceiverWindow receiverWindow now = { s with
        maximumReceiverWindow := widest, persist := s.persistAfter receiverWindow now }) ∨
    (receiverWindow = 0#32 ∧ ∃ widest generation,
      s.updateReceiverWindow receiverWindow now = { s with
        maximumReceiverWindow := widest, persist := s.persistAfter receiverWindow now,
        receiverWindow, generation, retransmissionDeadline := none, failure := s.failure.reset }) ∨
    (receiverWindow ≠ 0#32 ∧ ∃ widest generation,
      s.updateReceiverWindow receiverWindow now = { s with
        maximumReceiverWindow := widest, persist := s.persistAfter receiverWindow now,
        receiverWindow, generation, swsOverrideDeadline := none
        retransmissionDeadline :=
          if s.receiverWindow == 0#32 && s.bytes.flightSize != 0#32 then
            some (now + s.retransmission.timeout) else s.retransmissionDeadline
        failure :=
          if s.receiverWindow == 0#32 && s.bytes.flightSize != 0#32 then
            match s.history.oldest with
            | none => s.failure
            | some oldest => (s.failure.begin oldest.first oldest.last false now).1
          else s.failure }) := by
  unfold updateReceiverWindow
  rw [if_neg (by simp [hv])]
  by_cases same : s.receiverWindow = receiverWindow
  · rw [if_pos (by simp [same])]
    exact .inl ⟨same, _, rfl⟩
  · rw [if_neg (by simpa using same)]
    by_cases hz : receiverWindow = 0#32
    · rw [if_pos (by simp [hz])]
      exact .inr (.inl ⟨hz, _, _, rfl⟩)
    · rw [if_neg (by simpa using hz)]
      refine .inr (.inr ⟨hz, maximum s.maximumReceiverWindow receiverWindow,
        s.generation + 1#64, ?_⟩)
      split
      · rw [watchOldest_frame]
        rfl
      · rfl

section

variable (s : Sender)

theorem smallPayload_frame (available allowance : BitVec 32) (now : Instant) (pushed : Bool) :
    ∃ deadline, (s.smallPayload available allowance now pushed).1 =
      { s with swsOverrideDeadline := deadline } := by
  unfold smallPayload
  dsimp only
  split
  · exact ⟨s.swsOverrideDeadline, rfl⟩
  split
  · exact ⟨s.swsOverrideDeadline, rfl⟩
  split
  · exact ⟨_, rfl⟩
  · exact ⟨s.swsOverrideDeadline, rfl⟩

variable (now : Instant)

theorem prepareNew_frame (pushed : Bool) (hv : s.valid = true) :
    ∃ deadline, (s.prepareNew now pushed).1 =
      { s.updatePersist now with swsOverrideDeadline := deadline } := by
  unfold prepareNew
  rw [if_neg (by simp [hv])]
  dsimp only
  split
  · exact ⟨s.swsOverrideDeadline, rfl⟩
  split
  · repeat' split
    all_goals exact ⟨s.swsOverrideDeadline, rfl⟩
  · obtain ⟨deadline, heq⟩ := smallPayload_frame (s.updatePersist now)
      (minimum ((s.updatePersist now).congestion.sendAllowance (s.updatePersist now).receiverWindow
        (s.updatePersist now).bytes.flightSize) (s.updatePersist now).bytes.unsentOctets)
      ((s.updatePersist now).congestion.sendAllowance (s.updatePersist now).receiverWindow
        (s.updatePersist now).bytes.flightSize) now pushed
    refine ⟨deadline, ?_⟩
    rw [← heq]
    repeat' split
    all_goals rfl

theorem prepareNew_shaped (pushed : Bool) : (s.prepareNew now pushed).2.Shaped := by
  intro _ hreason
  unfold prepareNew at hreason
  dsimp only at hreason
  repeat' split at hreason
  all_goals cases hreason

theorem preparePersistProbe_frame (hv : s.valid = true) :
    (s.preparePersistProbe now).1 = s.updatePersist now := by
  unfold preparePersistProbe
  rw [if_neg (by simp [hv])]
  dsimp only
  split <;> rfl

theorem preparePersistProbe_shaped : (s.preparePersistProbe now).2.Shaped := by
  intro _ hreason
  unfold preparePersistProbe at hreason
  dsimp only at hreason
  repeat' split at hreason
  all_goals cases hreason

theorem prepareFastRetransmission_shaped : s.prepareFastRetransmission.Shaped := by
  intro _ hreason
  unfold prepareFastRetransmission at hreason
  split at hreason <;> cases hreason

theorem prepareTimeoutRetransmission_shaped : (s.prepareTimeoutRetransmission now).Shaped := by
  intro _ hreason
  unfold prepareTimeoutRetransmission at hreason
  dsimp only at hreason
  repeat' split at hreason
  all_goals cases hreason

/-- A selected segment that could be prepared as new data is new data. -/
theorem prepareSackRecovery_shaped : (s.prepareSackRecovery now).Shaped := by
  intro hpresent _
  unfold prepareSackRecovery at hpresent ⊢
  by_cases guard : (!s.valid || !s.sackEnabled || !s.sack.recovery) = true
  · rw [if_pos guard] at hpresent
    cases hpresent
  rw [if_neg guard] at hpresent ⊢
  dsimp only at hpresent ⊢
  split at hpresent
  · cases hpresent
  rename_i hpipe
  rw [if_neg hpipe]
  generalize s.sack.nextSegment s.unsentInWindow = selected at hpresent ⊢
  split at hpresent
  · cases hpresent
  rename_i hselected
  rw [if_neg hselected]
  cases hnew : selected.reason == .newData with
  | true =>
    simp only [hnew, ↓reduceIte] at hpresent ⊢
    split at hpresent
    · cases hpresent
    rename_i hrange
    rw [if_neg hrange]
    split at hpresent
    · cases hpresent
    rename_i hrecord
    rw [if_neg hrecord]
    have hfresh : ∀ length, (s.bytes.prepareNew length).retransmission = false := by
      intro length
      unfold SendBuffer.prepareNew
      split <;> rfl
    exact ⟨fun _ => hfresh _, fun _ => by simpa using hnew⟩
  | false =>
    simp only [hnew, settled, ↓reduceIte] at hpresent ⊢
    split at hpresent
    · cases hpresent
    rename_i hrange
    rw [if_neg hrange]
    split at hpresent
    · cases hpresent
    rename_i hrecord
    rw [if_neg hrecord]
    have hrepair : (s.bytes.prepareRetransmissionAt selected.range.first
        selected.range.length).retransmission = true := by
      unfold SendBuffer.prepareRetransmissionAt at hpresent ⊢
      split at hpresent
      · cases hpresent
      · rename_i hinside
        rw [if_neg hinside]
    rw [hrepair]
    constructor
    · intro fresh
      exact absurd fresh (by simpa using hnew)
    · intro absurdity
      cases absurdity

end

/-- A valid new sender has an empty flight at its first data sequence. -/
theorem create_wellFormed {storage : List Octet} {historyStorage : List TransmissionRecord}
    {sackRanges sackWorkspace : List SackRange} {initialDataSequence senderMss : BitVec 32}
    (hv : (create storage historyStorage sackRanges sackWorkspace initialDataSequence
      senderMss).valid = true) :
    (create storage historyStorage sackRanges sackWorkspace initialDataSequence
      senderMss).WellFormed initialDataSequence ⟨[], 0, 0, Nat.le_refl _, Nat.le_refl _⟩ := by
  have ready := hv
  simp only [create, asserted] at ready
  obtain ⟨⟨⟨⟨hbytes, hhistory⟩, hsack⟩, hmss⟩, _⟩ := ready
  refine ⟨⟨hv, SendBuffer.Refines.create _ _ hbytes, create_ring hhistory, ?_⟩, rfl⟩
  · have guard : ((SendBuffer.create storage initialDataSequence).valid &&
        (TransmissionHistory.create historyStorage).valid &&
        (SackScoreboard.create sackRanges sackWorkspace senderMss).valid &&
        senderMss != 0#32) = true := by
      simp [hbytes, hhistory, hsack, hmss]
    have tracks := (SackScoreboard.Tracks.reset hsack initialDataSequence
      (Nat.le_refl 0) (by omega)).2
    rw [counter_zero] at tracks
    simpa only [create, guard, ↓reduceIte] using tracks

theorem write_frame (hv : s.valid = true) (input : List Octet) (now : Instant) :
    ∃ generation, (s.write input now).1 = { s with
      bytes := (s.bytes.write input).1
      persist := if (s.bytes.write input).2 != 0 then
        persistAfter { s with bytes := (s.bytes.write input).1 } s.receiverWindow now else s.persist
      generation } := by
  unfold Sender.write
  rw [if_neg (by simp [hv])]
  dsimp only
  split
  · exact ⟨_, rfl⟩
  · exact ⟨s.generation, rfl⟩

variable (h : s.WellFormed origin stream)
include h

theorem WellFormed.write (input : List Octet) (now : Instant) :
    ∃ next, (s.write input now).1.WellFormed origin next := by
  obtain ⟨generation, heq⟩ := write_frame h.valid input now
  rw [heq]
  exact ⟨_, ⟨h.valid, h.bytes.write input, h.ring, h.sack⟩, h.covers⟩

theorem WellFormed.updateReceiverWindow (receiverWindow : BitVec 32) (now : Instant) :
    (s.updateReceiverWindow receiverWindow now).WellFormed origin stream := by
  rcases updateReceiverWindow_cases h.valid receiverWindow now with
    ⟨_, _, heq⟩ | ⟨_, _, _, heq⟩ | ⟨_, _, _, heq⟩ <;> rw [heq]
  · exact ⟨⟨h.valid, h.bytes, h.ring, h.sack⟩, h.covers⟩
  · exact ⟨⟨h.valid, h.bytes, h.ring, h.sack⟩, h.covers⟩
  · exact ⟨⟨h.valid, h.bytes, h.ring, h.sack⟩, h.covers⟩

omit h in
theorem setNagleEnabled_frame (s : Sender) (enabled : Bool) :
    ∃ nagleEnabled generation, s.setNagleEnabled enabled = { s with nagleEnabled, generation } := by
  unfold setNagleEnabled
  split
  · exact ⟨s.nagleEnabled, s.generation, rfl⟩
  · exact ⟨_, _, rfl⟩

omit h in
theorem setSackEnabled_cases (s : Sender) (enabled : Bool) :
    s.setSackEnabled enabled = s ∨
    ∃ generation, s.setSackEnabled enabled = { s with
      sackEnabled := enabled, sack := if enabled then s.sack
        else (s.sack.reset s.bytes.sendUnacknowledged s.bytes.sendNext).1
      generation } := by
  unfold setSackEnabled
  split
  · exact .inl rfl
  · exact .inr ⟨_, rfl⟩

theorem WellFormed.setSackEnabled (enabled : Bool) :
    (s.setSackEnabled enabled).WellFormed origin stream := by
  rcases setSackEnabled_cases s enabled with same | ⟨_, heq⟩
  · rw [same]
    exact h
  · have hspan := h.bytes.span
    have hsent := stream.sent_le
    have tracks := (SackScoreboard.Tracks.reset h.sack.valid origin stream.released_le (by omega)).2
    rw [heq]
    refine ⟨⟨h.valid, h.bytes, h.ring, ?_⟩, h.covers⟩
    cases enabled with
    | true => exact h.sack
    | false =>
      rw [← h.bytes.unacknowledged, ← h.bytes.next] at tracks
      exact tracks

omit h in
theorem reduceMss_cases (s : Sender) (senderMss : BitVec 32) : (s.reduceMss senderMss).1 = s ∨
    ∃ generation, (s.reduceMss senderMss).1 = { s with
      congestion := s.congestion.reduceSenderMss senderMss, sack := s.sack.reduceSenderMss senderMss
      senderMss, generation } := by
  unfold reduceMss
  split
  · exact .inl rfl
  split
  · exact .inl rfl
  · exact .inr ⟨_, rfl⟩

theorem WellFormed.reduceMss (senderMss : BitVec 32) :
    (s.reduceMss senderMss).1.WellFormed origin stream := by
  rcases reduceMss_cases s senderMss with same | ⟨_, heq⟩
  · rw [same]
    exact h
  · rw [heq]
    exact ⟨⟨h.valid, h.bytes, h.ring, h.sack.reduceSenderMss senderMss⟩, h.covers⟩

omit h in
theorem takeFailureAction_frame (s : Sender) (now : Instant) :
    ∃ action, (s.takeFailureAction now).1 = { s with pendingFailureAction := action } := by
  unfold takeFailureAction
  dsimp only
  split
  · exact ⟨_, rfl⟩
  · exact ⟨s.pendingFailureAction, rfl⟩

theorem WellFormed.acknowledge (acknowledgment receiverWindow : BitVec 32)
    (duplicateAckEligible : Bool) (now : Instant) (timestampRtt : Option Duration)
    (blocks : List SackBlock) :
    ∃ next, (s.acknowledge acknowledgment receiverWindow duplicateAckEligible now timestampRtt
      blocks).1.WellFormed origin next := by
  rcases h.acknowledge_cases acknowledgment receiverWindow duplicateAckEligible now timestampRtt
    blocks with ⟨_, heq⟩ | ⟨_, _, _, _, _, _, _, heq, tracks, _⟩ |
      ⟨_, _, next, _, _, _, _, _, _, _, _, _, hbytes, hcounter, hadvance, hnext, _, heq, tracks, _⟩
  · rw [heq]
    exact ⟨stream, ⟨h.valid, h.bytes, h.ring, h.sack⟩, h.covers⟩
  · rw [heq]
    exact ⟨stream, ⟨h.valid, h.bytes, h.ring, tracks⟩, h.covers⟩
  · obtain ⟨ring, hlive⟩ := acknowledge_live h.ring acknowledgment
    have hspan := h.bytes.span
    have hsent := stream.sent_le
    have hle := next.released_le
    rw [heq]
    refine ⟨next, ⟨h.valid, hbytes, ring, tracks⟩, ?_⟩
    simp only [updatePersist]
    rw [hlive, hnext, hcounter]
    exact h.covers.release (Nat.le_of_lt hadvance) (by omega) (by omega)

end Sender

namespace SenderRun

/-- The sender is well formed for some stream, and every prepared transmission
has its shape. -/
structure Inv (origin : BitVec 32) (t : SenderRun) : Prop where
  wellFormed : ∃ stream, t.sender.WellFormed origin stream
  shaped : ∀ intent ∈ t.issued, intent.Shaped

theorem Inv.shaped_getD {origin : BitVec 32} {t : SenderRun} (h : t.Inv origin) (index : Nat) :
    (t.issued.getD index {}).Shaped := by
  rw [List.getD_eq_getElem?_getD]
  cases hget : t.issued[index]? with
  | none =>
    intro hpresent
    cases hpresent
  | some intent => exact h.shaped intent (List.mem_of_getElem? hget)

theorem Inv.issue {origin : BitVec 32} {t : SenderRun} (h : t.Inv origin)
    {prepared : Sender × PreparedTransmission}
    (hs : ∃ stream, prepared.1.WellFormed origin stream) (hshaped : prepared.2.Shaped) :
    (t.issue prepared).Inv origin where
  wellFormed := hs
  shaped := by
    intro intent hmem
    rcases List.mem_append.mp hmem with old | fresh
    · exact h.shaped intent old
    · rw [List.mem_singleton.mp fresh]
      exact hshaped

theorem step_inv {origin : BitVec 32} {t : SenderRun} (h : t.Inv origin) (op : SenderOp) :
    (t.step op).Inv origin := by
  obtain ⟨stream, hw⟩ := h.wellFormed
  cases op with
  | write input now => exact ⟨hw.write input now, h.shaped⟩
  | updateReceiverWindow receiverWindow now =>
    exact ⟨⟨stream, hw.updateReceiverWindow receiverWindow now⟩, h.shaped⟩
  | setNagleEnabled enabled =>
    obtain ⟨_, _, heq⟩ := t.sender.setNagleEnabled_frame enabled
    refine ⟨⟨stream, ?_⟩, h.shaped⟩
    simp only [step, heq]
    exact ⟨⟨hw.valid, hw.bytes, hw.ring, hw.sack⟩, hw.covers⟩
  | setSackEnabled enabled => exact ⟨⟨stream, hw.setSackEnabled enabled⟩, h.shaped⟩
  | reduceMss senderMss => exact ⟨⟨stream, hw.reduceMss senderMss⟩, h.shaped⟩
  | prepareNew now pushed =>
    refine h.issue ⟨stream, ?_⟩ (Sender.prepareNew_shaped _ _ _)
    obtain ⟨_, heq⟩ := t.sender.prepareNew_frame now pushed hw.valid
    rw [heq]
    exact ⟨⟨hw.valid, hw.bytes, hw.ring, hw.sack⟩, hw.covers⟩
  | preparePersistProbe now =>
    refine h.issue ⟨stream, ?_⟩ (Sender.preparePersistProbe_shaped _ _)
    rw [t.sender.preparePersistProbe_frame now hw.valid]
    exact ⟨⟨hw.valid, hw.bytes, hw.ring, hw.sack⟩, hw.covers⟩
  | prepareSackRecovery now =>
    exact h.issue h.wellFormed (Sender.prepareSackRecovery_shaped _ _)
  | prepareFastRetransmission =>
    exact h.issue h.wellFormed (Sender.prepareFastRetransmission_shaped _)
  | prepareTimeoutRetransmission now =>
    exact h.issue h.wellFormed (Sender.prepareTimeoutRetransmission_shaped _ _)
  | commit index now => exact ⟨hw.commit (h.shaped_getD index) now, h.shaped⟩
  | acknowledge acknowledgment receiverWindow eligible now rtt blocks =>
    exact ⟨hw.acknowledge acknowledgment receiverWindow eligible now rtt blocks, h.shaped⟩
  | takeFailureAction now =>
    obtain ⟨_, heq⟩ := t.sender.takeFailureAction_frame now
    refine ⟨⟨stream, ?_⟩, h.shaped⟩
    simp only [step, heq]
    exact ⟨⟨hw.valid, hw.bytes, hw.ring, hw.sack⟩, hw.covers⟩

theorem start_inv {sender : Sender} {origin : BitVec 32} {stream : SendStream}
    (h : sender.WellFormed origin stream) : Inv origin { sender } where
  wellFormed := ⟨stream, h⟩
  shaped := by simp

end SenderRun

end RouterSim.Tcp
