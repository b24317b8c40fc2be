import RouterSim.Tcp.SenderRuns

namespace RouterSim.Tcp

open TransmissionHistory SenderRun

/-- The failure detector is on the oldest segment of the flight. -/
def Sender.WatchesOldest (s : Sender) : Prop :=
  ∃ oldest, s.history.live.head? = some oldest ∧ s.failure.Watches oldest

/-- The loss timers fit the flight and the window: with a flight and an open window
both run, with a closed window or no flight neither does. -/
structure Sender.LossTimers (s : Sender) (inFlight : Prop) : Prop where
  armed : inFlight → s.receiverWindow ≠ 0#32 →
    s.retransmissionDeadline.isSome = true ∧ s.WatchesOldest
  quiet : s.receiverWindow = 0#32 → s.retransmissionDeadline = none ∧ s.failure.active = false
  idle : ¬ inFlight → s.retransmissionDeadline = none ∧ s.failure.active = false

/-- The persist timer runs over a closed window with queued octets, and only over a
closed window. -/
structure Sender.PersistTimers (s : Sender) : Prop where
  running : s.receiverWindow = 0#32 → s.bytes.queuedOctets ≠ 0#32 → s.persist.deadline.isSome = true
  closed : s.persist.deadline.isSome = true → s.receiverWindow = 0#32

structure Sender.TimersKept (s : Sender) (stream : SendStream) : Prop where
  loss : s.LossTimers (stream.released ≠ stream.sent)
  persist : s.PersistTimers

theorem PersistTimer.update_cases (p : PersistTimer) (zeroWindow queuedData : Bool)
    (currentRto : Duration) (now : Instant) :
    (p.update zeroWindow queuedData currentRto now).deadline.isSome =
      (zeroWindow && queuedData) := by
  cases zeroWindow <;> cases queuedData
  · rfl
  · rfl
  · rfl
  · unfold PersistTimer.update
    rw [if_neg (by decide)]
    split
    · assumption
    · rfl

theorem PersistTimer.isSome_of_due {p : PersistTimer} {now : Instant} (h : p.due now = true) :
    p.deadline.isSome = true := by
  unfold PersistTimer.due at h
  split at h
  · cases h
  rename_i hsome
  rw [hsome]
  rfl

namespace Sender

variable {s : Sender} {origin : BitVec 32} {stream : SendStream}

theorem persistAfter_isSome (s : Sender) (receiverWindow : BitVec 32) (now : Instant) :
    (s.persistAfter receiverWindow now).deadline.isSome =
      (receiverWindow == 0#32 && s.bytes.queuedOctets != 0#32) :=
  PersistTimer.update_cases _ _ _ _ _

/-- Whatever the timer was, after an update it fits the window it was given. -/
theorem persistTimers_after {receiverWindow : BitVec 32} (now : Instant)
    (hwindow : s.receiverWindow = receiverWindow) (r : Sender)
    (hp : s.persist = r.persistAfter receiverWindow now)
    (hq : s.bytes.queuedOctets = r.bytes.queuedOctets) : s.PersistTimers := by
  have hsome := r.persistAfter_isSome receiverWindow now
  rw [← hp, ← hq, ← hwindow] at hsome
  constructor
  · intro hz hne
    simp [hsome, hz, hne]
  · intro running
    rw [hsome, Bool.and_eq_true, beq_iff_eq] at running
    exact running.1

theorem updatePersist_timers (s : Sender) (now : Instant) : (s.updatePersist now).PersistTimers :=
  persistTimers_after now rfl s rfl rfl

theorem LossTimers.active_watches {inFlight : Prop} (h : s.LossTimers inFlight)
    (active : s.failure.active = true) : s.WatchesOldest := by
  by_cases hz : s.receiverWindow = 0#32
  · rw [(h.quiet hz).2] at active
    cases active
  · by_cases hf : inFlight
    · exact (h.armed hf hz).2
    · rw [(h.idle hf).2] at active
      cases active

/-! ## The window and the stream -/

theorem TimersKept.write (h : s.TimersKept stream) (hw : s.WellFormed origin stream)
    (input : List Octet) (now : Instant) :
    ∃ next, (s.write input now).1.WellFormed origin next ∧ (s.write input now).1.TimersKept next := by
  obtain ⟨_, heq⟩ := write_frame hw.valid input now
  rw [heq]
  refine ⟨_, ⟨⟨hw.valid, hw.bytes.write input, hw.ring, hw.sack⟩, hw.covers⟩,
    ⟨h.loss.armed, h.loss.quiet, h.loss.idle⟩, ?_⟩
  by_cases hnone : (s.bytes.write input).2 = 0
  · simp [SendBuffer.write_refused hnone, hnone]
    exact ⟨h.persist.running, h.persist.closed⟩
  · have hsome : ((s.bytes.write input).2 != 0) = true := by simpa using hnone
    exact persistTimers_after now rfl { s with bytes := (s.bytes.write input).1 }
      (by simp only [hsome, ↓reduceIte]) rfl

theorem TimersKept.updateReceiverWindow (h : s.TimersKept stream)
    (hw : s.WellFormed origin stream) (receiverWindow : BitVec 32) (now : Instant) :
    (s.updateReceiverWindow receiverWindow now).TimersKept stream := by
  rcases updateReceiverWindow_cases hw.valid receiverWindow now with
    ⟨same, _, heq⟩ | ⟨hz, _, _, heq⟩ | ⟨hopen, _, _, heq⟩ <;> rw [heq]
  · exact ⟨⟨h.loss.armed, h.loss.quiet, h.loss.idle⟩, persistTimers_after now same s rfl rfl⟩
  · exact ⟨⟨fun _ hne => absurd hz hne, fun _ => ⟨rfl, rfl⟩, fun _ => ⟨rfl, rfl⟩⟩,
      persistTimers_after now rfl s rfl rfl⟩
  · refine ⟨?_, persistTimers_after now rfl s rfl rfl⟩
    cases hreopened : s.receiverWindow == 0#32 && s.bytes.flightSize != 0#32 with
    | false =>
      refine ⟨?_, fun hz => absurd hz hopen, h.loss.idle⟩
      intro hf _
      have hwas : s.receiverWindow ≠ 0#32 := by
        intro hz
        have hne := mt hw.bytes.flight_zero.mp hf
        simp [hz, hne] at hreopened
      exact h.loss.armed hf hwas
    | true =>
      simp only [asserted] at hreopened
      have hflight : stream.released ≠ stream.sent := mt hw.bytes.flight_zero.mpr hreopened.2
      refine ⟨?_, fun hz => absurd hz hopen, fun hf => absurd hflight hf⟩
      intro _ _
      have hcovers := hw.covers
      have hspan := hw.bytes.span
      have hsent := stream.sent_le
      have holdest := live_oldest hw.ring
      cases hlive : s.history.live with
      | nil => exact absurd (hcovers.nil_iff.mp hlive) hflight
      | cons oldest rest =>
        rw [hlive] at hcovers holdest
        refine ⟨rfl, oldest, congrArg List.head? hlive, ?_⟩
        simp only [holdest]
        exact s.failure.begin_watches (hcovers.head_bounded (by omega)) false now

/-! ## Transmissions -/

theorem watches_congr {f f' : FailureDetector} {r r' : TransmissionRecord} (h : f.Watches r)
    (hf : f'.active = f.active ∧ f'.segmentFirst = f.segmentFirst ∧ f'.segmentEnd = f.segmentEnd)
    (hr : r'.first = r.first ∧ r'.last = r.last) : f'.Watches r' := by
  obtain ⟨hactive, hfirst, hlast⟩ := hf
  exact ⟨hactive.trans h.1, hfirst.trans (h.2.1.trans hr.1.symm), hlast.trans (h.2.2.trans hr.2.symm)⟩

section admitted

variable {intent : PreparedTransmission} {now : Instant} {next : SendStream}

theorem Admitted.in_flight (h : s.Admitted intent now origin stream next) :
    next.released ≠ next.sent := by
  obtain ⟨first, _, _, hlen, hge, hrepair, hnew⟩ := h.positions
  have hreleased := h.released
  cases hr : intent.range.retransmission with
  | true =>
    have := hrepair hr
    omega
  | false =>
    have := hnew hr
    omega

/-- New data behind a flight, and a repair inside it, leave the oldest segment the
oldest. -/
theorem Admitted.record_oldest (h : s.Admitted intent now origin stream next)
    {oldest : TransmissionRecord} (hhead : s.history.live.head? = some oldest) :
    ∃ r, (s.recordTransmission intent now).1.history.live.head? = some r ∧
      r.first = oldest.first ∧ r.last = oldest.last := by
  unfold recordTransmission
  cases hr : intent.range.retransmission with
  | true =>
    obtain ⟨_, _, _, hlive⟩ := h.record_repair hr
    refine ⟨oldest.repair intent.range.sequence intent.rangeEnd now, ?_, repair_bounds _ _ _ _⟩
    simp only [↓reduceIte]
    rw [hlive, List.head?_map, hhead, Option.map_some]
  | false =>
    obtain ⟨_, _, _, r, _, _, hlive⟩ := h.record_original hr
    refine ⟨oldest, ?_, rfl, rfl⟩
    simp only [settled, ↓reduceIte]
    rw [hlive, List.head?_append, hhead, Option.some_or]

/-- Timers that follow a transmission without touching deadline or window. -/
theorem LossTimers.record (ht : s.LossTimers (stream.released ≠ stream.sent))
    (h : s.Admitted intent now origin stream next)
    (hflight : stream.released ≠ stream.sent ∨ s.receiverWindow = 0#32) {r : Sender}
    (hhistory : r.history = (s.recordTransmission intent now).1.history)
    (hwindow : r.receiverWindow = s.receiverWindow)
    (hdeadline : r.retransmissionDeadline = s.retransmissionDeadline)
    (hfailure : r.failure.active = s.failure.active ∧
      r.failure.segmentFirst = s.failure.segmentFirst ∧
      r.failure.segmentEnd = s.failure.segmentEnd) : r.LossTimers (next.released ≠ next.sent) := by
  refine ⟨?_, ?_, fun hf => absurd h.in_flight hf⟩
  · intro _ hopen
    rw [hwindow] at hopen
    have hbusy := hflight.resolve_right hopen
    obtain ⟨hsome, oldest, hhead, hwatch⟩ := ht.armed hbusy hopen
    obtain ⟨r', hhead', hbounds⟩ := h.record_oldest hhead
    rw [hdeadline]
    exact ⟨hsome, r', by rw [hhistory]; exact hhead', watches_congr hwatch hfailure hbounds⟩
  · intro hz
    rw [hwindow] at hz
    rw [hdeadline, hfailure.1]
    exact ht.quiet hz

theorem Admitted.apply_lossTimers (h : s.Admitted intent now origin stream next)
    (hi : intent.Shaped) (covers : Covers origin stream.released s.history.live stream.sent)
    (ht : s.LossTimers (stream.released ≠ stream.sent))
    (hp : s.PersistTimers) {previousFlight : BitVec 32}
    (hflight : previousFlight = 0#32 ↔ stream.released = stream.sent)
    (hopen : intent.reason = .newData → stream.released ≠ stream.sent ∨ s.receiverWindow ≠ 0#32) :
    (s.applyCommit intent previousFlight now).1.LossTimers (next.released ≠ next.sent) := by
  obtain ⟨_, hnew, hfast, htimeout, hrecovery⟩ := current_reason h.current
  have hrepairing (hr : intent.range.retransmission = true) : stream.released ≠ stream.sent := by
    obtain ⟨first, _, _, _, _, hrepair, _⟩ := h.positions
    have := hrepair hr
    omega
  have horiginal (hr : intent.range.retransmission = false) :
      s.recordTransmission intent now = s.recordOriginal intent now := by
    simp [recordTransmission, hr]
  have hrepaired (hr : intent.range.retransmission = true) :
      s.recordTransmission intent now = s.recordRetransmission intent now := by
    simp [recordTransmission, hr]
  unfold applyCommit
  cases hreason : intent.reason with
  | newData =>
    obtain ⟨hrec, _, _, r, hrf, hrl, hlive⟩ := h.record_original (hnew hreason)
    obtain ⟨hext, _⟩ := h.extend
    obtain ⟨_, _, _, _, heq⟩ := commitNewData_eq previousFlight hrec hext
    simp only [heq]
    by_cases hempty : previousFlight = 0#32
    · have hz := hflight.mp hempty
      have hwindow : s.receiverWindow ≠ 0#32 := (hopen hreason).resolve_left (fun hne => hne hz)
      have hnil : s.history.live = [] := covers.nil_iff.mpr hz
      refine ⟨fun _ _ => ⟨by simp [hempty], r, ?_, ?_⟩, fun hzero => absurd hzero hwindow,
        fun hf => absurd h.in_flight hf⟩
      · rw [hlive, hnil]
        rfl
      · simp [hempty]
        rw [← hrf, ← hrl]
        exact s.failure.begin_watches (by rw [hrf, hrl]; exact h.bounded) false now
    · have hne : (previousFlight == 0#32) = false := by simpa using hempty
      simp only [hne]
      exact ht.record h (.inl (mt hflight.mpr hempty)) (by rw [horiginal (hnew hreason)]) rfl rfl
        ⟨rfl, rfl, rfl⟩
  | fastRetransmit =>
    obtain ⟨hrec, _⟩ := h.record_repair (hfast hreason)
    obtain ⟨_, _, heq⟩ := commitFastRetransmit_eq hrec
    simp only [heq]
    exact ht.record h (.inl (hrepairing (hfast hreason))) (by rw [hrepaired (hfast hreason)]) rfl rfl
      (s.failure.retransmitted_bounds _ _ _)
  | timeoutRetransmit =>
    obtain ⟨hr, hsome⟩ := htimeout hreason
    obtain ⟨hrec, _⟩ := h.record_repair hr
    obtain ⟨_, _, heq⟩ := commitTimeoutRetransmit_eq previousFlight hrec
    have hwindow : s.receiverWindow ≠ 0#32 := by
      intro hz
      rw [(ht.quiet hz).1] at hsome
      cases hsome
    obtain ⟨_, oldest, hhead, hwatch⟩ := ht.armed (hrepairing hr) hwindow
    obtain ⟨r', hhead', hbounds⟩ := h.record_oldest hhead
    rw [hrepaired hr] at hhead'
    simp only [heq]
    exact ⟨fun _ _ => ⟨rfl, r', hhead', watches_congr hwatch (s.failure.retransmitted_bounds _ _ _)
      hbounds⟩, fun hz => absurd hz hwindow, fun hf => absurd h.in_flight hf⟩
  | persistProbe =>
    have hdue : s.persist.due now = true := by
      have := h.due
      simpa only [dueForCommit, hreason] using this
    have hzero : s.receiverWindow = 0#32 := hp.closed (PersistTimer.isSome_of_due hdue)
    obtain ⟨hext, _⟩ := h.extend
    obtain ⟨_, heq⟩ := commitPersistProbe_eq hdue h.record_transmission.1 (fun _ => hext)
    simp only [heq]
    exact ht.record h (.inr hzero) rfl rfl rfl ⟨rfl, rfl, rfl⟩
  | sackRecovery =>
    obtain ⟨hsack, _⟩ := h.sackCommit hi hreason
    obtain ⟨point, hlt, hle, _⟩ := h.sack.recovery (hrecovery hreason)
    have hbusy : stream.released ≠ stream.sent := by omega
    cases hr : intent.range.retransmission with
    | true =>
      obtain ⟨hrec, _⟩ := h.record_repair hr
      obtain ⟨_, _, heq⟩ := commitSackRecovery_repair_eq previousFlight hr hrec hsack
      simp only [heq]
      exact ht.record h (.inl hbusy) (by rw [hrepaired hr]) rfl rfl
        (s.failure.retransmitted_bounds _ _ _)
    | false =>
      obtain ⟨hrec, _⟩ := h.record_original hr
      simp only [commitSackRecovery_new_eq previousFlight hr (mt hflight.mp hbusy) hrec hsack]
      exact ht.record h (.inl hbusy) (by rw [horiginal hr]) rfl rfl ⟨rfl, rfl, rfl⟩

/-- Only a probe touches the persist timer, and restarts it. -/
theorem Admitted.apply_persistTimers (h : s.Admitted intent now origin stream next)
    (hi : intent.Shaped) (hp : s.PersistTimers) {previousFlight : BitVec 32}
    (hflight : previousFlight = 0#32 ↔ stream.released = stream.sent) :
    (s.applyCommit intent previousFlight now).1.PersistTimers := by
  obtain ⟨_, hnew, hfast, htimeout, hrecovery⟩ := current_reason h.current
  unfold applyCommit
  cases hreason : intent.reason with
  | newData =>
    obtain ⟨hrec, _⟩ := h.record_original (hnew hreason)
    obtain ⟨_, _, _, _, heq⟩ := commitNewData_eq previousFlight hrec h.extend.1
    simp only [heq]
    exact ⟨hp.running, hp.closed⟩
  | fastRetransmit =>
    obtain ⟨hrec, _⟩ := h.record_repair (hfast hreason)
    obtain ⟨_, _, heq⟩ := commitFastRetransmit_eq hrec
    simp only [heq]
    exact ⟨hp.running, hp.closed⟩
  | timeoutRetransmit =>
    obtain ⟨hrec, _⟩ := h.record_repair (htimeout hreason).1
    obtain ⟨_, _, heq⟩ := commitTimeoutRetransmit_eq previousFlight hrec
    simp only [heq]
    exact ⟨hp.running, hp.closed⟩
  | persistProbe =>
    have hdue : s.persist.due now = true := by
      have := h.due
      simpa only [dueForCommit, hreason] using this
    obtain ⟨_, heq⟩ := commitPersistProbe_eq hdue h.record_transmission.1 (fun _ => h.extend.1)
    simp only [heq]
    exact ⟨fun _ _ => (probeCommitted_of_due hdue).2,
      fun _ => hp.closed (PersistTimer.isSome_of_due hdue)⟩
  | sackRecovery =>
    obtain ⟨hsack, _⟩ := h.sackCommit hi hreason
    obtain ⟨point, hlt, hle, _⟩ := h.sack.recovery (hrecovery hreason)
    have hbusy : stream.released ≠ stream.sent := by omega
    cases hr : intent.range.retransmission with
    | true =>
      obtain ⟨hrec, _⟩ := h.record_repair hr
      obtain ⟨_, _, heq⟩ := commitSackRecovery_repair_eq previousFlight hr hrec hsack
      simp only [heq]
      exact ⟨hp.running, hp.closed⟩
    | false =>
      obtain ⟨hrec, _⟩ := h.record_original hr
      simp only [commitSackRecovery_new_eq previousFlight hr (mt hflight.mp hbusy) hrec hsack]
      exact ⟨hp.running, hp.closed⟩

end admitted

theorem TimersKept.commit (h : s.TimersKept stream) (hw : s.WellFormed origin stream)
    {intent : PreparedTransmission} (hi : intent.Shaped) {now : Instant}
    (hok : s.current intent = true → intent.reason = .newData →
      s.bytes.flightSize ≠ 0#32 ∨ s.receiverWindow ≠ 0#32) :
    ∃ next, (s.commit intent now).1.WellFormed origin next ∧
      (s.commit intent now).1.TimersKept next := by
  rcases hw.commit_cases hi now with refused | ⟨next, admitted, _, applied⟩
  · rw [refused]
    exact ⟨stream, hw, h⟩
  · have hcurrent : s.current intent = true := admitted.current
    have ht : LossTimers { s with bytes := (s.bytes.commit intent.range).1 }
        (stream.released ≠ stream.sent) := ⟨h.loss.armed, h.loss.quiet, h.loss.idle⟩
    have hqueued : (s.bytes.commit intent.range).1.queuedOctets = s.bytes.queuedOctets :=
      SendBuffer.commit_queuedOctets _ _
    have hp : PersistTimers { s with bytes := (s.bytes.commit intent.range).1 } :=
      ⟨fun hz hq => h.persist.running hz (hqueued ▸ hq), h.persist.closed⟩
    obtain ⟨_, final, covers⟩ := admitted.apply_steady hi hw.bytes.flight_zero
    have loss := admitted.apply_lossTimers hi hw.covers ht hp hw.bytes.flight_zero (fun hreason =>
      (hok hcurrent hreason).imp (mt hw.bytes.flight_zero.mpr) id)
    have persist := admitted.apply_persistTimers hi hp hw.bytes.flight_zero
    rw [applied]
    exact ⟨next, ⟨⟨final.valid, final.bytes, final.ring, final.sack⟩, covers hw.covers⟩,
      ⟨loss.armed, loss.quiet, loss.idle⟩, ⟨persist.running, persist.closed⟩⟩

/-! ## Acknowledgments -/

/-- What an advancing acknowledgment leaves of the detector. -/
theorem LossTimers.failureAfter {inFlight : Prop} (h : s.LossTimers inFlight)
    (hw : s.WellFormed origin stream) {acknowledgment : BitVec 32} (receiverWindow : BitVec 32)
    {next : SendStream} (ring : (s.history.acknowledge acknowledgment).Ring)
    (covers : Covers origin next.released (s.history.acknowledge acknowledgment).live next.sent)
    (hspan : next.sent ≤ next.released + 0x40000000) :
    (next.released ≠ next.sent → receiverWindow ≠ 0#32 →
      ∃ oldest, (s.history.acknowledge acknowledgment).live.head? = some oldest ∧
        (failureAfter { s with receiverWindow } acknowledgment).Watches oldest) ∧
    (next.released = next.sent →
      (failureAfter { s with receiverWindow } acknowledgment).active = false) := by
  have hlive := (acknowledge_live hw.ring acknowledgment).2
  -- A detector that survives the acknowledgment is still on the oldest record.
  have hkept : (s.failure.acknowledge acknowledgment).active = false ∨
      ∃ oldest, (s.history.acknowledge acknowledgment).live.head? = some oldest ∧
        (s.failure.acknowledge acknowledgment).Watches oldest := by
    cases hactive : s.failure.active with
    | false =>
      left
      rw [FailureDetector.acknowledge_inactive hactive]
      exact hactive
    | true =>
      obtain ⟨oldest, hhead, hwatch⟩ := h.active_watches hactive
      obtain ⟨rest, hrecords⟩ : ∃ rest, s.history.live = oldest :: rest := by
        cases hl : s.history.live with
        | nil => simp [hl] at hhead
        | cons r rest => exact ⟨rest, by simpa [hl] using hhead⟩
      rw [hlive, hrecords]
      exact FailureDetector.acknowledge_watches hwatch rest acknowledgment
  have holdest := live_oldest ring
  constructor
  · intro hflight hopen
    cases hrecords : (s.history.acknowledge acknowledgment).live with
    | nil => exact absurd (covers.nil_iff.mp hrecords) hflight
    | cons oldest rest =>
      rw [hrecords] at hkept holdest covers
      refine ⟨oldest, rfl, ?_⟩
      have hwindow : (receiverWindow != 0#32) = true := by simpa using hopen
      rcases hkept with hstopped | ⟨same, hhead, hwatch⟩
      · simp [Sender.failureAfter, hstopped, hwindow, holdest]
        exact FailureDetector.begin_watches _ (covers.head_bounded hspan) false _
      · simp only [List.head?_cons, Option.some.injEq] at hhead
        subst hhead
        simp only [Sender.failureAfter, hwatch.1]
        exact hwatch
  · intro hempty
    have hnil := covers.nil_iff.mpr hempty
    rw [hnil] at hkept holdest
    have hstopped : (s.failure.acknowledge acknowledgment).active = false := by
      rcases hkept with hstopped | ⟨_, hhead, _⟩
      · exact hstopped
      · cases hhead
    simp only [Sender.failureAfter, holdest]
    split <;> exact hstopped

/-- The acknowledgment does not move the window between open and closed behind the
timers' back: it is beyond SND.NXT, or it advances and empties the flight or
announces an open window, or it does not advance and there is no flight or the
window stays open or stays closed. -/
def WindowKept (s : Sender) (acknowledgment receiverWindow : BitVec 32) : Prop :=
  Serial.after acknowledgment s.bytes.sendNext = true ∨
  (Serial.after acknowledgment s.bytes.sendUnacknowledged = true ∧
    (acknowledgment = s.bytes.sendNext ∨ receiverWindow ≠ 0#32)) ∨
  (Serial.after acknowledgment s.bytes.sendUnacknowledged = false ∧
    (s.bytes.flightSize = 0#32 ∨ (receiverWindow = 0#32 ↔ s.receiverWindow = 0#32)))

theorem TimersKept.acknowledge (h : s.TimersKept stream) (hw : s.WellFormed origin stream)
    {acknowledgment receiverWindow : BitVec 32} (hok : s.WindowKept acknowledgment receiverWindow)
    (duplicateAckEligible : Bool) (now : Instant) (timestampRtt : Option Duration)
    (blocks : List SackBlock) :
    ∃ next, (s.acknowledge acknowledgment receiverWindow duplicateAckEligible now timestampRtt
        blocks).1.WellFormed origin next ∧
      (s.acknowledge acknowledgment receiverWindow duplicateAckEligible now timestampRtt
        blocks).1.TimersKept next := by
  rcases hw.acknowledge_cases acknowledgment receiverWindow duplicateAckEligible now timestampRtt
    blocks with ⟨_, heq⟩ | ⟨hn, hu, _, _, _, _, _, heq, tracks, _⟩ |
      ⟨hn, hu, next, _, _, _, _, _, _, _, _, _, hbytes, hcounter, hadvance, hnext, _, heq, tracks, _⟩
  · rw [heq]
    exact ⟨stream, ⟨⟨hw.valid, hw.bytes, hw.ring, hw.sack⟩, hw.covers⟩,
      ⟨h.loss.armed, h.loss.quiet, h.loss.idle⟩, updatePersist_timers _ _⟩
  · rw [heq]
    refine ⟨stream, ⟨⟨hw.valid, hw.bytes, hw.ring, tracks⟩, hw.covers⟩, ?_, updatePersist_timers _ _⟩
    have hcase : s.bytes.flightSize = 0#32 ∨ (receiverWindow = 0#32 ↔ s.receiverWindow = 0#32) := by
      rcases hok with beyond | ⟨advancing, _⟩ | ⟨_, hcase⟩
      · simp [hn] at beyond
      · simp [hu] at advancing
      · exact hcase
    rcases hcase with empty | same
    · have hidle := h.loss.idle (fun hne => hne (hw.bytes.flight_zero.mp empty))
      exact ⟨fun hne => absurd (hw.bytes.flight_zero.mp empty) hne, fun _ => hidle, fun _ => hidle⟩
    · exact ⟨fun hf hopen => h.loss.armed hf (mt same.mpr hopen),
        fun hz => h.loss.quiet (same.mp hz), h.loss.idle⟩
  · have hcase : acknowledgment = s.bytes.sendNext ∨ receiverWindow ≠ 0#32 := by
      rcases hok with beyond | ⟨_, hcase⟩ | ⟨duplicate, _⟩
      · simp [hn] at beyond
      · exact hcase
      · simp [hu] at duplicate
    have hspan := hw.bytes.span
    have hsent := stream.sent_le
    have hle := next.released_le
    obtain ⟨ring, hlive⟩ := acknowledge_live hw.ring acknowledgment
    have covers : Covers origin next.released (s.history.acknowledge acknowledgment).live
        next.sent := by
      rw [hlive, hnext, hcounter]
      exact hw.covers.release (Nat.le_of_lt hadvance) (by omega) (by omega)
    obtain ⟨hwatch, hstop⟩ := h.loss.failureAfter hw receiverWindow ring covers (by omega)
    have hflight := hbytes.flight_zero
    rw [heq]
    refine ⟨next, ⟨⟨hw.valid, hbytes, ring, tracks⟩, covers⟩, ⟨?_, ?_, ?_⟩, updatePersist_timers _ _⟩
    · intro hf hopen
      have hne : ((s.bytes.acknowledge acknowledgment).1.flightSize == 0#32) = false := by
        simpa using mt hflight.mp hf
      exact ⟨by simp [updatePersist, hne], hwatch hf hopen⟩
    · intro hz
      have hempty : next.released = next.sent := by
        have hack := hcase.resolve_right (fun hne => hne hz)
        rw [hw.bytes.next, hcounter] at hack
        have hdiff := Serial.counter_sub origin (p := next.released) (q := stream.sent) (by omega)
          (by omega)
        rw [hack] at hdiff
        simp only [BitVec.sub_self, BitVec.toNat_ofNat] at hdiff
        omega
      exact ⟨by simp [updatePersist, hflight.mpr hempty], hstop hempty⟩
    · intro hf
      have hempty : next.released = next.sent := by omega
      exact ⟨by simp [updatePersist, hflight.mpr hempty], hstop hempty⟩

end Sender

/-- No acknowledgment closes or opens the window over a flight without the timers,
and new data starts no flight while the window is closed. -/
def TimersFollow (t : SenderRun) : SenderOp → Prop
  | .acknowledge acknowledgment receiverWindow _ _ _ _ =>
    t.sender.WindowKept acknowledgment receiverWindow
  | .commit index _ =>
    t.sender.current (t.issued.getD index {}) = true → (t.issued.getD index {}).reason = .newData →
      t.sender.bytes.flightSize ≠ 0#32 ∨ t.sender.receiverWindow ≠ 0#32
  | _ => True

namespace SenderRun

def Timed (origin : BitVec 32) (t : SenderRun) : Prop :=
  ∃ stream, t.sender.WellFormed origin stream ∧ t.sender.TimersKept stream

theorem step_timed {origin : BitVec 32} {t : SenderRun} (h : t.Inv origin) (ht : t.Timed origin)
    {op : SenderOp} (hok : TimersFollow t op) : (t.step op).Timed origin := by
  obtain ⟨stream, hw, hk⟩ := ht
  cases op with
  | write input now => exact hk.write hw input now
  | updateReceiverWindow receiverWindow now =>
    exact ⟨stream, hw.updateReceiverWindow receiverWindow now,
      hk.updateReceiverWindow hw receiverWindow now⟩
  | setNagleEnabled enabled =>
    obtain ⟨_, _, heq⟩ := t.sender.setNagleEnabled_frame enabled
    simp only [step, heq]
    exact ⟨stream, ⟨⟨hw.valid, hw.bytes, hw.ring, hw.sack⟩, hw.covers⟩,
      ⟨hk.loss.armed, hk.loss.quiet, hk.loss.idle⟩, ⟨hk.persist.running, hk.persist.closed⟩⟩
  | setSackEnabled enabled =>
    refine ⟨stream, hw.setSackEnabled enabled, ?_⟩
    simp only [step]
    rcases t.sender.setSackEnabled_cases enabled with same | ⟨_, heq⟩
    · rw [same]
      exact hk
    · rw [heq]
      exact ⟨⟨hk.loss.armed, hk.loss.quiet, hk.loss.idle⟩, ⟨hk.persist.running, hk.persist.closed⟩⟩
  | reduceMss senderMss =>
    refine ⟨stream, hw.reduceMss senderMss, ?_⟩
    simp only [step]
    rcases t.sender.reduceMss_cases senderMss with same | ⟨_, heq⟩
    · rw [same]
      exact hk
    · rw [heq]
      exact ⟨⟨hk.loss.armed, hk.loss.quiet, hk.loss.idle⟩, ⟨hk.persist.running, hk.persist.closed⟩⟩
  | prepareNew now pushed =>
    obtain ⟨_, heq⟩ := t.sender.prepareNew_frame now pushed hw.valid
    simp only [step, issue, heq]
    exact ⟨stream, ⟨⟨hw.valid, hw.bytes, hw.ring, hw.sack⟩, hw.covers⟩,
      ⟨hk.loss.armed, hk.loss.quiet, hk.loss.idle⟩,
      Sender.persistTimers_after now rfl t.sender rfl rfl⟩
  | preparePersistProbe now =>
    simp only [step, issue, t.sender.preparePersistProbe_frame now hw.valid]
    exact ⟨stream, ⟨⟨hw.valid, hw.bytes, hw.ring, hw.sack⟩, hw.covers⟩,
      ⟨hk.loss.armed, hk.loss.quiet, hk.loss.idle⟩, Sender.updatePersist_timers _ _⟩
  | prepareSackRecovery now => exact ⟨stream, hw, hk⟩
  | prepareFastRetransmission => exact ⟨stream, hw, hk⟩
  | prepareTimeoutRetransmission now => exact ⟨stream, hw, hk⟩
  | commit index now => exact hk.commit hw (h.shaped_getD index) hok
  | acknowledge acknowledgment receiverWindow eligible now rtt blocks =>
    exact hk.acknowledge hw hok eligible now rtt blocks
  | takeFailureAction now =>
    obtain ⟨_, heq⟩ := t.sender.takeFailureAction_frame now
    simp only [step, heq]
    exact ⟨stream, ⟨⟨hw.valid, hw.bytes, hw.ring, hw.sack⟩, hw.covers⟩,
      ⟨hk.loss.armed, hk.loss.quiet, hk.loss.idle⟩, ⟨hk.persist.running, hk.persist.closed⟩⟩

end SenderRun

/-- As long as every acknowledgment and commit keeps the window in step, in every
state reached the retransmission timer and the failure detector run on the oldest
segment exactly over a flight with an open window, and queued octets under a
closed window have the persist timer running. -/
theorem loss_timers_coherent (storage : List Octet) (historyStorage : List TransmissionRecord)
    (sackRanges sackWorkspace : List SackRange) (initialDataSequence senderMss : BitVec 32)
    (valid : (Sender.create storage historyStorage sackRanges sackWorkspace initialDataSequence
      senderMss).valid = true) (ops : List SenderOp)
    (followed : Runs.Along step TimersFollow
      { sender := Sender.create storage historyStorage sackRanges sackWorkspace
          initialDataSequence senderMss } ops) :
    let s := (Runs.run step
      { sender := Sender.create storage historyStorage sackRanges sackWorkspace
          initialDataSequence senderMss } ops).sender
    (s.bytes.flightSize ≠ 0#32 → s.receiverWindow ≠ 0#32 →
      s.retransmissionDeadline.isSome = true ∧ s.failure.active = true ∧
      ∃ oldest, s.history.oldest = some oldest ∧
        s.failure.segmentFirst = oldest.first ∧ s.failure.segmentEnd = oldest.last) ∧
    (s.receiverWindow = 0#32 → s.retransmissionDeadline = none ∧ s.failure.active = false) ∧
    (s.receiverWindow = 0#32 → s.bytes.queuedOctets ≠ 0#32 → s.persist.deadline.isSome = true) := by
  intro s
  have fresh := Sender.create_wellFormed valid
  have kept : (Sender.create storage historyStorage sackRanges sackWorkspace initialDataSequence
      senderMss).TimersKept ⟨[], 0, 0, Nat.le_refl _, Nat.le_refl _⟩ :=
    ⟨⟨fun hne => absurd rfl hne, fun _ => ⟨rfl, rfl⟩, fun _ => ⟨rfl, rfl⟩⟩,
      ⟨fun _ hq => absurd (by
        have := fresh.bytes.queued
        exact BitVec.eq_of_toNat_eq (this.trans rfl)) hq, nofun⟩⟩
  have final := Runs.invariant_along
    (P := fun t => t.Inv initialDataSequence ∧ t.Timed initialDataSequence)
    (fun _ op h hok => ⟨step_inv h.1 op, step_timed h.1 h.2 hok⟩)
    ⟨start_inv fresh, _, fresh, kept⟩ followed
  obtain ⟨stream, hw, hk⟩ := final.2
  refine ⟨?_, hk.loss.quiet, hk.persist.running⟩
  intro hflight hopen
  obtain ⟨hsome, oldest, hhead, hactive, hfirst, hlast⟩ :=
    hk.loss.armed (mt hw.bytes.flight_zero.mpr hflight) hopen
  exact ⟨hsome, hactive, oldest, (live_oldest hw.ring).trans hhead, hfirst, hlast⟩

/-! One octet in flight, and the peer repeats its acknowledgment with a closed
window: the acknowledgment stores the window and leaves both timers running. -/

def oneOctetSender : Sender := Sender.create [0#8, 0#8] [{}, {}] [{}] [{}] 0#32 1#32

def oneOctetFlight : List SenderOp :=
  [.updateReceiverWindow 100#32 0, .write [7#8] 0, .prepareNew 0 true, .commit 0 0]

theorem timers_run_under_closed_window :
    ¬ ∀ ops, let s := (Runs.run step { sender := oneOctetSender } ops).sender
      s.receiverWindow = 0#32 → s.retransmissionDeadline = none ∧ s.failure.active = false := by
  intro h
  have bad := h (oneOctetFlight ++ [.acknowledge 0#32 0#32 true 1 none []])
  revert bad
  decide +kernel

/-- Announced through the window update the same closing stops both. -/
theorem loss_timers_coherent_window_update :
    let s := (Runs.run step { sender := oneOctetSender }
      (oneOctetFlight ++ [.updateReceiverWindow 0#32 1])).sender
    s.bytes.flightSize ≠ 0#32 ∧ s.receiverWindow = 0#32 ∧ s.retransmissionDeadline = none ∧
      s.failure.active = false := by
  refine ⟨by decide +kernel, by decide +kernel, ?_⟩
  refine (loss_timers_coherent _ _ _ _ _ _ (by decide +kernel) _ ?_).2.1 (by decide +kernel)
  exact ⟨trivial, trivial, trivial, fun _ _ => .inr (by decide +kernel), trivial, trivial⟩

end RouterSim.Tcp
