import RouterSim.Tcp.SenderRuns

/-! Every sender that can be reached from a new one when a commit may name any
transmission at all. A commit that aborts the connection has moved the repository
and the history together, so their agreement outlives it. -/
namespace RouterSim.Tcp

open List TransmissionHistory

/-! ## The times of the retained records -/

namespace TransmissionHistory

/-- No retained record was last sent before it was first sent. -/
def Ordered (h : TransmissionHistory) : Prop :=
  ∀ r ∈ h.live, r.firstTransmittedAt ≤ r.lastTransmittedAt

variable {h : TransmissionHistory}

theorem recordOriginal_ordered (hr : h.Ring) (ho : h.Ordered) (first last : BitVec 32)
    (now : Instant) : (h.recordOriginal first last now).1.Ordered := by
  cases hc : h.canRecordOriginal first last now with
  | false =>
    rw [recordOriginal, if_pos (by simp [hc])]
    exact ho
  | true =>
    intro r hmem
    rw [(recordOriginal_live hr hc).2.2] at hmem
    rcases mem_append.mp hmem with old | fresh
    · exact ho r old
    · obtain rfl := mem_singleton.mp fresh
      exact Int.le_refl now

/-- The records a repair touches were last sent no later than the repair. -/
theorem repaired_before {first last : BitVec 32} {now : Instant}
    (hc : h.canRecordRetransmission first last now = true) {r : TransmissionRecord}
    (hmem : r ∈ h.live) (hover : r.overlaps first last = true) : r.lastTransmittedAt ≤ now := by
  unfold canRecordRetransmission at hc
  split at hc
  · cases hc
  simp only [asserted] at hc
  have hall := all_eq_true.mp hc.1 r (mem_filter.mpr ⟨hmem, hover⟩)
  exact of_decide_eq_true hall

theorem recordRetransmission_ordered (hr : h.Ring) (ho : h.Ordered) (first last : BitVec 32)
    (now : Instant) : (h.recordRetransmission first last now).1.Ordered := by
  cases hc : h.canRecordRetransmission first last now with
  | false =>
    rw [recordRetransmission, if_pos (by simp [hc])]
    exact ho
  | true =>
    intro r hmem
    rw [(recordRetransmission_live hr hc).2.2] at hmem
    obtain ⟨old, hold, rfl⟩ := mem_map.mp hmem
    unfold TransmissionRecord.repair
    split
    · rename_i hover
      exact Int.le_trans (ho old hold) (repaired_before hc hold hover)
    · exact ho old hold

/-- An acknowledgment keeps the times of the records it leaves. -/
theorem mem_releaseRecords {acknowledgment : BitVec 32} {records : List TransmissionRecord}
    {r : TransmissionRecord} (hmem : r ∈ releaseRecords acknowledgment records) :
    ∃ old ∈ records, r.firstTransmittedAt = old.firstTransmittedAt ∧
      r.lastTransmittedAt = old.lastTransmittedAt := by
  induction records with
  | nil => cases hmem
  | cons head rest ih =>
    unfold releaseRecords at hmem
    split at hmem
    · obtain ⟨old, hold, same⟩ := ih hmem
      exact ⟨old, mem_cons_of_mem _ hold, same⟩
    · split at hmem
      · rcases mem_cons.mp hmem with trimmed | later
        · exact ⟨head, mem_cons_self, by rw [trimmed], by rw [trimmed]⟩
        · exact ⟨r, mem_cons_of_mem _ later, rfl, rfl⟩
      · exact ⟨r, hmem, rfl, rfl⟩

theorem acknowledge_ordered (hr : h.Ring) (ho : h.Ordered) (acknowledgment : BitVec 32) :
    (h.acknowledge acknowledgment).Ordered := by
  intro r hmem
  rw [(acknowledge_live hr acknowledgment).2] at hmem
  obtain ⟨old, hold, hfirst, hlast⟩ := mem_releaseRecords hmem
  rw [hfirst, hlast]
  exact ho old hold

end TransmissionHistory

/-! ## Records that tile a range of sequence numbers -/

/-- The records follow one another from `first` to `last` in nonempty steps, and
none reaches past `last`. -/
def Tiles : BitVec 32 → List TransmissionRecord → BitVec 32 → Prop
  | first, [], last => first = last
  | first, r :: rest, last => r.first = first ∧ 0 < (r.last - first).toNat ∧
      (r.last - first).toNat ≤ (last - first).toNat ∧ Tiles r.last rest last

theorem Covers.tiles {origin : BitVec 32} {p q : Nat} {records : List TransmissionRecord}
    (h : Covers origin p records q) (hq : q ≤ p + 0x40000000) :
    Tiles (Serial.counter origin p) records (Serial.counter origin q) := by
  induction records generalizing p with
  | nil => exact congrArg (Serial.counter origin) h
  | cons r rest ih =>
    obtain ⟨n, hlt, hfirst, hlast, tail⟩ := h
    have hn := tail.le
    have hstep := Serial.counter_sub origin (p := p) (q := n) (by omega) (by omega)
    have hspan := Serial.counter_sub origin (p := p) (q := q) (by omega) (by omega)
    refine ⟨hfirst, ?_, ?_, ?_⟩
    · rw [hlast, hstep]
      omega
    · rw [hlast, hstep, hspan]
      omega
    · rw [hlast]
      exact ih tail (by omega)

/-! ## What a commit does to the repository and the history -/

namespace Sender

variable {s t u : Sender} {intent : PreparedTransmission} {now : Instant} {origin : BitVec 32}
  {stream : SendStream}

/-- The repository and the history are kept, and an aborted sender stays aborted. -/
structure Keeps (s t : Sender) : Prop where
  bytes : t.bytes = s.bytes
  history : t.history = s.history
  valid : t.valid = true → s.valid = true

theorem Keeps.trans (h : s.Keeps t) (g : t.Keeps u) : s.Keeps u :=
  ⟨g.bytes.trans h.bytes, g.history.trans h.history, fun hv => h.valid (g.valid hv)⟩

section

variable (s : Sender)

theorem abort_keeps : s.Keeps s.abort :=
  ⟨rfl, rfl, fun hv => by cases hv⟩

theorem noteRepair_keeps (first last : BitVec 32) (now : Instant) :
    s.Keeps (s.noteRepair first last now) := ⟨rfl, rfl, id⟩

theorem extendScoreboard_keeps : s.Keeps s.extendScoreboard.1 := ⟨rfl, rfl, id⟩

theorem markRttRetransmitted_keeps (range : PreparedSendRange) :
    s.Keeps (s.markRttRetransmitted range) := by
  obtain ⟨_, heq⟩ := s.markRttRetransmitted_frame range
  rw [heq]
  exact ⟨rfl, rfl, id⟩

variable (intent : PreparedTransmission)

theorem startRttProbe_keeps (now : Instant) : s.Keeps (s.startRttProbe intent now) := by
  obtain ⟨_, _, _, _, heq⟩ := s.startRttProbe_frame intent now
  rw [heq]
  exact ⟨rfl, rfl, id⟩

variable (previousFlight : BitVec 32)

variable (now : Instant)

theorem commitNewData_keeps :
    (s.recordOriginal intent now).1.Keeps (s.commitNewData intent previousFlight now).1 := by
  unfold commitNewData
  dsimp only
  split
  · exact abort_keeps _
  have extended := extendScoreboard_keeps (s.recordOriginal intent now).1
  split
  · exact extended.trans (abort_keeps _)
  split
  · have begun : (s.recordOriginal intent now).1.extendScoreboard.1.Keeps
        ((s.recordOriginal intent now).1.extendScoreboard.1.beginFlight intent now) :=
      ⟨rfl, rfl, id⟩
    have probed := (extended.trans begun).trans (startRttProbe_keeps _ intent now)
    exact probed.trans ⟨rfl, rfl, id⟩
  · exact (extended.trans (startRttProbe_keeps _ intent now)).trans ⟨rfl, rfl, id⟩

theorem commitFastRetransmit_keeps :
    (s.recordRetransmission intent now).1.Keeps (s.commitFastRetransmit intent now).1 := by
  unfold commitFastRetransmit
  dsimp only
  split
  · exact abort_keeps _
  have noted := noteRepair_keeps (s.recordRetransmission intent now).1 intent.range.sequence
    intent.rangeEnd now
  exact (noted.trans (markRttRetransmitted_keeps _ intent.range)).trans ⟨rfl, rfl, id⟩

theorem commitTimeoutRetransmit_keeps :
    (s.recordRetransmission intent now).1.Keeps
      (s.commitTimeoutRetransmit intent previousFlight now).1 := by
  unfold commitTimeoutRetransmit
  dsimp only
  split
  · exact abort_keeps _
  have noted := noteRepair_keeps (s.recordRetransmission intent now).1 intent.range.sequence
    intent.rangeEnd now
  exact (noted.trans (markRttRetransmitted_keeps _ intent.range)).trans ⟨rfl, rfl, id⟩

theorem commitPersistProbe_keeps :
    (s.recordTransmission intent now).1.Keeps (s.commitPersistProbe intent now).1 := by
  unfold commitPersistProbe
  dsimp only
  split
  · exact abort_keeps _
  generalize hext : (if intent.range.retransmission then ((s.recordTransmission intent now).1, true)
    else (s.recordTransmission intent now).1.extendScoreboard) = extended
  have moved : (s.recordTransmission intent now).1.Keeps extended.1 := by
    rw [← hext]
    split
    · exact ⟨rfl, rfl, id⟩
    · exact extendScoreboard_keeps _
  have marked := moved.trans (markRttRetransmitted_keeps extended.1 intent.range)
  split
  · exact moved.trans (abort_keeps _)
  · split <;> exact marked.trans ⟨rfl, rfl, id⟩

theorem commitSackRecovery_keeps :
    (s.recordTransmission intent now).1.Keeps
      (s.commitSackRecovery intent previousFlight now).1 := by
  unfold commitSackRecovery
  dsimp only
  generalize (s.recordTransmission intent now).1.sack.commit _ = marked
  have selected : (s.recordTransmission intent now).1.Keeps
      { (s.recordTransmission intent now).1 with sack := marked.1 } := ⟨rfl, rfl, id⟩
  split
  · exact abort_keeps _
  split
  · exact selected.trans (abort_keeps _)
  split
  · exact (selected.trans (noteRepair_keeps _ _ _ now)).trans
      (markRttRetransmitted_keeps _ intent.range)
  · split
    · exact selected.trans ⟨rfl, rfl, id⟩
    · exact selected

end

/-- Whatever the reason, the history takes the transmission and is then left alone. -/
theorem applyCommit_keeps (hcur : s.current intent = true) (previousFlight : BitVec 32)
    (now : Instant) :
    (s.recordTransmission intent now).1.Keeps (s.applyCommit intent previousFlight now).1 := by
  obtain ⟨_, hnew, hfast, htimeout, _⟩ := current_reason hcur
  unfold applyCommit
  cases hreason : intent.reason with
  | newData =>
    simp only [recordTransmission, hnew hreason]
    exact commitNewData_keeps s intent previousFlight now
  | fastRetransmit =>
    simp only [recordTransmission, hfast hreason]
    exact commitFastRetransmit_keeps s intent now
  | timeoutRetransmit =>
    simp only [recordTransmission, (htimeout hreason).1]
    exact commitTimeoutRetransmit_keeps s intent previousFlight now
  | persistProbe => exact commitPersistProbe_keeps s intent now
  | sackRecovery => exact commitSackRecovery_keeps s intent previousFlight now

theorem recordTransmission_eq (s : Sender) (intent : PreparedTransmission) (now : Instant) :
    (s.recordTransmission intent now).1 = { s with
      history := if intent.range.retransmission then
          (s.history.recordRetransmission intent.range.sequence intent.rangeEnd now).1
        else (s.history.recordOriginal intent.range.sequence intent.rangeEnd now).1 } := by
  unfold recordTransmission
  split <;> rfl

/-- A commit whose guards hold moves the repository and the history together. -/
theorem commit_moves (s : Sender) (intent : PreparedTransmission) (now : Instant) :
    s.commit intent now = (s, false) ∨
    s.current intent = true ∧ s.dueForCommit intent now = true ∧ s.canRecord intent now = true ∧
    s.bytes.rangeIsCurrent intent.range = true ∧
    (s.commit intent now).1.bytes = (s.bytes.commit intent.range).1 ∧
    (s.commit intent now).1.history = (if intent.range.retransmission then
        (s.history.recordRetransmission intent.range.sequence intent.rangeEnd now).1
      else (s.history.recordOriginal intent.range.sequence intent.rangeEnd now).1) ∧
    ((s.commit intent now).1.valid = true → s.valid = true) := by
  obtain refused | ⟨hcur, hdue, hrecord, hrange, applied⟩ := s.commit_admits intent now
  · exact .inl refused
  · have keeps := applyCommit_keeps (s := { s with bytes := (s.bytes.commit intent.range).1 })
      hcur s.bytes.flightSize now
    rw [recordTransmission_eq] at keeps
    refine .inr ⟨hcur, hdue, hrecord, hrange, ?_⟩
    rw [applied]
    dsimp only
    split <;> exact ⟨keeps.bytes, keeps.history, keeps.valid⟩

/-! ## The flight of a reached sender -/

/-- The repository and the history describe the same flight; the scoreboard
follows it until a commit aborts the connection. -/
structure Tiled (s : Sender) (origin : BitVec 32) (stream : SendStream) : Prop where
  bytes : s.bytes.Refines origin stream
  ring : s.history.Ring
  covers : Covers origin stream.released s.history.live stream.sent
  ordered : s.history.Ordered
  sack : s.valid = true → s.sack.Tracks origin stream.released stream.sent

theorem Tiled.wellFormed (h : s.Tiled origin stream) (hv : s.valid = true) :
    s.WellFormed origin stream :=
  ⟨⟨hv, h.bytes, h.ring, h.sack hv⟩, h.covers⟩

theorem WellFormed.tiled (h : s.WellFormed origin stream) (ho : s.history.Ordered) :
    s.Tiled origin stream :=
  ⟨h.bytes, h.ring, h.covers, ho, fun _ => h.sack⟩

/-- The sender has been given nothing it could send and never will be. -/
structure Idle (s : Sender) : Prop where
  invalid : s.valid = false
  unused : s.bytes.sendNext = s.bytes.sendUnacknowledged
  unqueued : s.bytes.queuedOctets = 0#32
  empty : s.history.live = []

theorem create_idle_or_tiled (storage : List Octet) (historyStorage : List TransmissionRecord)
    (sackRanges sackWorkspace : List SackRange) (initialDataSequence senderMss : BitVec 32) :
    (create storage historyStorage sackRanges sackWorkspace initialDataSequence senderMss).Idle ∨
    ∃ origin stream, (create storage historyStorage sackRanges sackWorkspace initialDataSequence
      senderMss).Tiled origin stream := by
  cases hv : (create storage historyStorage sackRanges sackWorkspace initialDataSequence
      senderMss).valid with
  | false =>
    refine .inl ⟨hv, rfl, ?_, rfl⟩
    simp [create, SendBuffer.create, SendBuffer.queuedOctets]
  | true =>
    refine .inr ⟨initialDataSequence, _, (create_wellFormed hv).tiled ?_⟩
    intro r hmem
    cases hmem

/-- An aborted sender leaves its records alone in every operation but a commit. -/
theorem step_invalid (hv : s.valid = false) (issued : List PreparedTransmission) {op : SenderOp}
    (hop : ∀ index now, op ≠ .commit index now) :
    s.Keeps (SenderRun.step ⟨s, issued⟩ op).sender := by
  cases op with
  | commit index now => exact absurd rfl (hop index now)
  | write input now => simpa [SenderRun.step, Sender.write, hv] using Keeps.mk rfl rfl id
  | updateReceiverWindow receiverWindow now =>
    simpa [SenderRun.step, Sender.updateReceiverWindow, hv] using Keeps.mk rfl rfl id
  | setNagleEnabled enabled =>
    simpa [SenderRun.step, Sender.setNagleEnabled, hv] using Keeps.mk rfl rfl id
  | setSackEnabled enabled =>
    simpa [SenderRun.step, Sender.setSackEnabled, hv] using Keeps.mk rfl rfl id
  | reduceMss senderMss => simpa [SenderRun.step, Sender.reduceMss, hv] using Keeps.mk rfl rfl id
  | prepareNew now pushed =>
    simpa [SenderRun.step, SenderRun.issue, Sender.prepareNew, hv] using Keeps.mk rfl rfl id
  | preparePersistProbe now =>
    simpa [SenderRun.step, SenderRun.issue, Sender.preparePersistProbe, hv] using
      Keeps.mk rfl rfl id
  | prepareSackRecovery now => exact ⟨rfl, rfl, id⟩
  | prepareFastRetransmission => exact ⟨rfl, rfl, id⟩
  | prepareTimeoutRetransmission now => exact ⟨rfl, rfl, id⟩
  | acknowledge acknowledgment receiverWindow eligible now rtt blocks =>
    simpa [SenderRun.step, Sender.acknowledge, hv] using Keeps.mk rfl rfl id
  | takeFailureAction now =>
    obtain ⟨_, heq⟩ := s.takeFailureAction_frame now
    simp only [SenderRun.step, heq]
    exact ⟨rfl, rfl, id⟩

/-- Outside a commit the history changes only by a cumulative acknowledgment. -/
theorem Steady.step_history (h : s.Steady origin stream) (issued : List PreparedTransmission)
    {op : SenderOp} (hop : ∀ index now, op ≠ .commit index now) :
    (SenderRun.step ⟨s, issued⟩ op).sender.history = s.history ∨
    ∃ acknowledgment, (SenderRun.step ⟨s, issued⟩ op).sender.history =
      s.history.acknowledge acknowledgment := by
  cases op with
  | commit index now => exact absurd rfl (hop index now)
  | write input now =>
    obtain ⟨_, heq⟩ := write_frame h.valid input now
    exact .inl (by simp only [SenderRun.step, heq])
  | updateReceiverWindow receiverWindow now =>
    rcases updateReceiverWindow_cases h.valid receiverWindow now with
      ⟨_, _, heq⟩ | ⟨_, _, _, heq⟩ | ⟨_, _, _, heq⟩ <;>
      exact .inl (by simp only [SenderRun.step, heq])
  | setNagleEnabled enabled =>
    obtain ⟨_, _, heq⟩ := s.setNagleEnabled_frame enabled
    exact .inl (by simp only [SenderRun.step, heq])
  | setSackEnabled enabled =>
    rcases s.setSackEnabled_cases enabled with heq | ⟨_, heq⟩ <;>
      exact .inl (by simp only [SenderRun.step, heq])
  | reduceMss senderMss =>
    rcases s.reduceMss_cases senderMss with heq | ⟨_, heq⟩ <;>
      exact .inl (by simp only [SenderRun.step, heq])
  | prepareNew now pushed =>
    obtain ⟨_, heq⟩ := s.prepareNew_frame now pushed h.valid
    exact .inl (by simp only [SenderRun.step, SenderRun.issue, heq]; rfl)
  | preparePersistProbe now =>
    have heq := s.preparePersistProbe_frame now h.valid
    exact .inl (by simp only [SenderRun.step, SenderRun.issue, heq]; rfl)
  | prepareSackRecovery now => exact .inl rfl
  | prepareFastRetransmission => exact .inl rfl
  | prepareTimeoutRetransmission now => exact .inl rfl
  | acknowledge acknowledgment receiverWindow eligible now rtt blocks =>
    rcases h.acknowledge_cases acknowledgment receiverWindow eligible now rtt blocks with
      ⟨_, heq⟩ | ⟨_, _, _, _, _, _, _, heq, _⟩ |
      ⟨_, _, _, _, _, _, _, _, _, _, _, _, _, _, _, _, _, heq, _⟩
    · exact .inl (by simp only [SenderRun.step, heq]; rfl)
    · exact .inl (by simp only [SenderRun.step, heq]; rfl)
    · exact .inr ⟨acknowledgment, by simp only [SenderRun.step, heq]; rfl⟩
  | takeFailureAction now =>
    obtain ⟨_, heq⟩ := s.takeFailureAction_frame now
    exact .inl (by simp only [SenderRun.step, heq])

theorem Tiled.step_other (h : s.Tiled origin stream) (issued : List PreparedTransmission)
    {op : SenderOp} (hop : ∀ index now, op ≠ .commit index now) :
    ∃ next, (SenderRun.step ⟨s, issued⟩ op).sender.Tiled origin next := by
  cases hv : s.valid with
  | false =>
    have keeps := step_invalid hv issued hop
    refine ⟨stream, ?_, ?_, ?_, ?_, ?_⟩
    · rw [keeps.bytes]
      exact h.bytes
    · rw [keeps.history]
      exact h.ring
    · rw [keeps.history]
      exact h.covers
    · rw [keeps.history]
      exact h.ordered
    · intro hvalid
      rw [keeps.valid hvalid] at hv
      cases hv
  | true =>
    have ready := h.wellFormed hv
    obtain ⟨next, after⟩ := (SenderRun.step_inv (SenderRun.start_inv ready) op).wellFormed
    have same : (SenderRun.step ⟨s, issued⟩ op).sender =
        (SenderRun.step { sender := s } op).sender := by
      cases op with
      | commit index now => exact absurd rfl (hop index now)
      | _ => rfl
    rw [same]
    refine ⟨next, after.tiled ?_⟩
    rcases ready.step_history [] hop with kept | ⟨acknowledgment, released⟩
    · rw [kept]
      exact h.ordered
    · rw [released]
      exact acknowledge_ordered h.ring h.ordered acknowledgment

/-! ## A recovery transmission whose kind does not fit its range -/

/-- A commit's checks hold for a recovery transmission that names new data over a
repair, or a repair over new data. -/
def AdmitsMisfit (s : Sender) (intent : PreparedTransmission) (now : Instant) : Prop :=
  s.current intent = true ∧ s.canRecord intent now = true ∧
  s.bytes.rangeIsCurrent intent.range = true ∧ intent.reason = .sackRecovery ∧
  ¬ (intent.sackReason = .newData ↔ intent.range.retransmission = false)

/-- New data may not be committed as a repair, since it ends after HighData. -/
theorem Admitted.sackCommit_misfit {next : SendStream}
    (h : s.Admitted intent now origin stream next)
    (misfit : ¬ (intent.sackReason = .newData ↔ intent.range.retransmission = false)) :
    (s.sack.commit intent.segment).2 = false := by
  obtain ⟨first, hfirst, hlast, hlen, hge, hrepair, hnew⟩ := h.positions
  obtain ⟨_, hspan⟩ := h.span
  unfold SackScoreboard.commit
  split
  · rfl
  cases hr : intent.range.retransmission with
  | true =>
    have fresh : intent.sackReason = .newData := by
      by_cases fresh : intent.sackReason = .newData
      · exact fresh
      · exact absurd ⟨fun f => absurd f fresh, fun f => by simp [hr] at f⟩ misfit
    obtain ⟨hbefore, hsent⟩ := hrepair hr
    have away : intent.range.sequence ≠ s.sack.highDataEnd := by
      intro same
      have hdiff := Serial.counter_sub origin (p := first) (q := stream.sent) (by omega)
        (by omega)
      rw [← hfirst, ← h.sack.highDataEnd, same, BitVec.sub_self] at hdiff
      simp only [BitVec.toNat_ofNat] at hdiff
      omega
    rw [if_pos (by simp [fresh]), if_pos (by simpa using away)]
  | false =>
    have repair : intent.sackReason ≠ .newData := by
      intro fresh
      exact misfit ⟨fun _ => hr, fun _ => fresh⟩
    obtain ⟨hsent, hnext⟩ := hnew hr
    have beyond : Serial.after intent.rangeEnd s.sack.highDataEnd = true := by
      rw [hlast, h.sack.highDataEnd, Serial.after,
        Serial.counter_before origin (by omega) (by omega)]
      omega
    rw [if_neg (by simpa using repair), if_pos (by simp [beyond])]

/-- The scoreboard refuses the transmission only after the repository and the
history have taken it, and the connection is aborted. -/
theorem Steady.misfit_aborts (h : s.Steady origin stream) (misfit : s.AdmitsMisfit intent now) :
    (s.commit intent now).2 = false ∧ (s.commit intent now).1.valid = false := by
  obtain ⟨hcur, hrecord, hrange, hreason, hkind⟩ := misfit
  have hdue : s.dueForCommit intent now = true := by simp [dueForCommit, hreason]
  obtain ⟨next, admitted, _⟩ := h.admitted hcur hdue hrecord hrange
  have refused := admitted.sackCommit_misfit hkind
  have hrec := admitted.record_transmission.1
  have hok : (s.bytes.commit intent.range).2 = true := by simp [SendBuffer.commit, hrange]
  have hsack : (recordTransmission { s with bytes := (s.bytes.commit intent.range).1 } intent
      now).1.sack = s.sack := by
    rw [recordTransmission_eq]
  simp only [Sender.commit, hcur, hdue, hrecord, hok, settled, Bool.or_self, applyCommit, hreason,
    commitSackRecovery, hrec, hsack]
  simp only [refused, Bool.not_false, ↓reduceIte]
  exact ⟨trivial, rfl⟩

theorem shaped_of_fits (hcur : s.current intent = true) (hrecord : s.canRecord intent now = true)
    (hrange : s.bytes.rangeIsCurrent intent.range = true) (fits : ¬ s.AdmitsMisfit intent now) :
    intent.Shaped := by
  intro _ hreason
  by_cases kind : intent.sackReason = .newData ↔ intent.range.retransmission = false
  · exact kind
  · exact absurd ⟨hcur, hrecord, hrange, hreason, kind⟩ fits

theorem Steady.commit_unchanged (h : s.Steady origin stream) (fits : ¬ s.AdmitsMisfit intent now) :
    s.commit intent now = (s, false) ∨
    (s.commit intent now).2 = true ∧ (s.commit intent now).1.valid = true := by
  rcases s.commit_moves intent now with refused | ⟨hcur, _, hrecord, hrange, _⟩
  · exact .inl refused
  · have shaped := shaped_of_fits hcur hrecord hrange fits
    rcases h.commit_cases shaped now with refused | ⟨next, admitted, _, applied⟩
    · exact .inl refused
    · have steady := (admitted.apply_steady shaped h.bytes.flight_zero).2.1
      rw [applied]
      exact .inr ⟨rfl, steady.valid⟩

theorem Tiled.commit (h : s.Tiled origin stream) (intent : PreparedTransmission) (now : Instant) :
    ∃ next, (s.commit intent now).1.Tiled origin next := by
  have ordered : (s.commit intent now).1.history.Ordered := by
    rcases s.commit_moves intent now with refused | ⟨_, _, _, _, _, hhistory, _⟩
    · rw [refused]
      exact h.ordered
    · rw [hhistory]
      split
      · exact recordRetransmission_ordered h.ring h.ordered _ _ now
      · exact recordOriginal_ordered h.ring h.ordered _ _ now
  cases hv : (s.commit intent now).1.valid with
  | true =>
    -- A sender left valid was valid, and the transmission had its shape.
    rcases s.commit_moves intent now with refused | ⟨hcur, hdue, hrecord, hrange, _, _, hvalid⟩
    · rw [refused]
      exact ⟨stream, h⟩
    · have ready := h.wellFormed (hvalid hv)
      have fits : ¬ s.AdmitsMisfit intent now := by
        intro misfit
        rw [(ready.misfit_aborts misfit).2] at hv
        cases hv
      obtain ⟨next, after⟩ := ready.commit (shaped_of_fits hcur hrecord hrange fits) now
      exact ⟨next, after.tiled ordered⟩
  | false =>
    rcases s.commit_moves intent now with refused | ⟨hcur, _, hrecord, hrange, hbytes, hhistory, _⟩
    · rw [refused]
      exact ⟨stream, h⟩
    · obtain ⟨horiginal, hrecorded⟩ := canRecord_kind hcur hrecord
      obtain ⟨_, admitted⟩ := h.bytes.commit hrange
      obtain ⟨first, hfirst, hlast, hlen, hge, hrepair, hfresh⟩ := h.bytes.current_positions hrange
      refine ⟨_, ⟨hbytes ▸ admitted, ?_, ?_, ordered, fun hvalid => ?_⟩⟩
      · rw [hhistory]
        split
        · rename_i hr
          exact (recordRetransmission_live h.ring (hrecorded hr)).2.1
        · rename_i hr
          exact (recordOriginal_live h.ring (horiginal (by simpa using hr))).2.1
      · rw [hhistory]
        dsimp only
        by_cases hr : intent.range.retransmission = true
        · rw [if_pos hr, if_pos hr]
          exact recordRetransmission_covers h.ring h.covers (hrecorded hr)
        · rw [if_neg hr, if_neg hr]
          have fresh : intent.range.retransmission = false := by simpa using hr
          obtain ⟨hsent, _⟩ := hfresh fresh
          exact recordOriginal_covers h.ring h.covers (horiginal fresh)
            (by omega) (hsent ▸ hfirst) (hsent ▸ hlast)
      · rw [hv] at hvalid
        cases hvalid

theorem Idle.commit (h : s.Idle) (intent : PreparedTransmission) (now : Instant) :
    s.commit intent now = (s, false) := by
  rcases s.commit_moves intent now with refused | ⟨_, _, _, hrange, _⟩
  · exact refused
  · unfold SendBuffer.rangeIsCurrent at hrange
    rw [h.unqueued] at hrange
    split at hrange
    · cases hrange
    cases hrange

/-! ## Reached senders -/

/-- The senders that come from a new one by operations in any order, where a commit
may name any transmission, whether it was prepared, is stale or is made up. -/
inductive Reached : Sender → Prop
  | create (storage : List Octet) (historyStorage : List TransmissionRecord)
      (sackRanges sackWorkspace : List SackRange) (initialDataSequence senderMss : BitVec 32) :
      Reached (create storage historyStorage sackRanges sackWorkspace initialDataSequence senderMss)
  | step {s : Sender} (h : Reached s) (issued : List PreparedTransmission) (op : SenderOp) :
      Reached (SenderRun.step ⟨s, issued⟩ op).sender

theorem Reached.run {t : SenderRun} (h : t.sender.Reached) (ops : List SenderOp) :
    (Runs.run SenderRun.step t ops).sender.Reached :=
  Runs.invariant (P := fun t : SenderRun => t.sender.Reached) (fun _ op ih => .step ih _ op) ops h

theorem Reached.idle_or_tiled (h : s.Reached) :
    s.Idle ∨ ∃ origin stream, s.Tiled origin stream := by
  induction h with
  | create storage historyStorage sackRanges sackWorkspace initialDataSequence senderMss =>
    exact create_idle_or_tiled _ _ _ _ _ _
  | @step s _ issued op ih =>
    by_cases hop : ∀ index now, op ≠ .commit index now
    · rcases ih with idle | ⟨origin, stream, tiled⟩
      · have keeps := step_invalid idle.invalid issued hop
        refine .inl ⟨?_, ?_, ?_, ?_⟩
        · rw [← Bool.not_eq_true]
          intro hv
          have valid := keeps.valid hv
          rw [idle.invalid] at valid
          cases valid
        · rw [keeps.bytes]
          exact idle.unused
        · rw [keeps.bytes]
          exact idle.unqueued
        · rw [keeps.history]
          exact idle.empty
      · exact .inr ⟨origin, tiled.step_other issued hop⟩
    · cases op with
      | commit index now =>
        rcases ih with idle | ⟨origin, stream, tiled⟩
        · have refused := idle.commit (issued.getD index {}) now
          refine .inl ?_
          simp only [SenderRun.step, refused]
          exact idle
        · exact .inr ⟨origin, tiled.commit _ now⟩
      | _ => exact absurd (fun _ _ hc => by cases hc) hop

/-- Four of five octets are in flight across the wrap, and all but the first have
been selectively acknowledged. -/
def firstLost : SenderRun :=
  Runs.run SenderRun.step
    { sender := create (List.replicate 8 0#8) (List.replicate 8 {}) (List.replicate 4 {})
        (List.replicate 4 {}) 0xfffffffe#32 1#32 }
    [.setSackEnabled true, .updateReceiverWindow 8#32 0, .write [1#8, 2#8, 3#8, 4#8, 5#8] 0,
      .prepareNew 0 false, .commit 0 0, .prepareNew 1 false, .commit 1 1, .prepareNew 2 false,
      .commit 2 2, .prepareNew 3 false, .commit 3 3,
      .acknowledge 0xfffffffe#32 8#32 true 4 none [⟨0xffffffff#32, 2#32⟩]]

theorem firstLost_reached : firstLost.sender.Reached :=
  Reached.run (t := { sender := create _ _ _ _ _ _ }) (.create _ _ _ _ _ _) _

/-- The records of every reached sender, in ring order, tile the flight; there are
none exactly when the flight is empty. -/
theorem Reached.history_tiles (h : s.Reached) :
    Tiles s.bytes.sendUnacknowledged s.history.live s.bytes.sendNext ∧
    (s.history.live = [] ↔ s.bytes.flightSize = 0#32) ∧
    ∀ r ∈ s.history.live, r.firstTransmittedAt ≤ r.lastTransmittedAt := by
  rcases h.idle_or_tiled with idle | ⟨origin, stream, tiled⟩
  · rw [idle.empty]
    refine ⟨idle.unused.symm, ?_, ?_⟩
    · simp [SendBuffer.flightSize, idle.unused]
    · intro r hmem
      cases hmem
  · have hspan := tiled.bytes.span
    have hsent := stream.sent_le
    refine ⟨?_, ?_, tiled.ordered⟩
    · rw [tiled.bytes.unacknowledged, tiled.bytes.next]
      exact tiled.covers.tiles (by omega)
    · rw [tiled.covers.nil_iff, tiled.bytes.flight_zero]

theorem firstLost_tiles :
    Tiles firstLost.sender.bytes.sendUnacknowledged firstLost.sender.history.live
      firstLost.sender.bytes.sendNext ∧
    (firstLost.sender.history.live = [] ↔ firstLost.sender.bytes.flightSize = 0#32) ∧
    ∀ r ∈ firstLost.sender.history.live, r.firstTransmittedAt ≤ r.lastTransmittedAt :=
  firstLost_reached.history_tiles

/-- A failed commit of a reached valid sender changes nothing unless it admits a
misfit, and a misfit is the only way to abort the connection. -/
theorem Reached.commit_failure_iff (h : s.Reached) (hv : s.valid = true)
    (intent : PreparedTransmission) (now : Instant) :
    (((s.commit intent now).2 = false → (s.commit intent now).1 = s) ↔
      ¬ s.AdmitsMisfit intent now) ∧
    ((s.commit intent now).1.valid = true ↔ ¬ s.AdmitsMisfit intent now) := by
  rcases h.idle_or_tiled with idle | ⟨origin, stream, tiled⟩
  · rw [idle.invalid] at hv
    cases hv
  · have ready := tiled.wellFormed hv
    by_cases misfit : s.AdmitsMisfit intent now
    · obtain ⟨failed, aborted⟩ := ready.misfit_aborts misfit
      refine ⟨⟨fun unchanged => ?_, fun fits => absurd misfit fits⟩,
        ⟨fun hvalid => ?_, fun fits => absurd misfit fits⟩⟩
      · rw [unchanged failed, hv] at aborted
        cases aborted
      · rw [hvalid] at aborted
        cases aborted
    · rcases ready.commit_unchanged misfit with refused | ⟨committed, hvalid⟩
      · rw [refused]
        exact ⟨⟨fun _ => misfit, fun _ _ => rfl⟩, ⟨fun _ => misfit, fun _ => hv⟩⟩
      · refine ⟨⟨fun _ => misfit, fun _ failed => ?_⟩, ⟨fun _ => misfit, fun _ => hvalid⟩⟩
        rw [failed] at committed
        cases committed

theorem firstLost_commit_failure :
    (((firstLost.sender.commit (firstLost.sender.prepareSackRecovery 5) 5).2 = false →
        (firstLost.sender.commit (firstLost.sender.prepareSackRecovery 5) 5).1 = firstLost.sender) ↔
      ¬ firstLost.sender.AdmitsMisfit (firstLost.sender.prepareSackRecovery 5) 5) ∧
    ((firstLost.sender.commit (firstLost.sender.prepareSackRecovery 5) 5).1.valid = true ↔
      ¬ firstLost.sender.AdmitsMisfit (firstLost.sender.prepareSackRecovery 5) 5) :=
  firstLost_reached.commit_failure_iff (by decide) _ _

/-- The repair of the lost octet, presented as new data. -/
def repairAsNewData : PreparedTransmission :=
  { firstLost.sender.prepareSackRecovery 5 with sackReason := .newData }

theorem firstLost_misfit_aborts :
    firstLost.sender.Reached ∧ firstLost.sender.valid = true ∧
    (firstLost.sender.commit repairAsNewData 5).2 = false ∧
    (firstLost.sender.commit repairAsNewData 5).1 ≠ firstLost.sender ∧
    (firstLost.sender.commit repairAsNewData 5).1.valid = false :=
  ⟨firstLost_reached, by decide, by decide, by decide, by decide⟩

end Sender

end RouterSim.Tcp
