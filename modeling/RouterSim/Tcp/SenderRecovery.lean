import RouterSim.Tcp.SenderRuns

namespace RouterSim.Tcp

open SenderRun

/-- The scoreboard and the congestion controller agree on loss recovery. -/
def Sender.RecoveryAgrees (s : Sender) : Prop := s.sack.recovery = s.congestion.sackRecovery

namespace Sender

variable {s : Sender} {origin : BitVec 32} {stream : SendStream}

/-- No transmission drives the two flags apart: only a timeout touches them, and it
clears both. -/
theorem Admitted.apply_recoveryAgrees {intent : PreparedTransmission} {now : Instant}
    {next : SendStream} (h : s.Admitted intent now origin stream next) (hi : intent.Shaped)
    (hagree : s.RecoveryAgrees) {previousFlight : BitVec 32}
    (hflight : previousFlight = 0#32 ↔ stream.released = stream.sent) :
    (s.applyCommit intent previousFlight now).1.RecoveryAgrees := by
  obtain ⟨_, hnew, hfast, htimeout, hrecovery⟩ := current_reason h.current
  unfold applyCommit
  cases hreason : intent.reason with
  | newData =>
    obtain ⟨hrec, _⟩ := h.record_original (hnew hreason)
    obtain ⟨hext, _, hsame⟩ := h.extend
    obtain ⟨_, _, _, _, heq⟩ := commitNewData_eq previousFlight hrec hext
    simp only [heq]
    exact hsame.trans hagree
  | fastRetransmit =>
    obtain ⟨hrec, _⟩ := h.record_repair (hfast hreason)
    obtain ⟨_, _, heq⟩ := commitFastRetransmit_eq hrec
    simp only [heq]
    exact hagree
  | timeoutRetransmit =>
    obtain ⟨hrec, _⟩ := h.record_repair (htimeout hreason).1
    obtain ⟨_, _, heq⟩ := commitTimeoutRetransmit_eq previousFlight hrec
    have hout : s.sack.onRetransmissionTimeout.recovery = false := by
      simp [SackScoreboard.onRetransmissionTimeout, h.sack.valid]
    simp only [heq]
    exact hout
  | persistProbe =>
    have hdue : s.persist.due now = true := by
      have := h.due
      simpa only [dueForCommit, hreason] using this
    obtain ⟨hext, _, hsame⟩ := h.extend
    obtain ⟨_, heq⟩ := commitPersistProbe_eq hdue h.record_transmission.1 (fun _ => hext)
    simp only [heq]
    cases hr : intent.range.retransmission with
    | true => exact hagree
    | false => exact hsame.trans hagree
  | sackRecovery =>
    obtain ⟨hsack, _, hsame⟩ := h.sackCommit hi hreason
    cases hr : intent.range.retransmission with
    | true =>
      obtain ⟨hrec, _⟩ := h.record_repair hr
      obtain ⟨_, _, heq⟩ := commitSackRecovery_repair_eq previousFlight hr hrec hsack
      simp only [heq]
      exact hsame.trans hagree
    | false =>
      obtain ⟨hrec, _⟩ := h.record_original hr
      obtain ⟨point, hp, hle, _⟩ := h.sack.recovery (hrecovery hreason)
      have hne : previousFlight ≠ 0#32 := fun hz => by
        have := hflight.mp hz
        omega
      simp only [commitSackRecovery_new_eq previousFlight hr hne hrec hsack]
      exact hsame.trans hagree

theorem RecoveryAgrees.commit (h : s.RecoveryAgrees) (hw : s.WellFormed origin stream)
    {intent : PreparedTransmission} (hi : intent.Shaped) (now : Instant) :
    (s.commit intent now).1.RecoveryAgrees := by
  rcases hw.commit_cases hi now with refused | ⟨next, admitted, _, applied⟩
  · rw [refused]
    exact h
  · rw [applied]
    exact admitted.apply_recoveryAgrees hi h hw.bytes.flight_zero

/-- An acknowledgment that does not detect a loss while recovery is suppressed
keeps the two flags together. -/
theorem RecoveryAgrees.acknowledge (h : s.RecoveryAgrees) (hw : s.WellFormed origin stream)
    {acknowledgment : BitVec 32} {blocks : List SackBlock}
    (hok : s.suppressedAt acknowledgment = true → s.detectsLoss acknowledgment blocks = false)
    (receiverWindow : BitVec 32) (duplicateAckEligible : Bool) (now : Instant)
    (timestampRtt : Option Duration) :
    (s.acknowledge acknowledgment receiverWindow duplicateAckEligible now timestampRtt
      blocks).1.RecoveryAgrees := by
  have entered {sack : SackScoreboard} {congestion : CongestionController}
      (hdetected : s.detectsLoss acknowledgment blocks = true)
      (hrec : sack.recovery = !s.suppressedAt acknowledgment)
      (hcong : congestion.sackRecovery = true) : sack.recovery = congestion.sackRecovery := by
    cases hs : s.suppressedAt acknowledgment with
    | true => simp [hok hs] at hdetected
    | false => rw [hrec, hs, hcong, Bool.not_false]
  rcases hw.acknowledge_cases acknowledgment receiverWindow duplicateAckEligible now timestampRtt
    blocks with ⟨_, heq⟩ | ⟨_, _, _, _, _, _, _, heq, _, outcome⟩ |
      ⟨_, _, _, _, _, _, _, _, _, _, _, _, _, _, _, _, _, heq, _, outcome⟩
  · rw [heq]
    exact h
  · rw [heq]
    rcases outcome with ⟨hrec, hcong⟩ | ⟨hdetected, hrec, hcong⟩
    · exact hrec.trans (h.trans hcong.symm)
    · exact entered hdetected hrec hcong
  · rw [heq]
    rcases outcome with ⟨hrec, hcong⟩ | ⟨hdetected, hrec, hcong⟩
    · refine hrec.trans (Eq.trans ?_ hcong.symm)
      rw [← h]
      cases hr : s.sack.recovery <;> simp
    · exact entered hdetected hrec hcong

end Sender

/-- No acknowledgment detects a loss while recovery is suppressed, and selective
acknowledgment is not switched off during a recovery. -/
def RecoveryNotSuppressed (t : SenderRun) : SenderOp → Prop
  | .acknowledge acknowledgment _ _ _ _ blocks =>
    t.sender.suppressedAt acknowledgment = true → t.sender.detectsLoss acknowledgment blocks = false
  | .setSackEnabled enabled => enabled = false → t.sender.sack.recovery = false
  | _ => True

namespace SenderRun

theorem step_recoveryAgrees {origin : BitVec 32} {t : SenderRun} (h : t.Inv origin)
    (hagree : t.sender.RecoveryAgrees) {op : SenderOp} (hok : RecoveryNotSuppressed t op) :
    (t.step op).sender.RecoveryAgrees := by
  obtain ⟨stream, hw⟩ := h.wellFormed
  cases op with
  | write input now =>
    obtain ⟨_, heq⟩ := Sender.write_frame hw.valid input now
    simp only [step, heq]
    exact hagree
  | updateReceiverWindow receiverWindow now =>
    simp only [step]
    rcases Sender.updateReceiverWindow_cases hw.valid receiverWindow now with
      ⟨_, _, heq⟩ | ⟨_, _, _, heq⟩ | ⟨_, _, _, heq⟩ <;> rw [heq] <;> exact hagree
  | setNagleEnabled enabled =>
    obtain ⟨_, _, heq⟩ := t.sender.setNagleEnabled_frame enabled
    simp only [step, heq]
    exact hagree
  | setSackEnabled enabled =>
    simp only [step]
    rcases t.sender.setSackEnabled_cases enabled with same | ⟨_, heq⟩
    · rw [same]
      exact hagree
    · rw [heq]
      cases enabled with
      | true => exact hagree
      | false =>
        have hout := hok rfl
        have hreset : (t.sender.sack.reset t.sender.bytes.sendUnacknowledged
            t.sender.bytes.sendNext).1.recovery = false := by
          unfold SackScoreboard.reset
          split
          · exact hout
          · rfl
        exact hreset.trans (hout.symm.trans hagree)
  | reduceMss senderMss =>
    simp only [step]
    rcases t.sender.reduceMss_cases senderMss with same | ⟨_, heq⟩
    · rw [same]
      exact hagree
    · rw [heq, SackScoreboard.reduceSenderMss_frame]
      exact hagree.trans (CongestionController.reduceSenderMss_sackRecovery _ _).symm
  | prepareNew now pushed =>
    obtain ⟨_, heq⟩ := t.sender.prepareNew_frame now pushed hw.valid
    simp only [step, issue, heq]
    exact hagree
  | preparePersistProbe now =>
    simp only [step, issue, t.sender.preparePersistProbe_frame now hw.valid]
    exact hagree
  | prepareSackRecovery now => exact hagree
  | prepareFastRetransmission => exact hagree
  | prepareTimeoutRetransmission now => exact hagree
  | commit index now => exact hagree.commit hw (h.shaped_getD index) now
  | acknowledge acknowledgment receiverWindow eligible now rtt blocks =>
    exact hagree.acknowledge hw hok receiverWindow eligible now rtt
  | takeFailureAction now =>
    obtain ⟨_, heq⟩ := t.sender.takeFailureAction_frame now
    simp only [step, heq]
    exact hagree

end SenderRun

/-- As long as no loss is detected while recovery is suppressed, the scoreboard is
in recovery exactly when the congestion controller is, in every state reached. -/
theorem recovery_agreement (storage : List Octet) (historyStorage : List TransmissionRecord)
    (sackRanges sackWorkspace : List SackRange) (initialDataSequence senderMss : BitVec 32)
    (valid : (Sender.create storage historyStorage sackRanges sackWorkspace initialDataSequence
      senderMss).valid = true) (ops : List SenderOp)
    (unsuppressed : Runs.Along step RecoveryNotSuppressed
      { sender := Sender.create storage historyStorage sackRanges sackWorkspace
          initialDataSequence senderMss } ops) :
    let t := Runs.run step
      { sender := Sender.create storage historyStorage sackRanges sackWorkspace
          initialDataSequence senderMss } ops
    t.sender.sack.recovery = true ↔ t.sender.congestion.sackRecovery = true := by
  intro t
  have start := start_inv (Sender.create_wellFormed valid)
  have agrees : (Sender.create storage historyStorage sackRanges sackWorkspace initialDataSequence
      senderMss).RecoveryAgrees := by
    have hout : (Sender.create storage historyStorage sackRanges sackWorkspace
        initialDataSequence senderMss).sack.recovery = false := by
      rw [← Bool.not_eq_true]
      intro recovering
      obtain ⟨point, hlt, hle, _⟩ := (Sender.create_wellFormed valid).sack.recovery recovering
      exact absurd hlt (Nat.not_lt.mpr hle)
    exact hout
  have final := Runs.invariant_along
    (P := fun t => t.Inv initialDataSequence ∧ t.sender.RecoveryAgrees)
    (fun _ op h hok => ⟨step_inv h.1 op, step_recoveryAgrees h.1 h.2 hok⟩)
    ⟨start, agrees⟩ unsuppressed
  exact Eq.to_iff (congrArg (· = true) final.2)

/-! A timeout suppresses recovery until the flight it interrupted is acknowledged.
Selective blocks that prove a loss meanwhile start the controller's recovery and
not the scoreboard's: four octets in flight, the oldest repaired on timeout, then
an acknowledgment with one block over the other three. -/

def fourOctetSender : Sender :=
  Sender.create [0#8, 0#8, 0#8, 0#8] [{}, {}, {}, {}] [{}, {}] [{}, {}] 0#32 1#32

def fourOctetFlight : List SenderOp :=
  [.setSackEnabled true, .updateReceiverWindow 100#32 0, .write [1#8, 2#8, 3#8, 4#8] 0,
    .prepareNew 0 true, .commit 0 0, .prepareNew 0 true, .commit 1 0,
    .prepareNew 0 true, .commit 2 0, .prepareNew 0 true, .commit 3 0]

theorem recovery_disagrees_after_timeout :
    ¬ ∀ ops, let t := Runs.run step { sender := fourOctetSender } ops
      t.sender.sack.recovery = true ↔ t.sender.congestion.sackRecovery = true := by
  intro h
  have bad := h (fourOctetFlight ++ [.prepareTimeoutRetransmission 1000000000, .commit 4 1000000000,
    .acknowledge 0#32 100#32 true 1000000000 none [⟨1#32, 4#32⟩]])
  revert bad
  decide +kernel

/-- The same blocks without the timeout start both recoveries. -/
theorem recovery_agreement_four_octets :
    let t := Runs.run step { sender := fourOctetSender }
      (fourOctetFlight ++ [.acknowledge 0#32 100#32 true 1000000000 none [⟨1#32, 4#32⟩]])
    t.sender.congestion.sackRecovery = true ∧
      (t.sender.sack.recovery = true ↔ t.sender.congestion.sackRecovery = true) := by
  refine ⟨by decide +kernel, ?_⟩
  refine recovery_agreement _ _ _ _ _ _ (by decide +kernel) _ ?_
  refine ⟨nofun, trivial, trivial, trivial, trivial, trivial, trivial, trivial, trivial, trivial,
    trivial, ?_, trivial⟩
  intro suppressed
  exact absurd suppressed (by decide +kernel)

end RouterSim.Tcp
