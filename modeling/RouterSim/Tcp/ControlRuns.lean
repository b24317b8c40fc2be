import RouterSim.Tcp.ControlBlock

/-! Runs of a control block: the calls its owner makes, and what it still takes
from the peer after the peer's FIN. -/
namespace RouterSim.Tcp

open Serial

inductive ControlCall
  | passiveOpen
  | activeOpen (initialSequence : BitVec 32) (now : Instant)
  | onSegment (segment : View) (passiveInitialSequence : BitVec 32) (now : Instant)
      (decodedPeerWindow : Option (BitVec 32))
  | commitSentData (sequence octets : BitVec 32)
  | commitReceivedData (next window : BitVec 32) (finSequence : Option (BitVec 32)) (now : Instant)
  | setReceiveWindow (window : BitVec 32)
  | close (now : Instant)
  | serviceDeadline (now : Instant)

namespace ControlBlock

/-- The block after a call, and what the call returns. A refused call returns nothing. -/
def apply (c : ControlBlock) : ControlCall → ControlBlock × ControlResult
  | .passiveOpen => c.passiveOpen
  | .activeOpen initialSequence now => c.activeOpen initialSequence now
  | .onSegment segment passiveInitialSequence now decodedPeerWindow =>
    c.onSegment segment passiveInitialSequence now decodedPeerWindow
  | .commitSentData sequence octets => ((c.commitSentData sequence octets).1, {})
  | .commitReceivedData next window finSequence now =>
    (c.commitReceivedData next window finSequence now).getD (c, {})
  | .setReceiveWindow window => ((c.setReceiveWindow window).1, {})
  | .close now => c.close now
  | .serviceDeadline now => c.serviceDeadline now

def next (c : ControlBlock) (call : ControlCall) : ControlBlock := (c.apply call).1

def event (c : ControlBlock) (call : ControlCall) : ControlEvent := (c.apply call).2.event

/-- The call opens a closed block again. -/
def Reopens (c : ControlBlock) : ControlCall → Prop
  | .passiveOpen | .activeOpen .. => c.state = .closed
  | _ => False

instance (c : ControlBlock) : (call : ControlCall) → Decidable (c.Reopens call)
  | .passiveOpen | .activeOpen .. => inferInstanceAs (Decidable (_ = _))
  | .onSegment .. | .commitSentData .. | .commitReceivedData .. | .setReceiveWindow _ | .close _
  | .serviceDeadline _ => isFalse id

/-- The peer's FIN was accepted and the block is not closed yet. -/
def peerFinReceived (c : ControlBlock) : Bool :=
  match c.state with
  | .closeWait | .closing | .lastAck | .timeWait => true
  | _ => false

/-- An outcome takes nothing from the peer: RCV.NXT stays, no FIN is reported and
no payload goes to the stream owner. -/
def Silent (c : ControlBlock) (outcome : ControlBlock × ControlResult) : Prop :=
  outcome.1.receiveNext = c.receiveNext ∧ outcome.2.event ≠ .peerClosed ∧
    outcome.2.event ≠ .dataRequiresStreamOwner

/-- RCV.NXT never leaves the value it has, and no call of the run reports a FIN
or hands over payload. -/
def ReceivesNothing (c : ControlBlock) (calls : List ControlCall) : Prop :=
  ∀ earlier call later, calls = earlier ++ call :: later →
    c.Silent ((Runs.run next c earlier).apply call)

/-- The acknowledgment field leaves no local FIN unacknowledged. -/
def finAcknowledgedBy (c : ControlBlock) (acknowledgment : BitVec 32) : Bool :=
  c.localFinSent && (c.sendUnacknowledged == c.sendNext ||
    acknowledgment == c.sendNext && before c.sendUnacknowledged c.sendNext)

/-- The segment passes every check made before its text is looked at. -/
def passesChecks (c : ControlBlock) (segment : View) : Bool :=
  segment.destinationPort == c.localPort && c.state != .closed && !c.repeatedFin segment &&
    c.acceptable segment && !has segment.flags Flag.rst && !has segment.flags Flag.syn &&
    has segment.flags Flag.ack && !after segment.acknowledgment c.sendNext &&
    !((c.state == .closing || c.state == .lastAck) && c.finAcknowledgedBy segment.acknowledgment)

/-- Payload, or a FIN that is next in sequence. -/
def Text (c : ControlBlock) (segment : View) : Prop :=
  segment.payload ≠ [] ∨ has segment.flags Flag.fin = true ∧ segment.sequence = c.receiveNext

/-- The call still gives the block something to receive. -/
def Takes (c : ControlBlock) : ControlCall → Prop
  | .onSegment segment _ _ _ => c.passesChecks segment = true ∧ c.Text segment
  | .commitReceivedData next _ finSequence _ =>
    c.synchronized = true ∧ c.state ≠ .timeWait ∧ before next c.receiveNext = false ∧
      next - c.receiveNext ≤ c.receiveWindow ∧ (next ≠ c.receiveNext ∨ finSequence = some next)
  | _ => False

instance (c : ControlBlock) (segment : View) : Decidable (c.Text segment) :=
  inferInstanceAs (Decidable (_ ∨ _ ∧ _))

instance (c : ControlBlock) : (call : ControlCall) → Decidable (c.Takes call)
  | .onSegment .. => inferInstanceAs (Decidable (_ ∧ _))
  | .commitReceivedData .. => inferInstanceAs (Decidable (_ ∧ _ ∧ _ ∧ _ ∧ (_ ∨ _)))
  | .passiveOpen | .activeOpen .. | .commitSentData .. | .setReceiveWindow _ | .close _
  | .serviceDeadline _ => isFalse id

/-! ## One call -/

/-- Past the peer's FIN: it was accepted, or the block has been closed since. -/
def Finished (c : ControlBlock) : Prop := c.peerFinReceived = true ∨ c.state = .closed

/-- The states before the peer's FIN, none of which a block past it is in. -/
theorem states_of_peerFin {c : ControlBlock} (finished : c.peerFinReceived = true) :
    c.state ≠ .closed ∧ c.state ≠ .synReceived ∧ c.state ≠ .established ∧ c.state ≠ .finWait1 ∧
      c.synchronized = true := by
  cases hs : c.state <;> simp [peerFinReceived, ControlBlock.synchronized, hs] at finished ⊢

section

variable (c : ControlBlock)

theorem silent_refl (segment : Fields) (emit : Bool) : c.Silent (c, { segment, emit }) :=
  ⟨rfl, nofun, nofun⟩

theorem acceptPeerFin_takes (now : Instant) :
    (c.acceptPeerFin now).1.receiveNext = c.receiveNext + 1#32 ∧
      (c.acceptPeerFin now).2.event = .peerClosed := by
  unfold acceptPeerFin
  split
  · exact ⟨rfl, rfl⟩
  · exact ⟨rfl, rfl⟩
  · split <;> exact ⟨rfl, rfl⟩
  · exact ⟨rfl, rfl⟩
  · exact ⟨rfl, rfl⟩
  · exact ⟨rfl, rfl⟩

section

variable (segment : View)

section

variable (now : Instant)

theorem processText_silent_iff : c.Silent (c.processText segment false now) ↔ ¬ c.Text segment := by
  unfold processText Text
  split
  · next payload =>
    have nonempty : segment.payload ≠ [] := by simpa using payload
    constructor
    · intro silent
      exact absurd rfl silent.2.2
    · intro none
      exact absurd (.inl nonempty) none
  · next payload =>
    have empty : segment.payload = [] := by simpa using payload
    split
    · next noFin =>
      refine ⟨fun _ => ?_, fun _ => ⟨rfl, nofun, nofun⟩⟩
      rintro (some | ⟨fin, -⟩)
      · exact some empty
      · simp [fin] at noFin
    · split
      · next elsewhere =>
        refine ⟨fun _ => ?_, fun _ => silent_refl c _ _⟩
        rintro (some | ⟨-, here⟩)
        · exact some empty
        · simp [here] at elsewhere
      · next fin here =>
        refine ⟨fun silent => ?_, fun none => ?_⟩
        · exact absurd (c.acceptPeerFin_takes now).2 silent.2.1
        · exact absurd (.inr ⟨by simpa using fin, by simpa using here⟩) none

theorem advanceUnacknowledged_finished (value : BitVec 32) :
    (c.advanceUnacknowledged value).state = c.state ∧
      (c.advanceUnacknowledged value).receiveNext = c.receiveNext ∧
      (c.advanceUnacknowledged value).localFinAcknowledged = c.finAcknowledgedBy value := by
  unfold advanceUnacknowledged
  split
  · next advances =>
    simp only [acknowledgmentAdvances, after, asserted, before_iff, beforeOrEqual_iff] at advances
    by_cases all : value = c.sendNext
    · obtain ⟨retransmission, cleared⟩ :=
        { c with sendUnacknowledged := value }.acknowledgeControl_eq
      have ahead : before c.sendUnacknowledged c.sendNext = true :=
        (before_iff _ _).mpr (all ▸ advances.1)
      rw [if_pos (by simpa using all), cleared]
      refine ⟨rfl, rfl, ?_⟩
      simp [localFinAcknowledged, finAcknowledgedBy, all, ahead]
    · have behind : c.sendUnacknowledged ≠ c.sendNext := by bv_omega
      rw [if_neg (by simpa using all)]
      refine ⟨rfl, rfl, ?_⟩
      simp [localFinAcknowledged, finAcknowledgedBy, beq_eq_false_iff_ne.mpr all,
        beq_eq_false_iff_ne.mpr behind]
  · next stays =>
    refine ⟨rfl, rfl, ?_⟩
    by_cases all : value = c.sendNext
    · have settled : before c.sendUnacknowledged c.sendNext = false := by
        simpa [acknowledgmentAdvances, after, beforeOrEqual, all] using stays
      simp [localFinAcknowledged, finAcknowledgedBy, settled]
    · simp [localFinAcknowledged, finAcknowledgedBy, beq_eq_false_iff_ne.mpr all]

variable (advertisedWindow : BitVec 32)

/-- The acknowledgment field moves nothing of the receive side. -/
theorem processAcknowledgment_finished (finished : c.peerFinReceived = true) :
    (after segment.acknowledgment c.sendNext = true ∧
      c.processAcknowledgment segment advertisedWindow = .error c.acknowledgment) ∨
    (after segment.acknowledgment c.sendNext = false ∧
      ∃ acknowledged, c.processAcknowledgment segment advertisedWindow = .ok (acknowledged, false) ∧
        acknowledged.state = c.state ∧ acknowledged.receiveNext = c.receiveNext ∧
        acknowledged.localFinAcknowledged = c.finAcknowledgedBy segment.acknowledgment) := by
  have notReceived : (c.state == .synReceived) = false :=
    beq_eq_false_iff_ne.mpr (states_of_peerFin finished).2.1
  unfold processAcknowledgment
  rw [if_neg (by simp [notReceived])]
  cases beyond : after segment.acknowledgment c.sendNext with
  | true => exact .inl ⟨rfl, if_pos rfl⟩
  | false =>
    refine .inr ⟨rfl, _, if_neg nofun, ?_⟩
    obtain ⟨state, received, fin⟩ := c.advanceUnacknowledged_finished segment.acknowledgment
    unfold updateSendWindow
    split <;> exact ⟨state, received, fin⟩

/-- Past the peer's FIN a segment with an acknowledgment is silent unless text is left over. -/
theorem onAcknowledgment_silent_iff (finished : c.peerFinReceived = true) :
    c.Silent (c.onAcknowledgment segment now advertisedWindow) ↔
      ¬ (after segment.acknowledgment c.sendNext = false ∧
        ((c.state == .closing || c.state == .lastAck) &&
          c.finAcknowledgedBy segment.acknowledgment) = false ∧ c.Text segment) := by
  obtain ⟨beyond, refused⟩ | ⟨within, acknowledged, accepted, state, received, fin⟩ :=
    c.processAcknowledgment_finished segment advertisedWindow finished
  · simp [onAcknowledgment, refused, beyond, acknowledgment, silent_refl]
  · simp only [onAcknowledgment, accepted, state, fin, within]
    have notWaiting : (c.state == .finWait1) = false :=
      beq_eq_false_iff_ne.mpr (states_of_peerFin finished).2.2.2.1
    have text : c.Silent (acknowledged.processText segment false now) ↔ ¬ c.Text segment := by
      have own := acknowledged.processText_silent_iff segment now
      simpa only [Silent, Text, received] using own
    rw [if_neg (by simp [notWaiting])]
    split
    · next closing =>
      obtain ⟨isClosing, known⟩ := Bool.and_eq_true_iff.mp closing
      simp [isClosing, known, Silent, enterTimeWait, received]
    · split
      · next closed =>
        obtain ⟨isLast, known⟩ := Bool.and_eq_true_iff.mp closed
        simp [isLast, known, Silent, received]
      · next notClosing notLast =>
        have remains : ((c.state == .closing || c.state == .lastAck) &&
            c.finAcknowledgedBy segment.acknowledgment) = false := by
          rw [Bool.and_or_distrib_right]
          simp [notClosing, notLast]
        rw [text]
        simp [remains]

theorem onSynchronized_silent_iff (finished : c.peerFinReceived = true)
    (ours : segment.destinationPort = c.localPort) :
    c.Silent (c.onSynchronized segment now advertisedWindow) ↔
      ¬ (c.passesChecks segment = true ∧ c.Text segment) := by
  obtain ⟨notClosed, notReceived, -⟩ := states_of_peerFin finished
  have isOpen : (c.state != .closed) = true := bne_iff_ne.mpr notClosed
  have notReceived : (c.state == .synReceived) = false := beq_eq_false_iff_ne.mpr notReceived
  have notSimultaneous : c.repeatedSimultaneousSyn segment = false := by
    simp [repeatedSimultaneousSyn, notReceived]
  simp only [onSynchronized, passesChecks, ours, isOpen, notSimultaneous, BEq.rfl, settled]
  split
  · next again => simp [again, Silent, enterTimeWait, acknowledgment]
  next fresh =>
  split
  · next outside =>
    have outside : c.acceptable segment = false := by simpa using outside
    split <;> simp [outside, Silent, acknowledgment]
  · next inside =>
    have inside : c.acceptable segment = true := by simpa using inside
    split
    · next reset =>
      simp only [reset, onReset, notReceived]
      split <;> simp [Silent, acknowledgment]
    · next noReset =>
      split
      · next syn => simp [syn, silent_refl, acknowledgment]
      next noSyn =>
      split
      · next noAck =>
        have noAck : has segment.flags Flag.ack = false := by simpa using noAck
        simp [noAck, Silent]
      · next ack =>
        have ack : has segment.flags Flag.ack = true := by simpa using ack
        rw [c.onAcknowledgment_silent_iff segment now advertisedWindow finished]
        simp only [fresh, inside, noReset, noSyn, ack, settled, asserted, and_assoc]

theorem onSegment_silent_iff (passiveInitialSequence : BitVec 32) (now : Instant)
    (decodedPeerWindow : Option (BitVec 32)) (finished : c.Finished) :
    c.Silent (c.onSegment segment passiveInitialSequence now decodedPeerWindow) ↔
      ¬ (c.passesChecks segment = true ∧ c.Text segment) := by
  unfold onSegment
  split
  · next elsewhere =>
    have elsewhere : (segment.destinationPort == c.localPort) = false := by simpa using elsewhere
    simp [passesChecks, elsewhere, Silent]
  · next ours =>
    have ours : segment.destinationPort = c.localPort := by simpa using ours
    obtain finished | closed := finished
    · have synchronized := c.onSynchronized_silent_iff segment now
        (decodedPeerWindow.getD (segment.window.setWidth 32)) finished ours
      cases hs : c.state <;> simp only [peerFinReceived, hs] at finished ⊢ <;>
        first | exact synchronized | cases finished
    · simp [closed]
      split <;> simp [passesChecks, closed, Silent, resetFor]
      split <;> simp

theorem commitReceivedData_silent_iff (next window : BitVec 32) (finSequence : Option (BitVec 32))
    (now : Instant) :
    c.Silent ((c.commitReceivedData next window finSequence now).getD (c, {})) ↔
      ¬ c.Takes (.commitReceivedData next window finSequence now) := by
  unfold commitReceivedData Takes
  split
  · next refused =>
    refine ⟨fun _ taken => ?_, fun _ => ⟨rfl, nofun, nofun⟩⟩
    obtain ⟨synchronized, waiting, behind, fits, -⟩ := taken
    have fits : decide (c.receiveWindow < next - c.receiveNext) = false :=
      decide_eq_false (by bv_omega)
    simp [synchronized, waiting, behind, fits] at refused
  · next accepted =>
    simp only [asserted, not_or, refuted] at accepted
    obtain ⟨⟨⟨synchronized, waiting⟩, behind⟩, fits⟩ := accepted
    have fits : next - c.receiveNext ≤ c.receiveWindow := by bv_omega
    simp only [synchronized, waiting, behind, fits, ne_eq, settled]
    split
    · next fin =>
      have fin : finSequence = some next := by simpa using fin
      refine ⟨fun silent => ?_, fun none => absurd (.inr fin) none⟩
      exact absurd (acceptPeerFin_takes _ now).2 silent.2.1
    · next noFin =>
      have noFin : finSequence ≠ some next := by simpa using noFin
      simp [Silent, acknowledgment, noFin]

/-- What a call is silent about is exactly what it does not take. -/
theorem apply_silent_iff (call : ControlCall) (finished : c.Finished) (kept : ¬ c.Reopens call) :
    c.Silent (c.apply call) ↔ ¬ c.Takes call := by
  cases call with
  | onSegment segment iss now window => exact c.onSegment_silent_iff segment iss now window finished
  | commitReceivedData next window fin now =>
    exact c.commitReceivedData_silent_iff next window fin now
  | passiveOpen =>
    have isOpen : (c.state != .closed) = true := by simpa [Reopens] using kept
    simp [apply, passiveOpen, isOpen, Silent, Takes]
  | activeOpen iss now =>
    have isOpen : c.state ≠ .closed := kept
    have notListening : c.state ≠ .listen := by
      rintro listening
      simp [Finished, peerFinReceived, listening] at finished
    simp [apply, activeOpen, isOpen, notListening, Silent, Takes]
  | commitSentData sequence octets =>
    refine ⟨fun _ => id, fun _ => ?_⟩
    simp only [apply, commitSentData]
    split <;> exact ⟨rfl, nofun, nofun⟩
  | setReceiveWindow window =>
    refine ⟨fun _ => id, fun _ => ?_⟩
    simp only [apply, setReceiveWindow]
    split <;> exact ⟨rfl, nofun, nofun⟩
  | close now =>
    refine ⟨fun _ => id, fun _ => ?_⟩
    simp only [apply, close]
    split
    · exact ⟨rfl, nofun, nofun⟩
    · split <;> exact ⟨rfl, nofun, nofun⟩
  | serviceDeadline now =>
    refine ⟨fun _ => id, fun _ => ?_⟩
    simp only [apply, serviceDeadline]
    split
    · exact ⟨rfl, nofun, nofun⟩
    · split <;> exact ⟨rfl, nofun, nofun⟩

/-! ## A whole run -/

theorem acceptPeerFin_finished (synchronized : c.synchronized = true) :
    (c.acceptPeerFin now).1.peerFinReceived = true := by
  unfold acceptPeerFin
  split
  · rfl
  · rfl
  · split <;> rfl
  · rfl
  · rfl
  · cases hs : c.state <;> simp_all [ControlBlock.synchronized, peerFinReceived]

variable (finished : c.peerFinReceived = true)
include finished

/-- An accepted FIN is what brings a block past the peer's FIN. -/
theorem processText_finished : (c.processText segment false now).1.peerFinReceived = true := by
  have synchronized := (states_of_peerFin finished).2.2.2.2
  unfold processText
  split
  · exact finished
  split
  · exact finished
  split
  · exact finished
  · exact c.acceptPeerFin_finished now synchronized

theorem onAcknowledgment_finished :
    (c.onAcknowledgment segment now advertisedWindow).1.Finished := by
  obtain ⟨-, refused⟩ | ⟨-, acknowledged, accepted, state, -, -⟩ :=
    c.processAcknowledgment_finished segment advertisedWindow finished
  · simp [onAcknowledgment, refused]
    exact .inl finished
  · have kept : acknowledged.peerFinReceived = true := by simpa [peerFinReceived, state]
    simp only [onAcknowledgment, accepted]
    split
    · next waiting =>
      have waiting : acknowledged.state = .finWait1 := by simp at waiting; exact waiting.1
      simp [peerFinReceived, waiting] at kept
    · split
      · exact .inl rfl
      · split
        · exact .inr rfl
        · exact .inl (acknowledged.processText_finished segment now kept)

theorem onSynchronized_finished : (c.onSynchronized segment now advertisedWindow).1.Finished := by
  have notReceived : (c.state == .synReceived) = false :=
    beq_eq_false_iff_ne.mpr (states_of_peerFin finished).2.1
  simp only [onSynchronized]
  split
  · exact .inl rfl
  split
  · exact .inl finished
  split
  · simp only [onReset, notReceived]
    split
    · exact .inl finished
    · exact .inr rfl
  · split
    · exact .inl finished
    · split
      · exact .inl finished
      · exact c.onAcknowledgment_finished segment now advertisedWindow finished

end

theorem onSegment_finished (passiveInitialSequence : BitVec 32) (now : Instant)
    (decodedPeerWindow : Option (BitVec 32)) (finished : c.Finished) :
    (c.onSegment segment passiveInitialSequence now decodedPeerWindow).1.Finished := by
  unfold onSegment
  split
  · exact finished
  obtain finished | closed := finished
  · have synchronized := c.onSynchronized_finished segment now
      (decodedPeerWindow.getD (segment.window.setWidth 32)) finished
    cases hs : c.state <;> simp only [peerFinReceived, hs] at finished ⊢ <;>
      first | exact synchronized | cases finished
  · simp [closed]
    exact .inr closed

end

/-- A block past the peer's FIN stays there until it is opened again. -/
theorem Finished.next {c : ControlBlock} {call : ControlCall} (finished : c.Finished)
    (kept : ¬ c.Reopens call) : (c.next call).Finished := by
  cases call with
  | onSegment segment iss now window => exact c.onSegment_finished segment iss now window finished
  | commitReceivedData next window fin now =>
    simp only [ControlBlock.next, apply, commitReceivedData]
    split
    · exact finished
    next accepted =>
    have synchronized : c.synchronized = true := by simp_all
    split
    · exact .inl (acceptPeerFin_finished _ now synchronized)
    · exact finished
  | passiveOpen =>
    have isOpen : (c.state != .closed) = true := by simpa [Reopens] using kept
    simpa [ControlBlock.next, apply, passiveOpen, isOpen] using finished
  | activeOpen iss now =>
    have isOpen : c.state ≠ .closed := kept
    have notListening : c.state ≠ .listen := by
      rintro listening
      simp [Finished, peerFinReceived, listening] at finished
    simpa [ControlBlock.next, apply, activeOpen, isOpen, notListening] using finished
  | commitSentData sequence octets =>
    simp only [ControlBlock.next, apply, commitSentData]
    split <;> exact finished
  | setReceiveWindow window =>
    simp only [ControlBlock.next, apply, setReceiveWindow]
    split <;> exact finished
  | close now =>
    simp only [ControlBlock.next, apply, close]
    split
    · exact .inr rfl
    split
    · exact finished
    next closing =>
    have notEstablished : (c.state == .established) = false := by
      cases hs : c.state <;> simp [Finished, peerFinReceived, hs] at finished ⊢
    simp [Finished, peerFinReceived, trackControl, notEstablished]
  | serviceDeadline now =>
    simp only [ControlBlock.next, apply, serviceDeadline]
    split
    · exact .inr rfl
    · split <;> exact finished

/-- Silence all along is RCV.NXT where it was and no report, call by call. -/
theorem receivesNothing_iff (calls : List ControlCall) :
    c.ReceivesNothing calls ↔ Runs.Along next (fun c call => c.Silent (c.apply call)) c calls := by
  induction calls generalizing c with
  | nil => exact ⟨fun _ => trivial, fun _ earlier call later h => by cases earlier <;> cases h⟩
  | cons first calls ih =>
    constructor
    · intro nothing
      have now := nothing [] first calls rfl
      refine ⟨now, (ih _).mp fun earlier call later h => ?_⟩
      have rest := nothing (first :: earlier) call later (by rw [h, List.cons_append])
      exact ⟨rest.1.trans now.1.symm, rest.2⟩
    · rintro ⟨now, rest⟩ earlier call later h
      cases earlier with
      | nil =>
        obtain ⟨rfl, -⟩ := List.cons.inj h
        exact now
      | cons _ earlier =>
        obtain ⟨rfl, split⟩ := List.cons.inj h
        have later := (ih _).mpr rest earlier call later split
        exact ⟨later.1.trans now.1, later.2⟩

end

/-- From the peer's FIN until the block is opened again nothing is received,
exactly as long as no call gives it something to take. -/
theorem receivesNothing_iff_untaken {c : ControlBlock} {calls : List ControlCall}
    (finished : c.peerFinReceived = true)
    (kept : Runs.Along next (fun c call => ¬ c.Reopens call) c calls) :
    c.ReceivesNothing calls ↔ Runs.Along next (fun c call => ¬ c.Takes call) c calls := by
  rw [receivesNothing_iff]
  replace finished : c.Finished := .inl finished
  induction calls generalizing c with
  | nil => exact Iff.rfl
  | cons call calls ih =>
    exact and_congr (c.apply_silent_iff call finished kept.1) (ih kept.2 (finished.next kept.1))

/-- A passive open whose peer finishes the handshake and its stream in one segment. -/
def halfClosed : ControlBlock :=
  Runs.run next (create 80#16 0#16 1000#32 1460#32)
    [.passiveOpen,
      .onSegment { sourcePort := 9000#16, destinationPort := 80#16, sequence := 100#32,
                   flags := Flag.syn, window := 500#16 } 300#32 0 none,
      .onSegment { sourcePort := 9000#16, destinationPort := 80#16, sequence := 101#32,
                   acknowledgment := 301#32, flags := Flag.fin ||| Flag.ack, window := 500#16 }
        0#32 1 none]

/-- The peer's segment at a sequence number, acknowledging the handshake. -/
def fromPeer (sequence acknowledgment : BitVec 32) (flags : BitVec 8) : ControlCall :=
  .onSegment { sourcePort := 9000#16, destinationPort := 80#16, sequence, acknowledgment, flags,
               window := 500#16 } 0#32 2 none

/-- The repeated FIN, an acknowledgment, the local FIN and its acknowledgment. -/
def closingCalls : List ControlCall :=
  [fromPeer 101#32 301#32 (Flag.fin ||| Flag.ack), fromPeer 102#32 301#32 Flag.ack,
    .commitReceivedData 102#32 1000#32 none 3, .close 4,
    fromPeer 102#32 302#32 (Flag.fin ||| Flag.ack)]

theorem halfClosed_receivesNothing :
    halfClosed.state = .closeWait ∧ halfClosed.ReceivesNothing closingCalls :=
  ⟨by decide +kernel,
    (receivesNothing_iff_untaken (by decide +kernel) (by decide +kernel)).mpr (by decide +kernel)⟩

/-- A second FIN next in sequence is accepted and reported as the first was. -/
theorem halfClosed_receives_second_fin :
    halfClosed.state = .closeWait ∧
      Runs.Along next (fun c call => ¬ c.Reopens call) halfClosed
        [fromPeer 102#32 301#32 (Flag.fin ||| Flag.ack)] ∧
      ¬ halfClosed.ReceivesNothing [fromPeer 102#32 301#32 (Flag.fin ||| Flag.ack)] := by
  refine ⟨by decide +kernel, by decide +kernel, fun nothing => ?_⟩
  have reported := (nothing [] _ [] rfl).2.1
  exact reported (by decide +kernel)

end ControlBlock

end RouterSim.Tcp
