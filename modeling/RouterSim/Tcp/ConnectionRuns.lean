import RouterSim.Tcp.SenderSharing

namespace RouterSim.Tcp

/-! ## The control block after the handshake -/

variable {now : Instant} {segment : View}

namespace ControlBlock

/-- The segment passes every check before its acknowledgment field is looked at. -/
def processes (c : ControlBlock) (segment : View) : Bool :=
  segment.destinationPort == c.localPort && c.state != .closed && !c.repeatedFin segment &&
    c.acceptable segment && !has segment.flags Flag.rst && !has segment.flags Flag.syn &&
    has segment.flags Flag.ack

/-- Data may be sent in this state. -/
def sending (c : ControlBlock) : Bool := c.state == .established || c.state == .closeWait

/-- A control block that has moved on without sending anything. -/
structure Continues (c next : ControlBlock) : Prop where
  sendNext : next.sendNext = c.sendNext
  localFinSent : next.localFinSent = c.localFinSent
  settled : Connection.handshaking c.state = false → Connection.handshaking next.state = false
  sending : next.sending = true → c.sending = true
  established : next.state = .established → c.state = .established

namespace Continues

variable {c next final : ControlBlock}

theorem refl (c : ControlBlock) : Continues c c := ⟨rfl, rfl, id, id, id⟩

theorem stays (hnext : next.sendNext = c.sendNext) (hfin : next.localFinSent = c.localFinSent)
    (hstate : next.state = c.state) : Continues c next where
  sendNext := hnext
  localFinSent := hfin
  settled := fun h => by rw [hstate, h]
  sending := fun h => by rwa [ControlBlock.sending, hstate] at h
  established := fun h => by rw [← hstate, h]

theorem leaves (hnext : next.sendNext = c.sendNext) (hfin : next.localFinSent = c.localFinSent)
    (hsettled : Connection.handshaking next.state = false) (hquiet : next.sending = false) :
    Continues c next where
  sendNext := hnext
  localFinSent := hfin
  settled := fun _ => hsettled
  sending := fun h => by rw [hquiet] at h; cases h
  established := fun h => by simp [ControlBlock.sending, h] at hquiet

theorem trans (h : Continues c next) (h' : Continues next final) : Continues c final where
  sendNext := h'.sendNext.trans h.sendNext
  localFinSent := h'.localFinSent.trans h.localFinSent
  settled := h'.settled ∘ h.settled
  sending := h.sending ∘ h'.sending
  established := h.established ∘ h'.established

end Continues

variable {c : ControlBlock}

theorem enterTimeWait_continues (now : Instant) : Continues c (c.enterTimeWait now) :=
  .leaves rfl rfl rfl rfl

section

variable (hs : Connection.handshaking c.state = false)
include hs

theorem acceptPeerFin_continues (now : Instant) :
    Continues c (c.acceptPeerFin now).1 ∧
    (c.acceptPeerFin now).1.sendUnacknowledged = c.sendUnacknowledged := by
  unfold acceptPeerFin
  cases hstate : c.state with
  | finWait1 =>
    dsimp only
    split
    · exact ⟨.leaves rfl rfl rfl rfl, rfl⟩
    · exact ⟨.leaves rfl rfl rfl rfl, rfl⟩
  | established =>
    exact ⟨⟨rfl, rfl, fun _ => rfl, fun _ => by simp [sending, hstate], fun h => by cases h⟩, rfl⟩
  | finWait2 | timeWait => exact ⟨.leaves rfl rfl rfl rfl, rfl⟩
  | closeWait | closed | closing | lastAck => exact ⟨.stays rfl rfl hstate.symm, rfl⟩
  | listen | synSent | synReceived => simp [hstate, Connection.handshaking] at hs

theorem processText_continues (segment : View) (became : Bool) (now : Instant) :
    Continues c (c.processText segment became now).1 ∧
    (c.processText segment became now).1.sendUnacknowledged = c.sendUnacknowledged := by
  unfold processText
  split
  · exact ⟨.refl c, rfl⟩
  split
  · exact ⟨.refl c, rfl⟩
  split
  · exact ⟨.refl c, rfl⟩
  · exact acceptPeerFin_continues hs now

/-- The receive side of the control block is untouched. -/
structure SameReceive (c next : ControlBlock) : Prop where
  state : next.state = c.state
  receiveNext : next.receiveNext = c.receiveNext
  receiveWindow : next.receiveWindow = c.receiveWindow

omit hs in
theorem advanceUnacknowledged_continues (acknowledgment : BitVec 32) :
    Continues c (c.advanceUnacknowledged acknowledgment) ∧
    SameReceive c (c.advanceUnacknowledged acknowledgment) ∧
    (c.advanceUnacknowledged acknowledgment).sendUnacknowledged =
      if acknowledgmentAdvances acknowledgment c.sendUnacknowledged c.sendNext then acknowledgment
      else c.sendUnacknowledged := by
  unfold advanceUnacknowledged
  split
  · dsimp only
    split
    · obtain ⟨_, heq⟩ := acknowledgeControl_eq { c with sendUnacknowledged := acknowledgment }
      rw [heq]
      exact ⟨.stays rfl rfl rfl, ⟨rfl, rfl, rfl⟩, rfl⟩
    · exact ⟨.stays rfl rfl rfl, ⟨rfl, rfl, rfl⟩, rfl⟩
  · exact ⟨.refl c, ⟨rfl, rfl, rfl⟩, rfl⟩

omit hs in
theorem updateSendWindow_continues (segment : View) (window : BitVec 32) :
    Continues c (c.updateSendWindow segment window) ∧
    SameReceive c (c.updateSendWindow segment window) ∧
    (c.updateSendWindow segment window).sendUnacknowledged = c.sendUnacknowledged := by
  unfold updateSendWindow
  split
  · exact ⟨.stays rfl rfl rfl, ⟨rfl, rfl, rfl⟩, rfl⟩
  · exact ⟨.refl c, ⟨rfl, rfl, rfl⟩, rfl⟩

theorem commitReceivedData_continues {next window : BitVec 32} {fin : Option (BitVec 32)}
    {control : ControlBlock} {response : ControlResult}
    (h : c.commitReceivedData next window fin now = some (control, response)) :
    Continues c control ∧ control.sendUnacknowledged = c.sendUnacknowledged := by
  unfold commitReceivedData at h
  split at h
  · cases h
  have moved : Continues c { c with receiveNext := next, receiveWindow := window } :=
    .stays rfl rfl rfl
  split at h
  · have accepted := acceptPeerFin_continues (c := { c with receiveNext := next
                                                            receiveWindow := window }) hs now
    simp only [Option.some.injEq] at h
    rw [h] at accepted
    exact ⟨moved.trans accepted.1, accepted.2⟩
  · simp at h
    rw [← h.1]
    exact ⟨moved, rfl⟩

/-- Where a segment asks for its payload to be stored, its acknowledgment was
processed and the receive side has not moved. -/
structure AwaitsText (c next : ControlBlock) (segment : View) : Prop where
  payload : segment.payload ≠ []
  receiveNext : next.receiveNext = c.receiveNext
  receiveWindow : next.receiveWindow = c.receiveWindow
  synchronized : next.synchronized = true
  waiting : next.state = .timeWait → c.state = .timeWait

omit hs in
theorem processText_awaits {became : Bool}
    (h : (c.processText segment became now).2.event = .dataRequiresStreamOwner) :
    segment.payload ≠ [] ∧ (c.processText segment became now).1 = c := by
  unfold processText at h ⊢
  split at h
  · rename_i present
    rw [if_pos present]
    exact ⟨by simpa using present, rfl⟩
  · split at h
    · cases became <;> cases h
    · split at h
      · cases h
      · unfold acceptPeerFin at h
        dsimp only at h
        repeat' split at h
        all_goals cases h

/-- The acknowledgment field of a synchronized connection. -/
theorem onAcknowledgment_settled (hopen : c.state ≠ .closed) (segment : View) (now : Instant)
    (window : BitVec 32) : Continues c (c.onAcknowledgment segment now window).1 ∧
    (c.onAcknowledgment segment now window).1.sendUnacknowledged =
      (if acknowledgmentAdvances segment.acknowledgment c.sendUnacknowledged c.sendNext then
        segment.acknowledgment else c.sendUnacknowledged) ∧
    ((c.onAcknowledgment segment now window).2.event = .dataRequiresStreamOwner →
      AwaitsText c (c.onAcknowledgment segment now window).1 segment) := by
  have hreceived : (c.state == .synReceived) = false := by
    cases hstate : c.state <;> simp [hstate, Connection.handshaking] at hs ⊢
  have hsynchronized : c.synchronized = true := by
    unfold synchronized
    cases hstate : c.state <;> simp [hstate, Connection.handshaking] at hs hopen ⊢
  obtain ⟨moved, movedReceive, movedUna⟩ :=
    advanceUnacknowledged_continues (c := c) segment.acknowledgment
  obtain ⟨updated, updatedReceive, updatedUna⟩ := updateSendWindow_continues
    (c := c.advanceUnacknowledged segment.acknowledgment) segment window
  unfold onAcknowledgment processAcknowledgment
  rw [if_neg (by simp [hreceived])]
  by_cases beyond : Serial.after segment.acknowledgment c.sendNext = true
  · simp only [beyond]
    refine ⟨.refl c, ?_, fun h => by cases h⟩
    have outside : acknowledgmentAdvances segment.acknowledgment c.sendUnacknowledged c.sendNext =
        false := by
      simp only [acknowledgmentAdvances, refuted]
      right
      rw [← Bool.not_eq_true, Serial.beforeOrEqual_iff]
      rw [Serial.after_iff] at beyond
      bv_omega
    simp [outside]
  · simp [beyond]
    generalize (c.advanceUnacknowledged segment.acknowledgment).updateSendWindow segment window =
      next at updated updatedReceive updatedUna ⊢
    have continues := moved.trans updated
    have una := updatedUna.trans movedUna
    have state := updatedReceive.state.trans movedReceive.state
    have receiveNext := updatedReceive.receiveNext.trans movedReceive.receiveNext
    have receiveWindow := updatedReceive.receiveWindow.trans movedReceive.receiveWindow
    have settled : Connection.handshaking next.state = false := by rw [state, hs]
    split
    · rename_i finished
      have waiting : Continues next { next with state := .finWait2 } := .leaves rfl rfl rfl rfl
      obtain ⟨text, textUna⟩ := processText_continues (c := { next with state := .finWait2 }) rfl
        segment false now
      refine ⟨(continues.trans waiting).trans text, textUna.trans una, fun event => ?_⟩
      obtain ⟨payload, same⟩ := processText_awaits event
      rw [same]
      exact ⟨payload, receiveNext, receiveWindow, rfl, fun h => by cases h⟩
    · split
      · exact ⟨continues.trans (enterTimeWait_continues now), una, fun h => by cases h⟩
      · split
        · exact ⟨continues.trans (.leaves rfl rfl rfl rfl), una, fun h => by cases h⟩
        · obtain ⟨text, textUna⟩ := processText_continues settled segment false now
          refine ⟨continues.trans text, textUna.trans una, fun event => ?_⟩
          obtain ⟨payload, same⟩ := processText_awaits event
          rw [same]
          refine ⟨payload, receiveNext, receiveWindow, ?_, fun h => state ▸ h⟩
          simpa only [synchronized, state] using hsynchronized

theorem onReset_settled (segment : View) :
    Continues c (c.onReset segment).1 ∧
    (c.onReset segment).1.sendUnacknowledged = c.sendUnacknowledged ∧
    (c.onReset segment).2.event ≠ .dataRequiresStreamOwner := by
  have hreceived : (c.state == .synReceived) = false := by
    cases hstate : c.state <;> simp [hstate, Connection.handshaking] at hs ⊢
  unfold onReset
  split
  · exact ⟨.refl c, rfl, by simp [acknowledgment]⟩
  · rw [if_neg (by simp [hreceived])]
    exact ⟨.leaves rfl rfl rfl rfl, rfl, by simp⟩

omit hs in
theorem resetFor_event (c : ControlBlock) (segment : View) :
    (c.resetFor segment).event = .none := by
  unfold resetFor
  split <;> rfl

/-- Everything a segment can do to the send side once the handshake is over. -/
structure SegmentEffect (c : ControlBlock) (segment : View)
    (outcome : ControlBlock × ControlResult) : Prop where
  continues : Continues c outcome.1
  unacknowledged : outcome.1.sendUnacknowledged =
    if c.processes segment && acknowledgmentAdvances segment.acknowledgment c.sendUnacknowledged
      c.sendNext then segment.acknowledgment else c.sendUnacknowledged
  text : outcome.2.event = .dataRequiresStreamOwner →
    c.processes segment = true ∧ AwaitsText c outcome.1 segment

omit hs in
theorem SegmentEffect.unprocessed {outcome : ControlBlock × ControlResult}
    (outside : c.processes segment = false) (continues : Continues c outcome.1)
    (una : outcome.1.sendUnacknowledged = c.sendUnacknowledged)
    (event : outcome.2.event ≠ .dataRequiresStreamOwner) : SegmentEffect c segment outcome where
  continues
  unacknowledged := by simp [outside, una]
  text := fun h => absurd h event

theorem onSynchronized_settled (hopen : c.state ≠ .closed)
    (hport : segment.destinationPort = c.localPort) (now : Instant) (window : BitVec 32) :
    SegmentEffect c segment (c.onSynchronized segment now window) := by
  have hsyn : c.repeatedSimultaneousSyn segment = false := by
    unfold repeatedSimultaneousSyn
    cases hstate : c.state <;> simp [hstate, Connection.handshaking] at hs ⊢
  unfold onSynchronized
  simp only [hsyn, settled]
  split
  · rename_i fin
    exact .unprocessed (by simp [processes, fin]) (enterTimeWait_continues now) rfl
      (by simp [acknowledgment])
  · rename_i notFin
    split
    · rename_i outside
      simp only [asserted] at outside
      exact .unprocessed (by simp [processes, outside]) (.refl c) rfl
        (by dsimp only; split <;> simp [acknowledgment])
    · rename_i inside
      split
      · rename_i reset
        obtain ⟨continues, una, event⟩ := onReset_settled hs segment
        exact .unprocessed (by simp [processes, reset]) continues una event
      · rename_i noReset
        split
        · rename_i syn
          exact .unprocessed (by simp [processes, syn]) (.refl c) rfl (by simp [acknowledgment])
        · rename_i noSyn
          split
          · rename_i noAck
            simp only [asserted] at noAck
            exact .unprocessed (by simp [processes, noAck]) (.refl c) rfl (by simp)
          · rename_i ack
            have taken : c.processes segment = true := by
              simp only [refuted] at notFin inside noReset noSyn ack
              simp [processes, hport, hopen, notFin, inside, noReset, noSyn, ack]
            obtain ⟨continues, una, text⟩ := onAcknowledgment_settled hs hopen segment now window
            exact ⟨continues, by simp [taken, una], fun event => ⟨taken, text event⟩⟩

theorem onSegment_settled (segment : View) (initial : BitVec 32) (now : Instant)
    (window : Option (BitVec 32)) :
    SegmentEffect c segment (c.onSegment segment initial now window) := by
  unfold onSegment
  split
  · rename_i other
    simp only [asserted] at other
    exact .unprocessed (by simp [processes, other]) (.refl c) rfl (by simp)
  · rename_i mine
    have hport : segment.destinationPort = c.localPort := by simpa using mine
    cases hstate : c.state with
    | closed =>
      refine .unprocessed (by simp [processes, hstate]) (.refl c) rfl ?_
      dsimp only
      split <;> simp [resetFor_event]
    | listen | synSent | synReceived => simp [hstate, Connection.handshaking] at hs
    | established | finWait1 | finWait2 | closeWait | closing | lastAck | timeWait =>
      exact onSynchronized_settled hs (by simp [hstate]) hport now _

end

/-- The payload of such a segment finds its place in the window. -/
def admitsText (c : ControlBlock) (next : BitVec 32) : Bool :=
  c.state != .timeWait && !Serial.before next c.receiveNext &&
    decide (next - c.receiveNext ≤ c.receiveWindow)

theorem AwaitsText.refused {next : ControlBlock} (h : AwaitsText c next segment)
    {received window : BitVec 32} {fin : Option (BitVec 32)}
    (hnone : next.commitReceivedData received window fin now = none) :
    c.admitsText received = false := by
  unfold commitReceivedData at hnone
  split at hnone
  · rename_i guard
    simp only [h.synchronized, h.receiveNext, h.receiveWindow, settled, asserted] at guard
    rcases guard with (waiting | behind) | beyond
    · simp [admitsText, h.waiting waiting]
    · simp [admitsText, behind]
    · simp only [admitsText, refuted]
      right
      bv_omega
  · dsimp only at hnone
    split at hnone <;> cases hnone

end ControlBlock

/-! ## Runs of a connection -/

inductive ConnectionOp
  | listen
  | prepareActiveOpen (initialSequence : BitVec 32) (outputSize : Nat) (now : Instant)
  | prepareIngress (bytes : List Octet) (passiveInitialSequence : BitVec 32) (outputSize : Nat)
      (now : Instant)
  | prepareClose (outputSize : Nat) (now : Instant)
  | prepareDeadline (outputSize : Nat) (now : Instant)
  | prepareData (outputSize : Nat) (pushed : Bool) (now : Instant)
  | commit (prepared : PreparedConnectionSegment) (now : Instant)
  | discard (prepared : PreparedConnectionSegment)
  | write (bytes : List Octet) (now : Instant)
  | read (outputSize : Nat) (now : Instant)
  | reduceMaximumTransportMessage (maximumTransportMessage : BitVec 32)

namespace Connection

def step (c : Connection) : ConnectionOp → Connection
  | .listen => c.listen.1
  | .prepareActiveOpen initialSequence outputSize now =>
    (c.prepareActiveOpen initialSequence outputSize now).1
  | .prepareIngress bytes passiveInitialSequence outputSize now =>
    (c.prepareIngress bytes passiveInitialSequence outputSize now).1
  | .prepareClose outputSize now => (c.prepareClose outputSize now).1
  | .prepareDeadline outputSize now => (c.prepareDeadline outputSize now).1
  | .prepareData outputSize pushed now => (c.prepareData outputSize pushed now).1
  | .commit prepared now => (c.commit prepared now).1
  | .discard prepared => (c.discard prepared).1
  | .write bytes now => (c.write bytes now).1
  | .read outputSize now => (c.read outputSize now).1
  | .reduceMaximumTransportMessage maximum => (c.reduceMaximumTransportMessage maximum).1

/-! ## What each operation can do -/

/-- The connection is left alone, or the candidate is staged with a copy of the
sender. -/
def Stages (c c' : Connection) (candidate : ControlBlock) : Prop :=
  c' = c ∨ c.pending = none ∧ ∃ p token, c' = { c with nextToken := token, pending := some p } ∧
    p.control = candidate ∧ p.sender = c.sender ∧ p.senderTransmissionPresent = false

theorem stage_cases (c : Connection) (candidate : ControlBlock) (result : ControlResult)
    (localOffer : Option SynOptionOffer) (peerOptions : Option TypedOptions)
    (negotiated : Option NegotiatedOptions) (timestamps : TimestampState) (present : Bool)
    (outputSize : Nat) (now : Instant) :
    c.Stages (c.stage candidate result localOffer peerOptions negotiated timestamps present
      outputSize now).1 candidate := by
  unfold stage
  split
  · exact .inl rfl
  rename_i idle
  dsimp only
  split
  · exact .inl rfl
  · refine .inr ⟨by simpa using idle, _, _, rfl, rfl, rfl, rfl⟩

theorem stageControl_cases (c : Connection) (candidate : ControlBlock) (result : ControlResult)
    (outputSize : Nat) (now : Instant) :
    c.Stages (c.stageControl candidate result outputSize now).1 candidate :=
  stage_cases ..

theorem refusal_none {c : Connection} (h : c.refusal = none) :
    c.valid = true ∧ c.pending = none := by
  unfold refusal at h
  split at h
  · cases h
  split at h
  · cases h
  · rename_i hv hp
    exact ⟨by simpa using hv, by simpa using hp⟩

theorem prepareActiveOpen_cases (c : Connection) (initialSequence : BitVec 32) (outputSize : Nat)
    (now : Instant) :
    c.Stages (c.prepareActiveOpen initialSequence outputSize now).1
      (c.control.activeOpen initialSequence now).1 := by
  unfold prepareActiveOpen
  split
  · exact .inl rfl
  dsimp only
  split
  · exact .inl rfl
  · exact stage_cases ..

theorem prepareClose_cases (c : Connection) (outputSize : Nat) (now : Instant) :
    c.Stages (c.prepareClose outputSize now).1 (c.control.close now).1 := by
  unfold prepareClose
  split
  · exact .inl rfl
  dsimp only
  split
  · exact .inl rfl
  · exact stageControl_cases ..

/-- The live sender has taken the fields of a selection, and the transmission it
selected may have been staged. -/
def Transmits (c c' : Connection) (selected : Sender × PreparedTransmission) : Prop :=
  c.pending = none ∧ (c' = { c with sender := some selected.1 } ∨ ∃ p token,
    c' = { c with sender := some selected.1, nextToken := token, pending := some p } ∧
    p.sender = some selected.1 ∧ p.senderTransmissionPresent = true ∧
    p.senderTransmission = selected.2 ∧
    (selected.2.range.retransmission = true ∧ p.control = c.control ∨
      selected.2.range.retransmission = false ∧
      c.control.commitSentData selected.2.range.sequence selected.2.range.length =
        (p.control, true) ∧ selected.1.bytes.rangeIsCurrent selected.2.range = true))

theorem copy_current {s : Sender} {intent : PreparedTransmission} {outputSize : Nat}
    {payload : List Octet} (h : s.copy intent outputSize = some payload) :
    s.bytes.rangeIsCurrent intent.range = true := by
  unfold Sender.copy at h
  split at h
  · cases h
  unfold SendBuffer.copy at h
  split at h
  · cases h
  rename_i guard
  simp only [asserted, not_or, refuted] at guard
  exact guard.1

theorem sendSelected_cases (c : Connection) (selected : Sender × PreparedTransmission)
    (hpending : c.pending = none) (outputSize : Nat) (pushed : Bool) (now : Instant) :
    c.Transmits (c.sendSelected selected outputSize pushed now).1 selected := by
  refine ⟨hpending, ?_⟩
  unfold sendSelected prepareSenderTransmission
  dsimp only
  split
  · split
    · exact .inl rfl
    · split
      · exact .inl rfl
      · rename_i payload hcopy
        cases hr : selected.2.range.retransmission with
        | true =>
          simp only [↓reduceIte, Bool.not_true, Bool.false_eq_true]
          split
          · exact .inl rfl
          · exact .inr ⟨_, _, rfl, rfl, rfl, rfl, .inl ⟨trivial, rfl⟩⟩
        | false =>
          simp only [Bool.false_eq_true, ↓reduceIte]
          split
          · exact .inl rfl
          rename_i moved
          split
          · exact .inl rfl
          · refine .inr ⟨_, _, rfl, rfl, rfl, rfl, .inr ⟨trivial, ?_, copy_current hcopy⟩⟩
            exact Prod.ext rfl (by simpa using moved)
  · exact .inl rfl

theorem prepareDeadline_cases (c : Connection) (outputSize : Nat) (now : Instant) :
    c.Stages (c.prepareDeadline outputSize now).1 c.control ∨
    c.Stages (c.prepareDeadline outputSize now).1 (c.control.serviceDeadline now).1 ∨
    ∃ s, c.sender = some s ∧
      c.Transmits (c.prepareDeadline outputSize now).1 (selectDeadline s now) := by
  unfold prepareDeadline
  split
  · exact .inl (.inl rfl)
  rename_i ready
  obtain ⟨_, hpending⟩ := refusal_none ready
  split
  · exact .inl (stageControl_cases ..)
  dsimp only
  split
  · exact .inr (.inl (stageControl_cases ..))
  split
  · exact .inl (.inl rfl)
  · rename_i s hs
    exact .inr (.inr ⟨s, hs, sendSelected_cases c _ hpending ..⟩)

theorem prepareData_cases (c : Connection) (outputSize : Nat) (pushed : Bool) (now : Instant) :
    (c.prepareData outputSize pushed now).1 = c ∨
    ∃ s, c.sender = some s ∧
      c.Transmits (c.prepareData outputSize pushed now).1 (selectData s pushed now) := by
  unfold prepareData
  split
  · exact .inl rfl
  rename_i ready
  obtain ⟨_, hpending⟩ := refusal_none ready
  split
  · exact .inl rfl
  rename_i s hs
  split
  · exact .inl rfl
  · exact .inr ⟨s, hs, sendSelected_cases c _ hpending ..⟩

/-- The effects of a segment are published, and its answer may have been staged. -/
def Publishes (c c' : Connection) (control : ControlBlock) (sender : Sender) : Prop :=
  ∃ receiver window delayedAck timestamps present,
    Stages
      { c with
        control, sender := some sender, receiver := some receiver, receiveWindow := some window,
        delayedAck, timestamps, timestampStatePresent := present } c' control

theorem publish_cases (c : Connection) (sender : Sender) (update : StreamUpdate)
    (options : OptionState) (outputSize : Nat) (now : Instant) :
    c.Publishes (c.publish sender update options outputSize now).1 update.control sender := by
  refine ⟨update.receiver, update.receiveWindow, update.delayedAck, options.timestamps,
    options.timestampStatePresent, ?_⟩
  unfold publish
  split
  · exact .inl rfl
  · exact stageControl_cases ..

/-- The control block, as the segment left it or with its payload committed. -/
def Settles (result : ControlBlock × ControlResult) (control : ControlBlock) : Prop :=
  control = result.1 ∨ ∃ next window fin now response,
    result.1.commitReceivedData next window fin now = some (control, response)

theorem ingestStream_cases (c : Connection) (s : Sender) (receiver : ReceiveBuffer)
    (window : ReceiveWindow) (result : ControlBlock × ControlResult) (segment : View)
    (typed : TypedOptions) (options : OptionState) (outputSize : Nat) (now : Instant) :
    (∃ control, Settles result control ∧
      c.Publishes (c.ingestStream s receiver window result segment typed options outputSize now).1
        control (c.acknowledgeData s segment typed options now)) ∨
    (result.2.event = .dataRequiresStreamOwner ∧
      (∃ window fin, result.1.commitReceivedData
        (receiver.accept segment.sequence segment.payload).2.receiveNext window fin now = none) ∧
      ∃ stored, (c.ingestStream s receiver window result segment typed options outputSize now).1 =
        { c with
          sender := some (s.share (c.acknowledgeData s segment typed options now))
          receiver := some (receiver.share stored) }) := by
  unfold ingestStream
  split
  · rename_i event
    unfold receiveData
    dsimp only
    cases committed : result.1.commitReceivedData
        (receiver.accept segment.sequence segment.payload).2.receiveNext
        (window.receiveNextAdvanced ((receiver.accept segment.sequence
          segment.payload).2.receiveNext - receiver.receiveNext)).advertised
        (if has segment.flags Flag.fin then
          some (segment.sequence + BitVec.ofNat 32 segment.payload.length) else none) now with
    | none => exact .inr ⟨by simpa using event, ⟨_, _, committed⟩, _, rfl⟩
    | some outcome =>
      exact .inl ⟨outcome.1, .inr ⟨_, _, _, _, _, committed⟩, publish_cases ..⟩
  · exact .inl ⟨result.1, .inl rfl, publish_cases ..⟩

/-- A segment that reaches the control block, with the option state it leaves. -/
structure Reaches (c : Connection) (bytes : List Octet) (now : Instant) (segment : View)
    (typed : TypedOptions) (options : OptionState) : Prop where
  ready : c.refusal = none
  parsed : c.parse bytes = some (segment, typed)
  accepted : c.processOptions segment typed now = (options, .accepted)

/-- The segment of an ingress call, if it gets as far as the control block. -/
def reached (c : Connection) (bytes : List Octet) (now : Instant) : Option View :=
  match c.refusal, c.parse bytes with
  | none, some (segment, typed) =>
    if (c.processOptions segment typed now).2 == .accepted then some segment else none
  | _, _ => none

theorem Reaches.reached {c : Connection} {bytes : List Octet}
    {typed : TypedOptions} {options : OptionState}
    (h : c.Reaches bytes now segment typed options) : c.reached bytes now = some segment := by
  simp [Connection.reached, h.ready, h.parsed, h.accepted]

section

variable (c : Connection)

theorem prepareIngress_cases (bytes : List Octet) (passiveInitialSequence : BitVec 32)
    (outputSize : Nat) (now : Instant) :
    c.Stages (c.prepareIngress bytes passiveInitialSequence outputSize now).1 c.control ∨
    ∃ segment typed options, c.Reaches bytes now segment typed options ∧
      ((c.sender = none ∨ c.receiver = none ∨ c.receiveWindow = none ∨
          handshaking c.control.state = true) ∧
        c.Stages (c.prepareIngress bytes passiveInitialSequence outputSize now).1
          (c.control.onSegment segment passiveInitialSequence now
            (some (decodedWindow options segment))).1 ∨
      ∃ s receiver window, c.sender = some s ∧ c.receiver = some receiver ∧
        c.receiveWindow = some window ∧ handshaking c.control.state = false ∧
        (c.prepareIngress bytes passiveInitialSequence outputSize now).1 =
          (c.ingestStream s receiver window (c.control.onSegment segment passiveInitialSequence now
            (some (decodedWindow options segment))) segment typed options outputSize now).1) := by
  unfold prepareIngress
  split
  · exact .inl (.inl rfl)
  rename_i ready
  split
  · exact .inl (.inl rfl)
  rename_i segment typed parsed
  unfold ingestSegment
  dsimp only
  split
  · exact .inl (.inl rfl)
  · exact .inl (stageControl_cases ..)
  rename_i verdict
  refine .inr ⟨segment, typed, (c.processOptions segment typed now).1,
    ⟨ready, parsed, Prod.ext rfl verdict⟩, ?_⟩
  split
  · rename_i s receiver window hs hr hw hh
    exact .inr ⟨s, receiver, window, hs, hr, hw, hh, rfl⟩
  · rename_i other
    refine .inl ⟨?_, stage_cases ..⟩
    cases hs : c.sender with
    | none => exact .inl rfl
    | some s =>
      cases hr : c.receiver with
      | none => exact .inr (.inl rfl)
      | some r =>
        cases hw : c.receiveWindow with
        | none => exact .inr (.inr (.inl rfl))
        | some w =>
          cases hh : handshaking c.control.state with
          | true => exact .inr (.inr (.inr rfl))
          | false => exact absurd hh (other s r w hs hr hw)

/-! ## Admission -/

theorem install_some (p : PendingTransition) (s : Sender) (now : Instant) :
    (c.install p (some s) now).control = p.control ∧ (c.install p (some s) now).sender = some s ∧
    (c.install p (some s) now).pending = none ∧ (c.install p (some s) now).receiver = c.receiver ∧
    (c.install p (some s) now).receiveWindow = c.receiveWindow := by
  have kept : ∀ d : Connection, d.sender = some s → d.initializeStream now = d := by
    intro d hs
    unfold initializeStream
    split
    · rfl
    · rw [if_pos (by simp [hs])]
  unfold install
  rw [kept _ rfl]
  exact ⟨rfl, rfl, rfl, rfl, rfl⟩

/-- Nothing written, nothing sent. -/
def emptyStream : SendStream := ⟨[], 0, 0, Nat.le_refl _, Nat.le_refl _⟩

theorem freshSender_steady (negotiated : NegotiatedOptions) (effectiveMss : BitVec 32)
    (now : Instant) (hv : (c.freshSender negotiated effectiveMss now).valid = true) :
    (c.freshSender negotiated effectiveMss now).Steady c.control.sendNext emptyStream := by
  unfold freshSender at hv ⊢
  generalize hcreated : Sender.create c.storage.sendBytes c.storage.transmissionHistory
    c.storage.sackRanges c.storage.sackWorkspace c.control.sendNext effectiveMss = created at hv ⊢
  have created_valid : created.valid = true := by
    cases hc : created.valid with
    | true => rfl
    | false => simp [Sender.setSackEnabled, Sender.updateReceiverWindow, hc] at hv
  have wellFormed : created.WellFormed c.control.sendNext emptyStream := by
    rw [← hcreated] at created_valid ⊢
    exact Sender.create_wellFormed created_valid
  exact ((wellFormed.setSackEnabled negotiated.sack).updateReceiverWindow _ now).toSteady

theorem install_none (p : PendingTransition) (now : Instant) :
    (c.install p none now).control = p.control ∧ (c.install p none now).pending = none ∧
    ((c.install p none now).sender = none ∨
      ∃ s, (c.install p none now).sender = some s ∧ p.control.state = .established ∧
        s.Steady p.control.sendNext emptyStream ∧ (c.install p none now).receiver.isSome = true ∧
        (c.install p none now).receiveWindow.isSome = true) := by
  unfold install initializeStream
  dsimp only
  split
  · exact ⟨rfl, rfl, .inl rfl⟩
  split
  · exact ⟨rfl, rfl, .inl rfl⟩
  rename_i ready
  split
  · exact ⟨rfl, rfl, .inl rfl⟩
  split
  · exact ⟨rfl, rfl, .inl rfl⟩
  rename_i valid
  simp only [asserted, not_or, refuted] at valid
  refine ⟨rfl, rfl, .inr ⟨_, rfl, by simpa using ready, ?_, rfl, rfl⟩⟩
  exact freshSender_steady _ _ _ _ valid.1.1

/-- The segment an admission names is the pending one. -/
def Names (prepared : PreparedConnectionSegment) (p : PendingTransition) : Prop :=
  prepared.token = p.token ∧ prepared.emit = p.emitted

/-- Everything an admission can do. The timestamps are those of the transition,
with the acknowledgment it carries noted. -/
theorem commit_cases (prepared : PreparedConnectionSegment) (now : Instant) :
    (c.commit prepared now).1 = c ∨
    ∃ p timestamps, c.pending = some p ∧ Names prepared p ∧
      (p.senderTransmissionPresent = false ∧
        (c.commit prepared now).1 = c.install { p with timestamps } (c.stagedSender p) now ∨
      p.senderTransmissionPresent = true ∧ c.stagedSender p = none ∧
        (c.commit prepared now).1 = { c with pending := some { p with timestamps } } ∨
      p.senderTransmissionPresent = true ∧ ∃ staged, c.stagedSender p = some staged ∧
        ((staged.commit p.senderTransmission now).2 = true ∧
          (c.commit prepared now).1 = c.install { p with timestamps }
            (some (staged.commit p.senderTransmission now).1) now ∨
        (staged.commit p.senderTransmission now).2 = false ∧
          (c.commit prepared now).1 = { c with
            sender := c.sender.map (·.share (staged.commit p.senderTransmission now).1)
            pending := some { p with
              timestamps, sender := some (staged.commit p.senderTransmission now).1 } })) := by
  unfold commit
  split
  · exact .inl rfl
  rename_i p hp
  split
  · exact .inl rfl
  rename_i named
  simp only [asserted, not_or, Decidable.not_not] at named
  refine .inr ⟨p, (noteAcknowledgment p).timestamps, hp, ⟨named.1.2.symm, named.2.symm⟩, ?_⟩
  cases present : p.senderTransmissionPresent with
  | false => exact .inl ⟨rfl, rfl⟩
  | true =>
    simp only [Bool.not_true, Bool.false_eq_true, ↓reduceIte]
    cases staged : c.stagedSender p with
    | none => exact .inr (.inl ⟨trivial, rfl, by simp only [noteAcknowledgment, present]⟩)
    | some s =>
      refine .inr (.inr ⟨trivial, s, rfl, ?_⟩)
      dsimp only
      cases admitted : (s.commit p.senderTransmission now).2 with
      | true => exact .inl ⟨rfl, by simp [noteAcknowledgment, present]⟩
      | false => exact .inr ⟨rfl, by simp [noteAcknowledgment, present]⟩

theorem discard_cases (prepared : PreparedConnectionSegment) :
    (c.discard prepared).1 = c ∨ (c.discard prepared).1 = { c with pending := none } := by
  unfold discard
  split
  · exact .inl rfl
  split
  · exact .inl rfl
  · exact .inr rfl

/-! ## The application's side -/

theorem read_cases (outputSize : Nat) (now : Instant) : (c.read outputSize now).1 = c ∨
    ∃ receiver window receiveWindow delayedAck,
      (c.read outputSize now).1 = { c with
        receiver := some receiver, receiveWindow := some window,
        control := { c.control with receiveWindow }, delayedAck } := by
  unfold read
  split
  · rename_i receiver window hr hw
    right
    dsimp only
    split
    · refine ⟨(receiver.read outputSize).1, window, c.control.receiveWindow, c.delayedAck, ?_⟩
      rw [← hw]
    · split
      · exact ⟨_, _, c.control.receiveWindow, c.delayedAck, rfl⟩
      · unfold ControlBlock.setReceiveWindow
        split
        · exact ⟨_, _, c.control.receiveWindow, _, rfl⟩
        · exact ⟨_, _, _, _, rfl⟩
  · exact .inl rfl

theorem reduceMaximumTransportMessage_cases (maximum : BitVec 32) :
    (c.reduceMaximumTransportMessage maximum).1 = c ∨
    ∃ policy, (c.reduceMaximumTransportMessage maximum).1 = { c with policy } ∧ c.sender = none ∨
      ∃ s senderMss, c.sender = some s ∧ (c.reduceMaximumTransportMessage maximum).1 =
        { c with policy, sender := some (s.reduceMss senderMss).1 } := by
  unfold reduceMaximumTransportMessage
  split
  · exact .inl rfl
  split
  · exact .inl rfl
  dsimp only
  split
  · rename_i none
    exact .inr ⟨_, .inl ⟨rfl, none⟩⟩
  · rename_i s hs
    generalize effectiveSendMss _ maximum (headerOctets c.negotiated) 0#32 = senderMss
    split
    · exact .inl rfl
    split
    · exact .inl rfl
    · exact .inr ⟨_, .inr ⟨s, _, hs, rfl⟩⟩

end

/-! ## The stream behind a connection -/

/-- The connection has no stream yet, and neither has what it staged. -/
structure Unopened (c : Connection) : Prop where
  sender : c.sender = none
  pending : ∀ p, c.pending = some p → p.sender = none ∧ p.senderTransmissionPresent = false

/-- The live sender stands for a stream, and the staged copy for that stream as it
was when the copy was made. -/
structure Streamed (c : Connection) (s : Sender) (origin : BitVec 32) (stream : SendStream) :
    Prop where
  sender : c.sender = some s
  steady : s.Steady origin stream
  receiver : c.receiver.isSome = true
  receiveWindow : c.receiveWindow.isSome = true
  pending : ∀ p, c.pending = some p → ∃ copy, p.sender = some copy ∧
    Sender.Staged copy s origin stream ∧
    (p.senderTransmissionPresent = true → p.senderTransmission.Shaped)

/-- A selection leaves the repository alone. -/
structure Selects (s : Sender) (origin : BitVec 32) (stream : SendStream)
    (selected : Sender × PreparedTransmission) : Prop where
  steady : selected.1.Steady origin stream
  bytes : selected.1.bytes = s.bytes
  shaped : selected.2.Shaped

variable {t : Sender}

section select

variable {s : Sender} {origin : BitVec 32} {stream : SendStream}

theorem Selects.orElse {selected : Sender × PreparedTransmission}
    {next : Sender → Sender × PreparedTransmission} (first : Selects s origin stream selected)
    (second : ∀ t : Sender, t.Steady origin stream → t.bytes = s.bytes →
      Selects s origin stream (next t)) :
    Selects s origin stream (Sender.orElse selected next) := by
  unfold Sender.orElse
  split
  · exact first
  · exact second selected.1 first.steady first.bytes

theorem selects_new (h : t.Steady origin stream) (same : t.bytes = s.bytes)
    (now : Instant) (pushed : Bool) : Selects s origin stream (t.prepareNew now pushed) where
  steady := (h.prepareNew now pushed).1
  bytes := (h.prepareNew now pushed).2.trans same
  shaped := t.prepareNew_shaped now pushed

theorem selectDeadline_selects (h : s.Steady origin stream) (now : Instant) :
    Selects s origin stream (selectDeadline s now) := by
  apply Selects.orElse
  · apply Selects.orElse
    · exact ⟨h, rfl, s.prepareTimeoutRetransmission_shaped now⟩
    · intro t ht same
      exact ⟨(ht.preparePersistProbe now).1, (ht.preparePersistProbe now).2.trans same,
        t.preparePersistProbe_shaped now⟩
  · intro t ht same
    exact selects_new ht same now true

theorem selectData_selects (h : s.Steady origin stream) (pushed : Bool) (now : Instant) :
    Selects s origin stream (selectData s pushed now) := by
  apply Selects.orElse
  · apply Selects.orElse
    · exact ⟨h, rfl, s.prepareSackRecovery_shaped now⟩
    · intro t ht same
      exact ⟨ht, same, t.prepareFastRetransmission_shaped⟩
  · intro t ht same
    exact selects_new ht same now pushed

end select

namespace Streamed

variable {c c' : Connection} {s : Sender} {origin : BitVec 32} {stream : SendStream}

variable (h : c.Streamed s origin stream)
include h

theorem stages {candidate : ControlBlock} (hs : c.Stages c' candidate) :
    c'.Streamed s origin stream := by
  rcases hs with rfl | ⟨_, p, token, rfl, _, hsender, hpresent⟩
  · exact h
  · refine ⟨h.sender, h.steady, h.receiver, h.receiveWindow, ?_⟩
    rintro _ ⟨⟩
    refine ⟨s, hsender.trans h.sender, h.steady.staged, fun present => ?_⟩
    rw [hpresent] at present
    cases present

theorem transmits {selected : Sender × PreparedTransmission}
    (hsel : Selects s origin stream selected) (ht : c.Transmits c' selected) :
    c'.Streamed selected.1 origin stream := by
  obtain ⟨idle, rfl | ⟨p, token, rfl, hsender, _, hintent, _⟩⟩ := ht
  · refine ⟨rfl, hsel.steady, h.receiver, h.receiveWindow, ?_⟩
    intro p hp
    rw [show c.pending = some p from hp] at idle
    cases idle
  · refine ⟨rfl, hsel.steady, h.receiver, h.receiveWindow, ?_⟩
    rintro _ ⟨⟩
    refine ⟨selected.1, hsender, hsel.steady.staged, fun _ => ?_⟩
    rw [hintent]
    exact hsel.shaped

omit h in
/-- The sender of a connection without a staged transition replaced by another
steady one. -/
theorem replace (idle : c.pending = none) {next : SendStream}
    (steady : t.Steady origin next) (hsender : c'.sender = some t)
    (hreceiver : c'.receiver.isSome = true) (hwindow : c'.receiveWindow.isSome = true)
    (hpending : c'.pending = c.pending) : c'.Streamed t origin next := by
  refine ⟨hsender, steady, hreceiver, hwindow, ?_⟩
  intro p hp
  rw [hpending, idle] at hp
  cases hp

omit h in
theorem publishes (idle : c.pending = none) {control : ControlBlock}
    {next : SendStream} (steady : t.Steady origin next) (hp : c.Publishes c' control t) :
    c'.Streamed t origin next := by
  obtain ⟨receiver, window, _, _, _, staged⟩ := hp
  refine Streamed.stages ?_ staged
  exact replace idle steady rfl rfl rfl rfl

theorem write (bytes : List Octet) (now : Instant) :
    ∃ t next, (c.write bytes now).1.Streamed t origin next ∧ next.released = stream.released ∧
      next.accepted = stream.accepted ++ bytes.take (c.write bytes now).2 := by
  obtain ⟨fits, steady⟩ := h.steady.write bytes now
  refine ⟨(s.write bytes now).1, ⟨stream.accepted ++ bytes.take (s.write bytes now).2,
    stream.released, stream.sent, stream.released_le, fits⟩, ?_, rfl, ?_⟩
  · simp [Connection.write, h.sender]
    refine ⟨rfl, steady, h.receiver, h.receiveWindow, ?_⟩
    intro p hp
    obtain ⟨copy, hcopy, staged, shaped⟩ := h.pending p hp
    exact ⟨copy, hcopy, staged.write h.steady bytes now, shaped⟩
  · simp [Connection.write, h.sender]

theorem reduce (policy : ConnectionOptionPolicy) (senderMss : BitVec 32) :
    { c with policy, sender := some (s.reduceMss senderMss).1 }.Streamed (s.reduceMss senderMss).1
      origin stream := by
  refine ⟨rfl, h.steady.reduceMss senderMss, h.receiver, h.receiveWindow, ?_⟩
  intro p hp
  obtain ⟨copy, hcopy, staged, shaped⟩ := h.pending p hp
  exact ⟨copy, hcopy, staged.reduceMss senderMss, shaped⟩

theorem stagedSender {p : PendingTransition} (hp : c.pending = some p) :
    ∃ copy, p.sender = some copy ∧ c.stagedSender p = some (copy.share s) ∧
      Sender.Staged copy s origin stream ∧
      (p.senderTransmissionPresent = true → p.senderTransmission.Shaped) := by
  obtain ⟨copy, hcopy, staged, shaped⟩ := h.pending p hp
  exact ⟨copy, hcopy, by simp only [Connection.stagedSender, hcopy, h.sender], staged, shaped⟩

theorem install (p : PendingTransition) {next : SendStream} (steady : t.Steady origin next)
    (now : Instant) : (c.install p (some t) now).Streamed t origin next := by
  obtain ⟨_, hsender, hpending, hreceiver, hwindow⟩ := c.install_some p t now
  refine ⟨hsender, steady, by rw [hreceiver, h.receiver], by rw [hwindow, h.receiveWindow], ?_⟩
  intro q hq
  cases hq

end Streamed

end Connection

end RouterSim.Tcp
