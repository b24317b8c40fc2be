import RouterSim.Tcp.SackScoreboard

namespace RouterSim.Tcp

inductive TransmissionReason
  | newData | fastRetransmit | timeoutRetransmit | persistProbe | sackRecovery
  deriving DecidableEq

structure PreparedTransmission where
  range : PreparedSendRange := {}
  reason : TransmissionReason := .newData
  sackReason : SackNextReason := .lostRetransmission
  senderGeneration : BitVec 64 := 0#64

namespace PreparedTransmission

def present (intent : PreparedTransmission) : Bool := intent.range.present

def rangeEnd (intent : PreparedTransmission) : BitVec 32 :=
  intent.range.sequence + intent.range.length

end PreparedTransmission

structure SenderAcknowledgeResult where
  status : SendAcknowledgeStatus := .invalid
  newlyAcknowledged : BitVec 32 := 0#32
  fastRetransmissionReady : Bool := false
  sackRecoveryReady : Bool := false

structure Sender where
  bytes : SendBuffer
  history : TransmissionHistory
  failure : FailureDetector := {}
  sack : SackScoreboard
  congestion : CongestionController
  retransmission : RetransmissionEstimator := {}
  persist : PersistTimer := {}
  senderMss : BitVec 32
  receiverWindow : BitVec 32 := 0#32
  maximumReceiverWindow : BitVec 32 := 0#32
  rttSequenceEnd : BitVec 32 := 0#32
  rttSentAt : Instant := 0
  retransmissionDeadline : Option Instant := none
  swsOverrideDeadline : Option Instant := none
  generation : BitVec 64 := 1#64
  pendingFailureAction : FailureAction := .none
  rttProbePresent : Bool := false
  rttProbeRetransmitted : Bool := false
  fastRetransmissionPending : Bool := false
  nagleEnabled : Bool := true
  sackEnabled : Bool := false
  valid : Bool
  deriving DecidableEq

namespace Sender

def create (storage : List Octet) (historyStorage : List TransmissionRecord)
    (sackRanges sackWorkspace : List SackRange) (initialDataSequence senderMss : BitVec 32) :
    Sender :=
  let bytes := SendBuffer.create storage initialDataSequence
  let history := TransmissionHistory.create historyStorage
  let sack := SackScoreboard.create sackRanges sackWorkspace senderMss
  let ready := bytes.valid && history.valid && sack.valid && senderMss != 0#32
  let reset := sack.reset initialDataSequence initialDataSequence
  { bytes, history, sack := if ready then reset.1 else sack,
    congestion := CongestionController.create senderMss, senderMss, valid := ready && reset.2 }

def updatePersist (s : Sender) (now : Instant) : Sender :=
  { s with
    persist := s.persist.update (s.receiverWindow == 0#32) (s.bytes.queuedOctets != 0#32)
      s.retransmission.timeout now }

def write (s : Sender) (input : List Octet) (now : Instant) : Sender × Nat :=
  if !s.valid then (s, 0)
  else
    let written := s.bytes.write input
    let stored := { s with bytes := written.1 }
    if written.2 != 0 then
      ({ stored.updatePersist now with generation := s.generation + 1#64 }, written.2)
    else (stored, written.2)

def startOrRestartTimer (s : Sender) (now : Instant) : Sender :=
  { s with retransmissionDeadline := some (now + s.retransmission.timeout) }

/-- Start the failure detector on the oldest retained segment, if there is one. -/
def watchOldest (s : Sender) (now : TransmissionRecord → Instant) : Sender :=
  match s.history.oldest with
  | none => s
  | some oldest =>
    { s with failure := (s.failure.begin oldest.first oldest.last false (now oldest)).1 }

def updateReceiverWindow (s : Sender) (receiverWindow : BitVec 32) (now : Instant) : Sender :=
  if !s.valid then s
  else
    let noted := { s with
      maximumReceiverWindow := maximum s.maximumReceiverWindow receiverWindow
      persist := s.persist.update (receiverWindow == 0#32) (s.bytes.queuedOctets != 0#32)
        s.retransmission.timeout now }
    if s.receiverWindow == receiverWindow then noted
    else
      let opened := { noted with receiverWindow, generation := s.generation + 1#64 }
      if receiverWindow == 0#32 then
        { opened with retransmissionDeadline := none, failure := s.failure.reset }
      else
        let released := { opened with swsOverrideDeadline := none }
        if s.receiverWindow == 0#32 && s.bytes.flightSize != 0#32 then
          (released.startOrRestartTimer now).watchOldest fun _ => now
        else released

def setNagleEnabled (s : Sender) (enabled : Bool) : Sender :=
  if !s.valid || s.nagleEnabled == enabled then s
  else { s with nagleEnabled := enabled, generation := s.generation + 1#64 }

def setSackEnabled (s : Sender) (enabled : Bool) : Sender :=
  if !s.valid || s.sackEnabled == enabled then s
  else
    { s with
      sackEnabled := enabled, sack := if enabled then s.sack
        else (s.sack.reset s.bytes.sendUnacknowledged s.bytes.sendNext).1
      generation := s.generation + 1#64 }

def reduceMss (s : Sender) (senderMss : BitVec 32) : Sender × Bool :=
  if !s.valid || senderMss == 0#32 || decide (s.senderMss < senderMss) then (s, false)
  else if senderMss == s.senderMss then (s, true)
  else
    ({ s with
        congestion := s.congestion.reduceSenderMss senderMss
        sack := s.sack.reduceSenderMss senderMss, senderMss, generation := s.generation + 1#64 },
      true)

def transmitted (s : Sender) (sequence : BitVec 32) : Bool := s.history.contains sequence

/-! ## Preparing transmissions -/

def halfMaximumWindow (s : Sender) : BitVec 32 :=
  s.maximumReceiverWindow / 2#32 + s.maximumReceiverWindow % 2#32

/-- The payload Nagle's algorithm and silly-window avoidance allow for less than
a full segment, with the override deadline they leave behind. -/
def smallPayload (s : Sender) (available allowance : BitVec 32) (now : Instant) (pushed : Bool) :
    Sender × BitVec 32 :=
  let unsent := s.bytes.unsentOctets
  let nagleAllowsSmall := !s.nagleEnabled || s.bytes.flightSize == 0#32
  if pushed && nagleAllowsSmall && decide (unsent ≤ allowance) then (s, unsent)
  else if nagleAllowsSmall && s.maximumReceiverWindow != 0#32 &&
      decide (s.halfMaximumWindow ≤ available) then (s, available)
  else if pushed then
    let deadline := s.swsOverrideDeadline.getD (now + Catalog.swsOverride)
    ({ s with swsOverrideDeadline := some deadline }, if deadline ≤ now then available else 0#32)
  else (s, 0#32)

def prepareNew (s : Sender) (now : Instant) (pushed : Bool) : Sender × PreparedTransmission :=
  if !s.valid then (s, {})
  else
    let s := s.updatePersist now
    let allowance := s.congestion.sendAllowance s.receiverWindow s.bytes.flightSize
    let available := minimum allowance s.bytes.unsentOctets
    if available == 0#32 then (s, {})
    else
      let chosen :=
        if s.senderMss ≤ available then (s, s.senderMss)
        else s.smallPayload available allowance now pushed
      let s := chosen.1
      if chosen.2 == 0#32 then (s, {})
      else
        let range := s.bytes.prepareNew chosen.2
        if !s.history.canRecordOriginal range.sequence (range.sequence + range.length) now then
          (s, {})
        else (s, { range, reason := .newData, senderGeneration := s.generation })

def preparePersistProbe (s : Sender) (now : Instant) : Sender × PreparedTransmission :=
  if !s.valid then (s, {})
  else
    let s := s.updatePersist now
    if !s.persist.due now then (s, {})
    else
      let range := if s.bytes.flightSize == 0#32 then s.bytes.prepareNew 1#32
        else s.bytes.prepareRetransmission 1#32
      (s, { range, reason := .persistProbe, senderGeneration := s.generation })

/-- The unsent octets inside the receiver's window, if there are any. -/
def unsentInWindow (s : Sender) : Option SackRange :=
  let windowEnd := s.bytes.sendUnacknowledged + s.receiverWindow
  if s.bytes.unsentOctets != 0#32 && Serial.before s.bytes.sendNext windowEnd then
    let allowed := minimum s.bytes.unsentOctets (windowEnd - s.bytes.sendNext)
    if allowed != 0#32 then some { first := s.bytes.sendNext, last := s.bytes.sendNext + allowed }
    else none
  else none

def prepareSackRecovery (s : Sender) (now : Instant) : PreparedTransmission :=
  if !s.valid || !s.sackEnabled || !s.sack.recovery then {}
  else
    let estimatedPipe := s.sack.pipe
    if decide (s.congestion.congestionWindow < estimatedPipe) ||
        decide (s.congestion.congestionWindow - estimatedPipe < s.senderMss) then {}
    else
      let selected := s.sack.nextSegment s.unsentInWindow
      if !selected.present then {}
      else
        let length := selected.range.length
        let range := if selected.reason == .newData then s.bytes.prepareNew length
          else s.bytes.prepareRetransmissionAt selected.range.first length
        if !range.present || range.sequence != selected.range.first || range.length != length then
          {}
        else
          let canRecord := if selected.reason == .newData then
              s.history.canRecordOriginal range.sequence (range.sequence + range.length) now
            else s.history.canRecordRetransmission range.sequence (range.sequence + range.length) now
          if !canRecord then {}
          else
            { range, reason := .sackRecovery, sackReason := selected.reason,
              senderGeneration := s.generation }

def prepareFastRetransmission (s : Sender) : PreparedTransmission :=
  if !s.valid || !s.fastRetransmissionPending then {}
  else
    { range := s.bytes.prepareRetransmission s.senderMss, reason := .fastRetransmit,
      senderGeneration := s.generation }

def prepareTimeoutRetransmission (s : Sender) (now : Instant) : PreparedTransmission :=
  match s.retransmissionDeadline with
  | none => {}
  | some deadline =>
    if !s.valid || decide (now < deadline) || s.failure.service now == .abortConnection then {}
    else
      let range := s.bytes.prepareRetransmission s.senderMss
      if !s.history.canRecordRetransmission range.sequence (range.sequence + range.length) now then
        {}
      else { range, reason := .timeoutRetransmit, senderGeneration := s.generation }

def earlier (result candidate : Option Instant) : Option Instant :=
  match candidate, result with
  | none, _ => result
  | some c, none => some c
  | some c, some r => if c < r then some c else some r

def nextDeadline (s : Sender) : Option Instant :=
  earlier (earlier s.retransmissionDeadline s.persist.deadline) s.swsOverrideDeadline

def current (s : Sender) (intent : PreparedTransmission) : Bool :=
  if !intent.present || intent.senderGeneration != s.generation then false
  else
    match intent.reason with
    | .newData => !intent.range.retransmission
    | .fastRetransmit => intent.range.retransmission && s.fastRetransmissionPending
    | .timeoutRetransmit => intent.range.retransmission && s.retransmissionDeadline.isSome
    | .persistProbe => s.persist.deadline.isSome
    | .sackRecovery => s.sackEnabled && s.sack.recovery

def copy (s : Sender) (intent : PreparedTransmission) (outputSize : Nat) : Option (List Octet) :=
  if !s.current intent then none else s.bytes.copy intent.range outputSize

/-! ## Committing transmissions -/

def markRttRetransmitted (s : Sender) (range : PreparedSendRange) : Sender :=
  if s.rttProbePresent &&
      Serial.after (range.sequence + range.length) s.bytes.sendUnacknowledged &&
      Serial.after s.rttSequenceEnd range.sequence then
    { s with rttProbeRetransmitted := true }
  else s

/-- The connection is given up because its records disagree with its stream. -/
def abort (s : Sender) : Sender :=
  { s with valid := false, pendingFailureAction := .abortConnection }

/-- Count a repair in the failure detector and latch the advice it gives. -/
def noteRepair (s : Sender) (first last : BitVec 32) (now : Instant) : Sender :=
  let counted := s.failure.retransmitted first last now
  { s with
    failure := counted.1
    pendingFailureAction :=
      if counted.2 == .abortConnection ||
          (counted.2 == .negativeIpAdvice && s.pendingFailureAction == .none) then counted.2
      else s.pendingFailureAction }

def dueForCommit (s : Sender) (intent : PreparedTransmission) (now : Instant) : Bool :=
  match intent.reason with
  | .timeoutRetransmit =>
    match s.retransmissionDeadline with
    | none => false
    | some deadline => decide (deadline ≤ now)
  | .persistProbe => s.persist.due now
  | _ => true

/-- The history has room for what the intent will record. -/
def canRecord (s : Sender) (intent : PreparedTransmission) (now : Instant) : Bool :=
  let original := s.history.canRecordOriginal intent.range.sequence intent.rangeEnd now
  let repair := s.history.canRecordRetransmission intent.range.sequence intent.rangeEnd now
  match intent.reason with
  | .newData => original
  | .fastRetransmit | .timeoutRetransmit => repair
  | .persistProbe | .sackRecovery => if intent.range.retransmission then repair else original

def recordOriginal (s : Sender) (intent : PreparedTransmission) (now : Instant) : Sender × Bool :=
  let recorded := s.history.recordOriginal intent.range.sequence intent.rangeEnd now
  ({ s with history := recorded.1 }, recorded.2)

def recordRetransmission (s : Sender) (intent : PreparedTransmission) (now : Instant) :
    Sender × Bool :=
  let recorded := s.history.recordRetransmission intent.range.sequence intent.rangeEnd now
  ({ s with history := recorded.1 }, recorded.2 != 0)

def recordTransmission (s : Sender) (intent : PreparedTransmission) (now : Instant) :
    Sender × Bool :=
  if intent.range.retransmission then s.recordRetransmission intent now
  else s.recordOriginal intent now

/-- Move HighData to SND.NXT. -/
def extendScoreboard (s : Sender) : Sender × Bool :=
  let updated := s.sack.update s.bytes.sendUnacknowledged s.bytes.sendNext []
  ({ s with sack := updated.1 }, updated.2 != .malformed)

def beginFlight (s : Sender) (intent : PreparedTransmission) (now : Instant) : Sender :=
  { s with
    failure := (s.failure.begin intent.range.sequence intent.rangeEnd false now).1 }

def startRttProbe (s : Sender) (intent : PreparedTransmission) (now : Instant) : Sender :=
  if s.rttProbePresent then s
  else
    { s with
      rttSequenceEnd := intent.rangeEnd, rttSentAt := now, rttProbePresent := true,
      rttProbeRetransmitted := false }

def commitNewData (s : Sender) (intent : PreparedTransmission) (previousFlight : BitVec 32)
    (now : Instant) : Sender × Bool :=
  let recorded := s.recordOriginal intent now
  if !recorded.2 then (recorded.1.abort, false)
  else
    let extended := recorded.1.extendScoreboard
    if !extended.2 then (extended.1.abort, false)
    else
      let begun := if previousFlight == 0#32 then extended.1.beginFlight intent now else extended.1
      let probed := begun.startRttProbe intent now
      let timed := if previousFlight == 0#32 then probed.startOrRestartTimer now else probed
      ({ timed with swsOverrideDeadline := none }, true)

def commitFastRetransmit (s : Sender) (intent : PreparedTransmission) (now : Instant) :
    Sender × Bool :=
  let recorded := s.recordRetransmission intent now
  if !recorded.2 then (recorded.1.abort, false)
  else
    let noted := recorded.1.noteRepair intent.range.sequence intent.rangeEnd now
    ({ noted.markRttRetransmitted intent.range with fastRetransmissionPending := false }, true)

def commitTimeoutRetransmit (s : Sender) (intent : PreparedTransmission)
    (previousFlight : BitVec 32) (now : Instant) : Sender × Bool :=
  let recorded := s.recordRetransmission intent now
  if !recorded.2 then (recorded.1.abort, false)
  else
    let noted := recorded.1.noteRepair intent.range.sequence intent.rangeEnd now
    let marked := noted.markRttRetransmitted intent.range
    let backedOff := { marked with
      congestion := marked.congestion.onRetransmissionTimeout previousFlight
      sack := marked.sack.onRetransmissionTimeout
      retransmission := marked.retransmission.onTimeout false }
    ({ backedOff.startOrRestartTimer now with fastRetransmissionPending := false }, true)

def commitPersistProbe (s : Sender) (intent : PreparedTransmission) (now : Instant) :
    Sender × Bool :=
  let recorded := s.recordTransmission intent now
  if !recorded.2 then (recorded.1.abort, false)
  else
    let extended := if intent.range.retransmission then (recorded.1, true)
      else recorded.1.extendScoreboard
    if !extended.2 then (extended.1.abort, false)
    else
      let marked := extended.1.markRttRetransmitted intent.range
      let probed := marked.persist.probeCommitted now
      if !probed.2 then ({ marked with persist := probed.1 }, false)
      else ({ marked with persist := probed.1, swsOverrideDeadline := none }, true)

def commitSackRecovery (s : Sender) (intent : PreparedTransmission) (previousFlight : BitVec 32)
    (now : Instant) : Sender × Bool :=
  let recorded := s.recordTransmission intent now
  if !recorded.2 then (recorded.1.abort, false)
  else
    let marked := recorded.1.sack.commit
      { range := { first := intent.range.sequence, last := intent.rangeEnd }
        reason := intent.sackReason }
    let selected := { recorded.1 with sack := marked.1 }
    if !marked.2 then (selected.abort, false)
    else if intent.range.retransmission then
      let noted := selected.noteRepair intent.range.sequence intent.rangeEnd now
      (noted.markRttRetransmitted intent.range, true)
    else if previousFlight == 0#32 then
      ((selected.beginFlight intent now).startOrRestartTimer now, true)
    else (selected, true)

/-- What admission of the segment changes, by the reason it was sent for. -/
def applyCommit (s : Sender) (intent : PreparedTransmission) (previousFlight : BitVec 32)
    (now : Instant) : Sender × Bool :=
  match intent.reason with
  | .newData => s.commitNewData intent previousFlight now
  | .fastRetransmit => s.commitFastRetransmit intent now
  | .timeoutRetransmit => s.commitTimeoutRetransmit intent previousFlight now
  | .persistProbe => s.commitPersistProbe intent now
  | .sackRecovery => s.commitSackRecovery intent previousFlight now

def commit (s : Sender) (intent : PreparedTransmission) (now : Instant) : Sender × Bool :=
  if !s.current intent || !s.dueForCommit intent now || !s.canRecord intent now then (s, false)
  else
    let admitted := s.bytes.commit intent.range
    if !admitted.2 then (s, false)
    else
      let applied := { s with bytes := admitted.1 }.applyCommit intent s.bytes.flightSize now
      if !applied.2 then (applied.1, false)
      else ({ applied.1 with generation := applied.1.generation + 1#64 }, true)

/-! ## Acknowledgments -/

/-- Apply a cumulative acknowledgment to the scoreboard; blocks that cannot be
represented never veto it. The second component says whether the blocks brought
new information. -/
def acknowledgeScoreboard (s : Sender) (acknowledgment : BitVec 32) (blocks : List SackBlock) :
    Sender × Bool :=
  let updated := s.sack.update acknowledgment s.bytes.sendNext (if s.sackEnabled then blocks else [])
  let final := if updated.2.applied then updated
    else updated.1.update acknowledgment s.bytes.sendNext []
  ({ s with sack := final.1 }, final.2.applied && final.1.lastUpdateAddedSack)

def takeWindow (s : Sender) (receiverWindow : BitVec 32) : Sender :=
  { s with
    receiverWindow, maximumReceiverWindow := maximum s.maximumReceiverWindow receiverWindow }

/-- Use the timestamp echo, or failing that the round-trip probe, as a sample. -/
def observeRtt (s : Sender) (acknowledgment : BitVec 32) (now : Instant)
    (timestampRtt : Option Duration) : Sender :=
  let echoed := match timestampRtt with
    | none => s
    | some rtt => { s with retransmission := (s.retransmission.observe rtt true true).1 }
  if echoed.rttProbePresent && !Serial.before acknowledgment echoed.rttSequenceEnd then
    { echoed with
      retransmission :=
        if timestampRtt.isSome then echoed.retransmission
        else (echoed.retransmission.observe (now - echoed.rttSentAt) echoed.rttProbeRetransmitted
          false).1
      rttProbePresent := false, rttProbeRetransmitted := false }
  else echoed

def onAdvanced (s : Sender) (acknowledgment newlyAcknowledged : BitVec 32)
    (sackWasRecovering : Bool) (now : Instant) (timestampRtt : Option Duration) : Sender :=
  let released := { s with
    history := s.history.acknowledge acknowledgment
    failure := s.failure.acknowledge acknowledgment }
  let watched :=
    if !released.failure.active && released.receiverWindow != 0#32 then
      released.watchOldest (·.firstTransmittedAt)
    else released
  let reacted := { watched with
    congestion := if sackWasRecovering then watched.congestion.onSackAck !watched.sack.recovery
      else watched.congestion.onNewAck newlyAcknowledged
    fastRetransmissionPending := false }
  let observed := reacted.observeRtt acknowledgment now timestampRtt
  let timed :=
    if observed.bytes.flightSize == 0#32 then
      { observed with retransmissionDeadline := none, rttProbePresent := false }
    else observed.startOrRestartTimer now
  { timed with generation := timed.generation + 1#64 }

def onDuplicate (s : Sender) (duplicateAckEligible : Bool) : Sender :=
  if !s.sackEnabled && duplicateAckEligible && s.bytes.flightSize != 0#32 then
    let counted := s.congestion.onDuplicateAck s.bytes.flightSize
    { s with
      congestion := counted.1
      fastRetransmissionPending := s.fastRetransmissionPending || counted.2 == .retransmitOldest
      generation := s.generation + 1#64 }
  else s

/-- Loss detection: new selective information may start a recovery. -/
def detectLoss (s : Sender) (newSackInformation : Bool) : Sender :=
  if s.sackEnabled && newSackInformation && s.bytes.flightSize != 0#32 && !s.sack.recovery then
    let counted := s.sack.duplicateAck true
    if counted.2 then
      { s with
        sack := counted.1.enterRecovery
        congestion := s.congestion.enterSackRecovery s.bytes.flightSize
        fastRetransmissionPending := false, generation := s.generation + 1#64 }
    else { s with sack := counted.1 }
  else s

def acknowledge (s : Sender) (acknowledgment receiverWindow : BitVec 32)
    (duplicateAckEligible : Bool) (now : Instant) (timestampRtt : Option Duration)
    (sackBlocks : List SackBlock) : Sender × SenderAcknowledgeResult :=
  if !s.valid then (s, {})
  else
    let acknowledged := s.bytes.acknowledge acknowledgment
    let released := { s with bytes := acknowledged.1 }
    let scored := released.acknowledgeScoreboard acknowledgment sackBlocks
    let taken := scored.1.takeWindow receiverWindow
    -- An ACK beyond SND.NXT touches neither the scoreboard nor the window.
    let reacted := match acknowledged.2.status with
      | .advanced =>
        (taken.onAdvanced acknowledgment acknowledged.2.newlyAcknowledged s.sack.recovery now
          timestampRtt).detectLoss scored.2
      | .duplicate => (taken.onDuplicate duplicateAckEligible).detectLoss scored.2
      | .beyondSent | .invalid => released
    let final := reacted.updatePersist now
    (final,
      { status := acknowledged.2.status, newlyAcknowledged := acknowledged.2.newlyAcknowledged,
        fastRetransmissionReady := final.fastRetransmissionPending
        sackRecoveryReady := final.sack.recovery })

def failureAction (s : Sender) (now : Instant) : FailureAction :=
  if s.failure.service now == .abortConnection then .abortConnection else s.pendingFailureAction

def takeFailureAction (s : Sender) (now : Instant) : Sender × FailureAction :=
  let action := s.failureAction now
  (if action != .none then { s with pendingFailureAction := .none } else s, action)

end Sender

end RouterSim.Tcp
