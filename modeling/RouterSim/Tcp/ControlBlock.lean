import RouterSim.Tcp.Packet
import RouterSim.Tcp.Timers
import RouterSim.Tcp.Congestion

namespace RouterSim.Tcp

inductive TcpState
  | closed | listen | synSent | synReceived | established | finWait1 | finWait2 | closeWait
  | closing | lastAck | timeWait
  deriving DecidableEq

inductive ControlEvent
  | none | established | peerClosed | connectionReset | connectionClosed | dataRequiresStreamOwner
  deriving DecidableEq

structure ControlResult where
  segment : Fields := {}
  event : ControlEvent := .none
  emit : Bool := false

def wireWindow (window : BitVec 32) : BitVec 16 := (minimum window 65535#32).setWidth 16

structure ControlBlock where
  retransmission : RetransmissionEstimator := {}
  congestion : CongestionController
  outstandingControl : Fields := {}
  retransmissionDeadline : Instant := 0
  timeWaitDeadline : Instant := 0
  sendUnacknowledged : BitVec 32 := 0#32
  sendNext : BitVec 32 := 0#32
  sendWindow : BitVec 32 := 0#32
  sendWindowSequence : BitVec 32 := 0#32
  sendWindowAcknowledgment : BitVec 32 := 0#32
  receiveNext : BitVec 32 := 0#32
  receiveWindow : BitVec 32
  initialSendSequence : BitVec 32 := 0#32
  initialReceiveSequence : BitVec 32 := 0#32
  localPort : BitVec 16
  remotePort : BitVec 16
  state : TcpState := .closed
  passiveOpened : Bool := false
  outstandingControlPresent : Bool := false
  localFinSent : Bool := false

namespace ControlBlock

def create (localPort remotePort : BitVec 16) (receiveWindow senderMss : BitVec 32) :
    ControlBlock :=
  { congestion := CongestionController.create senderMss, receiveWindow, localPort, remotePort }

def passiveOpen (c : ControlBlock) : ControlBlock × ControlResult :=
  if c.state != .closed || c.localPort == 0#16 then (c, {})
  else ({ c with remotePort := 0#16, state := .listen, passiveOpened := true }, {})

def trackControl (c : ControlBlock) (segment : Fields) (now : Instant) : ControlBlock :=
  { c with
    outstandingControl := segment, outstandingControlPresent := true,
    retransmissionDeadline := now + c.retransmission.timeout }

def acknowledgeControl (c : ControlBlock) : ControlBlock :=
  if !c.outstandingControlPresent then c
  else
    { c with
      outstandingControlPresent := false, retransmission := c.retransmission.onHandshakeComplete }

/-- Acknowledging control only clears the tracked segment. -/
theorem acknowledgeControl_eq (c : ControlBlock) : ∃ retransmission,
    c.acknowledgeControl = { c with outstandingControlPresent := false, retransmission } := by
  cases h : c.outstandingControlPresent with
  | true => exact ⟨c.retransmission.onHandshakeComplete, by simp [acknowledgeControl, h]⟩
  | false => exact ⟨c.retransmission, by rw [acknowledgeControl, if_pos (by simp [h]), ← h]⟩

def activeOpen (c : ControlBlock) (initialSequence : BitVec 32) (now : Instant) :
    ControlBlock × ControlResult :=
  if (c.state != .closed && c.state != .listen) || c.localPort == 0#16 || c.remotePort == 0#16 then
    (c, {})
  else
    let segment : Fields :=
      { sourcePort := c.localPort, destinationPort := c.remotePort, sequence := initialSequence,
        flags := Flag.syn, window := wireWindow c.receiveWindow }
    (trackControl
        { c with
          initialSendSequence := initialSequence, sendUnacknowledged := initialSequence,
          sendNext := initialSequence + 1#32, passiveOpened := false,
          state := .synSent } segment now,
      { segment, emit := true })

def acknowledgment (c : ControlBlock) : ControlResult :=
  { segment :=
      { sourcePort := c.localPort, destinationPort := c.remotePort, sequence := c.sendNext,
        acknowledgment := c.receiveNext, flags := Flag.ack, window := wireWindow c.receiveWindow }
    emit := true }

def resetFor (c : ControlBlock) (segment : View) : ControlResult :=
  if has segment.flags Flag.ack then
    { segment :=
        { sourcePort := c.localPort, destinationPort := segment.sourcePort,
          sequence := segment.acknowledgment, flags := Flag.rst }
      emit := true }
  else
    { segment :=
        { sourcePort := c.localPort, destinationPort := segment.sourcePort,
          acknowledgment := segment.sequence + segmentLength segment
          flags := Flag.rst ||| Flag.ack }
      emit := true }

def synchronized (c : ControlBlock) : Bool :=
  match c.state with
  | .closed | .listen | .synSent => false
  | _ => true

def enterTimeWait (c : ControlBlock) (now : Instant) : ControlBlock :=
  { c with
    state := .timeWait, outstandingControlPresent := false,
    timeWaitDeadline := now + Catalog.maximumSegmentLifetime * 2 }

def acceptPeerFin (c : ControlBlock) (now : Instant) : ControlBlock × ControlResult :=
  let received := { c with receiveNext := c.receiveNext + 1#32 }
  let result := { received.acknowledgment with event := .peerClosed }
  match c.state with
  | .established | .synReceived => ({ received with state := .closeWait }, result)
  | .finWait1 =>
    if c.localFinSent && c.sendUnacknowledged == c.sendNext then
      (received.enterTimeWait now, result)
    else ({ received with state := .closing }, result)
  | .finWait2 | .timeWait => (received.enterTimeWait now, result)
  | _ => (received, result)

/-- The `SYN, ACK` of either open, tracked until it is acknowledged. -/
def synAck (c : ControlBlock) (now : Instant) : ControlBlock × ControlResult :=
  let segment : Fields :=
    { sourcePort := c.localPort, destinationPort := c.remotePort, sequence := c.initialSendSequence,
      acknowledgment := c.receiveNext, flags := Flag.syn ||| Flag.ack,
      window := wireWindow c.receiveWindow }
  (c.trackControl segment now, { segment, emit := true })

def onListen (c : ControlBlock) (segment : View) (passiveInitialSequence : BitVec 32)
    (now : Instant) (advertisedWindow : BitVec 32) : ControlBlock × ControlResult :=
  if has segment.flags Flag.rst then (c, {})
  else if has segment.flags Flag.ack then (c, c.resetFor segment)
  else if !has segment.flags Flag.syn then (c, {})
  else
    synAck
      { c with
        remotePort := segment.sourcePort, initialReceiveSequence := segment.sequence,
        receiveNext := segment.sequence + 1#32, initialSendSequence := passiveInitialSequence,
        sendUnacknowledged := passiveInitialSequence, sendNext := passiveInitialSequence + 1#32,
        sendWindow := advertisedWindow, sendWindowSequence := segment.sequence,
        sendWindowAcknowledgment := segment.acknowledgment, state := .synReceived } now

def onSynSent (c : ControlBlock) (segment : View) (now : Instant) (advertisedWindow : BitVec 32) :
    ControlBlock × ControlResult :=
  let rstSet := has segment.flags Flag.rst
  let ackSet := has segment.flags Flag.ack
  let acceptableAck := ackSet && Serial.after segment.acknowledgment c.initialSendSequence &&
    Serial.beforeOrEqual segment.acknowledgment c.sendNext
  if ackSet && !acceptableAck then (c, if rstSet then {} else c.resetFor segment)
  else if rstSet then
    if acceptableAck then
      ({ c with state := .closed, outstandingControlPresent := false },
        { event := .connectionReset })
    else (c, {})
  else if !has segment.flags Flag.syn then (c, {})
  else
    let received :=
      { c with
        initialReceiveSequence := segment.sequence, receiveNext := segment.sequence + 1#32,
        sendWindow := advertisedWindow, sendWindowSequence := segment.sequence,
        sendWindowAcknowledgment := segment.acknowledgment }
    if acceptableAck then
      let opened := { acknowledgeControl { received with
        sendUnacknowledged := segment.acknowledgment } with state := .established }
      (opened, { opened.acknowledgment with event := .established })
    else synAck { received with state := .synReceived } now

def advanceUnacknowledged (c : ControlBlock) (acknowledgment : BitVec 32) : ControlBlock :=
  if acknowledgmentAdvances acknowledgment c.sendUnacknowledged c.sendNext then
    let advanced := { c with sendUnacknowledged := acknowledgment }
    if acknowledgment == c.sendNext then advanced.acknowledgeControl else advanced
  else c

def updateSendWindow (c : ControlBlock) (segment : View) (advertisedWindow : BitVec 32) :
    ControlBlock :=
  if Serial.before c.sendWindowSequence segment.sequence ||
      (c.sendWindowSequence == segment.sequence &&
        Serial.beforeOrEqual c.sendWindowAcknowledgment segment.acknowledgment) then
    { c with
      sendWindow := advertisedWindow, sendWindowSequence := segment.sequence,
      sendWindowAcknowledgment := segment.acknowledgment }
  else c

/-- The acknowledgment field of a segment that passed every earlier check; an
error is the answer to a segment that is not processed any further. -/
def processAcknowledgment (c : ControlBlock) (segment : View) (advertisedWindow : BitVec 32) :
    Except ControlResult (ControlBlock × Bool) :=
  if c.state == .synReceived then
    if !acknowledgmentAdvances segment.acknowledgment c.sendUnacknowledged c.sendNext then
      .error (c.resetFor segment)
    else
      .ok ({ acknowledgeControl { c with
          sendUnacknowledged := segment.acknowledgment, sendWindow := advertisedWindow,
          sendWindowSequence := segment.sequence
          sendWindowAcknowledgment := segment.acknowledgment } with state := .established },
        true)
  else if Serial.after segment.acknowledgment c.sendNext then .error c.acknowledgment
  else
    .ok ((c.advanceUnacknowledged segment.acknowledgment).updateSendWindow segment advertisedWindow,
      false)

def localFinAcknowledged (c : ControlBlock) : Bool :=
  c.localFinSent && c.sendUnacknowledged == c.sendNext

/-- Payload and FIN of a segment whose acknowledgment was processed. -/
def processText (c : ControlBlock) (segment : View) (becameEstablished : Bool) (now : Instant) :
    ControlBlock × ControlResult :=
  if !segment.payload.isEmpty then (c, { event := .dataRequiresStreamOwner })
  else if !has segment.flags Flag.fin then
    (c, { event := if becameEstablished then .established else .none })
  else if segment.sequence != c.receiveNext then (c, c.acknowledgment)
  else c.acceptPeerFin now

/-- A segment of a synchronized connection that passed the sequence, RST, SYN
and ACK-present checks. -/
def onAcknowledgment (c : ControlBlock) (segment : View) (now : Instant)
    (advertisedWindow : BitVec 32) : ControlBlock × ControlResult :=
  match c.processAcknowledgment segment advertisedWindow with
  | .error result => (c, result)
  | .ok (acknowledged, becameEstablished) =>
    if acknowledged.state == .finWait1 && acknowledged.localFinAcknowledged then
      processText { acknowledged with state := .finWait2 } segment becameEstablished now
    else if acknowledged.state == .closing && acknowledged.localFinAcknowledged then
      (acknowledged.enterTimeWait now, {})
    else if acknowledged.state == .lastAck && acknowledged.localFinAcknowledged then
      ({ acknowledged with state := .closed }, { event := .connectionClosed })
    else acknowledged.processText segment becameEstablished now

def onReset (c : ControlBlock) (segment : View) : ControlBlock × ControlResult :=
  if segment.sequence != c.receiveNext then (c, c.acknowledgment)
  else if c.state == .synReceived && c.passiveOpened then
    ({ c with state := .listen, remotePort := 0#16, outstandingControlPresent := false }, {})
  else
    ({ c with state := .closed, outstandingControlPresent := false }, { event := .connectionReset })

/-- A repeated `SYN, ACK` of a simultaneous open lies just before the window. -/
def repeatedSimultaneousSyn (c : ControlBlock) (segment : View) : Bool :=
  c.state == .synReceived && !c.passiveOpened && has segment.flags Flag.syn &&
    has segment.flags Flag.ack && segment.payload.isEmpty &&
    segment.sequence + 1#32 == c.receiveNext

/-- A repeated peer FIN in TIME-WAIT also lies just before the window. -/
def repeatedFin (c : ControlBlock) (segment : View) : Bool :=
  c.state == .timeWait && has segment.flags Flag.fin && segment.payload.isEmpty &&
    segment.sequence + 1#32 == c.receiveNext

def acceptable (c : ControlBlock) (segment : View) : Bool :=
  segmentAcceptable segment.sequence (segmentLength segment) c.receiveNext c.receiveWindow

def onSynchronized (c : ControlBlock) (segment : View) (now : Instant)
    (advertisedWindow : BitVec 32) : ControlBlock × ControlResult :=
  let repeatedSyn := c.repeatedSimultaneousSyn segment
  if c.repeatedFin segment then
    let waiting := c.enterTimeWait now
    (waiting, waiting.acknowledgment)
  else if !repeatedSyn && !c.acceptable segment then
    (c, if has segment.flags Flag.rst then {} else c.acknowledgment)
  else if has segment.flags Flag.rst then c.onReset segment
  else if has segment.flags Flag.syn && !repeatedSyn then (c, c.acknowledgment)
  else if !has segment.flags Flag.ack then (c, {})
  else c.onAcknowledgment segment now advertisedWindow

def onSegment (c : ControlBlock) (segment : View) (passiveInitialSequence : BitVec 32)
    (now : Instant) (decodedPeerWindow : Option (BitVec 32)) : ControlBlock × ControlResult :=
  if segment.destinationPort != c.localPort then (c, {})
  else
    let advertisedWindow := decodedPeerWindow.getD (segment.window.setWidth 32)
    match c.state with
    | .closed => (c, if has segment.flags Flag.rst then {} else c.resetFor segment)
    | .listen => c.onListen segment passiveInitialSequence now advertisedWindow
    | .synSent => c.onSynSent segment now advertisedWindow
    | _ => c.onSynchronized segment now advertisedWindow

def commitSentData (c : ControlBlock) (sequence octets : BitVec 32) : ControlBlock × Bool :=
  if (c.state != .established && c.state != .closeWait) || c.localFinSent ||
      sequence != c.sendNext || decide (0x40000000#32 < octets) then (c, false)
  else ({ c with sendNext := c.sendNext + octets }, true)

def commitReceivedData (c : ControlBlock) (next window : BitVec 32)
    (finSequence : Option (BitVec 32)) (now : Instant) : Option (ControlBlock × ControlResult) :=
  if !c.synchronized || c.state == .timeWait || Serial.before next c.receiveNext ||
      decide (c.receiveWindow < next - c.receiveNext) then none
  else
    let received := { c with receiveNext := next, receiveWindow := window }
    if finSequence == some next then some (received.acceptPeerFin now)
    else some (received, received.acknowledgment)

def setReceiveWindow (c : ControlBlock) (window : BitVec 32) : ControlBlock × Bool :=
  if !c.synchronized then (c, false) else ({ c with receiveWindow := window }, true)

def close (c : ControlBlock) (now : Instant) : ControlBlock × ControlResult :=
  if c.state == .listen || c.state == .synSent then
    ({ c with state := .closed, outstandingControlPresent := false }, { event := .connectionClosed })
  else if c.state != .established && c.state != .closeWait then (c, {})
  else
    let segment : Fields :=
      { sourcePort := c.localPort, destinationPort := c.remotePort, sequence := c.sendNext,
        acknowledgment := c.receiveNext, flags := Flag.fin ||| Flag.ack,
        window := wireWindow c.receiveWindow }
    (trackControl
        { c with
          sendNext := c.sendNext + 1#32, localFinSent := true,
          state := if c.state == .established then .finWait1 else .lastAck } segment now,
      { segment, emit := true })

def serviceDeadline (c : ControlBlock) (now : Instant) : ControlBlock × ControlResult :=
  if c.state == .timeWait && decide (c.timeWaitDeadline ≤ now) then
    ({ c with state := .closed }, { event := .connectionClosed })
  else if !c.outstandingControlPresent || decide (now < c.retransmissionDeadline) then (c, {})
  else
    let waitingForSyn := c.state == .synSent || c.state == .synReceived
    let retransmission := c.retransmission.onTimeout waitingForSyn
    ({ c with
        retransmission, retransmissionDeadline := now + retransmission.timeout },
      { segment := c.outstandingControl, emit := true })

def nextDeadline (c : ControlBlock) : Option Instant :=
  if c.state == .timeWait then some c.timeWaitDeadline
  else if c.outstandingControlPresent then some c.retransmissionDeadline
  else none

end ControlBlock

end RouterSim.Tcp
