import RouterSim.Tcp.ControlBlock
import RouterSim.Tcp.Options
import RouterSim.Tcp.Sender

namespace RouterSim.Tcp

/-! ## Receiver silly-window avoidance -/

structure ReceiveWindow where
  capacity : BitVec 32
  effectiveSendMss : BitVec 32
  advertisedOctets : BitVec 32
  valid : Bool

namespace ReceiveWindow

def create (capacity effectiveSendMss : BitVec 32) : ReceiveWindow where
  capacity
  effectiveSendMss
  advertisedOctets := capacity
  valid := capacity != 0#32 && decide (capacity ≤ 0x40000000#32) && effectiveSendMss != 0#32

def updateThreshold (w : ReceiveWindow) : BitVec 32 :=
  minimum (w.capacity / 2#32 + w.capacity % 2#32) w.effectiveSendMss

def receiveNextAdvanced (w : ReceiveWindow) (octets : BitVec 32) : ReceiveWindow :=
  if !w.valid then w
  else
    { w with
      advertisedOctets :=
        if w.advertisedOctets ≤ octets then 0#32 else w.advertisedOctets - octets }

def applicationSpaceAvailable (w : ReceiveWindow) (available : BitVec 32) : ReceiveWindow × Bool :=
  if !w.valid || decide (w.capacity < available) || decide (available ≤ w.advertisedOctets) ||
      decide (available - w.advertisedOctets < w.updateThreshold) then (w, false)
  else ({ w with advertisedOctets := available }, true)

def advertised (w : ReceiveWindow) : BitVec 32 := if w.valid then w.advertisedOctets else 0#32

end ReceiveWindow

/-! ## The connection -/

/-- The arenas the endpoint allocator lends to one connection. -/
structure ConnectionStorage where
  sendBytes : List Octet
  receiveBytes : List Octet
  receiveBitmap : List Octet
  transmitPayloadScratch : List Octet
  transmissionHistory : List TransmissionRecord
  sackRanges : List SackRange
  sackWorkspace : List SackRange

inductive ConnectionPrepareStatus
  | prepared | noAction | invalidConnection | wrongState | malformedSegment | missingTimestamp
  | payloadRequiresStreamOwner | outputTooSmall | pendingTransmission
  deriving DecidableEq

structure PreparedConnectionSegment where
  token : BitVec 64 := 0#64
  octets : Nat := 0
  event : ControlEvent := .none
  emit : Bool := false

def PreparedConnectionSegment.present (prepared : PreparedConnectionSegment) : Bool :=
  prepared.token != 0#64

/-- The result of a preparation, with the octets it wrote. -/
structure ConnectionPrepareResult where
  status : ConnectionPrepareStatus := .noAction
  segment : PreparedConnectionSegment := {}
  output : List Octet := []

/-- A staged transition. The sender in it is a copy of the live one's fields; its
arenas are the live ones, whatever happens to them in between. -/
structure PendingTransition where
  control : ControlBlock
  localSynOffer : Option SynOptionOffer
  peerSynOptions : Option TypedOptions
  negotiated : Option NegotiatedOptions
  timestamps : TimestampState
  sender : Option Sender
  senderTransmission : PreparedTransmission := {}
  emittedFields : Fields
  token : BitVec 64
  event : ControlEvent
  timestampStatePresent : Bool
  senderTransmissionPresent : Bool
  emitted : Bool

structure Connection where
  tuple : ConnectionTuple
  policy : ConnectionOptionPolicy
  storage : ConnectionStorage
  timestampOrigin : Instant
  control : ControlBlock
  localSynOffer : Option SynOptionOffer := none
  peerSynOptions : Option TypedOptions := none
  negotiated : Option NegotiatedOptions := none
  timestamps : TimestampState := {}
  sender : Option Sender := none
  receiver : Option ReceiveBuffer := none
  receiveWindow : Option ReceiveWindow := none
  delayedAck : DelayedAcknowledger := {}
  pending : Option PendingTransition := none
  nextToken : BitVec 64 := 1#64
  timestampStatePresent : Bool := false
  valid : Bool

/-- Copies of one sender keep their own fields and share the arenas. -/
def Sender.share (copy arenas : Sender) : Sender :=
  { copy with
    bytes := { copy.bytes with storage := arenas.bytes.storage }
    history := { copy.history with records := arenas.history.records }
    sack := { copy.sack with ranges := arenas.sack.ranges } }

def ReceiveBuffer.share (copy arenas : ReceiveBuffer) : ReceiveBuffer :=
  { copy with storage := arenas.storage, receivedBitmap := arenas.receivedBitmap }

def isUnspecified (address : Ipv6) : Bool := address.all (· == 0#8)

def isMulticast (address : Ipv6) : Bool := address[0] == 0xff#8

def isLinkLocal (address : Ipv6) : Bool := address[0] == 0xfe#8 && (address[1] &&& 0xc0#8) == 0x80#8

def ConnectionTuple.valid (t : ConnectionTuple) : Bool :=
  if t.localPort == 0#16 then false
  else if t.family == Family.ipv4 then !t.localIpv4.all (· == 0#8) && !t.remoteIpv4.all (· == 0#8)
  else if isUnspecified t.localIpv6 || isUnspecified t.remoteIpv6 || isMulticast t.localIpv6 ||
      isMulticast t.remoteIpv6 then false
  else (!isLinkLocal t.localIpv6 && !isLinkLocal t.remoteIpv6) || t.interfaceId != 0#64

def ConnectionStorage.valid (s : ConnectionStorage) (policy : ConnectionOptionPolicy) : Bool :=
  !s.sendBytes.isEmpty && !s.receiveBytes.isEmpty && decide (s.receiveBytes.length ≤ 0x40000000) &&
    decide ((s.receiveBytes.length + 7) / 8 ≤ s.receiveBitmap.length) &&
    !s.transmitPayloadScratch.isEmpty && !s.transmissionHistory.isEmpty && !s.sackRanges.isEmpty &&
    s.sackRanges.length == s.sackWorkspace.length &&
    policy.receiveCapacity.toNat == s.receiveBytes.length

namespace Connection

def create (tuple : ConnectionTuple) (policy : ConnectionOptionPolicy)
    (storage : ConnectionStorage) (timestampOrigin : Instant) : Connection where
  tuple
  policy
  storage
  timestampOrigin
  control := ControlBlock.create tuple.localPort tuple.remotePort policy.receiveCapacity
    (defaultSendMss tuple.family)
  valid := tuple.valid && storage.valid policy &&
    (makeSynOffer policy.maximumTransportMessage policy.receiveCapacity policy.windowScaling
      policy.timestamps policy.sack 0#32).isSome

def transmitted (c : Connection) (sequence : BitVec 32) : Bool :=
  match c.sender with
  | none => false
  | some sender => sender.transmitted sequence

def localTimestamp (c : Connection) (now : Instant) : BitVec 32 :=
  timestampValue now c.timestampOrigin c.policy.timestampOffset

def offer (c : Connection) (now : Instant) : Option SynOptionOffer :=
  makeSynOffer c.policy.maximumTransportMessage c.policy.receiveCapacity c.policy.windowScaling
    c.policy.timestamps c.policy.sack (c.localTimestamp now)

def listen (c : Connection) : Connection × Bool :=
  if !c.valid || c.pending.isSome then (c, false)
  else
    let opened := c.control.passiveOpen
    ({ c with control := opened.1 }, !opened.2.emit && opened.1.state == .listen)

/-! ## Encoding -/

/-- The timestamp option of a segment other than a SYN; an error when the state it
echoes is missing. -/
def timestampOption (c : Connection) (negotiated : Option NegotiatedOptions)
    (timestamps : TimestampState) (timestampStatePresent : Bool) (now : Instant) :
    Option (List Octet) :=
  match negotiated with
  | none => some []
  | some options =>
    if !options.timestamps then some []
    else if !timestampStatePresent then none
    else some (encodeTimestampOption (c.localTimestamp now) timestamps.echoReply)

def sackOption (c : Connection) (negotiated : Option NegotiatedOptions) (used : Nat) :
    Option (List Octet) :=
  match negotiated, c.receiver with
  | some options, some receiver =>
    if !options.sack then some []
    else
      let blocks := receiver.sackBlocks (if options.timestamps then 3 else 4)
      if blocks.isEmpty then some []
      else encodeSackOption (maximumOptionOctets - used) blocks
  | _, _ => some []

def segmentOptions (c : Connection) (synSegment : Bool) (localOffer : Option SynOptionOffer)
    (negotiated : Option NegotiatedOptions) (timestamps : TimestampState)
    (timestampStatePresent : Bool) (now : Instant) : Option (List Octet) :=
  if synSegment then localOffer.bind (encodeSynOptions maximumOptionOctets)
  else do
    let timestamp ← c.timestampOption negotiated timestamps timestampStatePresent now
    let sack ← c.sackOption negotiated timestamp.length
    return timestamp ++ sack

def segmentWindow (c : Connection) (synSegment : Bool) (negotiated : Option NegotiatedOptions) :
    BitVec 16 :=
  let receiveWindow := match c.receiveWindow with
    | some window => window.advertised
    | none => c.policy.receiveCapacity
  match negotiated with
  | some options => encodeReceiveWindow receiveWindow synSegment options
  | none => (minimum receiveWindow 65535#32).setWidth 16

def encode (c : Connection) (fields : Fields) (localOffer : Option SynOptionOffer)
    (negotiated : Option NegotiatedOptions) (timestamps : TimestampState)
    (timestampStatePresent : Bool) (payload : List Octet) (outputSize : Nat) (now : Instant) :
    Option (List Octet) := do
  let synSegment := has fields.flags Flag.syn
  let options ←
    c.segmentOptions synSegment localOffer negotiated timestamps timestampStatePresent now
  let fields := { fields with window := c.segmentWindow synSegment negotiated }
  if c.tuple.family == Family.ipv4 then
    encodeIpv4 outputSize c.tuple.localIpv4 c.tuple.remoteIpv4 fields options payload
  else encodeIpv6 outputSize c.tuple.localIpv6 c.tuple.remoteIpv6 fields options payload

/-! ## Staging -/

/-- The next token, never zero, and the counter after it. -/
def takeToken (next : BitVec 64) : BitVec 64 × BitVec 64 :=
  if next == 0#64 then (1#64, 2#64) else (next, next + 1#64)

def stage (c : Connection) (candidate : ControlBlock) (result : ControlResult)
    (localOffer : Option SynOptionOffer) (peerOptions : Option TypedOptions)
    (negotiated : Option NegotiatedOptions) (timestamps : TimestampState)
    (timestampStatePresent : Bool) (outputSize : Nat) (now : Instant) :
    Connection × ConnectionPrepareResult :=
  if c.pending.isSome then (c, { status := .pendingTransmission })
  else
    let encoded := if result.emit then
        c.encode result.segment localOffer negotiated timestamps timestampStatePresent []
          outputSize now
      else some []
    match encoded with
    | none => (c, { status := .outputTooSmall })
    | some output =>
      let taken := takeToken c.nextToken
      ({ c with
          nextToken := taken.2, pending := some
            { control := candidate, localSynOffer := localOffer, peerSynOptions := peerOptions,
              negotiated, timestamps, sender := c.sender, emittedFields := result.segment,
              token := taken.1, event := result.event, timestampStatePresent,
              senderTransmissionPresent := false, emitted := result.emit } },
        { status := .prepared
          segment :=
            { token := taken.1, octets := output.length, event := result.event,
              emit := result.emit }
          output })

/-- Stage a control transition that keeps the connection's options. -/
def stageControl (c : Connection) (candidate : ControlBlock) (result : ControlResult)
    (outputSize : Nat) (now : Instant) : Connection × ConnectionPrepareResult :=
  c.stage candidate result c.localSynOffer c.peerSynOptions c.negotiated c.timestamps
    c.timestampStatePresent outputSize now

/-- The two guards every preparation starts with. -/
def refusal (c : Connection) : Option ConnectionPrepareStatus :=
  if !c.valid then some .invalidConnection
  else if c.pending.isSome then some .pendingTransmission
  else none

def prepareActiveOpen (c : Connection) (initialSequence : BitVec 32) (outputSize : Nat)
    (now : Instant) : Connection × ConnectionPrepareResult :=
  match c.refusal with
  | some status => (c, { status })
  | none =>
    let opened := c.control.activeOpen initialSequence now
    if !opened.2.emit then (c, { status := .wrongState })
    else c.stage opened.1 opened.2 (c.offer now) none none c.timestamps false outputSize now

def prepareClose (c : Connection) (outputSize : Nat) (now : Instant) :
    Connection × ConnectionPrepareResult :=
  match c.refusal with
  | some status => (c, { status })
  | none =>
    let closed := c.control.close now
    if !closed.2.emit && closed.2.event == .none then (c, { status := .wrongState })
    else c.stageControl closed.1 closed.2 outputSize now

def prepareCurrentAck (c : Connection) (outputSize : Nat) (now : Instant) :
    Connection × ConnectionPrepareResult :=
  c.stageControl c.control c.control.acknowledgment outputSize now

/-! ## Data transmissions -/

def prepareSenderTransmission (c : Connection) (sender : Sender)
    (transmission : PreparedTransmission) (outputSize : Nat) (pushed : Bool) (now : Instant) :
    Connection × ConnectionPrepareResult :=
  if c.storage.transmitPayloadScratch.length < transmission.range.length.toNat then
    (c, { status := .outputTooSmall })
  else
    match sender.copy transmission transmission.range.length.toNat with
    | none => (c, { status := .outputTooSmall })
    | some payload =>
      -- A repair refers to sequence space that SND.NXT already owns.
      let moved := if transmission.range.retransmission then (c.control, true)
        else c.control.commitSentData transmission.range.sequence transmission.range.length
      if !moved.2 then (c, { status := .wrongState })
      else
        let acknowledgment := c.control.acknowledgment.segment
        let fields := { acknowledgment with
          sequence := transmission.range.sequence
          flags := if pushed && transmission.reason == .newData then
            acknowledgment.flags ||| Flag.psh else acknowledgment.flags }
        match c.encode fields c.localSynOffer c.negotiated c.timestamps c.timestampStatePresent
            payload outputSize now with
        | none => (c, { status := .outputTooSmall })
        | some output =>
          let taken := takeToken c.nextToken
          ({ c with
              nextToken := taken.2, pending := some
                { control := moved.1, localSynOffer := c.localSynOffer,
                  peerSynOptions := c.peerSynOptions, negotiated := c.negotiated,
                  timestamps := c.timestamps, sender := some sender,
                  senderTransmission := transmission, emittedFields := fields, token := taken.1,
                  event := .none, timestampStatePresent := c.timestampStatePresent,
                  senderTransmissionPresent := true, emitted := true } },
            { status := .prepared
              segment := { token := taken.1, octets := output.length, emit := true }, output })

/-- Hand a transmission the live sender has selected to the encoder, if there is
one. -/
def sendSelected (c : Connection) (selected : Sender × PreparedTransmission) (outputSize : Nat)
    (pushed : Bool) (now : Instant) : Connection × ConnectionPrepareResult :=
  let c := { c with sender := some selected.1 }
  if selected.2.present then c.prepareSenderTransmission selected.1 selected.2 outputSize pushed now
  else (c, { status := .noAction })

end Connection

/-- A transmission another preparation makes when this one selected nothing. -/
def Sender.orElse (selected : Sender × PreparedTransmission)
    (next : Sender → Sender × PreparedTransmission) : Sender × PreparedTransmission :=
  if selected.2.present then selected else next selected.1

namespace Connection

/-- The transmission a deadline calls for: timeout repair, then a persist probe,
then whatever the silly-window override lets out. -/
def selectDeadline (sender : Sender) (now : Instant) : Sender × PreparedTransmission :=
  Sender.orElse
    (Sender.orElse (sender, sender.prepareTimeoutRetransmission now) (·.preparePersistProbe now))
    (·.prepareNew now true)

/-- Loss repair comes before fresh octets. -/
def selectData (sender : Sender) (pushed : Bool) (now : Instant) : Sender × PreparedTransmission :=
  Sender.orElse
    (Sender.orElse (sender, sender.prepareSackRecovery now)
      fun sender => (sender, sender.prepareFastRetransmission)) (·.prepareNew now pushed)

def prepareDeadline (c : Connection) (outputSize : Nat) (now : Instant) :
    Connection × ConnectionPrepareResult :=
  match c.refusal with
  | some status => (c, { status })
  | none =>
    if c.delayedAck.due now then c.prepareCurrentAck outputSize now
    else
      let serviced := c.control.serviceDeadline now
      if serviced.2.emit || serviced.2.event != .none then
        c.stageControl serviced.1 serviced.2 outputSize now
      else
        match c.sender with
        | none => (c, { status := .noAction })
        | some sender => c.sendSelected (selectDeadline sender now) outputSize true now

def prepareData (c : Connection) (outputSize : Nat) (pushed : Bool) (now : Instant) :
    Connection × ConnectionPrepareResult :=
  match c.refusal with
  | some status => (c, { status })
  | none =>
    match c.sender with
    | none => (c, { status := .wrongState })
    | some sender =>
      if c.receiver.isNone || c.receiveWindow.isNone ||
          (c.control.state != .established && c.control.state != .closeWait) then
        (c, { status := .wrongState })
      else c.sendSelected (selectData sender pushed now) outputSize pushed now

/-! ## Ingress -/

/-- The option state a segment leaves behind. -/
structure OptionState where
  negotiated : Option NegotiatedOptions
  localSynOffer : Option SynOptionOffer
  peerSynOptions : Option TypedOptions
  timestamps : TimestampState
  timestampStatePresent : Bool

def optionState (c : Connection) : OptionState where
  negotiated := c.negotiated
  localSynOffer := c.localSynOffer
  peerSynOptions := c.peerSynOptions
  timestamps := c.timestamps
  timestampStatePresent := c.timestampStatePresent

/-- A `SYN, ACK` offers only what the SYN offered. -/
def answerOffer (own : SynOptionOffer) (typed : TypedOptions) : SynOptionOffer :=
  { own with
    offerWindowScale := typed.windowScale.isSome && own.offerWindowScale
    offerTimestamps := typed.timestampValue.isSome && own.offerTimestamps
    offerSack := typed.sackPermitted && own.offerSack
    timestampEchoReply := typed.timestampValue.getD 0#32 }

def negotiate (c : Connection) (localOffer : SynOptionOffer) (typed : TypedOptions)
    (sequence : BitVec 32) (now : Instant) : OptionState :=
  let negotiated := negotiateOptions c.tuple.family localOffer typed
  let fresh : TimestampState := { negotiated := negotiated.timestamps }
  { negotiated := some negotiated, localSynOffer := some localOffer, peerSynOptions := some typed
    timestamps := if negotiated.timestamps then
      (fresh.accept false typed.timestampValue sequence now).1 else fresh
    timestampStatePresent := negotiated.timestamps }

/-- A SYN negotiates, a later segment passes the timestamp check. A valid
connection always has an offer to answer with. -/
def processOptions (c : Connection) (segment : View) (typed : TypedOptions) (now : Instant) :
    OptionState × TimestampAccept :=
  let synSegment := has segment.flags Flag.syn
  match synSegment && c.control.state == .listen, c.offer now,
      synSegment && c.control.state == .synSent, c.localSynOffer with
  | true, some own, _, _ =>
    (c.negotiate (answerOffer own typed) typed segment.sequence now, .accepted)
  | false, _, true, some localOffer =>
    (c.negotiate localOffer typed segment.sequence now, .accepted)
  | _, _, _, _ =>
    if c.negotiated.any (·.timestamps) then
      let checked := c.timestamps.accept (has segment.flags Flag.rst) typed.timestampValue
        segment.sequence now
      ({ c.optionState with timestamps := checked.1 }, checked.2)
    else (c.optionState, .accepted)

def decodedWindow (options : OptionState) (segment : View) : BitVec 32 :=
  match options.negotiated with
  | some negotiated => decodePeerWindow segment.window (has segment.flags Flag.syn) negotiated
  | none => segment.window.setWidth 32

/-- A round-trip sample from the echoed timestamp. -/
def timestampRtt (c : Connection) (options : OptionState) (typed : TypedOptions) (now : Instant) :
    Option Duration :=
  if options.negotiated.any (·.timestamps) then
    typed.timestampEchoReply.map fun echo => (c.localTimestamp now - echo).toNat * 1000000
  else none

/-- The acknowledgment field as the data sender sees it. -/
def acknowledgeData (c : Connection) (sender : Sender) (segment : View) (typed : TypedOptions)
    (options : OptionState) (now : Instant) : Sender :=
  if !has segment.flags Flag.ack then sender
  else
    let window := decodedWindow options segment
    let duplicate := segment.payload.isEmpty &&
      segment.acknowledgment == c.control.sendUnacknowledged && window == c.control.sendWindow
    let acknowledged := sender.acknowledge segment.acknowledgment window duplicate now
      (c.timestampRtt options typed now) (typed.sackBlocks.toList.take typed.sackBlockCount.toNat)
    match acknowledged.2.status with
    | .beyondSent | .invalid => sender
    | .advanced | .duplicate => acknowledged.1

/-- What a processed segment publishes besides the sender. -/
structure StreamUpdate where
  control : ControlBlock
  response : ControlResult
  receiver : ReceiveBuffer
  receiveWindow : ReceiveWindow
  delayedAck : DelayedAcknowledger

/-- Payload for the receive buffer; without an update the control block refused
it, though the arenas of the buffer already hold it. -/
def receiveData (c : Connection) (candidate : ControlBlock) (receiver : ReceiveBuffer)
    (window : ReceiveWindow) (segment : View) (now : Instant) :
    ReceiveBuffer × Option StreamUpdate :=
  let insertion := receiver.accept segment.sequence segment.payload
  let advanced := insertion.2.receiveNext - receiver.receiveNext
  let opened := window.receiveNextAdvanced advanced
  let fin := has segment.flags Flag.fin
  let length := BitVec.ofNat 32 segment.payload.length
  match candidate.commitReceivedData insertion.2.receiveNext opened.advertised
      (if fin then some (segment.sequence + length) else none) now with
  | none => (insertion.1, none)
  | some (control, response) =>
    let inOrder := segment.sequence == receiver.receiveNext && advanced != 0#32 &&
      advanced.toNat == segment.payload.length
    let scheduled := c.delayedAck.onSegment inOrder length fin now
    (insertion.1, some
      { control
        response :=
          if scheduled.2 == .immediate then response else { response with emit := false }
        receiver := insertion.1, receiveWindow := opened, delayedAck := scheduled.1 })

/-- Publish the effects of a segment; its answer is a transition of its own. -/
def publish (c : Connection) (sender : Sender) (update : StreamUpdate) (options : OptionState)
    (outputSize : Nat) (now : Instant) : Connection × ConnectionPrepareResult :=
  let published := { c with
    control := update.control, sender := some sender, receiver := some update.receiver,
    receiveWindow := some update.receiveWindow, delayedAck := update.delayedAck,
    timestamps := options.timestamps, timestampStatePresent := options.timestampStatePresent }
  if !update.response.emit then (published, { status := .noAction })
  else published.stageControl update.control update.response outputSize now

/-- A segment for a connection whose stream exists. -/
def ingestStream (c : Connection) (sender : Sender) (receiver : ReceiveBuffer)
    (window : ReceiveWindow) (result : ControlBlock × ControlResult) (segment : View)
    (typed : TypedOptions) (options : OptionState) (outputSize : Nat) (now : Instant) :
    Connection × ConnectionPrepareResult :=
  let acknowledged := c.acknowledgeData sender segment typed options now
  if result.2.event == .dataRequiresStreamOwner then
    match c.receiveData result.1 receiver window segment now with
    | (_, some update) => c.publish acknowledged update options outputSize now
    | (stored, none) =>
      -- The candidates are dropped, but they worked on the live arenas.
      ({ c with
          sender := some (sender.share acknowledged), receiver := some (receiver.share stored) },
        { status := .payloadRequiresStreamOwner })
  else
    c.publish acknowledged
      { control := result.1, response := result.2, receiver, receiveWindow := window
        delayedAck := if has segment.flags Flag.fin && result.2.emit then
          DelayedAcknowledger.requestImmediate now else c.delayedAck } options outputSize now

def handshaking (state : TcpState) : Bool :=
  match state with
  | .listen | .synSent | .synReceived => true
  | _ => false

/-- A well-formed segment of this connection. -/
def ingestSegment (c : Connection) (segment : View) (typed : TypedOptions)
    (passiveInitialSequence : BitVec 32) (outputSize : Nat) (now : Instant) :
    Connection × ConnectionPrepareResult :=
  let checked := c.processOptions segment typed now
  match checked.2 with
  | .missingRequired => (c, { status := .missingTimestamp })
  | .stale => c.stageControl c.control c.control.acknowledgment outputSize now
  | .accepted =>
    let options := checked.1
    let result := c.control.onSegment segment passiveInitialSequence now
      (some (decodedWindow options segment))
    match c.sender, c.receiver, c.receiveWindow, handshaking c.control.state with
    | some sender, some receiver, some window, false =>
      c.ingestStream sender receiver window result segment typed options outputSize now
    | _, _, _, _ =>
      c.stage result.1 result.2 options.localSynOffer options.peerSynOptions options.negotiated
        options.timestamps options.timestampStatePresent outputSize now

/-- The segment, if it is addressed to this connection and well formed. -/
def parse (c : Connection) (bytes : List Octet) : Option (View × TypedOptions) := do
  let segment ← if c.tuple.family == Family.ipv4 then
      parseIpv4 bytes c.tuple.remoteIpv4 c.tuple.localIpv4
    else parseIpv6 bytes c.tuple.remoteIpv6 c.tuple.localIpv6
  if segment.sourcePort != c.tuple.remotePort || segment.destinationPort != c.tuple.localPort then
    none
  else
    let typed ← parseTypedOptions segment.options
    return (segment, typed)

def prepareIngress (c : Connection) (bytes : List Octet) (passiveInitialSequence : BitVec 32)
    (outputSize : Nat) (now : Instant) : Connection × ConnectionPrepareResult :=
  match c.refusal with
  | some status => (c, { status })
  | none =>
    match c.parse bytes with
    | none => (c, { status := .malformedSegment })
    | some (segment, typed) => c.ingestSegment segment typed passiveInitialSequence outputSize now

/-! ## Admission -/

def headerOctets (negotiated : Option NegotiatedOptions) : BitVec 32 :=
  20#32 + (if negotiated.any (·.timestamps) then 12#32 else 0#32)

def freshSender (c : Connection) (negotiated : NegotiatedOptions) (effectiveMss : BitVec 32)
    (now : Instant) : Sender :=
  ((Sender.create c.storage.sendBytes c.storage.transmissionHistory c.storage.sackRanges
    c.storage.sackWorkspace c.control.sendNext effectiveMss).setSackEnabled
      negotiated.sack).updateReceiverWindow c.control.sendWindow now

def initializeStream (c : Connection) (now : Instant) : Connection :=
  match c.negotiated with
  | none => c
  | some negotiated =>
    if c.control.state != .established || c.sender.isSome then c
    else
      let effectiveMss := effectiveSendMss negotiated.sendMss c.policy.maximumTransportMessage
        (headerOctets (some negotiated)) 0#32
      if effectiveMss == 0#32 then c
      else
        let sender := c.freshSender negotiated effectiveMss now
        let receiver := ReceiveBuffer.create c.storage.receiveBytes c.storage.receiveBitmap
          c.control.receiveNext
        let receiveWindow := ReceiveWindow.create
          (BitVec.ofNat 32 c.storage.receiveBytes.length) effectiveMss
        if !sender.valid || !receiver.valid || !receiveWindow.valid then
          { c with sender := none, receiver := none, receiveWindow := none }
        else
          { c with
            sender := some sender, receiver := some receiver, receiveWindow := some receiveWindow }

/-- Install an admitted transition with the sender it leaves. -/
def install (c : Connection) (p : PendingTransition) (sender : Option Sender) (now : Instant) :
    Connection :=
  let installed := initializeStream { c with
    control := p.control, localSynOffer := p.localSynOffer, peerSynOptions := p.peerSynOptions,
    negotiated := p.negotiated, timestamps := p.timestamps, sender,
    timestampStatePresent := p.timestampStatePresent } now
  { installed with
    delayedAck := if p.emitted && has p.emittedFields.flags Flag.ack then
      DelayedAcknowledger.acknowledgeCommitted else installed.delayedAck
    pending := none }

/-- The staged copy of the sender over the live arenas. -/
def stagedSender (c : Connection) (p : PendingTransition) : Option Sender :=
  match p.sender, c.sender with
  | some copy, some live => some (copy.share live)
  | copy, _ => copy

/-- An acknowledgment that entered the lower queue moves Last.ACK.sent. -/
def noteAcknowledgment (p : PendingTransition) : PendingTransition :=
  { p with
    timestamps :=
      if p.emitted && has p.emittedFields.flags Flag.ack && p.timestampStatePresent then
        p.timestamps.acknowledgeSent p.emittedFields.acknowledgment
      else p.timestamps }

def commit (c : Connection) (prepared : PreparedConnectionSegment) (now : Instant) :
    Connection × Bool :=
  match c.pending with
  | none => (c, false)
  | some p =>
    if !prepared.present || p.token != prepared.token || p.emitted != prepared.emit then (c, false)
    else
      let noted := noteAcknowledgment p
      if !p.senderTransmissionPresent then (c.install noted (c.stagedSender p) now, true)
      else
        match c.stagedSender p with
        | none => ({ c with pending := some noted }, false)
        | some staged =>
          let admitted := staged.commit p.senderTransmission now
          if admitted.2 then (c.install noted (some admitted.1) now, true)
          else
            ({ c with
                sender := c.sender.map (·.share admitted.1)
                pending := some { noted with sender := some admitted.1 } }, false)

def discard (c : Connection) (prepared : PreparedConnectionSegment) : Connection × Bool :=
  match c.pending with
  | none => (c, false)
  | some p =>
    if !prepared.present || p.token != prepared.token then (c, false)
    else ({ c with pending := none }, true)

/-! ## The application's side -/

def write (c : Connection) (bytes : List Octet) (now : Instant) : Connection × Nat :=
  match c.sender with
  | none => (c, 0)
  | some sender =>
    let written := sender.write bytes now
    ({ c with sender := some written.1 }, written.2)

def read (c : Connection) (outputSize : Nat) (now : Instant) : Connection × List Octet :=
  match c.receiver, c.receiveWindow with
  | some receiver, some window =>
    let taken := receiver.read outputSize
    if taken.2.isEmpty then ({ c with receiver := some taken.1 }, taken.2)
    else
      let opened := window.applicationSpaceAvailable taken.1.advertisedWindow
      if !opened.2 then
        ({ c with receiver := some taken.1, receiveWindow := some opened.1 }, taken.2)
      else
        ({ c with
            receiver := some taken.1, receiveWindow := some opened.1,
            control := (c.control.setReceiveWindow opened.1.advertised).1
            delayedAck := DelayedAcknowledger.requestImmediate now }, taken.2)
  | _, _ => (c, [])

def reduceMaximumTransportMessage (c : Connection) (maximumTransportMessage : BitVec 32) :
    Connection × Bool :=
  if decide (maximumTransportMessage ≤ 20#32) ||
      decide (c.policy.maximumTransportMessage < maximumTransportMessage) then (c, false)
  else if maximumTransportMessage == c.policy.maximumTransportMessage then (c, true)
  else
    let reduced := { c with
      policy := { c.policy with maximumTransportMessage := maximumTransportMessage } }
    match c.sender with
    | none => (reduced, true)
    | some sender =>
      let peerMss := match c.negotiated with
        | some negotiated => negotiated.sendMss
        | none => defaultSendMss c.tuple.family
      let senderMss := effectiveSendMss peerMss maximumTransportMessage
        (headerOctets c.negotiated) 0#32
      if senderMss == 0#32 then (c, false)
      else
        let lowered := sender.reduceMss senderMss
        if !lowered.2 then (c, false) else ({ reduced with sender := some lowered.1 }, true)

def nextDeadline (c : Connection) : Option Instant :=
  Sender.earlier (Sender.earlier c.control.nextDeadline c.delayedAck.deadline)
    (c.sender.bind (·.nextDeadline))

end Connection

end RouterSim.Tcp
