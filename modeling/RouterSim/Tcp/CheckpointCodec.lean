import RouterSim.Lib.Codec
import RouterSim.Tcp.Checkpoint

namespace RouterSim.Tcp

namespace CheckpointCodec

open Codec

/-! ## Writers -/

namespace Write

open Writer

def fields (value : Fields) : Writer := do
  integer value.sourcePort
  integer value.destinationPort
  integer value.sequence
  integer value.acknowledgment
  integer value.flags
  integer value.window
  integer value.urgentPointer

def retransmission (value : RetransmissionCheckpoint) : Writer := do
  integer value.smoothedRttNanoseconds
  integer value.rttVariationNanoseconds
  integer value.timeoutNanoseconds
  boolean value.measurementPresent
  boolean value.synRetransmitted

def congestion (value : CongestionCheckpoint) : Writer := do
  integer value.senderMss
  integer value.congestionWindow
  integer value.slowStartThreshold
  integer value.duplicateAcknowledgments
  integer value.recoveryInflationLimit
  boolean value.fastRecovery
  boolean value.sackRecovery

def control (value : ControlBlockCheckpoint) : Writer := do
  retransmission value.retransmission
  congestion value.congestion
  fields value.outstandingControl
  integer value.retransmissionRemainingNanoseconds
  integer value.timeWaitRemainingNanoseconds
  integer value.sendUnacknowledged
  integer value.sendNext
  integer value.sendWindow
  integer value.sendWindowSequence
  integer value.sendWindowAcknowledgment
  integer value.receiveNext
  integer value.receiveWindow
  integer value.initialSendSequence
  integer value.initialReceiveSequence
  integer value.localPort
  integer value.remotePort
  integer value.state
  boolean value.passiveOpen
  boolean value.outstandingControlPresent
  boolean value.localFinSent

def synOffer (value : SynOptionOffer) : Writer := do
  integer value.receiveMss
  integer value.receiveWindowShift
  boolean value.offerWindowScale
  boolean value.offerTimestamps
  boolean value.offerSack
  integer value.timestampValue
  integer value.timestampEchoReply

def sackBlock (value : SackBlock) : Writer := do
  integer value.leftEdge
  integer value.rightEdge

def typedOptions (value : TypedOptions) : Writer := do
  optional integer value.maximumSegmentSize
  optional integer value.windowScale
  optional integer value.timestampValue
  optional integer value.timestampEchoReply
  integer value.sackBlockCount
  array sackBlock value.sackBlocks
  boolean value.sackPermitted

def negotiated (value : NegotiatedOptions) : Writer := do
  integer value.sendMss
  integer value.sendWindowShift
  integer value.receiveWindowShift
  boolean value.windowScaling
  boolean value.timestamps
  boolean value.sack

def timestamp (value : TimestampCheckpoint) : Writer := do
  integer value.recent
  integer value.lastAckSent
  integer value.recentAgeNanoseconds
  boolean value.negotiated
  boolean value.recentPresent

def sendBuffer (value : SendBufferCheckpoint) : Writer := do
  byteVector value.storage
  integer value.sendUnacknowledged
  integer value.sendNext
  integer value.writeNext
  integer value.head
  integer value.generation

def historyRecord (value : TransmissionRecordCheckpoint) : Writer := do
  integer value.first
  integer value.last
  integer value.retransmissions
  integer value.firstAgeNanoseconds
  integer value.lastAgeNanoseconds

def history (value : TransmissionHistoryCheckpoint) : Writer := vector historyRecord value.records

def failure (value : FailureCheckpoint) : Writer := do
  integer value.segmentFirst
  integer value.segmentEnd
  integer value.retransmissions
  integer value.segmentAgeNanoseconds
  integer value.dataR2Nanoseconds
  boolean value.active
  boolean value.syn
  boolean value.negativeAdviceReported
  boolean value.dataR2Infinite

def sackRange (value : SackRange) : Writer := do
  integer value.first
  integer value.last

def sack (value : SackScoreboardCheckpoint) : Writer := do
  vector sackRange value.ranges
  integer value.highAck
  integer value.highDataEnd
  integer value.highRetransmittedEnd
  integer value.recoveryPoint
  integer value.rescueRetransmitted
  integer value.duplicateAcknowledgments
  boolean value.recovery
  boolean value.rescuePresent
  boolean value.recoverySuppressed

def persist (value : PersistCheckpoint) : Writer := do
  integer value.remainingNanoseconds
  integer value.intervalNanoseconds
  boolean value.active

def sender (value : SenderCheckpoint) : Writer := do
  sendBuffer value.bytes
  history value.history
  failure value.failure
  sack value.sack
  congestion value.congestion
  retransmission value.retransmission
  persist value.persist
  integer value.receiverWindow
  integer value.maximumReceiverWindow
  integer value.rttSequenceEnd
  integer value.retransmissionRemainingNanoseconds
  integer value.rttProbeAgeNanoseconds
  integer value.swsOverrideRemainingNanoseconds
  integer value.generation
  integer value.pendingFailureAction
  boolean value.retransmissionDeadlinePresent
  boolean value.rttProbePresent
  boolean value.rttProbeRetransmitted
  boolean value.fastRetransmissionPending
  boolean value.swsOverrideDeadlinePresent
  boolean value.nagleEnabled
  boolean value.sackEnabled

def receiver (value : ReceiveBufferCheckpoint) : Writer := do
  byteVector value.storage
  byteVector value.received
  integer value.readSequence
  integer value.receiveNext
  integer value.head
  integer value.recentSequence
  boolean value.recentSequencePresent

def receiveWindow (value : ReceiveWindowCheckpoint) : Writer := do
  integer value.capacity
  integer value.effectiveSendMss
  integer value.advertised

def delayedAck (value : DelayedAckCheckpoint) : Writer := do
  integer value.remainingNanoseconds
  integer value.dataSegmentsSinceAck
  boolean value.deadlinePresent

def tuple (value : ConnectionTuple) : Writer := do
  integer value.family
  octetArray value.localIpv4
  octetArray value.remoteIpv4
  octetArray value.localIpv6
  octetArray value.remoteIpv6
  integer value.interfaceId
  integer value.localPort
  integer value.remotePort

def policy (value : ConnectionOptionPolicy) : Writer := do
  integer value.maximumTransportMessage
  integer value.receiveCapacity
  integer value.timestampOffset
  boolean value.windowScaling
  boolean value.timestamps
  boolean value.sack

def connection (value : ConnectionCheckpoint) : Writer := do
  tuple value.tuple
  policy value.policy
  control value.control
  optional synOffer value.localSynOffer
  optional typedOptions value.peerSynOptions
  optional negotiated value.negotiated
  timestamp value.timestamps
  optional sender value.sender
  optional receiver value.receiver
  optional receiveWindow value.receiveWindow
  delayedAck value.delayedAck
  integer value.timestampElapsedNanoseconds
  integer value.nextToken
  boolean value.timestampStatePresent

def binding (value : EndpointBinding) : Writer := do
  integer value.family
  octetArray value.ipv4
  octetArray value.ipv6
  integer value.interfaceId
  integer value.port

def resources (value : SocketResources) : Writer := do
  integer value.sendBufferBytes
  integer value.receiveBufferBytes
  integer value.transmissionRecords
  integer value.sackRanges

def socketHandle (value : EndpointSocketHandle) : Writer := do
  integer value.index
  integer value.generation

def networkError (value : Ipv6NetworkError) : Writer := do
  octetArray value.remote
  integer value.interfaceId
  integer value.parameter
  integer value.remotePort
  integer value.type
  integer value.code
  integer value.kind

def socket (value : EndpointSocketCheckpoint) : Writer := do
  binding value.binding
  resources value.resources
  optional connection value.connection
  vector socketHandle value.accepted
  optional integer value.listenerIndex
  optional networkError value.networkError
  integer value.backlog
  integer value.generation
  boolean value.occupied
  boolean value.listener
  boolean value.queuedForAccept

def isn (value : IsnCheckpoint) : Writer := do
  octetArray value.secret
  integer value.clockQuanta

def endpoint (value : EndpointCheckpoint) : Writer := do
  isn value.isn
  vector socket value.sockets
  integer value.ephemeralCursor
  integer value.nextEndpointToken

end Write

/-! ## Readers -/

namespace Read

open Reader

def fields : Reader Fields := do
  let sourcePort ← integer 16
  let destinationPort ← integer 16
  let sequence ← integer 32
  let acknowledgment ← integer 32
  let flags ← integer 8
  let window ← integer 16
  let urgentPointer ← integer 16
  pure ⟨sourcePort, destinationPort, sequence, acknowledgment, flags, window, urgentPointer⟩

def retransmission : Reader RetransmissionCheckpoint := do
  let smoothedRttNanoseconds ← integer 64
  let rttVariationNanoseconds ← integer 64
  let timeoutNanoseconds ← integer 64
  let measurementPresent ← boolean
  let synRetransmitted ← boolean
  pure ⟨smoothedRttNanoseconds, rttVariationNanoseconds, timeoutNanoseconds, measurementPresent,
    synRetransmitted⟩

def congestion : Reader CongestionCheckpoint := do
  let senderMss ← integer 32
  let congestionWindow ← integer 32
  let slowStartThreshold ← integer 32
  let duplicateAcknowledgments ← integer 32
  let recoveryInflationLimit ← integer 32
  let fastRecovery ← boolean
  let sackRecovery ← boolean
  pure ⟨senderMss, congestionWindow, slowStartThreshold, duplicateAcknowledgments,
    recoveryInflationLimit, fastRecovery, sackRecovery⟩

def control : Reader ControlBlockCheckpoint := do
  let retransmission ← retransmission
  let congestion ← congestion
  let outstandingControl ← fields
  let retransmissionRemainingNanoseconds ← integer 64
  let timeWaitRemainingNanoseconds ← integer 64
  let sendUnacknowledged ← integer 32
  let sendNext ← integer 32
  let sendWindow ← integer 32
  let sendWindowSequence ← integer 32
  let sendWindowAcknowledgment ← integer 32
  let receiveNext ← integer 32
  let receiveWindow ← integer 32
  let initialSendSequence ← integer 32
  let initialReceiveSequence ← integer 32
  let localPort ← integer 16
  let remotePort ← integer 16
  let state ← integer 8
  let passiveOpen ← boolean
  let outstandingControlPresent ← boolean
  let localFinSent ← boolean
  pure ⟨retransmission, congestion, outstandingControl, retransmissionRemainingNanoseconds,
    timeWaitRemainingNanoseconds, sendUnacknowledged, sendNext, sendWindow, sendWindowSequence,
    sendWindowAcknowledgment, receiveNext, receiveWindow, initialSendSequence,
    initialReceiveSequence, localPort, remotePort, state, passiveOpen, outstandingControlPresent,
    localFinSent⟩

def synOffer : Reader SynOptionOffer := do
  let receiveMss ← integer 16
  let receiveWindowShift ← integer 8
  let offerWindowScale ← boolean
  let offerTimestamps ← boolean
  let offerSack ← boolean
  let timestampValue ← integer 32
  let timestampEchoReply ← integer 32
  pure ⟨receiveMss, receiveWindowShift, offerWindowScale, offerTimestamps, offerSack,
    timestampValue, timestampEchoReply⟩

def sackBlock : Reader SackBlock := do
  let leftEdge ← integer 32
  let rightEdge ← integer 32
  pure ⟨leftEdge, rightEdge⟩

def typedOptions : Reader TypedOptions := do
  let maximumSegmentSize ← Reader.optional (integer 16)
  let windowScale ← Reader.optional (integer 8)
  let timestampValue ← Reader.optional (integer 32)
  let timestampEchoReply ← Reader.optional (integer 32)
  let sackBlockCount ← integer 8
  let sackBlocks ← array sackBlock 4
  let sackPermitted ← boolean
  pure ⟨maximumSegmentSize, windowScale, timestampValue, timestampEchoReply, sackBlocks,
    sackBlockCount, sackPermitted⟩

def negotiated : Reader NegotiatedOptions := do
  let sendMss ← integer 32
  let sendWindowShift ← integer 8
  let receiveWindowShift ← integer 8
  let windowScaling ← boolean
  let timestamps ← boolean
  let sack ← boolean
  pure ⟨sendMss, sendWindowShift, receiveWindowShift, windowScaling, timestamps, sack⟩

def timestamp : Reader TimestampCheckpoint := do
  let recent ← integer 32
  let lastAckSent ← integer 32
  let recentAgeNanoseconds ← integer 64
  let negotiated ← boolean
  let recentPresent ← boolean
  pure ⟨recent, lastAckSent, recentAgeNanoseconds, negotiated, recentPresent⟩

def sendBuffer : Reader SendBufferCheckpoint := do
  let storage ← byteVector arenaLimit
  let sendUnacknowledged ← integer 32
  let sendNext ← integer 32
  let writeNext ← integer 32
  let head ← integer 32
  let generation ← integer 64
  pure ⟨storage, sendUnacknowledged, sendNext, writeNext, head, generation⟩

def historyRecord : Reader TransmissionRecordCheckpoint := do
  let first ← integer 32
  let last ← integer 32
  let retransmissions ← integer 32
  let firstAgeNanoseconds ← integer 64
  let lastAgeNanoseconds ← integer 64
  pure ⟨first, last, retransmissions, firstAgeNanoseconds, lastAgeNanoseconds⟩

def history : Reader TransmissionHistoryCheckpoint := do
  let records ← vector 28 historyRecord
  pure ⟨records⟩

def failure : Reader FailureCheckpoint := do
  let segmentFirst ← integer 32
  let segmentEnd ← integer 32
  let retransmissions ← integer 32
  let segmentAgeNanoseconds ← integer 64
  let dataR2Nanoseconds ← integer 64
  let active ← boolean
  let syn ← boolean
  let negativeAdviceReported ← boolean
  let dataR2Infinite ← boolean
  pure ⟨segmentFirst, segmentEnd, retransmissions, segmentAgeNanoseconds, dataR2Nanoseconds,
    active, syn, negativeAdviceReported, dataR2Infinite⟩

def sackRange : Reader SackRange := do
  let first ← integer 32
  let last ← integer 32
  pure ⟨first, last⟩

def sack : Reader SackScoreboardCheckpoint := do
  let ranges ← vector 8 sackRange
  let highAck ← integer 32
  let highDataEnd ← integer 32
  let highRetransmittedEnd ← integer 32
  let recoveryPoint ← integer 32
  let rescueRetransmitted ← integer 32
  let duplicateAcknowledgments ← integer 32
  let recovery ← boolean
  let rescuePresent ← boolean
  let recoverySuppressed ← boolean
  pure ⟨ranges, highAck, highDataEnd, highRetransmittedEnd, recoveryPoint, rescueRetransmitted,
    duplicateAcknowledgments, recovery, rescuePresent, recoverySuppressed⟩

def persist : Reader PersistCheckpoint := do
  let remainingNanoseconds ← integer 64
  let intervalNanoseconds ← integer 64
  let active ← boolean
  pure ⟨remainingNanoseconds, intervalNanoseconds, active⟩

def sender : Reader SenderCheckpoint := do
  let bytes ← sendBuffer
  let history ← history
  let failure ← failure
  let sack ← sack
  let congestion ← congestion
  let retransmission ← retransmission
  let persist ← persist
  let receiverWindow ← integer 32
  let maximumReceiverWindow ← integer 32
  let rttSequenceEnd ← integer 32
  let retransmissionRemainingNanoseconds ← integer 64
  let rttProbeAgeNanoseconds ← integer 64
  let swsOverrideRemainingNanoseconds ← integer 64
  let generation ← integer 64
  let pendingFailureAction ← integer 8
  let retransmissionDeadlinePresent ← boolean
  let rttProbePresent ← boolean
  let rttProbeRetransmitted ← boolean
  let fastRetransmissionPending ← boolean
  let swsOverrideDeadlinePresent ← boolean
  let nagleEnabled ← boolean
  let sackEnabled ← boolean
  pure ⟨bytes, history, failure, sack, congestion, retransmission, persist, receiverWindow,
    maximumReceiverWindow, rttSequenceEnd, retransmissionRemainingNanoseconds,
    rttProbeAgeNanoseconds, swsOverrideRemainingNanoseconds, generation, pendingFailureAction,
    retransmissionDeadlinePresent, rttProbePresent, rttProbeRetransmitted,
    fastRetransmissionPending, swsOverrideDeadlinePresent, nagleEnabled, sackEnabled⟩

def receiver : Reader ReceiveBufferCheckpoint := do
  let storage ← byteVector arenaLimit
  let received ← byteVector arenaLimit
  let readSequence ← integer 32
  let receiveNext ← integer 32
  let head ← integer 32
  let recentSequence ← integer 32
  let recentSequencePresent ← boolean
  pure ⟨storage, received, readSequence, receiveNext, head, recentSequence, recentSequencePresent⟩

def receiveWindow : Reader ReceiveWindowCheckpoint := do
  let capacity ← integer 32
  let effectiveSendMss ← integer 32
  let advertised ← integer 32
  pure ⟨capacity, effectiveSendMss, advertised⟩

def delayedAck : Reader DelayedAckCheckpoint := do
  let remainingNanoseconds ← integer 64
  let dataSegmentsSinceAck ← integer 8
  let deadlinePresent ← boolean
  pure ⟨remainingNanoseconds, dataSegmentsSinceAck, deadlinePresent⟩

def tuple : Reader ConnectionTuple := do
  let family ← integer 8
  let localIpv4 ← octetArray 4
  let remoteIpv4 ← octetArray 4
  let localIpv6 ← octetArray 16
  let remoteIpv6 ← octetArray 16
  let interfaceId ← integer 64
  let localPort ← integer 16
  let remotePort ← integer 16
  pure ⟨family, localIpv4, remoteIpv4, localIpv6, remoteIpv6, interfaceId, localPort, remotePort⟩

def policy : Reader ConnectionOptionPolicy := do
  let maximumTransportMessage ← integer 32
  let receiveCapacity ← integer 32
  let timestampOffset ← integer 32
  let windowScaling ← boolean
  let timestamps ← boolean
  let sack ← boolean
  pure ⟨maximumTransportMessage, receiveCapacity, timestampOffset, windowScaling, timestamps, sack⟩

def connection : Reader ConnectionCheckpoint := do
  let tuple ← tuple
  let policy ← policy
  let control ← control
  let localSynOffer ← Reader.optional synOffer
  let peerSynOptions ← Reader.optional typedOptions
  let negotiated ← Reader.optional negotiated
  let timestamps ← timestamp
  let sender ← Reader.optional sender
  let receiver ← Reader.optional receiver
  let receiveWindow ← Reader.optional receiveWindow
  let delayedAck ← delayedAck
  let timestampElapsedNanoseconds ← integer 64
  let nextToken ← integer 64
  let timestampStatePresent ← boolean
  pure ⟨tuple, policy, control, localSynOffer, peerSynOptions, negotiated, timestamps, sender,
    receiver, receiveWindow, delayedAck, timestampElapsedNanoseconds, nextToken,
    timestampStatePresent⟩

def binding : Reader EndpointBinding := do
  let family ← integer 8
  let ipv4 ← octetArray 4
  let ipv6 ← octetArray 16
  let interfaceId ← integer 64
  let port ← integer 16
  pure ⟨family, ipv4, ipv6, interfaceId, port⟩

def resources : Reader SocketResources := do
  let sendBufferBytes ← integer 64
  let receiveBufferBytes ← integer 64
  let transmissionRecords ← integer 64
  let sackRanges ← integer 64
  pure ⟨sendBufferBytes, receiveBufferBytes, transmissionRecords, sackRanges⟩

def socketHandle : Reader EndpointSocketHandle := do
  let index ← integer 32
  let generation ← integer 32
  pure ⟨index, generation⟩

def networkErrorFields : Reader Ipv6NetworkError := do
  let remote ← octetArray 16
  let interfaceId ← integer 64
  let parameter ← integer 32
  let remotePort ← integer 16
  let type ← integer 8
  let code ← integer 8
  let kind ← integer 8
  pure ⟨remote, interfaceId, parameter, remotePort, type, code, kind⟩

def networkError : Reader Ipv6NetworkError := do
  let value ← networkErrorFields
  if value.type < icmpv6InformationalTypeBoundary && value.kind ≤ NetworkErrorKind.unknown then
    pure value
  else Alternative.failure

def socket : Reader EndpointSocketCheckpoint := do
  let binding ← binding
  let resources ← resources
  let connection ← Reader.optional connection
  let accepted ← vector 8 socketHandle
  let listenerIndex ← Reader.optional (integer 32)
  let networkError ← Reader.optional networkError
  let backlog ← integer 64
  let generation ← integer 32
  let occupied ← boolean
  let listener ← boolean
  let queuedForAccept ← boolean
  pure ⟨binding, resources, connection, accepted, listenerIndex, networkError, backlog,
    generation, occupied, listener, queuedForAccept⟩

def isn : Reader IsnCheckpoint := do
  let secret ← octetArray 32
  let clockQuanta ← integer 32
  pure ⟨secret, clockQuanta⟩

def endpoint : Reader EndpointCheckpoint := do
  let isn ← isn
  let sockets ← vector 32 socket
  let ephemeralCursor ← integer 16
  let nextEndpointToken ← integer 64
  pure ⟨isn, sockets, ephemeralCursor, nextEndpointToken⟩

end Read

def encode (state : EndpointCheckpoint) : Option (List Octet) :=
  if 0xffffffff < state.sockets.length then none
  else (Write.endpoint state []).map fun result => result.2

/-- Every octet has to be used up. -/
def decode (bytes : List Octet) : Option EndpointCheckpoint :=
  match Read.endpoint bytes with
  | some (state, []) => some state
  | _ => none

/-! ## Each reader undoes its writer -/

open Lawful

theorem fields_lawful : Lawful 17 Write.fields Read.fields (fun _ => True) := by
  iterate 6 refine (integer (by decide)).next fun _ => ?_
  exact last (integer (by decide)) (by simp) (by rintro ⟨⟩; grind)

theorem retransmission_lawful :
    Lawful 26 Write.retransmission Read.retransmission (fun _ => True) := by
  iterate 3 refine (integer (by decide)).next fun _ => ?_
  refine boolean.next fun _ => ?_
  exact last boolean (by simp) (by rintro ⟨⟩; grind)

theorem congestion_lawful : Lawful 22 Write.congestion Read.congestion (fun _ => True) := by
  iterate 5 refine (integer (by decide)).next fun _ => ?_
  refine boolean.next fun _ => ?_
  exact last boolean (by simp) (by rintro ⟨⟩; grind)

theorem control_lawful : Lawful 0 Write.control Read.control (fun _ => True) := by
  refine retransmission_lawful.next fun _ => ?_
  refine congestion_lawful.next fun _ => ?_
  refine fields_lawful.next fun _ => ?_
  iterate 14 refine (integer (by decide)).next fun _ => ?_
  iterate 2 refine boolean.next fun _ => ?_
  exact last boolean (by simp) (by rintro ⟨⟩; grind)

theorem synOffer_lawful : Lawful 0 Write.synOffer Read.synOffer (fun _ => True) := by
  iterate 2 refine (integer (by decide)).next fun _ => ?_
  iterate 3 refine boolean.next fun _ => ?_
  refine (integer (by decide)).next fun _ => ?_
  exact last (integer (by decide)) (by simp) (by rintro ⟨⟩; grind)

theorem sackBlock_lawful : Lawful 8 Write.sackBlock Read.sackBlock (fun _ => True) := by
  refine (integer (by decide)).next fun _ => ?_
  exact last (integer (by decide)) (by simp) (by rintro ⟨⟩; grind)

theorem typedOptions_lawful : Lawful 0 Write.typedOptions Read.typedOptions (fun _ => True) := by
  iterate 4 refine (optional_any (integer (by decide))).next fun _ => ?_
  refine (integer (by decide)).next fun _ => ?_
  refine (array sackBlock_lawful 4).next fun _ => ?_
  exact last boolean (by simp) (by rintro ⟨⟩; grind)

theorem negotiated_lawful : Lawful 0 Write.negotiated Read.negotiated (fun _ => True) := by
  iterate 3 refine (integer (by decide)).next fun _ => ?_
  iterate 2 refine boolean.next fun _ => ?_
  exact last boolean (by simp) (by rintro ⟨⟩; grind)

theorem timestamp_lawful : Lawful 0 Write.timestamp Read.timestamp (fun _ => True) := by
  iterate 3 refine (integer (by decide)).next fun _ => ?_
  refine boolean.next fun _ => ?_
  exact last boolean (by simp) (by rintro ⟨⟩; grind)

theorem sendBuffer_lawful :
    Lawful 0 Write.sendBuffer Read.sendBuffer SendBufferCheckpoint.Fits := by
  refine Lawful.bind (byteVector (by decide))
    (fun _ _ => ?_) (by simp_all [SendBufferCheckpoint.Fits])
  iterate 4 refine (integer (by decide)).next fun _ => ?_
  exact last (integer (by decide)) (by simp_all [SendBufferCheckpoint.Fits])
    (by rintro ⟨⟩; grind)

theorem historyRecord_lawful :
    Lawful 28 Write.historyRecord Read.historyRecord (fun _ => True) := by
  iterate 4 refine (integer (by decide)).next fun _ => ?_
  exact last (integer (by decide)) (by simp) (by rintro ⟨⟩; grind)

theorem history_lawful :
    Lawful 0 Write.history Read.history TransmissionHistoryCheckpoint.Fits := by
  exact last (vector_any historyRecord_lawful (by decide) (by decide))
    (by simp_all [TransmissionHistoryCheckpoint.Fits]) fun _ h => ⟨h, rfl⟩

theorem failure_lawful : Lawful 0 Write.failure Read.failure (fun _ => True) := by
  iterate 5 refine (integer (by decide)).next fun _ => ?_
  iterate 3 refine boolean.next fun _ => ?_
  exact last boolean (by simp) (by rintro ⟨⟩; grind)

theorem sackRange_lawful : Lawful 8 Write.sackRange Read.sackRange (fun _ => True) := by
  refine (integer (by decide)).next fun _ => ?_
  exact last (integer (by decide)) (by simp) (by rintro ⟨⟩; grind)

theorem sack_lawful : Lawful 0 Write.sack Read.sack SackScoreboardCheckpoint.Fits := by
  refine Lawful.bind (vector_any sackRange_lawful (by decide) (by decide))
    (fun _ _ => ?_) (by simp_all [SackScoreboardCheckpoint.Fits])
  iterate 6 refine (integer (by decide)).next fun _ => ?_
  iterate 2 refine boolean.next fun _ => ?_
  exact last boolean (by simp_all [SackScoreboardCheckpoint.Fits]) (by rintro ⟨⟩; grind)

theorem persist_lawful : Lawful 0 Write.persist Read.persist (fun _ => True) := by
  iterate 2 refine (integer (by decide)).next fun _ => ?_
  exact last boolean (by simp) (by rintro ⟨⟩; grind)

theorem sender_lawful : Lawful 0 Write.sender Read.sender SenderCheckpoint.Fits := by
  refine Lawful.bind sendBuffer_lawful (fun _ _ => ?_) (by simp_all [SenderCheckpoint.Fits])
  refine Lawful.bind history_lawful (fun _ _ => ?_) (by simp_all [SenderCheckpoint.Fits])
  refine failure_lawful.next fun _ => ?_
  refine Lawful.bind sack_lawful (fun _ _ => ?_) (by simp_all [SenderCheckpoint.Fits])
  refine congestion_lawful.next fun _ => ?_
  refine retransmission_lawful.next fun _ => ?_
  refine persist_lawful.next fun _ => ?_
  iterate 8 refine (integer (by decide)).next fun _ => ?_
  iterate 6 refine boolean.next fun _ => ?_
  exact last boolean (by simp_all [SenderCheckpoint.Fits]) (by rintro ⟨⟩; grind)

theorem receiver_lawful : Lawful 0 Write.receiver Read.receiver ReceiveBufferCheckpoint.Fits := by
  refine Lawful.bind (byteVector (by decide))
    (fun _ _ => ?_) (by simp_all [ReceiveBufferCheckpoint.Fits])
  refine Lawful.bind (byteVector (by decide))
    (fun _ _ => ?_) (by simp_all [ReceiveBufferCheckpoint.Fits])
  iterate 4 refine (integer (by decide)).next fun _ => ?_
  exact last boolean (by simp_all [ReceiveBufferCheckpoint.Fits]) (by rintro ⟨⟩; grind)

theorem receiveWindow_lawful : Lawful 0 Write.receiveWindow Read.receiveWindow (fun _ => True) := by
  iterate 2 refine (integer (by decide)).next fun _ => ?_
  exact last (integer (by decide)) (by simp) (by rintro ⟨⟩; grind)

theorem delayedAck_lawful : Lawful 0 Write.delayedAck Read.delayedAck (fun _ => True) := by
  iterate 2 refine (integer (by decide)).next fun _ => ?_
  exact last boolean (by simp) (by rintro ⟨⟩; grind)

theorem tuple_lawful : Lawful 0 Write.tuple Read.tuple (fun _ => True) := by
  refine (integer (by decide)).next fun _ => ?_
  iterate 2 refine (octetArray 4).next fun _ => ?_
  iterate 2 refine (octetArray 16).next fun _ => ?_
  iterate 2 refine (integer (by decide)).next fun _ => ?_
  exact last (integer (by decide)) (by simp) (by rintro ⟨⟩; grind)

theorem policy_lawful : Lawful 0 Write.policy Read.policy (fun _ => True) := by
  iterate 3 refine (integer (by decide)).next fun _ => ?_
  iterate 2 refine boolean.next fun _ => ?_
  exact last boolean (by simp) (by rintro ⟨⟩; grind)

theorem connection_lawful :
    Lawful 0 Write.connection Read.connection ConnectionCheckpoint.Fits := by
  refine tuple_lawful.next fun _ => ?_
  refine policy_lawful.next fun _ => ?_
  refine control_lawful.next fun _ => ?_
  refine (optional_any synOffer_lawful).next fun _ => ?_
  refine (optional_any typedOptions_lawful).next fun _ => ?_
  refine (optional_any negotiated_lawful).next fun _ => ?_
  refine timestamp_lawful.next fun _ => ?_
  refine Lawful.bind (optional sender_lawful)
    (fun _ _ => ?_) (by simp_all [ConnectionCheckpoint.Fits])
  refine Lawful.bind (optional receiver_lawful)
    (fun _ _ => ?_) (by simp_all [ConnectionCheckpoint.Fits])
  refine (optional_any receiveWindow_lawful).next fun _ => ?_
  refine delayedAck_lawful.next fun _ => ?_
  iterate 2 refine (integer (by decide)).next fun _ => ?_
  exact last boolean (by simp_all [ConnectionCheckpoint.Fits]) (by rintro ⟨⟩; grind)

theorem binding_lawful : Lawful 31 Write.binding Read.binding (fun _ => True) := by
  refine (integer (by decide)).next fun _ => ?_
  refine (octetArray 4).next fun _ => ?_
  refine (octetArray 16).next fun _ => ?_
  refine (integer (by decide)).next fun _ => ?_
  exact last (integer (by decide)) (by simp) (by rintro ⟨⟩; grind)

theorem resources_lawful : Lawful 32 Write.resources Read.resources (fun _ => True) := by
  iterate 3 refine (integer (by decide)).next fun _ => ?_
  exact last (integer (by decide)) (by simp) (by rintro ⟨⟩; grind)

theorem socketHandle_lawful : Lawful 8 Write.socketHandle Read.socketHandle (fun _ => True) := by
  refine (integer (by decide)).next fun _ => ?_
  exact last (integer (by decide)) (by simp) (by rintro ⟨⟩; grind)

theorem networkErrorFields_lawful :
    Lawful 0 Write.networkError Read.networkErrorFields (fun _ => True) := by
  refine (octetArray 16).next fun _ => ?_
  iterate 5 refine (integer (by decide)).next fun _ => ?_
  exact last (integer (by decide)) (by simp) (by rintro ⟨⟩; grind)

theorem networkError_lawful : Lawful 0 Write.networkError Read.networkError Ipv6NetworkError.Fits :=
  (networkErrorFields_lawful.checked _).congr (by simp [Ipv6NetworkError.Fits])

theorem socket_lawful : Lawful 32 Write.socket Read.socket EndpointSocketCheckpoint.Fits := by
  refine binding_lawful.next fun _ => ?_
  refine resources_lawful.next fun _ => ?_
  refine Lawful.bind (optional connection_lawful)
    (fun _ _ => ?_) (by simp_all [EndpointSocketCheckpoint.Fits])
  refine Lawful.bind (vector_any socketHandle_lawful (by decide) (by decide))
    (fun _ _ => ?_) (by simp_all [EndpointSocketCheckpoint.Fits])
  refine (optional_any (integer (by decide))).next fun _ => ?_
  refine Lawful.bind (optional networkError_lawful)
    (fun _ _ => ?_) (by simp_all [EndpointSocketCheckpoint.Fits])
  iterate 2 refine (integer (by decide)).next fun _ => ?_
  iterate 2 refine boolean.next fun _ => ?_
  exact last boolean (by simp_all [EndpointSocketCheckpoint.Fits]) (by rintro ⟨⟩; grind)

theorem isn_lawful : Lawful 0 Write.isn Read.isn (fun _ => True) := by
  refine (octetArray 32).next fun _ => ?_
  exact last (integer (by decide)) (by simp) (by rintro ⟨⟩; grind)

theorem endpoint_lawful : Lawful 0 Write.endpoint Read.endpoint EndpointCheckpoint.Fits := by
  refine isn_lawful.next fun _ => ?_
  refine Lawful.bind (Lawful.vector socket_lawful (by decide) (by decide))
    (fun _ _ => ?_) (by simp_all [EndpointCheckpoint.Fits])
  refine (integer (by decide)).next fun _ => ?_
  exact last (integer (by decide)) (by simp_all [EndpointCheckpoint.Fits]) (by rintro ⟨⟩; grind)

end CheckpointCodec

open CheckpointCodec

/-- A checkpoint that fits is restored exactly from its image, and an image that
is accepted is the image of what it was decoded to. -/
theorem checkpoint_codec_round_trip :
    (∀ state : EndpointCheckpoint, state.Fits →
      ∃ bytes, encode state = some bytes ∧ decode bytes = some state) ∧
    ∀ (bytes : List Octet) (state : EndpointCheckpoint),
      decode bytes = some state → encode state = some bytes := by
  constructor
  · intro state fits
    obtain ⟨bytes, _, wrote, reads⟩ := endpoint_lawful.writes state fits
    have image := wrote []
    have value := reads []
    rw [List.append_nil] at value
    refine ⟨bytes, ?_, ?_⟩
    · rw [encode, if_neg (by have := fits.1; omega), image]
      rfl
    · rw [decode, value]
  · intro bytes state hdecode
    unfold decode at hdecode
    split at hdecode
    · rename_i value hread
      obtain rfl := Option.some.inj hdecode
      obtain ⟨fits, image, _, split, wrote⟩ := endpoint_lawful.canonical _ _ _ hread
      rw [List.append_nil] at split
      rw [encode, if_neg (by have := fits.1; omega), wrote [], split]
      rfl
    · cases hdecode

/-- A listener with a queued child and an error to report. -/
theorem checkpoint_codec_round_trip_listener :
    let state : EndpointCheckpoint :=
      { isn := ⟨Vector.replicate 32 7#8, 5#32⟩
        sockets := [⟨{ port := 80#16 }, {}, none, [⟨1#32, 2#32⟩], none,
          some ⟨Vector.replicate 16 1#8, 3#64, 1280#32, 443#16, 1#8, 4#8, 0#8⟩,
          16#64, 2#32, true, true, false⟩]
        ephemeralCursor := 49152#16, nextEndpointToken := 9#64 }
    ∃ bytes, encode state = some bytes ∧ decode bytes = some state :=
  checkpoint_codec_round_trip.1 _ ⟨by decide, by
    intro socket mem
    obtain rfl := List.mem_singleton.mp mem
    refine ⟨?_, by decide, ?_⟩
    · intro _ h
      cases h
    · intro _ h
      cases h
      exact ⟨by decide, by decide⟩⟩

end RouterSim.Tcp
