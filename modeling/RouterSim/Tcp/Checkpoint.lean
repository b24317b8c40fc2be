import RouterSim.Tcp.SackScoreboard
import RouterSim.Tcp.Packet

/-! The checkpoint records. An enumeration is kept as its octet: the codec stores
and restores any octet there, whether or not it names a value. Signed 64-bit
nanosecond counts are kept as their bit patterns, and so are machine sizes. -/
namespace RouterSim.Tcp

abbrev Sha256Digest := Vector Octet 32

namespace Family

abbrev ipv4 : BitVec 8 := 0#8
abbrev ipv6 : BitVec 8 := 1#8

end Family

structure RetransmissionCheckpoint where
  smoothedRttNanoseconds : BitVec 64
  rttVariationNanoseconds : BitVec 64
  timeoutNanoseconds : BitVec 64
  measurementPresent : Bool
  synRetransmitted : Bool

structure CongestionCheckpoint where
  senderMss : BitVec 32
  congestionWindow : BitVec 32
  slowStartThreshold : BitVec 32
  duplicateAcknowledgments : BitVec 32
  recoveryInflationLimit : BitVec 32
  fastRecovery : Bool
  sackRecovery : Bool

structure ControlBlockCheckpoint where
  retransmission : RetransmissionCheckpoint
  congestion : CongestionCheckpoint
  outstandingControl : Fields
  retransmissionRemainingNanoseconds : BitVec 64
  timeWaitRemainingNanoseconds : BitVec 64
  sendUnacknowledged : BitVec 32
  sendNext : BitVec 32
  sendWindow : BitVec 32
  sendWindowSequence : BitVec 32
  sendWindowAcknowledgment : BitVec 32
  receiveNext : BitVec 32
  receiveWindow : BitVec 32
  initialSendSequence : BitVec 32
  initialReceiveSequence : BitVec 32
  localPort : BitVec 16
  remotePort : BitVec 16
  state : BitVec 8
  passiveOpen : Bool
  outstandingControlPresent : Bool
  localFinSent : Bool

structure SynOptionOffer where
  receiveMss : BitVec 16
  receiveWindowShift : BitVec 8
  offerWindowScale : Bool
  offerTimestamps : Bool
  offerSack : Bool
  timestampValue : BitVec 32
  timestampEchoReply : BitVec 32

structure TypedOptions where
  maximumSegmentSize : Option (BitVec 16)
  windowScale : Option (BitVec 8)
  timestampValue : Option (BitVec 32)
  timestampEchoReply : Option (BitVec 32)
  sackBlocks : Vector SackBlock 4
  sackBlockCount : BitVec 8
  sackPermitted : Bool

structure NegotiatedOptions where
  sendMss : BitVec 32
  sendWindowShift : BitVec 8
  receiveWindowShift : BitVec 8
  windowScaling : Bool
  timestamps : Bool
  sack : Bool

structure TimestampCheckpoint where
  recent : BitVec 32
  lastAckSent : BitVec 32
  recentAgeNanoseconds : BitVec 64
  negotiated : Bool
  recentPresent : Bool

structure SendBufferCheckpoint where
  storage : List Octet
  sendUnacknowledged : BitVec 32
  sendNext : BitVec 32
  writeNext : BitVec 32
  head : BitVec 32
  generation : BitVec 64

structure TransmissionRecordCheckpoint where
  first : BitVec 32
  last : BitVec 32
  retransmissions : BitVec 32
  firstAgeNanoseconds : BitVec 64
  lastAgeNanoseconds : BitVec 64

structure TransmissionHistoryCheckpoint where
  records : List TransmissionRecordCheckpoint

structure FailureCheckpoint where
  segmentFirst : BitVec 32
  segmentEnd : BitVec 32
  retransmissions : BitVec 32
  segmentAgeNanoseconds : BitVec 64
  dataR2Nanoseconds : BitVec 64
  active : Bool
  syn : Bool
  negativeAdviceReported : Bool
  dataR2Infinite : Bool

structure SackScoreboardCheckpoint where
  ranges : List SackRange
  highAck : BitVec 32
  highDataEnd : BitVec 32
  highRetransmittedEnd : BitVec 32
  recoveryPoint : BitVec 32
  rescueRetransmitted : BitVec 32
  duplicateAcknowledgments : BitVec 32
  recovery : Bool
  rescuePresent : Bool
  recoverySuppressed : Bool

structure PersistCheckpoint where
  remainingNanoseconds : BitVec 64
  intervalNanoseconds : BitVec 64
  active : Bool

structure SenderCheckpoint where
  bytes : SendBufferCheckpoint
  history : TransmissionHistoryCheckpoint
  failure : FailureCheckpoint
  sack : SackScoreboardCheckpoint
  congestion : CongestionCheckpoint
  retransmission : RetransmissionCheckpoint
  persist : PersistCheckpoint
  receiverWindow : BitVec 32
  maximumReceiverWindow : BitVec 32
  rttSequenceEnd : BitVec 32
  retransmissionRemainingNanoseconds : BitVec 64
  rttProbeAgeNanoseconds : BitVec 64
  swsOverrideRemainingNanoseconds : BitVec 64
  generation : BitVec 64
  pendingFailureAction : BitVec 8
  retransmissionDeadlinePresent : Bool
  rttProbePresent : Bool
  rttProbeRetransmitted : Bool
  fastRetransmissionPending : Bool
  swsOverrideDeadlinePresent : Bool
  nagleEnabled : Bool
  sackEnabled : Bool

structure ReceiveBufferCheckpoint where
  storage : List Octet
  received : List Octet
  readSequence : BitVec 32
  receiveNext : BitVec 32
  head : BitVec 32
  recentSequence : BitVec 32
  recentSequencePresent : Bool

structure ReceiveWindowCheckpoint where
  capacity : BitVec 32
  effectiveSendMss : BitVec 32
  advertised : BitVec 32

structure DelayedAckCheckpoint where
  remainingNanoseconds : BitVec 64
  dataSegmentsSinceAck : BitVec 8
  deadlinePresent : Bool

structure ConnectionTuple where
  family : BitVec 8 := Family.ipv6
  localIpv4 : Ipv4 := Vector.replicate 4 0#8
  remoteIpv4 : Ipv4 := Vector.replicate 4 0#8
  localIpv6 : Ipv6 := Vector.replicate 16 0#8
  remoteIpv6 : Ipv6 := Vector.replicate 16 0#8
  interfaceId : BitVec 64 := 0#64
  localPort : BitVec 16 := 0#16
  remotePort : BitVec 16 := 0#16

structure ConnectionOptionPolicy where
  maximumTransportMessage : BitVec 32 := 0#32
  receiveCapacity : BitVec 32 := 0#32
  timestampOffset : BitVec 32 := 0#32
  windowScaling : Bool := true
  timestamps : Bool := true
  sack : Bool := true

structure ConnectionCheckpoint where
  tuple : ConnectionTuple
  policy : ConnectionOptionPolicy
  control : ControlBlockCheckpoint
  localSynOffer : Option SynOptionOffer
  peerSynOptions : Option TypedOptions
  negotiated : Option NegotiatedOptions
  timestamps : TimestampCheckpoint
  sender : Option SenderCheckpoint
  receiver : Option ReceiveBufferCheckpoint
  receiveWindow : Option ReceiveWindowCheckpoint
  delayedAck : DelayedAckCheckpoint
  timestampElapsedNanoseconds : BitVec 64
  nextToken : BitVec 64
  timestampStatePresent : Bool

structure EndpointBinding where
  family : BitVec 8 := Family.ipv6
  ipv4 : Ipv4 := Vector.replicate 4 0#8
  ipv6 : Ipv6 := Vector.replicate 16 0#8
  interfaceId : BitVec 64 := 0#64
  port : BitVec 16 := 0#16

structure SocketResources where
  sendBufferBytes : BitVec 64 := 262144#64
  receiveBufferBytes : BitVec 64 := 262144#64
  transmissionRecords : BitVec 64 := 512#64
  sackRanges : BitVec 64 := 256#64

structure EndpointSocketHandle where
  index : BitVec 32 := 0#32
  generation : BitVec 32 := 0#32

abbrev icmpv6InformationalTypeBoundary : BitVec 8 := 128#8

namespace NetworkErrorKind

abbrev destinationUnreachable : BitVec 8 := 0#8
abbrev packetTooBig : BitVec 8 := 1#8
abbrev timeExceeded : BitVec 8 := 2#8
abbrev parameterProblem : BitVec 8 := 3#8
abbrev unknown : BitVec 8 := 4#8

end NetworkErrorKind

structure Ipv6NetworkError where
  remote : Ipv6
  interfaceId : BitVec 64
  parameter : BitVec 32
  remotePort : BitVec 16
  type : BitVec 8
  code : BitVec 8
  kind : BitVec 8

structure EndpointSocketCheckpoint where
  binding : EndpointBinding
  resources : SocketResources
  connection : Option ConnectionCheckpoint
  accepted : List EndpointSocketHandle
  listenerIndex : Option (BitVec 32)
  networkError : Option Ipv6NetworkError
  backlog : BitVec 64
  generation : BitVec 32
  occupied : Bool
  listener : Bool
  queuedForAccept : Bool

structure IsnCheckpoint where
  secret : Sha256Digest
  clockQuanta : BitVec 32

structure EndpointCheckpoint where
  isn : IsnCheckpoint
  sockets : List EndpointSocketCheckpoint
  ephemeralCursor : BitVec 16
  nextEndpointToken : BitVec 64

/-! ## What an image can hold -/

/-- The largest socket arena. -/
abbrev arenaLimit : Nat := 0x40000000

def SendBufferCheckpoint.Fits (value : SendBufferCheckpoint) : Prop :=
  value.storage.length ≤ arenaLimit

def TransmissionHistoryCheckpoint.Fits (value : TransmissionHistoryCheckpoint) : Prop :=
  value.records.length < 0x100000000

def SackScoreboardCheckpoint.Fits (value : SackScoreboardCheckpoint) : Prop :=
  value.ranges.length < 0x100000000

def SenderCheckpoint.Fits (value : SenderCheckpoint) : Prop :=
  value.bytes.Fits ∧ value.history.Fits ∧ value.sack.Fits

def ReceiveBufferCheckpoint.Fits (value : ReceiveBufferCheckpoint) : Prop :=
  value.storage.length ≤ arenaLimit ∧ value.received.length ≤ arenaLimit

def ConnectionCheckpoint.Fits (value : ConnectionCheckpoint) : Prop :=
  (∀ sender, value.sender = some sender → sender.Fits) ∧
    ∀ receiver, value.receiver = some receiver → receiver.Fits

def Ipv6NetworkError.Fits (value : Ipv6NetworkError) : Prop :=
  value.type < icmpv6InformationalTypeBoundary ∧ value.kind ≤ NetworkErrorKind.unknown

def EndpointSocketCheckpoint.Fits (value : EndpointSocketCheckpoint) : Prop :=
  (∀ connection, value.connection = some connection → connection.Fits) ∧
    value.accepted.length < 0x100000000 ∧ ∀ error, value.networkError = some error → error.Fits

/-- Byte vectors of at most 2^30 octets, counts below 2^32, and network errors of
an error type and a defined kind. -/
def EndpointCheckpoint.Fits (value : EndpointCheckpoint) : Prop :=
  value.sockets.length < 0x100000000 ∧ ∀ socket ∈ value.sockets, socket.Fits

end RouterSim.Tcp
