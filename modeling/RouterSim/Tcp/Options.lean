import RouterSim.Tcp.Checkpoint
import RouterSim.Tcp.Wire

namespace RouterSim.Tcp

def TypedOptions.none : TypedOptions where
  maximumSegmentSize := Option.none
  windowScale := Option.none
  timestampValue := Option.none
  timestampEchoReply := Option.none
  sackBlocks := Vector.replicate 4 {}
  sackBlockCount := 0#8
  sackPermitted := false

/-! ## Parsing -/

/-- The blocks of one SACK option, eight octets each. -/
def readSackBlocks (parsed : TypedOptions) : List Octet → Option TypedOptions
  | a :: b :: c :: d :: e :: f :: g :: h :: rest =>
    let left := read32 [a, b, c, d] 0
    let right := read32 [e, f, g, h] 0
    if decide (4#8 ≤ parsed.sackBlockCount) || !Serial.after right left then Option.none
    else
      readSackBlocks
        { parsed with
          sackBlocks := parsed.sackBlocks.setIfInBounds parsed.sackBlockCount.toNat
            { leftEdge := left, rightEdge := right }
          sackBlockCount := parsed.sackBlockCount + 1#8 } rest
  | _ => some parsed

/-- The first option of a kind counts; a zero MSS counts as absent. -/
def TypedOptions.apply (parsed : TypedOptions) (option : OptionView) : Option TypedOptions :=
  if option.kind == 2#8 then
    let value := read16 option.raw 2
    some
      (if parsed.maximumSegmentSize.isNone && value != 0#16 then
        { parsed with maximumSegmentSize := some value } else parsed)
  else if option.kind == 3#8 then
    some
      (if parsed.windowScale.isNone then
        { parsed with windowScale := some (option.raw.getD 2 0#8) } else parsed)
  else if option.kind == 4#8 then some { parsed with sackPermitted := true }
  else if option.kind == 5#8 then readSackBlocks parsed (option.raw.drop 2)
  else if option.kind == 8#8 then
    some
      (if parsed.timestampValue.isNone then
        { parsed with
          timestampValue := some (read32 option.raw 2)
          timestampEchoReply := some (read32 option.raw 6) }
      else parsed)
  else some parsed

/-- Every round takes at least one octet, so their number bounds the rounds. -/
def parseOptionsLoop : Nat → TypedOptions → List Octet → Option TypedOptions
  | 0, parsed, _ => some parsed
  | rounds + 1, parsed, remaining =>
    match nextOption remaining with
    | Option.none => some parsed
    | some (option, after) =>
      match parsed.apply option with
      | Option.none => Option.none
      | some parsed => parseOptionsLoop rounds parsed after

def parseTypedOptions (options : List Octet) : Option TypedOptions :=
  if !validateOptions options then Option.none
  else parseOptionsLoop options.length TypedOptions.none options

/-! ## The handshake's offer -/

/-- The smallest shift that expresses the receive arena, at most `rounds` more. -/
def windowShift (receiveCapacity : BitVec 32) : Nat → BitVec 8 → BitVec 8
  | 0, shift => shift
  | rounds + 1, shift =>
    if 65535#32 < receiveCapacity >>> shift.toNat then
      windowShift receiveCapacity rounds (shift + 1#8)
    else shift

def makeSynOffer (maximumTransportMessage receiveCapacity : BitVec 32)
    (windowScale timestamps sack : Bool) (timestamp : BitVec 32) : Option SynOptionOffer :=
  if decide (maximumTransportMessage ≤ 20#32) || receiveCapacity == 0#32 ||
      decide (0x40000000#32 < receiveCapacity) then none
  else
    some
      { receiveMss := (minimum (maximumTransportMessage - 20#32) 65535#32).setWidth 16
        receiveWindowShift := if windowScale then windowShift receiveCapacity 14 0#8 else 0#8
        offerWindowScale := windowScale, offerTimestamps := timestamps, offerSack := sack,
        timestampValue := timestamp, timestampEchoReply := 0#32 }

def encodeTimestampOption (value echo : BitVec 32) : List Octet :=
  [8#8, 10#8] ++ octets32 value ++ octets32 echo

def encodeSynOptions (outputSize : Nat) (offer : SynOptionOffer) : Option (List Octet) :=
  let options := [2#8, 4#8] ++ octets16 offer.receiveMss ++
    (if offer.offerSack then [4#8, 2#8] else []) ++
    (if offer.offerTimestamps then
      encodeTimestampOption offer.timestampValue offer.timestampEchoReply else []) ++
    (if offer.offerWindowScale then [3#8, 3#8, offer.receiveWindowShift] else [])
  if offer.receiveMss == 0#16 || decide (14#8 < offer.receiveWindowShift) ||
      decide (outputSize < options.length) || decide (maximumOptionOctets < options.length) then none
  else some options

def encodeSackOption (outputSize : Nat) (blocks : List SackBlock) : Option (List Octet) :=
  let length := 2 + blocks.length * 8
  if blocks.isEmpty || decide (4 < blocks.length) || decide (outputSize < length) ||
      !blocks.all (fun block => Serial.after block.rightEdge block.leftEdge) then none
  else
    some ([5#8, BitVec.ofNat 8 length] ++
      blocks.flatMap fun block => octets32 block.leftEdge ++ octets32 block.rightEdge)

def defaultSendMss (family : BitVec 8) : BitVec 32 :=
  if family == Family.ipv4 then 536#32 else 1220#32

def negotiateOptions (family : BitVec 8) (localOffer : SynOptionOffer) (peerSyn : TypedOptions) :
    NegotiatedOptions :=
  let peerShift := peerSyn.windowScale.getD 0#8
  let scaling := localOffer.offerWindowScale && peerSyn.windowScale.isSome
  { sendMss := (peerSyn.maximumSegmentSize.map (·.setWidth 32)).getD (defaultSendMss family)
    sendWindowShift :=
      if scaling then if 14#8 < peerShift then 14#8 else peerShift else 0#8
    receiveWindowShift := if scaling then localOffer.receiveWindowShift else 0#8
    windowScaling := scaling
    timestamps := localOffer.offerTimestamps && peerSyn.timestampValue.isSome
    sack := localOffer.offerSack && peerSyn.sackPermitted }

/-- Sums are taken in 64 bits, so none of them wraps. -/
def effectiveSendMss (negotiatedSendMss maximumTransportMessage tcpHeaderOctets
    ipOptionOctets : BitVec 32) : BitVec 32 :=
  if negotiatedSendMss == 0#32 || decide (tcpHeaderOctets < 20#32) then 0#32
  else
    let transportLimit :=
      min (negotiatedSendMss.toNat + minimumHeaderOctets) maximumTransportMessage.toNat
    let overhead := tcpHeaderOctets.toNat + ipOptionOctets.toNat
    if transportLimit ≤ overhead then 0#32 else BitVec.ofNat 32 (transportLimit - overhead)

/-! ## Scaled windows -/

def decodePeerWindow (wireWindow : BitVec 16) (synSegment : Bool) (options : NegotiatedOptions) :
    BitVec 32 :=
  if synSegment || !options.windowScaling then wireWindow.setWidth 32
  else wireWindow.setWidth 32 <<< options.sendWindowShift.toNat

def encodeReceiveWindow (receiveWindow : BitVec 32) (synSegment : Bool)
    (options : NegotiatedOptions) : BitVec 16 :=
  let scaled := if synSegment || !options.windowScaling then receiveWindow
    else receiveWindow >>> options.receiveWindowShift.toNat
  (minimum scaled 65535#32).setWidth 16

/-! ## Timestamps -/

inductive TimestampAccept
  | accepted | missingRequired | stale
  deriving DecidableEq

structure TimestampState where
  recent : BitVec 32 := 0#32
  lastAckSent : BitVec 32 := 0#32
  recentUpdatedAt : Instant := 0
  negotiated : Bool := false
  recentPresent : Bool := false

namespace TimestampState

/-- Twenty-four days. -/
def maximumRecentAge : Duration := 2073600000000000

def accept (t : TimestampState) (rst : Bool) (timestamp : Option (BitVec 32))
    (segmentSequence : BitVec 32) (now : Instant) : TimestampState × TimestampAccept :=
  if !t.negotiated || rst then (t, .accepted)
  else
    match timestamp with
    | none => (t, .missingRequired)
    | some timestamp =>
      let older := t.recentPresent && Serial.before timestamp t.recent
      if older && decide (now - t.recentUpdatedAt ≤ maximumRecentAge) then (t, .stale)
      else if older || !t.recentPresent ||
          (!Serial.before timestamp t.recent && !Serial.after segmentSequence t.lastAckSent) then
        ({ t with recent := timestamp, recentUpdatedAt := now, recentPresent := true }, .accepted)
      else (t, .accepted)

def acknowledgeSent (t : TimestampState) (acknowledgment : BitVec 32) : TimestampState :=
  { t with lastAckSent := acknowledgment }

def echoReply (t : TimestampState) : BitVec 32 := if t.recentPresent then t.recent else 0#32

end TimestampState

/-- A millisecond clock plus the connection's offset. -/
def timestampValue (now origin : Instant) (connectionOffset : BitVec 32) : BitVec 32 :=
  if now < origin then connectionOffset
  else connectionOffset + BitVec.ofInt 32 ((now - origin).tdiv 1000000)

end RouterSim.Tcp
