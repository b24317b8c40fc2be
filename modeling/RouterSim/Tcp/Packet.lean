import RouterSim.Tcp.SendBuffer

namespace RouterSim.Tcp

abbrev Ipv4 := Vector Octet 4

abbrev Ipv6 := Vector Octet 16

namespace Flag

abbrev fin : BitVec 8 := 0x01#8
abbrev syn : BitVec 8 := 0x02#8
abbrev rst : BitVec 8 := 0x04#8
abbrev psh : BitVec 8 := 0x08#8
abbrev ack : BitVec 8 := 0x10#8
abbrev urg : BitVec 8 := 0x20#8
abbrev ece : BitVec 8 := 0x40#8
abbrev cwr : BitVec 8 := 0x80#8

end Flag

structure Fields where
  sourcePort : BitVec 16 := 0#16
  destinationPort : BitVec 16 := 0#16
  sequence : BitVec 32 := 0#32
  acknowledgment : BitVec 32 := 0#32
  flags : BitVec 8 := 0#8
  window : BitVec 16 := 0#16
  urgentPointer : BitVec 16 := 0#16

/-- A parsed segment. Options are the octets between header and payload. -/
structure View extends Fields where
  checksum : BitVec 16 := 0#16
  options : List Octet := []
  payload : List Octet := []

def has (flags flag : BitVec 8) : Bool := (flags &&& flag) != 0#8

/-- The sequence space a segment occupies. -/
def segmentLength (segment : View) : BitVec 32 :=
  BitVec.ofNat 32 segment.payload.length + (if has segment.flags Flag.syn then 1#32 else 0#32) +
    (if has segment.flags Flag.fin then 1#32 else 0#32)

def segmentAcceptable (sequence length receiveNext receiveWindow : BitVec 32) : Bool :=
  if length == 0#32 && receiveWindow == 0#32 then sequence == receiveNext
  else if receiveWindow == 0#32 then false
  else
    let windowEnd := receiveNext + receiveWindow
    let firstInside := Serial.afterOrEqual sequence receiveNext && Serial.before sequence windowEnd
    if length == 0#32 then firstInside
    else
      let lastSequence := sequence + length - 1#32
      let lastInside :=
        Serial.afterOrEqual lastSequence receiveNext && Serial.before lastSequence windowEnd
      firstInside || lastInside

def acknowledgmentAdvances (acknowledgment sendUnacknowledged sendNext : BitVec 32) : Bool :=
  Serial.after acknowledgment sendUnacknowledged && Serial.beforeOrEqual acknowledgment sendNext

end RouterSim.Tcp
