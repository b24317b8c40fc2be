import RouterSim.Lib.Octets
import RouterSim.Ip.Address

/-! IPv6 packets in Ethernet frames: the fixed header and the chain of extension headers. -/
namespace RouterSim.Ip

open Octets

abbrev Octet := BitVec 8

abbrev ethernetHeaderOctets : Nat := 14
abbrev ethernetMinimumWithoutFcs : Nat := 60
abbrev ipv6HeaderOctets : Nat := 40
abbrev ipv6FragmentHeaderOctets : Nat := 8
abbrev ipv6FragmentOffsetUnitOctets : Nat := 8
abbrev ipv6MinimumLinkMtu : Nat := 1280
abbrev maximumNetworkMtu : Nat := 9212
abbrev maximumNetworkIpMtu : Nat := maximumNetworkMtu - ethernetHeaderOctets
abbrev maximumFrameOctets : Nat := maximumNetworkMtu
abbrev maximumIpv6PayloadOctets : Nat := 65535
abbrev maximumEthernetIpv6DatagramOctets : Nat :=
  ethernetHeaderOctets + ipv6HeaderOctets + maximumIpv6PayloadOctets

abbrev nextHeaderHopByHop : Octet := 0#8
abbrev nextHeaderRouting : Octet := 43#8
abbrev nextHeaderFragment : Octet := 44#8
abbrev nextHeaderAuthentication : Octet := 51#8
abbrev nextHeaderDestinationOptions : Octet := 60#8

/-- The octets a frame puts on the wire. -/
abbrev Frame := List Octet

structure Ipv6FragmentView where
  identification : BitVec 32
  offset : BitVec 16
  moreFragments : Bool

structure Ipv6View where
  source : Ipv6
  destination : Ipv6
  flowLabel : BitVec 32
  payloadLength : BitVec 16
  upperLayerOffset : BitVec 16 := 54#16
  upperLayerNextHeaderOffset : BitVec 16 := 20#16
  fragmentHeaderOffset : BitVec 16 := 0#16
  fragmentPreviousNextHeaderOffset : BitVec 16 := 0#16
  trafficClass : Octet
  nextHeader : Octet
  upperLayerProtocol : Octet
  hopLimit : Octet
  fragment : Option Ipv6FragmentView := none
  authenticationHeaderPresent : Bool := false

/-- Where the walk over the headers stands: the header's number, its offset, and the
offset of the octet that names it. -/
structure HeaderCursor where
  current : Octet
  offset : Nat
  nextHeaderOffset : Nat

def HeaderCursor.next (cursor : HeaderCursor) (packet : Frame) (length : Nat) : HeaderCursor :=
  { current := get packet cursor.offset, offset := cursor.offset + length,
    nextHeaderOffset := cursor.offset }

inductive Header
  | malformed
  | upperLayer
  | extension (view : Ipv6View) (length : Nat)

/-- Hop-by-Hop Options, Routing and Destination Options share one length encoding. -/
def hasOptionsLength (number : Octet) : Bool :=
  number == nextHeaderHopByHop || number == nextHeaderRouting ||
    number == nextHeaderDestinationOptions

def optionsLength (packet : Frame) (offset : Nat) : Nat := ((get packet (offset + 1)).toNat + 1) * 8

def authenticationLength (packet : Frame) (offset : Nat) : Nat :=
  ((get packet (offset + 1)).toNat + 2) * 4

def fragmentView (packet : Frame) (offset : Nat) : Ipv6FragmentView :=
  let field := read16 packet (offset + 2)
  { identification := read32 packet (offset + 4), offset := (field >>> 3) &&& 0x1fff#16,
    moreFragments := field &&& 1#16 != 0#16 }

/-- The header at the cursor, with what the view learns from it. -/
def headerAt (packet : Frame) (packetEnd : Nat) (view : Ipv6View) (cursor : HeaderCursor) :
    Header :=
  if hasOptionsLength cursor.current then
    if cursor.current == nextHeaderHopByHop && cursor.offset != 54 ||
        decide (packetEnd < cursor.offset + 2) then
      .malformed
    else .extension view (optionsLength packet cursor.offset)
  else if cursor.current == nextHeaderFragment then
    if view.fragment.isSome || decide (packetEnd < cursor.offset + 8) then .malformed
    else
      .extension
        { view with
          fragmentPreviousNextHeaderOffset := BitVec.ofNat 16 cursor.nextHeaderOffset
          fragment := some (fragmentView packet cursor.offset)
          fragmentHeaderOffset := BitVec.ofNat 16 cursor.offset } 8
  else if cursor.current == nextHeaderAuthentication then
    let length := authenticationLength packet cursor.offset
    if packetEnd < cursor.offset + 2 ∨ length < 16 ∨ length % 8 ≠ 0 then .malformed
    else .extension { view with authenticationHeaderPresent := true } length
  else .upperLayer

def Ipv6View.nonFirstFragment (view : Ipv6View) : Bool :=
  view.fragment.any fun fragment => fragment.offset != 0#16

/-- The loop of the parser. Every header is at least eight octets long, so as many rounds
as the packet has octets are enough. -/
def parseHeaders (packet : Frame) (packetEnd : Nat) :
    Nat → Ipv6View → HeaderCursor → Option (Ipv6View × HeaderCursor)
  | 0, _, _ => none
  | rounds + 1, view, cursor =>
    match headerAt packet packetEnd view cursor with
    | .malformed => none
    | .upperLayer => some (view, cursor)
    | .extension view length =>
      if length = 0 ∨ packetEnd < cursor.offset + length then none
      else if view.nonFirstFragment then some (view, cursor.next packet length)
      else parseHeaders packet packetEnd rounds view (cursor.next packet length)

def addressAt (packet : Frame) (offset : Nat) : Ipv6 :=
  ((packet.drop offset).take 16).foldl (fun address octet => address <<< 8 ||| octet.setWidth 128) 0

def packetEndOf (packet : Frame) : Nat := 54 + (read16 packet 18).toNat

/-- An IPv6 packet whose declared payload is there and not empty. -/
def fixedHeaderValid (packet : Frame) : Bool :=
  decide (54 ≤ packet.length) && get packet 12 == 0x86#8 && get packet 13 == 0xdd#8 &&
    get packet 14 >>> 4 == 6#8 && read16 packet 18 != 0#16 &&
    decide (packetEndOf packet ≤ packet.length)

def fixedView (packet : Frame) : Ipv6View :=
  { source := addressAt packet 22, destination := addressAt packet 38,
    flowLabel := ((get packet 15 &&& 0x0f#8).setWidth 32 <<< 16) |||
      ((get packet 16).setWidth 32 <<< 8) ||| (get packet 17).setWidth 32
    payloadLength := read16 packet 18
    trafficClass := ((get packet 14 &&& 0x0f#8) <<< 4) ||| (get packet 15 >>> 4)
    nextHeader := get packet 20, upperLayerProtocol := get packet 20, hopLimit := get packet 21 }

def firstCursor (packet : Frame) : HeaderCursor :=
  { current := get packet 20, offset := 54, nextHeaderOffset := 20 }

def Ipv6View.finish (view : Ipv6View) (cursor : HeaderCursor) : Ipv6View :=
  { view with
    upperLayerProtocol := cursor.current, upperLayerOffset := BitVec.ofNat 16 cursor.offset,
    upperLayerNextHeaderOffset := BitVec.ofNat 16 cursor.nextHeaderOffset }

def walkHeaders (packet : Frame) : Option (Ipv6View × HeaderCursor) :=
  parseHeaders packet (packetEndOf packet) (packetEndOf packet) (fixedView packet)
    (firstCursor packet)

def parseIpv6 (packet : Frame) : Option Ipv6View :=
  if fixedHeaderValid packet then (walkHeaders packet).map fun walked => walked.1.finish walked.2
  else none

end RouterSim.Ip
