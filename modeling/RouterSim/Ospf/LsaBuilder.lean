import RouterSim.Ospf.LsaViews

/-! The writers of advertisements: each puts its body together, and one finisher adds the header
and the checksum. The output has room for so many octets. -/
namespace RouterSim.Ospf

open Ip (Ipv6)
open Octets

structure OriginationHeader where
  linkStateId : BitVec 32 := 0#32
  advertisingRouter : BitVec 32 := 0#32
  sequenceNumber : BitVec 32 := 0#32
  ageSeconds : BitVec 16 := 0#16
  type : BitVec 16 := 0#16
  options : BitVec 32 := 0#32
  version : Version := .two

structure PrefixInput where
  network : Ipv6 := 0#128
  metric : BitVec 16 := 0#16
  length : BitVec 8 := 0#8
  options : BitVec 8 := 0#8

section Checksum

/-- The first check octet. The division cuts towards zero. -/
def checksumX (octets : Nat) (sums : Nat × Nat) : Int :=
  let distance : Int := octets - 16 - 1
  let x := (distance * sums.1 - sums.2).tmod 255
  if x ≤ 0 then x + 255 else x

def checksumY (x : Int) (sums : Nat × Nat) : Int :=
  let y := 510 - sums.1 - x
  if 255 < y then y - 255 else y

/-- Both check octets are solved over the rest, and then verified. -/
def updateLsaChecksum (lsa : List (BitVec 8)) : Option (List (BitVec 8)) :=
  if lsa.length < lsaHeaderOctets then none
  else
    let cleared := write16 lsa 16 0#16
    let sums := (cleared.drop 2).foldl fletcher (0, 0)
    let x := checksumX lsa.length sums
    let y := checksumY x sums
    let result := (cleared.set 16 (BitVec.ofInt 8 x)).set 17 (BitVec.ofInt 8 y)
    if verifyLsaChecksum result then some result else none

end Checksum

section Pieces

/-- The octets of the header in front of the checksum. -/
def headerOctets (header : OriginationHeader) : List (BitVec 8) :=
  octets16 header.ageSeconds ++
    (match header.version with
      | .two => [header.options.setWidth 8, header.type.setWidth 8]
      | .three => octets16 header.type) ++
    octets32 header.linkStateId ++ octets32 header.advertisingRouter ++
    octets32 header.sequenceNumber

def finish (room : Nat) (header : OriginationHeader) (body : List (BitVec 8)) :
    Option (List (BitVec 8)) :=
  let length := lsaHeaderOctets + body.length
  if room < length ∨ 65535 < length then none
  else
    updateLsaChecksum
      (headerOctets header ++ 0#8 :: 0#8 :: (octets16 (BitVec.ofNat 16 length) ++ body))

def RouterLinkType.octet : RouterLinkType → BitVec 8
  | .pointToPoint => 1#8
  | .transitNetwork => 2#8
  | .stubNetwork => 3#8
  | .virtualLink => 4#8

def VersionTwoRouterLink.octets (link : VersionTwoRouterLink) : List (BitVec 8) :=
  octets32 link.linkId ++ octets32 link.linkData ++ [link.type.octet, 0#8] ++ octets16 link.metric

def VersionThreeRouterLink.octets (link : VersionThreeRouterLink) : List (BitVec 8) :=
  [link.type.octet, 0#8] ++ octets16 link.metric ++ octets32 link.interfaceId ++
    octets32 link.neighborInterfaceId ++ octets32 link.neighborRouterId

def PrefixInput.canonical (input : PrefixInput) : Bool :=
  !decide (128#8 < input.length) && Ip.mask input.network input.length.toNat == input.network

def PrefixInput.networkOctets (input : PrefixInput) : List (BitVec 8) :=
  (octets128 input.network).take (paddedPrefixOctets input.length)

/-- The octets of all prefixes, after so many others, if each is canonical. -/
def prefixesOctets : List PrefixInput → Nat → Option Nat
  | [], total => some total
  | input :: rest, total =>
    if !input.canonical then none
    else
      let item := 4 + paddedPrefixOctets input.length
      if 65535 - item < total then none else prefixesOctets rest (total + item)

def writePrefix (metric : Bool) (input : PrefixInput) : List (BitVec 8) :=
  [input.length, input.options] ++ octets16 (if metric then input.metric else 0#16) ++
    input.networkOctets

/-- The bits that are set, and no other. -/
def bits (flags : List (Bool × BitVec 8)) : BitVec 8 :=
  flags.foldl (fun sum flag => sum ||| if flag.1 then flag.2 else 0#8) 0#8

end Pieces

section VersionTwo

def encodeVersionTwoRouterLsa (room : Nat) (header : OriginationHeader)
    (links : List VersionTwoRouterLink) (abr asbr virtualLinkEndpoint : Bool) :
    Option (List (BitVec 8)) :=
  if header.version ≠ .two ∨ header.type ≠ 1#16 ∨ 65535 < links.length then none
  else
    finish room header
      ([bits [(abr, 0x01#8), (asbr, 0x02#8), (virtualLinkEndpoint, 0x04#8)], 0#8] ++
        octets16 (BitVec.ofNat 16 links.length) ++ links.flatMap (·.octets))

def encodeVersionTwoNetworkLsa (room : Nat) (header : OriginationHeader)
    (networkMask : BitVec 32) (attachedRouters : List (BitVec 32)) : Option (List (BitVec 8)) :=
  if header.version ≠ .two ∨ header.type ≠ 2#16 ∨ attachedRouters.isEmpty then none
  else
    finish room header (octets32 networkMask ++ attachedRouters.flatMap octets32)

def encodeVersionTwoSummaryLsa (room : Nat) (header : OriginationHeader)
    (networkMask metric : BitVec 32) : Option (List (BitVec 8)) :=
  if header.version ≠ .two ∨ (header.type ≠ 3#16 ∧ header.type ≠ 4#16) ∨
      0x00ffffff#32 < metric then none
  else finish room header (octets32 networkMask ++ [0#8] ++ octets24 metric)

def encodeVersionTwoExternalLsa (room : Nat) (header : OriginationHeader)
    (networkMask metric : BitVec 32) (typeTwo : Bool) (forwardingAddress routeTag : BitVec 32) :
    Option (List (BitVec 8)) :=
  if header.version ≠ .two ∨ (header.type ≠ 5#16 ∧ header.type ≠ 7#16) ∨
      0x00ffffff#32 < metric then none
  else
    finish room header
      (octets32 networkMask ++ [if typeTwo then 0x80#8 else 0#8] ++
        octets24 metric ++ octets32 forwardingAddress ++ octets32 routeTag)

end VersionTwo

section VersionThree

/-- The function code of the type, whatever its scope. -/
def OriginationHeader.function (header : OriginationHeader) : BitVec 16 := header.type &&& 0x1fff#16

def encodeVersionThreeRouterLsa (room : Nat) (header : OriginationHeader)
    (links : List VersionThreeRouterLink) (flags : BitVec 8) (options : BitVec 32) :
    Option (List (BitVec 8)) :=
  if header.version ≠ .three ∨ header.function ≠ 1#16 then none
  else finish room header ([flags] ++ octets24 options ++ links.flatMap (·.octets))

def encodeVersionThreeNetworkLsa (room : Nat) (header : OriginationHeader)
    (options : BitVec 32) (attachedRouters : List (BitVec 32)) : Option (List (BitVec 8)) :=
  if header.version ≠ .three ∨ header.function ≠ 2#16 ∨ attachedRouters.isEmpty then none
  else
    finish room header ([0#8] ++ octets24 options ++ attachedRouters.flatMap octets32)

def encodeVersionThreeInterAreaPrefixLsa (room : Nat) (header : OriginationHeader)
    (metric : BitVec 32) (input : PrefixInput) : Option (List (BitVec 8)) :=
  if header.version ≠ .three ∨ header.function ≠ 3#16 ∨ 0x00ffffff#32 < metric ∨
      !input.canonical then none
  else finish room header ([0#8] ++ octets24 metric ++ writePrefix false input)

def encodeVersionThreeInterAreaRouterLsa (room : Nat) (header : OriginationHeader)
    (options metric destinationRouterId : BitVec 32) : Option (List (BitVec 8)) :=
  if header.version ≠ .three ∨ header.function ≠ 4#16 ∨ 0x00ffffff#32 < options ∨
      0x00ffffff#32 < metric ∨ destinationRouterId = 0#32 then none
  else
    finish room header
      ([0#8] ++ octets24 options ++ [0#8] ++ octets24 metric ++ octets32 destinationRouterId)

def encodeVersionThreeExternalLsa (room : Nat) (header : OriginationHeader) (metric : BitVec 32)
    (typeTwo : Bool) (input : PrefixInput) (forwardingAddress : List (BitVec 8))
    (routeTag : Option (BitVec 32)) (referencedLsaType : BitVec 16)
    (referencedLinkStateId : Option (BitVec 32)) : Option (List (BitVec 8)) :=
  if header.version ≠ .three ∨ (header.function ≠ 5#16 ∧ header.function ≠ 7#16) ∨
      0x00ffffff#32 < metric ∨ !input.canonical ∨
      (forwardingAddress.length ≠ 0 ∧ forwardingAddress.length ≠ 4 ∧
        forwardingAddress.length ≠ 16) ∨
      (referencedLsaType == 0#16) != !referencedLinkStateId.isSome then none
  else
    finish room header
      ([bits [(typeTwo, 0x80#8), (!forwardingAddress.isEmpty, 0x40#8),
          (routeTag.isSome, 0x20#8)]] ++
        octets24 metric ++ [input.length, input.options] ++
        octets16 referencedLsaType ++ input.networkOctets ++ forwardingAddress ++
        (routeTag.elim [] octets32) ++ (referencedLinkStateId.elim [] octets32))

def encodeVersionThreeLinkLsa (room : Nat) (header : OriginationHeader) (priority : BitVec 8)
    (options : BitVec 32) (linkLocal : Ipv6) (prefixes : List PrefixInput) :
    Option (List (BitVec 8)) :=
  if (prefixesOctets prefixes 0).isNone ∨ header.version ≠ .three ∨ header.function ≠ 8#16 then none
  else
    finish room header
      ([priority] ++ octets24 options ++ octets128 linkLocal ++
        octets32 (BitVec.ofNat 32 prefixes.length) ++ prefixes.flatMap (writePrefix false))

def encodeVersionThreeIntraAreaPrefixLsa (room : Nat) (header : OriginationHeader)
    (referencedType : BitVec 16) (referencedLinkStateId referencedAdvertisingRouter : BitVec 32)
    (prefixes : List PrefixInput) : Option (List (BitVec 8)) :=
  if (prefixesOctets prefixes 0).isNone ∨ header.version ≠ .three ∨ header.function ≠ 9#16 ∨
      65535 < prefixes.length then none
  else
    finish room header
      (octets16 (BitVec.ofNat 16 prefixes.length) ++ octets16 referencedType ++
        octets32 referencedLinkStateId ++ octets32 referencedAdvertisingRouter ++
        prefixes.flatMap (writePrefix true))

end VersionThree

/-- One informational item with four octets. -/
def encodeRouterInformationLsa (room : Nat) (header : OriginationHeader)
    (informationalCapabilities : BitVec 32) : Option (List (BitVec 8)) :=
  let identity :=
    match header.version with
    | .two => (header.type == 9#16 || header.type == 10#16 || header.type == 11#16) &&
        header.linkStateId >>> 24 == 4#32
    | .three => header.function == 12#16 && header.type &&& 0x8000#16 != 0#16
  if !identity then none
  else
    finish room header
      (octets16 1#16 ++ octets16 4#16 ++ octets32 informationalCapabilities)

end RouterSim.Ospf
