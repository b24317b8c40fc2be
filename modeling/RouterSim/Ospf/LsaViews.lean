import RouterSim.Ip.Address
import RouterSim.Ospf.LsaBody

/-! The bodies of the other advertisements, read from their octets, and what the views of
Router-LSAs and Network-LSAs hold beside their links. -/
namespace RouterSim.Ospf

open Ip (Ipv6)
open Octets

/-- What follows the header. -/
abbrev lsaBody (encoded : List (BitVec 8)) : List (BitVec 8) := encoded.drop lsaHeaderOctets

section VersionTwo

structure VersionTwoRouterView where
  links : List VersionTwoRouterLink
  areaBorderRouter : Bool
  autonomousSystemBoundaryRouter : Bool
  virtualLinkEndpoint : Bool

structure VersionTwoNetworkView where
  attachedRouters : List (BitVec 32)
  networkMask : BitVec 32

structure VersionTwoSummaryView where
  networkMask : BitVec 32
  metric : BitVec 32
  autonomousSystemBoundaryRouter : Bool

structure VersionTwoExternalView where
  networkMask : BitVec 32
  metric : BitVec 32
  forwardingAddress : BitVec 32
  routeTag : BitVec 32
  typeTwoMetric : Bool
  nssa : Bool

def versionTwoRouterView (encoded : List (BitVec 8)) : Option VersionTwoRouterView :=
  let flags := get (lsaBody encoded) 0
  (parseVersionTwoRouter encoded).map fun links =>
    { links, areaBorderRouter := flags &&& 0x01#8 ≠ 0#8,
      autonomousSystemBoundaryRouter := flags &&& 0x02#8 ≠ 0#8
      virtualLinkEndpoint := flags &&& 0x04#8 ≠ 0#8 }

def versionTwoNetworkView (encoded : List (BitVec 8)) : Option VersionTwoNetworkView :=
  (parseVersionTwoNetwork encoded).map fun attachedRouters =>
    { attachedRouters, networkMask := read32 (lsaBody encoded) 0 }

def parseVersionTwoSummary (encoded : List (BitVec 8)) : Option VersionTwoSummaryView :=
  match bodyHeader encoded .two with
  | none => none
  | some header =>
    let body := lsaBody encoded
    if (header.type ≠ 3#16 ∧ header.type ≠ 4#16) ∨ body.length < 8 ∨
        (body.length - 8) % 4 ≠ 0 ∨ get body 4 ≠ 0#8 then none
    else
      some
        { networkMask := read32 body 0, metric := read24 body 5,
          autonomousSystemBoundaryRouter := header.type == 4#16 }

def parseVersionTwoExternal (encoded : List (BitVec 8)) : Option VersionTwoExternalView :=
  match bodyHeader encoded .two with
  | none => none
  | some header =>
    let body := lsaBody encoded
    if (header.type ≠ 5#16 ∧ header.type ≠ 7#16) ∨ body.length < 16 ∨
        (body.length - 16) % 12 ≠ 0 then none
    else
      some
        { networkMask := read32 body 0, metric := read24 body 5, forwardingAddress := read32 body 8,
          routeTag := read32 body 12, typeTwoMetric := get body 4 &&& 0x80#8 ≠ 0#8,
          nssa := header.type == 7#16 }

end VersionTwo

section Prefixes

/-- The next offset is left to the reader of a list. -/
structure VersionThreePrefix where
  significantOctets : List (BitVec 8)
  metric : BitVec 16
  length : BitVec 8
  options : BitVec 8

/-- The octets up to the next boundary of 32 bits. -/
def paddedPrefixOctets (length : BitVec 8) : Nat := (length.toNat + 31) / 32 * 4

/-- No bit behind the length is set. -/
def canonicalPrefix (bytes : List (BitVec 8)) (length : BitVec 8) (paddedOctets : Nat) : Bool :=
  if 128#8 < length ∨ bytes.length < paddedOctets then false
  else
    let meaningful := (length.toNat + 7) / 8
    let hostMask : BitVec 8 := (1#8 <<< (8 - length.toNat % 8)) - 1#8
    if meaningful ≠ 0 ∧ length.toNat % 8 ≠ 0 ∧
        get bytes (meaningful - 1) &&& hostMask ≠ 0#8 then false
    else ((bytes.take paddedOctets).drop meaningful).all (· == 0#8)

/-- The prefix at an offset, and the offset behind it. -/
def versionThreePrefix (prefixes : List (BitVec 8)) (offset : Nat) (metricPresent : Bool)
    (reservedMustBeZero : Bool) : Option (VersionThreePrefix × Nat) :=
  if prefixes.length < offset + 4 then none
  else
    let length := get prefixes offset
    let padded := paddedPrefixOctets length
    let total := 4 + padded
    if 128#8 < length ∨ prefixes.length - offset < total then none
    else
      let address := (prefixes.drop (offset + 4)).take padded
      if (!metricPresent && reservedMustBeZero && read16 prefixes (offset + 2) != 0#16) ||
          !canonicalPrefix address length padded then none
      else
        some
          ({ significantOctets := address.take ((length.toNat + 7) / 8)
             metric := if metricPresent then read16 prefixes (offset + 2) else 0#16, length,
             options := get prefixes (offset + 1) }, offset + total)

/-- So many prefixes, and the offset behind them. -/
def versionThreePrefixes (prefixes : List (BitVec 8)) (metricPresent : Bool) :
    Nat → Nat → Option (List VersionThreePrefix × Nat)
  | 0, offset => some ([], offset)
  | count + 1, offset =>
    match versionThreePrefix prefixes offset metricPresent true with
    | none => none
    | some (item, next) =>
      (versionThreePrefixes prefixes metricPresent count next).map fun walked =>
        (item :: walked.1, walked.2)

/-- The octets that are left out are zero. -/
def expandPrefix (item : VersionThreePrefix) : Option Ipv6 :=
  if 128#8 < item.length ∨ item.significantOctets.length ≠ (item.length.toNat + 7) / 8 then none
  else some (read128 item.significantOctets 0)

end Prefixes

section VersionThree

structure VersionThreeRouterView where
  links : List (Option VersionThreeRouterLink)
  options : BitVec 32
  flags : BitVec 8

structure VersionThreeNetworkView where
  attachedRouters : List (BitVec 32)
  options : BitVec 32

structure VersionThreeInterAreaPrefixView where
  item : VersionThreePrefix
  metric : BitVec 32

structure VersionThreeInterAreaRouterView where
  destinationRouterId : BitVec 32
  metric : BitVec 32
  options : BitVec 32

structure VersionThreeExternalView where
  item : VersionThreePrefix
  forwardingAddress : List (BitVec 8)
  routeTag : Option (BitVec 32)
  referencedLinkStateId : Option (BitVec 32)
  metric : BitVec 32
  typeTwoMetric : Bool
  nssa : Bool

structure VersionThreeLinkView where
  prefixes : List VersionThreePrefix
  linkLocalAddress : Ipv6
  options : BitVec 32
  routerPriority : BitVec 8

structure VersionThreeIntraAreaPrefixView where
  prefixes : List VersionThreePrefix
  referencedLinkStateId : BitVec 32
  referencedAdvertisingRouter : BitVec 32
  referencedLsaType : BitVec 16

/-- The body of an advertisement with the function code. -/
def versionThreeBody (encoded : List (BitVec 8)) (function : BitVec 16) :
    Option (List (BitVec 8)) :=
  match bodyHeader encoded .three with
  | none => none
  | some header =>
    if header.type &&& 0x1fff#16 ≠ function then none else some (lsaBody encoded)

def versionThreeRouterView (encoded : List (BitVec 8)) : Option VersionThreeRouterView :=
  (parseVersionThreeRouter encoded).map fun links =>
    { links, options := read24 (lsaBody encoded) 1, flags := get (lsaBody encoded) 0 }

def versionThreeNetworkView (encoded : List (BitVec 8)) : Option VersionThreeNetworkView :=
  (parseVersionThreeNetwork encoded).map fun attachedRouters =>
    { attachedRouters, options := read24 (lsaBody encoded) 1 }

def parseVersionThreeInterAreaPrefix (encoded : List (BitVec 8)) :
    Option VersionThreeInterAreaPrefixView :=
  (versionThreeBody encoded 3#16).bind fun body =>
    if body.length < 8 ∨ get body 0 ≠ 0#8 then none
    else
      match versionThreePrefix (body.drop 4) 0 false true with
      | none => none
      | some (item, next) =>
        if next ≠ body.length - 4 then none
        else some { item, metric := read24 body 1 }

def parseVersionThreeInterAreaRouter (encoded : List (BitVec 8)) :
    Option VersionThreeInterAreaRouterView :=
  (versionThreeBody encoded 4#16).bind fun body =>
    if body.length ≠ 12 ∨ get body 4 ≠ 0#8 then none
    else
      some
        { destinationRouterId := read32 body 8, metric := read24 body 5, options := read24 body 1 }

/-- An optional word, and what follows it. -/
def optionalWord (present : Bool) (bytes : List (BitVec 8)) :
    Option (Option (BitVec 32) × List (BitVec 8)) :=
  if !present then some (none, bytes)
  else if bytes.length < 4 then none
  else some (some (read32 bytes 0), bytes.drop 4)

def parseVersionThreeExternal (encoded : List (BitVec 8)) (ipv4AddressFamily : Bool) :
    Option VersionThreeExternalView :=
  match bodyHeader encoded .three with
  | none => none
  | some header =>
    let function := header.type &&& 0x1fff#16
    let body := lsaBody encoded
    if (function ≠ 5#16 ∧ function ≠ 7#16) ∨ body.length < 8 then none
    else
      let flags := get body 0
      match versionThreePrefix (body.drop 4) 0 false false with
      | none => none
      | some (item, next) =>
        if ipv4AddressFamily ∧ 32#8 < item.length then none
        else
          let rest := body.drop (4 + next)
          let forwardingOctets :=
            if flags &&& 0x40#8 ≠ 0#8 then if ipv4AddressFamily then 4 else 16 else 0
          if rest.length < forwardingOctets then none
          else
            match optionalWord (flags &&& 0x20#8 ≠ 0#8) (rest.drop forwardingOctets) with
            | none => none
            | some (routeTag, rest') =>
              -- A referenced type is followed by a link state id.
              match optionalWord (read16 (body.drop 4) 2 ≠ 0#16) rest' with
              | none => none
              | some (referencedLinkStateId, rest'') =>
                if rest''.length ≠ 0 then none
                else
                  some
                    { item, forwardingAddress := rest.take forwardingOctets, routeTag,
                      referencedLinkStateId, metric := read24 body 1,
                      typeTwoMetric := flags &&& 0x80#8 ≠ 0#8, nssa := function == 7#16 }

def isLinkLocal (address : Ipv6) : Bool :=
  (address >>> 120).setWidth 8 == 0xfe#8 && (address >>> 112).setWidth 8 &&& 0xc0#8 == 0x80#8

/-- An IPv4 address in the first word and nothing behind it. -/
def isDirectInterfaceAddress (address : Ipv6) : Bool :=
  (address >>> 96).setWidth 32 != 0#32 && address.setWidth 96 == 0#96

def linkAddressValid (address : Ipv6) (ipv4AddressFamily : Bool) : Bool :=
  if ipv4AddressFamily then isDirectInterfaceAddress address else isLinkLocal address

def parseVersionThreeLink (encoded : List (BitVec 8)) (ipv4AddressFamily : Bool) :
    Option VersionThreeLinkView :=
  (versionThreeBody encoded 8#16).bind fun body =>
    if body.length < 24 then none
    else
      match versionThreePrefixes (body.drop 24) false (read32 body 20).toNat 0 with
      | none => none
      | some (prefixes, next) =>
        let linkLocalAddress := read128 body 4
        if next ≠ body.length - 24 ∨ !linkAddressValid linkLocalAddress ipv4AddressFamily then none
        else
          some
            { prefixes, linkLocalAddress, options := read24 body 1, routerPriority := get body 0 }

def parseVersionThreeIntraAreaPrefix (encoded : List (BitVec 8)) :
    Option VersionThreeIntraAreaPrefixView :=
  (versionThreeBody encoded 9#16).bind fun body =>
    if body.length < 12 then none
    else
      match versionThreePrefixes (body.drop 12) true (read16 body 0).toNat 0 with
      | none => none
      | some (prefixes, next) =>
        if next ≠ body.length - 12 then none
        else
          some
            { prefixes, referencedLinkStateId := read32 body 4,
              referencedAdvertisingRouter := read32 body 8, referencedLsaType := read16 body 2 }

end VersionThree

section RouterInformation

structure RouterInformationView where
  informationalCapabilities : List (BitVec 8) := []
  functionalCapabilities : List (BitVec 8) := []

/-- What one item adds to the view. The base capabilities of instance zero come first. -/
def RouterInformationView.item (view : RouterInformationView) (instanceId : BitVec 32)
    (ordinal : Nat) (item : TlvView) : Option RouterInformationView :=
  if item.type = 1#16 then
    if (instanceId = 0#32 ∧ ordinal ≠ 0) ∨ item.value.length < 4 ∨ item.value.length % 4 ≠ 0 then
      none
    else if view.informationalCapabilities.isEmpty then
      some { view with informationalCapabilities := item.value }
    else some view
  else if item.type = 2#16 then
    if instanceId ≠ 0#32 ∨ item.value.length < 4 ∨ item.value.length % 4 ≠ 0 then none
    else if view.functionalCapabilities.isEmpty then
      some { view with functionalCapabilities := item.value }
    else some view
  else some view

/-- Every item takes at least four octets, so that many steps as there are octets are
enough. -/
def routerInformationItems (instanceId : BitVec 32) :
    Nat → Nat → List (BitVec 8) → RouterInformationView → Option RouterInformationView
  | _, _, [], view => some view
  | 0, _, _ :: _, _ => none
  | steps + 1, ordinal, body, view =>
    (tlv body).bind fun item =>
      (view.item instanceId ordinal item).bind fun view =>
        routerInformationItems instanceId steps (ordinal + 1) item.rest view

/-- The instance of a Router Information LSA, if it is one. -/
def routerInformationInstance (header : LsaHeaderView) : Version → Option (BitVec 32)
  | .two =>
    if (header.type = 9#16 ∨ header.type = 10#16 ∨ header.type = 11#16) ∧
        header.linkStateId >>> 24 = 4#32 then some (header.linkStateId &&& 0x00ffffff#32)
    else none
  | .three =>
    -- Without the U bit an unknown type is not ours to read.
    if header.type &&& 0x1fff#16 ≠ 12#16 ∨ header.type &&& 0x8000#16 = 0#16 then none
    else some header.linkStateId

def parseRouterInformationLsa (encoded : List (BitVec 8)) (version : Version) :
    Option RouterInformationView :=
  (bodyHeader encoded version).bind fun header =>
    (routerInformationInstance header version).bind fun instanceId =>
      routerInformationItems instanceId encoded.length 0 (lsaBody encoded) {}

end RouterInformation

end RouterSim.Ospf
