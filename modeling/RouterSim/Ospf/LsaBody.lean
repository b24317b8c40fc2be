import RouterSim.Ospf.Lsdb

/-! The bodies of Router-LSAs and Network-LSAs of both versions, read from their octets. -/
namespace RouterSim.Ospf

open Octets

inductive RouterLinkType
  | pointToPoint | transitNetwork | stubNetwork | virtualLink
  deriving DecidableEq

def routerLinkType (type : BitVec 8) : Option RouterLinkType :=
  if type = 1#8 then some .pointToPoint
  else if type = 2#8 then some .transitNetwork
  else if type = 3#8 then some .stubNetwork
  else if type = 4#8 then some .virtualLink
  else none

structure VersionTwoRouterLink where
  linkId : BitVec 32
  linkData : BitVec 32
  metric : BitVec 16
  type : RouterLinkType

structure VersionThreeRouterLink where
  interfaceId : BitVec 32
  neighborInterfaceId : BitVec 32
  neighborRouterId : BitVec 32
  metric : BitVec 16
  type : RouterLinkType

/-- The header of an advertisement that is as long as it says. -/
def bodyHeader (encoded : List (BitVec 8)) (version : Version) : Option LsaHeaderView :=
  match lsaHeader encoded version with
  | none => none
  | some header => if header.length.toNat = encoded.length then some header else none

/-- The part of the type that says what an advertisement describes. -/
def lsaFunction (version : Version) (header : LsaHeaderView) : BitVec 16 :=
  match version with
  | .two => header.type
  | .three => header.type &&& 0x1fff#16

section VersionTwo

/-- The link at an offset, and the offset after its type-of-service metrics. -/
def versionTwoRouterLink (links : List (BitVec 8)) (offset : Nat) :
    Option (VersionTwoRouterLink × Nat) :=
  if links.length < offset + 12 then none
  else
    let size := 12 + (get links (offset + 9)).toNat * 4
    match routerLinkType (get links (offset + 8)) with
    | none => none
    | some type =>
      if links.length - offset < size then none
      else
        some
          ({ linkId := read32 links offset, linkData := read32 links (offset + 4),
             metric := read16 links (offset + 10), type := type }, offset + size)

def versionTwoRouterLinks (links : List (BitVec 8)) :
    Nat → Nat → Option (List VersionTwoRouterLink × Nat)
  | 0, offset => some ([], offset)
  | count + 1, offset =>
    match versionTwoRouterLink links offset with
    | none => none
    | some (link, next) =>
      (versionTwoRouterLinks links count next).map fun walked => (link :: walked.1, walked.2)

/-- The links of a Router-LSA. They must take up the whole body. -/
def parseVersionTwoRouter (encoded : List (BitVec 8)) : Option (List VersionTwoRouterLink) :=
  match bodyHeader encoded .two with
  | none => none
  | some header =>
    if header.type ≠ 1#16 ∨ encoded.length < lsaHeaderOctets + 4 then none
    else
      let links := encoded.drop (lsaHeaderOctets + 4)
      match versionTwoRouterLinks links (read16 encoded (lsaHeaderOctets + 2)).toNat 0 with
      | none => none
      | some (found, offset) => if offset = links.length then some found else none

end VersionTwo

section VersionThree

def versionThreeRouterLink (links : List (BitVec 8)) (index : Nat) :
    Option VersionThreeRouterLink :=
  let offset := index * 16
  if links.length < offset + 16 then none
  else
    match routerLinkType (get links offset) with
    | none => none
    | some type =>
      if get links (offset + 1) ≠ 0#8 then none
      else
        some
          { interfaceId := read32 links (offset + 4)
            neighborInterfaceId := read32 links (offset + 8)
            neighborRouterId := read32 links (offset + 12), metric := read16 links (offset + 2),
            type := type }

/-- The places for links. What stands in one need not be a link. -/
def parseVersionThreeRouter (encoded : List (BitVec 8)) :
    Option (List (Option VersionThreeRouterLink)) :=
  match bodyHeader encoded .three with
  | none => none
  | some header =>
    if header.type &&& 0x1fff#16 ≠ 1#16 ∨ encoded.length < lsaHeaderOctets + 4 ∨
        (encoded.length - lsaHeaderOctets - 4) % 16 ≠ 0 then none
    else
      let links := encoded.drop (lsaHeaderOctets + 4)
      some ((List.range (links.length / 16)).map (versionThreeRouterLink links))

end VersionThree

/-- The routers attached to a network. -/
def parseNetwork (encoded : List (BitVec 8)) (version : Version) : Option (List (BitVec 32)) :=
  match bodyHeader encoded version with
  | none => none
  | some header =>
    if lsaFunction version header ≠ 2#16 ∨ encoded.length < lsaHeaderOctets + 4 ∨
        (encoded.length - lsaHeaderOctets - 4) % 4 ≠ 0 then none
    else
      let attached := encoded.drop (lsaHeaderOctets + 4)
      some ((List.range (attached.length / 4)).map fun i => read32 attached (i * 4))

def parseVersionTwoNetwork (encoded : List (BitVec 8)) : Option (List (BitVec 32)) :=
  parseNetwork encoded .two

def parseVersionThreeNetwork (encoded : List (BitVec 8)) : Option (List (BitVec 32)) :=
  parseNetwork encoded .three

end RouterSim.Ospf
