import RouterSim.Ospf.LsaUnderstood

/-! Every advertisement the originator writes is installed by an empty database with room, and the
matching reader gives back what the writer was given. -/
namespace RouterSim.Ospf

open Ip (Ipv6)

/-- What a writer is given, and which one it is. -/
inductive Origination
  | versionTwoRouter (links : List VersionTwoRouterLink) (abr asbr virtualLinkEndpoint : Bool)
  | versionTwoNetwork (networkMask : BitVec 32) (attachedRouters : List (BitVec 32))
  | versionTwoSummary (networkMask metric : BitVec 32)
  | versionTwoExternal (networkMask metric : BitVec 32) (typeTwo : Bool)
      (forwardingAddress routeTag : BitVec 32)
  | versionThreeRouter (links : List VersionThreeRouterLink) (flags : BitVec 8)
      (options : BitVec 32)
  | versionThreeNetwork (options : BitVec 32) (attachedRouters : List (BitVec 32))
  | versionThreeInterAreaPrefix (metric : BitVec 32) (input : PrefixInput)
  | versionThreeInterAreaRouter (options metric destinationRouterId : BitVec 32)
  | versionThreeExternal (metric : BitVec 32) (typeTwo : Bool) (input : PrefixInput)
      (forwardingAddress : List (BitVec 8)) (routeTag : Option (BitVec 32))
      (referencedLsaType : BitVec 16) (referencedLinkStateId : Option (BitVec 32))
  | versionThreeLink (priority : BitVec 8) (options : BitVec 32) (linkLocal : Ipv6)
      (prefixes : List PrefixInput)
  | versionThreeIntraAreaPrefix (referencedType : BitVec 16)
      (referencedLinkStateId referencedAdvertisingRouter : BitVec 32) (prefixes : List PrefixInput)
  | routerInformation (informationalCapabilities : BitVec 32)

namespace Origination

variable {room : Nat} {header : OriginationHeader} {body bytes : List (BitVec 8)}
  {origination : Origination} {ipv4AddressFamily : Bool}

def encode (room : Nat) (header : OriginationHeader) : Origination → Option (List (BitVec 8))
  | versionTwoRouter links abr asbr virtualLinkEndpoint =>
    encodeVersionTwoRouterLsa room header links abr asbr virtualLinkEndpoint
  | versionTwoNetwork networkMask attachedRouters =>
    encodeVersionTwoNetworkLsa room header networkMask attachedRouters
  | versionTwoSummary networkMask metric =>
    encodeVersionTwoSummaryLsa room header networkMask metric
  | versionTwoExternal networkMask metric typeTwo forwardingAddress routeTag =>
    encodeVersionTwoExternalLsa room header networkMask metric typeTwo forwardingAddress routeTag
  | versionThreeRouter links flags options =>
    encodeVersionThreeRouterLsa room header links flags options
  | versionThreeNetwork options attachedRouters =>
    encodeVersionThreeNetworkLsa room header options attachedRouters
  | versionThreeInterAreaPrefix metric input =>
    encodeVersionThreeInterAreaPrefixLsa room header metric input
  | versionThreeInterAreaRouter options metric destinationRouterId =>
    encodeVersionThreeInterAreaRouterLsa room header options metric destinationRouterId
  | versionThreeExternal metric typeTwo input forwardingAddress routeTag referencedLsaType
      referencedLinkStateId =>
    encodeVersionThreeExternalLsa room header metric typeTwo input forwardingAddress routeTag
      referencedLsaType referencedLinkStateId
  | versionThreeLink priority options linkLocal prefixes =>
    encodeVersionThreeLinkLsa room header priority options linkLocal prefixes
  | versionThreeIntraAreaPrefix referencedType referencedLinkStateId referencedAdvertisingRouter
      prefixes =>
    encodeVersionThreeIntraAreaPrefixLsa room header referencedType referencedLinkStateId
      referencedAdvertisingRouter prefixes
  | routerInformation informationalCapabilities =>
    encodeRouterInformationLsa room header informationalCapabilities

/-- Option words of 24 bits, and addresses of the address family. -/
def Admitted (ipv4AddressFamily : Bool) : Origination → Prop
  | versionThreeRouter _ _ options => ¬ 0x00ffffff#32 < options
  | versionThreeNetwork options _ => ¬ 0x00ffffff#32 < options
  | versionThreeInterAreaRouter options _ _ => ¬ 0x00ffffff#32 < options
  | versionThreeExternal _ _ _ forwardingAddress _ _ _ =>
    forwardingAddress = [] ∨ forwardingAddress.length = if ipv4AddressFamily then 4 else 16
  | versionThreeLink _ options linkLocal _ =>
    ¬ 0x00ffffff#32 < options ∧ linkAddressValid linkLocal ipv4AddressFamily = true
  | _ => True

/-- An external prefix is not longer than an address of the address family. -/
def PrefixFits (ipv4AddressFamily : Bool) : Origination → Prop
  | versionThreeExternal _ _ input _ _ _ _ => ipv4AddressFamily = true → ¬ 32#8 < input.length
  | _ => True

/-- The prefix that is read holds the whole network. -/
def Expands (metric : Bool) (input : PrefixInput) : Prop :=
  expandPrefix (input.view metric) = some input.network

/-- What the matching reader gives. -/
def Understood (header : OriginationHeader) (ipv4AddressFamily : Bool)
    (bytes : List (BitVec 8)) : Origination → Prop
  | versionTwoRouter links abr asbr virtualLinkEndpoint =>
    versionTwoRouterView bytes = some
      { links, areaBorderRouter := abr, autonomousSystemBoundaryRouter := asbr,
        virtualLinkEndpoint }
  | versionTwoNetwork networkMask attachedRouters =>
    versionTwoNetworkView bytes = some { attachedRouters, networkMask }
  | versionTwoSummary networkMask metric =>
    parseVersionTwoSummary bytes = some
      { networkMask, metric, autonomousSystemBoundaryRouter := header.type == 4#16 }
  | versionTwoExternal networkMask metric typeTwo forwardingAddress routeTag =>
    parseVersionTwoExternal bytes = some
      { networkMask, metric, forwardingAddress, routeTag, typeTwoMetric := typeTwo,
        nssa := header.type == 7#16 }
  | versionThreeRouter links flags options =>
    versionThreeRouterView bytes = some { links := links.map some, options, flags }
  | versionThreeNetwork options attachedRouters =>
    versionThreeNetworkView bytes = some { attachedRouters, options }
  | versionThreeInterAreaPrefix metric input =>
    parseVersionThreeInterAreaPrefix bytes = some { item := input.view false, metric } ∧
      Expands false input
  | versionThreeInterAreaRouter options metric destinationRouterId =>
    parseVersionThreeInterAreaRouter bytes = some { destinationRouterId, metric, options }
  | versionThreeExternal metric typeTwo input forwardingAddress routeTag _ referencedLinkStateId =>
    parseVersionThreeExternal bytes ipv4AddressFamily = some
      { item := input.view false, forwardingAddress, routeTag, referencedLinkStateId, metric,
        typeTwoMetric := typeTwo, nssa := header.function == 7#16 } ∧ Expands false input
  | versionThreeLink priority options linkLocal prefixes =>
    parseVersionThreeLink bytes ipv4AddressFamily = some
      { prefixes := prefixes.map (·.view false), linkLocalAddress := linkLocal, options,
        routerPriority := priority } ∧ ∀ input ∈ prefixes, Expands false input
  | versionThreeIntraAreaPrefix referencedType referencedLinkStateId referencedAdvertisingRouter
      prefixes =>
    parseVersionThreeIntraAreaPrefix bytes = some
      { prefixes := prefixes.map (·.view true), referencedLinkStateId, referencedAdvertisingRouter,
        referencedLsaType := referencedType } ∧ ∀ input ∈ prefixes, Expands true input
  | routerInformation informationalCapabilities =>
    parseRouterInformationLsa bytes header.version = some
      { informationalCapabilities := Octets.octets32 informationalCapabilities }

/-- A type the database knows, that one octet holds in version two. -/
structure Typed (header : OriginationHeader) : Prop where
  known : header.version = .two → knownVersionTwoType header.type = true
  function : header.version = .three → header.function ≠ 0#16

theorem Typed.fits (typed : Typed header)
    (options : header.version = .two → ¬ 0x000000ff#32 < header.options) : header.Fits where
  type := by
    intro two
    have known := typed.known two
    simp only [knownVersionTwoType, asserted] at known
    constructor
    · intro zero
      rw [zero] at known
      simp at known
    · rw [BitVec.lt_def]
      simp only [BitVec.toNat_ofNat]
      omega
  options := options
  function := typed.function

theorem typed_two (two : header.version = .two) (known : knownVersionTwoType header.type = true) :
    Typed header := by
  refine ⟨fun _ => known, fun three => ?_⟩
  rw [two] at three
  cases three

theorem typed_three {function : BitVec 16} (three : header.version = .three)
    (type : header.function = function) (real : function ≠ 0#16) : Typed header := by
  refine ⟨fun two => ?_, fun _ => by rw [type]; exact real⟩
  rw [three] at two
  cases two

/-- What a writer writes is finished, of a known type, and understood. -/
theorem encode_spec (h : origination.encode room header = some bytes)
    (options : header.version = .two → ¬ 0x000000ff#32 < header.options)
    (admitted : origination.Admitted ipv4AddressFamily)
    (prefixFits : origination.PrefixFits ipv4AddressFamily) :
    Typed header ∧ (∃ body, Finished header body bytes) ∧
      origination.Understood header ipv4AddressFamily bytes := by
  have concludes : ∀ {body : List (BitVec 8)} {understood : Prop}, Typed header →
      finish room header body = some bytes → (Finished header body bytes → understood) →
      Typed header ∧ (∃ body, Finished header body bytes) ∧ understood := by
    intro body understood typed written reads
    have done := finished (typed.fits options) written
    exact ⟨typed, ⟨_, done⟩, reads done⟩
  -- The checks of each kind, and what was written once they are passed.
  cases origination with
    (obtain ⟨guards, written⟩ := Option.ite_none_left_eq_some.mp h
     simp only [not_or, Decidable.not_and_iff_not_or_not, Decidable.not_not, Bool.not_eq_true',
       Bool.not_eq_false] at guards)
  | versionTwoRouter links abr asbr virtualLinkEndpoint =>
    obtain ⟨two, type, few⟩ := guards
    exact concludes (typed_two two (by rw [type]; rfl)) written fun done =>
      versionTwoRouter_understood done two type (by omega)
  | versionTwoNetwork networkMask attachedRouters =>
    obtain ⟨two, type, -⟩ := guards
    exact concludes (typed_two two (by rw [type]; rfl)) written fun done =>
      versionTwoNetwork_understood done two type
  | versionTwoSummary networkMask metric =>
    obtain ⟨two, type, small⟩ := guards
    have typed := typed_two two (by obtain type | type := type <;> rw [type] <;> rfl)
    exact concludes typed written fun done => versionTwoSummary_understood done two type small
  | versionTwoExternal networkMask metric typeTwo forwardingAddress routeTag =>
    obtain ⟨two, type, small⟩ := guards
    have typed := typed_two two (by obtain type | type := type <;> rw [type] <;> rfl)
    exact concludes typed written fun done => versionTwoExternal_understood done two type small
  | versionThreeRouter links flags word =>
    obtain ⟨three, type⟩ := guards
    exact concludes (typed_three three type (by decide)) written fun done =>
      versionThreeRouter_understood done three type admitted
  | versionThreeNetwork word attachedRouters =>
    obtain ⟨three, type, -⟩ := guards
    exact concludes (typed_three three type (by decide)) written fun done =>
      versionThreeNetwork_understood done three type admitted
  | versionThreeInterAreaPrefix metric input =>
    obtain ⟨three, type, small, canonical⟩ := guards
    exact concludes (typed_three three type (by decide)) written fun done =>
      ⟨interAreaPrefix_understood done three type small canonical, expandPrefix_view canonical⟩
  | versionThreeInterAreaRouter word metric destinationRouterId =>
    obtain ⟨three, type, few, small, -⟩ := guards
    exact concludes (typed_three three type (by decide)) written fun done =>
      interAreaRouter_understood done three type few small
  | versionThreeExternal metric typeTwo input forwardingAddress routeTag referencedLsaType
      referencedLinkStateId =>
    obtain ⟨three, type, small, canonical, -, referenced⟩ := guards
    have referenced : (referencedLsaType != 0#16) = referencedLinkStateId.isSome := by
      cases referencedLinkStateId <;> simpa using referenced
    have typed : Typed header := by
      obtain type | type := type
      · exact typed_three three type (by decide)
      · exact typed_three three type (by decide)
    exact concludes typed written fun done =>
      ⟨versionThreeExternal_understood done three type small canonical referenced admitted
        prefixFits, expandPrefix_view canonical⟩
  | versionThreeLink priority word linkLocal prefixes =>
    obtain ⟨sized, three, type⟩ := guards
    obtain ⟨octets, sized⟩ := Option.ne_none_iff_exists'.mp (by simpa using sized)
    have canonical := canonical_of_prefixesOctets sized
    exact concludes (typed_three three type (by decide)) written fun done =>
      ⟨versionThreeLink_understood done three type admitted.1 canonical admitted.2,
        fun input hmem => expandPrefix_view (canonical input hmem)⟩
  | versionThreeIntraAreaPrefix referencedType referencedLinkStateId referencedAdvertisingRouter
      prefixes =>
    obtain ⟨sized, three, type, few⟩ := guards
    obtain ⟨octets, sized⟩ := Option.ne_none_iff_exists'.mp (by simpa using sized)
    have canonical := canonical_of_prefixesOctets sized
    exact concludes (typed_three three type (by decide)) written fun done =>
      ⟨intraAreaPrefix_understood done three type canonical (by omega),
        fun input hmem => expandPrefix_view (canonical input hmem)⟩
  | routerInformation informationalCapabilities =>
    obtain ⟨identity, written⟩ := Option.ite_none_left_eq_some.mp h
    cases version : header.version with
    | two =>
      simp only [version, Bool.not_eq_true', Bool.not_eq_false, Bool.and_eq_true, Bool.or_eq_true,
        beq_iff_eq, or_assoc] at identity
      obtain ⟨type, opaqueType⟩ := identity
      have typed := typed_two version (by obtain type | type | type := type <;> rw [type] <;> rfl)
      refine concludes typed written fun done => routerInformation_understood done rfl ?_
      intro view viewType viewId
      rw [version, routerInformationInstance, viewType, viewId, if_pos ⟨type, opaqueType⟩]
      rfl
    | three =>
      simp only [version, Bool.not_eq_true', Bool.not_eq_false, Bool.and_eq_true, beq_iff_eq,
        bne_iff_ne] at identity
      obtain ⟨type, unknown⟩ := identity
      have typed := typed_three version type (by decide)
      refine concludes typed written fun done => routerInformation_understood done rfl ?_
      intro view viewType viewId
      have read : ¬ (header.type &&& 0x1fff#16 ≠ 12#16 ∨ header.type &&& 0x8000#16 = 0#16) :=
        not_or.mpr ⟨not_not_intro type, unknown⟩
      rw [version, routerInformationInstance, viewType, if_neg read]
      rfl

end Origination

section Installed

variable {room : Nat} {header : OriginationHeader} {bytes : List (BitVec 8)}
  {origination : Origination} {ipv4AddressFamily : Bool} {db : LinkStateDatabase}

/-- Written, installed and read back. The scope of the type is none of the reserved ones, an
external prefix fits its address family, and there is room for one record. -/
theorem origination_understood (h : origination.encode room header = some bytes)
    (options : header.version = .two → ¬ 0x000000ff#32 < header.options)
    (admitted : origination.Admitted ipv4AddressFamily)
    (age : ¬ maxAgeSeconds < header.ageSeconds) (sequence : header.sequenceNumber ≠ 0x80000000#32)
    (empty : db.records = [])
    (scope : header.version = .three → (header.type >>> 13) &&& 3#16 ≠ 3#16)
    (prefixFits : origination.PrefixFits ipv4AddressFamily) (space : db.maximumRecords ≠ 0)
    (now : Time) (localRouterId : BitVec 32) :
    (db.install bytes header.version now localRouterId false).1 = .installed ∧
      origination.Understood header ipv4AddressFamily bytes := by
  obtain ⟨typed, ⟨body, done⟩, understood⟩ := Origination.encode_spec h options admitted prefixFits
  exact ⟨done.install age sequence typed.known scope empty space now localRouterId, understood⟩

/-- An Inter-Area-Prefix-LSA for 2001:db8::/32. -/
def interAreaHeader : OriginationHeader :=
  { linkStateId := 7#32, advertisingRouter := 0x01010101#32, sequenceNumber := 0x80000001#32,
    type := 0x2003#16, version := .three }

def documentationPrefix : PrefixInput :=
  { network := 0x20010db8000000000000000000000000#128, length := 32#8 }

def interAreaPrefixInput : Origination := .versionThreeInterAreaPrefix 10#32 documentationPrefix

def interAreaPrefixBytes : List (BitVec 8) :=
  ((interAreaPrefixInput).encode 64 interAreaHeader).getD []

theorem interAreaPrefix_written :
    interAreaPrefixInput.encode 64 interAreaHeader = some interAreaPrefixBytes := by
  decide +kernel

theorem interAreaPrefix_origination_understood :
    (({ maximumRecords := 1 } : LinkStateDatabase).install interAreaPrefixBytes .three 0 0#32
        false).1 = .installed ∧
      interAreaPrefixInput.Understood interAreaHeader false interAreaPrefixBytes :=
  origination_understood interAreaPrefix_written
    (fun two => by cases two) trivial (by decide) (by decide) rfl (fun _ => by decide) trivial
    (by decide) 0 0#32

/-- The type of a Router-LSA, with a reserved scope. -/
def reservedScopeHeader : OriginationHeader := { interAreaHeader with type := 0x6001#16 }

def externalHeader : OriginationHeader := { interAreaHeader with type := 0x4005#16 }

/-- An external prefix of 64 bits. -/
def longExternal : Origination :=
  .versionThreeExternal 10#32 false { documentationPrefix with length := 64#8 } [] none 0#16 none

/-- What the originator writes is ignored when its scope is reserved, does not find room in a
database without any, and is not read in the IPv4 address family when its prefix is longer than 32
bits. -/
theorem origination_not_understood :
    (∃ bytes, (Origination.versionThreeRouter [] 0#8 0#32).encode 64 reservedScopeHeader =
        some bytes ∧ (Origination.versionThreeRouter [] 0#8 0#32).Admitted false ∧
      (({ maximumRecords := 1 } : LinkStateDatabase).install bytes .three 0 0#32 false).1 =
        .ignored) ∧
    (∃ bytes, longExternal.encode 64 externalHeader = some bytes ∧ longExternal.Admitted true ∧
      parseVersionThreeExternal bytes true = none) ∧
    ∃ bytes, interAreaPrefixInput.encode 64 interAreaHeader = some bytes ∧
      interAreaPrefixInput.Admitted false ∧
      (({ maximumRecords := 0 } : LinkStateDatabase).install bytes .three 0 0#32 false).1 =
        .capacityExhausted := by
  refine ⟨⟨((Origination.versionThreeRouter [] 0#8 0#32).encode 64 reservedScopeHeader).getD [],
      by decide +kernel, ?_, by decide +kernel⟩,
    ⟨(longExternal.encode 64 externalHeader).getD [], by decide +kernel, ?_, by decide +kernel⟩,
    ⟨interAreaPrefixBytes, interAreaPrefix_written, trivial, by decide +kernel⟩⟩
  · show ¬ 0x00ffffff#32 < 0#32
    decide
  · exact Or.inl rfl

end Installed

end RouterSim.Ospf
