import RouterSim.Ospf.LsaRoundTrip

/-! Each reader gives back what the matching writer was given. -/
namespace RouterSim.Ospf

open Ip (Ipv6)
open List Octets Option

variable {header : OriginationHeader} {body bytes : List (BitVec 8)}

theorem read16_body (bytes : List (BitVec 8)) (i : Nat) :
    read16 bytes (lsaHeaderOctets + i) = read16 (lsaBody bytes) i := by
  simp [read16, get_drop, Nat.add_assoc]

theorem drop_body (bytes : List (BitVec 8)) (i : Nat) :
    bytes.drop (lsaHeaderOctets + i) = (lsaBody bytes).drop i := by
  rw [lsaBody, drop_drop]

variable {attachedRouters : List (BitVec 32)} {metric : BitVec 32}

section VersionTwo

theorem routerFlags : ∀ abr asbr virtualLinkEndpoint : Bool,
    ∀ flags, flags = bits [(abr, 0x01#8), (asbr, 0x02#8), (virtualLinkEndpoint, 0x04#8)] →
      decide (flags &&& 0x01#8 ≠ 0#8) = abr ∧ decide (flags &&& 0x02#8 ≠ 0#8) = asbr ∧
        decide (flags &&& 0x04#8 ≠ 0#8) = virtualLinkEndpoint := by
  rintro abr asbr virtualLinkEndpoint flags rfl
  revert abr asbr virtualLinkEndpoint
  decide

theorem versionTwoRouter_understood {links : List VersionTwoRouterLink}
    {abr asbr virtualLinkEndpoint : Bool}
    (done : Finished header
      ([bits [(abr, 0x01#8), (asbr, 0x02#8), (virtualLinkEndpoint, 0x04#8)], 0#8] ++
        octets16 (BitVec.ofNat 16 links.length) ++ links.flatMap (·.octets)) bytes)
    (two : header.version = .two) (type : header.type = 1#16) (few : links.length ≤ 65535) :
    versionTwoRouterView bytes = some
      { links, areaBorderRouter := abr, autonomousSystemBoundaryRouter := asbr,
        virtualLinkEndpoint } := by
  obtain ⟨view, read, viewType, -⟩ := done.bodyHeader
  rw [two] at read
  have count : (read16 bytes (lsaHeaderOctets + 2)).toNat = links.length := by
    rw [read16_body, done.contents]
    refine Eq.trans (congrArg BitVec.toNat (read16_octets16 _)) ?_
    rw [BitVec.toNat_ofNat]
    omega
  have rest : bytes.drop (lsaHeaderOctets + 4) = links.flatMap (·.octets) := by
    rw [drop_body, done.contents]
    rfl
  have found : parseVersionTwoRouter bytes = some links := by
    have walked := versionTwoRouterLinks_append links []
    rw [nil_append, length_nil, Nat.zero_add] at walked
    have long : ¬ (header.type ≠ 1#16 ∨ bytes.length < lsaHeaderOctets + 4) := by
      rw [done.length]
      simp [type, octets16]
    unfold parseVersionTwoRouter
    rw [read]
    dsimp only
    rw [viewType, if_neg long, count, rest, walked]
    dsimp only
    rw [if_pos rfl]
  generalize flagsAre : bits _ = octet at done
  obtain ⟨first, second, third⟩ := routerFlags abr asbr virtualLinkEndpoint octet flagsAre.symm
  have flags : Octets.get (lsaBody bytes) 0 = octet := by
    rw [done.contents]
    rfl
  simp [versionTwoRouterView, found, flags, first, second, third]

/-- Networks of both versions hold their attached routers behind four octets. -/
theorem network_understood {front : List (BitVec 8)} {version : Version}
    (done : Finished header (front ++ attachedRouters.flatMap octets32) bytes)
    (four : front.length = 4) (same : header.version = version)
    (type : ∀ view, view.type = header.type → lsaFunction version view = 2#16) :
    parseNetwork bytes version = some attachedRouters := by
  obtain ⟨view, read, viewType, -⟩ := done.bodyHeader
  rw [same] at read
  have octets : (attachedRouters.flatMap octets32).length = attachedRouters.length * 4 :=
    length_routers _
  have long : ¬ (lsaFunction version view ≠ 2#16 ∨
      bytes.length < lsaHeaderOctets + 4 ∨ (bytes.length - lsaHeaderOctets - 4) % 4 ≠ 0) := by
    rw [done.length, length_append, four, octets]
    simp only [type view viewType, ne_eq, settled]
    omega
  have rest : bytes.drop (lsaHeaderOctets + 4) = attachedRouters.flatMap octets32 := by
    rw [drop_body, done.contents, ← four, drop_left]
  unfold parseNetwork
  rw [read]
  dsimp only
  rw [if_neg long, rest, attachedRouters_flatMap]

variable {networkMask : BitVec 32}

theorem versionTwoNetwork_understood (done : Finished header
      (octets32 networkMask ++ attachedRouters.flatMap octets32) bytes)
    (two : header.version = .two) (type : header.type = 2#16) :
    versionTwoNetworkView bytes = some { attachedRouters, networkMask } := by
  have found := network_understood done rfl two fun _ same => same.trans type
  have mask : read32 (octets32 networkMask ++ attachedRouters.flatMap octets32) 0 = networkMask :=
    read32_octets32 networkMask
  rw [versionTwoNetworkView, parseVersionTwoNetwork, found, done.contents, map_some, mask]

theorem versionTwoSummary_understood (done : Finished header
      (octets32 networkMask ++ [0#8] ++ octets24 metric) bytes)
    (two : header.version = .two) (type : header.type = 3#16 ∨ header.type = 4#16)
    (small : ¬ 0x00ffffff#32 < metric) :
    parseVersionTwoSummary bytes = some
      { networkMask, metric, autonomousSystemBoundaryRouter := header.type == 4#16 } := by
  obtain ⟨view, read, viewType, -⟩ := done.bodyHeader
  rw [two] at read
  have typed : ¬ (header.type ≠ 3#16 ∧ header.type ≠ 4#16) := by
    rintro ⟨three, four⟩
    exact type.elim three four
  generalize contents : octets32 networkMask ++ _ ++ _ = body at done
  have mask : read32 body 0 = networkMask := contents ▸ read32_octets32 networkMask
  have whole := read24_octets24 small
  have cost : read24 body 5 = metric := contents ▸ whole
  have reserved : Octets.get body 4 = 0#8 := contents ▸ rfl
  have eight : body.length = 8 := contents ▸ rfl
  have good : ¬ ((header.type ≠ 3#16 ∧ header.type ≠ 4#16) ∨ 8 < 8 ∨ (8 - 8) % 4 ≠ 0 ∨
      0#8 ≠ 0#8) := by
    simp only [typed]
    decide
  unfold parseVersionTwoSummary
  rw [read]
  dsimp only
  rw [done.contents, viewType, mask, cost, reserved, eight, if_neg good]

theorem versionTwoExternal_understood {typeTwo : Bool} {forwardingAddress routeTag : BitVec 32}
    (done : Finished header
      (octets32 networkMask ++ [if typeTwo then 0x80#8 else 0#8] ++
        octets24 metric ++ octets32 forwardingAddress ++ octets32 routeTag) bytes)
    (two : header.version = .two) (type : header.type = 5#16 ∨ header.type = 7#16)
    (small : ¬ 0x00ffffff#32 < metric) :
    parseVersionTwoExternal bytes = some
      { networkMask, metric, forwardingAddress, routeTag, typeTwoMetric := typeTwo,
        nssa := header.type == 7#16 } := by
  obtain ⟨view, read, viewType, -⟩ := done.bodyHeader
  rw [two] at read
  have typed : ¬ (header.type ≠ 5#16 ∧ header.type ≠ 7#16) := by
    rintro ⟨five, seven⟩
    exact type.elim five seven
  generalize contents : octets32 networkMask ++ _ ++ _ ++ _ ++ _ = body at done
  have mask : read32 body 0 = networkMask := contents ▸ read32_octets32 networkMask
  have whole := read24_octets24 small
  have cost : read24 body 5 = metric := contents ▸ whole
  have forwarding : read32 body 8 = forwardingAddress :=
    contents ▸ read32_octets32 forwardingAddress
  have tag : read32 body 12 = routeTag := contents ▸ read32_octets32 routeTag
  have flags : Octets.get body 4 = if typeTwo then 0x80#8 else 0#8 := contents ▸ rfl
  have sixteen : body.length = 16 := contents ▸ rfl
  have good : ¬ ((header.type ≠ 5#16 ∧ header.type ≠ 7#16) ∨ 16 < 16 ∨ (16 - 16) % 12 ≠ 0) := by
    simp only [typed]
    decide
  have metricType : decide ((if typeTwo then 0x80#8 else 0#8) &&& 0x80#8 ≠ 0#8) = typeTwo := by
    cases typeTwo <;> rfl
  unfold parseVersionTwoExternal
  rw [read]
  dsimp only
  rw [done.contents, viewType, mask, cost, forwarding, tag, flags, sixteen, if_neg good, metricType]

end VersionTwo

section VersionThree

theorem versionThreeBody_understood (done : Finished header body bytes)
    (three : header.version = .three) {function : BitVec 16}
    (type : header.function = function) : versionThreeBody bytes function = some body := by
  obtain ⟨view, read, viewType, -⟩ := done.bodyHeader
  rw [three] at read
  have same : view.type &&& 0x1fff#16 = function := by rw [viewType, ← type]; rfl
  unfold versionThreeBody
  rw [read]
  dsimp only
  rw [if_neg (not_not_intro same), done.contents]

variable {options : BitVec 32}

theorem versionThreeRouter_understood {links : List VersionThreeRouterLink} {flags : BitVec 8}
    (done : Finished header ([flags] ++ octets24 options ++ links.flatMap (·.octets)) bytes)
    (three : header.version = .three) (type : header.function = 1#16)
    (few : ¬ 0x00ffffff#32 < options) :
    versionThreeRouterView bytes = some { links := links.map some, options, flags } := by
  obtain ⟨view, read, viewType, -⟩ := done.bodyHeader
  rw [three] at read
  have octets : (links.flatMap (·.octets)).length = links.length * 16 :=
    length_records length_versionThreeLink _
  have long : ¬ (view.type &&& 0x1fff#16 ≠ 1#16 ∨ bytes.length < lsaHeaderOctets + 4 ∨
      (bytes.length - lsaHeaderOctets - 4) % 16 ≠ 0) := by
    have same : view.type &&& 0x1fff#16 = 1#16 := by rw [viewType, ← type]; rfl
    rw [done.length, length_append, octets]
    simp only [same, octets24, ne_eq, settled, length_append, length_cons, length_nil]
    omega
  have rest : bytes.drop (lsaHeaderOctets + 4) = links.flatMap (·.octets) := by
    rw [drop_body, done.contents]
    rfl
  have found : parseVersionThreeRouter bytes = some (links.map some) := by
    unfold parseVersionThreeRouter
    rw [read]
    dsimp only
    rw [if_neg long, rest, versionThreeRouterLinks_flatMap]
  have whole := read24_octets24 few
  have word : read24 (lsaBody bytes) 1 = options := by
    rw [done.contents]
    exact whole
  have first : Octets.get (lsaBody bytes) 0 = flags := by
    rw [done.contents]
    rfl
  rw [versionThreeRouterView, found, map_some, word, first]

theorem versionThreeNetwork_understood (done : Finished header
      ([0#8] ++ octets24 options ++ attachedRouters.flatMap octets32) bytes)
    (three : header.version = .three) (type : header.function = 2#16)
    (few : ¬ 0x00ffffff#32 < options) :
    versionThreeNetworkView bytes = some { attachedRouters, options } := by
  have found := network_understood done rfl three fun view same => by
    rw [lsaFunction, same, ← type]
    rfl
  have whole := read24_octets24 few
  have word : read24 (lsaBody bytes) 1 = options := by
    rw [done.contents]
    exact whole
  rw [versionThreeNetworkView, parseVersionThreeNetwork, found, map_some, word]

theorem interAreaPrefix_understood {input : PrefixInput}
    (done : Finished header ([0#8] ++ octets24 metric ++ writePrefix false input) bytes)
    (three : header.version = .three) (type : header.function = 3#16)
    (small : ¬ 0x00ffffff#32 < metric) (canonical : input.canonical = true) :
    parseVersionThreeInterAreaPrefix bytes = some { item := input.view false, metric } := by
  have item : versionThreePrefix (writePrefix false input) 0 false true =
      some (input.view false, (writePrefix false input).length) := by
    have one := versionThreePrefix_append canonical [] [] 0#16
      fun (_ : false = false) (_ : true = true) => rfl
    rw [append_nil, nil_append, length_nil, Nat.zero_add] at one
    rw [length_writePrefix]
    exact one
  have whole := read24_octets24 small
  generalize contents : [0#8] ++ octets24 metric ++ writePrefix false input = body at done
  have reserved : Octets.get body 0 = 0#8 := contents ▸ rfl
  have cost : read24 body 1 = metric := contents ▸ whole
  have rest : body.drop 4 = writePrefix false input := contents ▸ rfl
  have length : body.length = 4 + (writePrefix false input).length := by
    rw [← contents, length_append]
    rfl
  have long : ¬ (body.length < 8 ∨ 0#8 ≠ 0#8) := by
    rw [length, length_writePrefix]
    simp only [ne_eq, settled]
    omega
  have last : ¬ (writePrefix false input).length ≠ body.length - 4 := by
    omega
  unfold parseVersionThreeInterAreaPrefix
  rw [versionThreeBody_understood done three type, bind_some, reserved, if_neg long, rest, item]
  dsimp only
  rw [if_neg last, cost]

theorem interAreaRouter_understood {destinationRouterId : BitVec 32} (done : Finished header
      ([0#8] ++ octets24 options ++ [0#8] ++ octets24 metric ++ octets32 destinationRouterId) bytes)
    (three : header.version = .three) (type : header.function = 4#16)
    (few : ¬ 0x00ffffff#32 < options) (small : ¬ 0x00ffffff#32 < metric) :
    parseVersionThreeInterAreaRouter bytes = some { destinationRouterId, metric, options } := by
  have wholeOptions := read24_octets24 few
  have wholeMetric := read24_octets24 small
  have wholeRouter := read32_octets32 destinationRouterId
  generalize contents : [0#8] ++ octets24 options ++ _ ++ _ ++ _ = body at done
  have reserved : Octets.get body 4 = 0#8 := contents ▸ rfl
  have word : read24 body 1 = options := contents ▸ wholeOptions
  have cost : read24 body 5 = metric := contents ▸ wholeMetric
  have router : read32 body 8 = destinationRouterId := contents ▸ wholeRouter
  have twelve : body.length = 12 := contents ▸ rfl
  unfold parseVersionThreeInterAreaRouter
  rw [versionThreeBody_understood done three type, bind_some, reserved, twelve,
    if_neg (by decide), word, cost, router]

theorem optionalWord_append (word : Option (BitVec 32)) (more : List (BitVec 8)) :
    optionalWord word.isSome (word.elim [] octets32 ++ more) = some (word, more) := by
  cases word with
  | none => rfl
  | some word =>
    have read : read32 (octets32 word ++ more) 0 = word := read32_octets32 word
    have long : ¬ (octets32 word ++ more).length < 4 := by simp [octets32]
    show optionalWord true (octets32 word ++ more) = some (some word, more)
    rw [optionalWord, if_neg (by decide), if_neg long, read]
    rfl

theorem externalFlags : ∀ typeTwo forwarding tag : Bool,
    ∀ flags, flags = bits [(typeTwo, 0x80#8), (forwarding, 0x40#8), (tag, 0x20#8)] →
      decide (flags &&& 0x80#8 ≠ 0#8) = typeTwo ∧ (flags &&& 0x40#8 ≠ 0#8 ↔ forwarding = true) ∧
        decide (flags &&& 0x20#8 ≠ 0#8) = tag := by
  rintro typeTwo forwarding tag flags rfl
  revert typeTwo forwarding tag
  decide

/-- The Referenced LS Type is in the advertisement and not in the view. -/
theorem versionThreeExternal_understood {typeTwo : Bool}
    {input : PrefixInput} {forwardingAddress : List (BitVec 8)} {routeTag : Option (BitVec 32)}
    {referencedLsaType : BitVec 16} {referencedLinkStateId : Option (BitVec 32)}
    {ipv4AddressFamily : Bool}
    (done : Finished header
      ([bits [(typeTwo, 0x80#8), (!forwardingAddress.isEmpty, 0x40#8),
          (routeTag.isSome, 0x20#8)]] ++
        octets24 metric ++ [input.length, input.options] ++
        octets16 referencedLsaType ++ input.networkOctets ++ forwardingAddress ++
        (routeTag.elim [] octets32) ++
        (referencedLinkStateId.elim [] octets32)) bytes)
    (three : header.version = .three) (type : header.function = 5#16 ∨ header.function = 7#16)
    (small : ¬ 0x00ffffff#32 < metric) (canonical : input.canonical = true)
    (referenced : (referencedLsaType != 0#16) = referencedLinkStateId.isSome)
    (family : forwardingAddress = [] ∨
      forwardingAddress.length = if ipv4AddressFamily then 4 else 16)
    (prefixFits : ipv4AddressFamily = true → ¬ 32#8 < input.length) :
    parseVersionThreeExternal bytes ipv4AddressFamily = some
      { item := input.view false, forwardingAddress, routeTag, referencedLinkStateId, metric,
        typeTwoMetric := typeTwo, nssa := header.function == 7#16 } := by
  obtain ⟨view, read, viewType, -⟩ := done.bodyHeader
  rw [three] at read
  have function : view.type &&& 0x1fff#16 = header.function := by rw [viewType]; rfl
  have typed : ¬ (header.function ≠ 5#16 ∧ header.function ≠ 7#16) := by
    rintro ⟨five, seven⟩
    exact type.elim five seven
  have whole := read24_octets24 small
  generalize flagsAre : bits _ = flags at done
  obtain ⟨metricType, forwarding, tag⟩ := externalFlags _ _ _ flags flagsAre.symm
  generalize tail : forwardingAddress ++ (routeTag.elim [] octets32 ++
    referencedLinkStateId.elim [] octets32) = optional
  have one := versionThreePrefix_append canonical [] optional referencedLsaType
    fun (_ : false = false) (h : false = true) => by cases h
  rw [nil_append, length_nil, Nat.zero_add] at one
  generalize contents : [flags] ++ _ ++ _ ++ _ ++ _ ++ _ ++ _ ++ _ = body at done
  have first : Octets.get body 0 = flags := contents ▸ rfl
  have cost : read24 body 1 = metric := contents ▸ whole
  have rest : body.drop 4 = [input.length, input.options] ++ octets16 referencedLsaType ++
      input.networkOctets ++ optional := by
    rw [← contents, ← tail]
    simp only [← append_assoc]
    rfl
  have referencedType : read16 (body.drop 4) 2 = referencedLsaType := by
    rw [rest]
    exact read16_octets16 referencedLsaType
  have behind : body.drop (4 + (4 + input.networkOctets.length)) = optional := by
    rw [← drop_drop, rest]
    exact drop_left' (by simp [octets16]; omega)
  have long : ¬ body.length < 8 := by
    rw [← contents]
    simp [octets16, octets24]
  have octets : (if flags &&& 0x40#8 ≠ 0#8 then if ipv4AddressFamily then 4 else 16 else 0) =
      forwardingAddress.length := by
    obtain rfl | sized := family
    · rw [if_neg (by rw [forwarding]; decide)]
      rfl
    · have some : forwardingAddress.isEmpty = false := by
        cases forwardingAddress with
        | nil => cases ipv4AddressFamily <;> cases sized
        | cons octet more => rfl
      rw [if_pos (by rw [forwarding, some]; rfl), sized]
  have enough : ¬ optional.length < forwardingAddress.length := by
    rw [← tail, length_append]
    omega
  have dropped : optional.drop forwardingAddress.length =
      routeTag.elim [] octets32 ++ referencedLinkStateId.elim [] octets32 := by
    rw [← tail, drop_left]
  have taken : optional.take forwardingAddress.length = forwardingAddress := by
    rw [← tail, take_left]
  have reference : decide (referencedLsaType ≠ 0#16) = referencedLinkStateId.isSome := by
    rw [← referenced]
    by_cases zero : referencedLsaType = 0#16 <;> simp [zero]
  have last := optionalWord_append referencedLinkStateId []
  rw [append_nil] at last
  unfold parseVersionThreeExternal
  rw [read]
  dsimp only
  rw [function, done.contents, if_neg (not_or.mpr ⟨typed, long⟩), referencedType, rest, one]
  dsimp only
  rw [if_neg (fun wide => prefixFits wide.1 wide.2), behind, first, octets, if_neg enough, dropped,
    tag, optionalWord_append]
  dsimp only
  rw [reference, last]
  rw [if_neg (by simp), taken, cost, metricType]
  rfl

theorem versionThreeLink_understood {priority : BitVec 8}
    {linkLocal : Ipv6} {prefixes : List PrefixInput} {ipv4AddressFamily : Bool}
    (done : Finished header
      ([priority] ++ octets24 options ++ octets128 linkLocal ++
        octets32 (BitVec.ofNat 32 prefixes.length) ++ prefixes.flatMap (writePrefix false)) bytes)
    (three : header.version = .three) (type : header.function = 8#16)
    (few : ¬ 0x00ffffff#32 < options) (canonical : ∀ input ∈ prefixes, input.canonical = true)
    (address : linkAddressValid linkLocal ipv4AddressFamily = true) :
    parseVersionThreeLink bytes ipv4AddressFamily = some
      { prefixes := prefixes.map (·.view false), linkLocalAddress := linkLocal, options,
        routerPriority := priority } := by
  have small := done.small
  have count := length_le_flatMap_writePrefix false prefixes
  have walked := versionThreePrefixes_append false canonical []
  rw [nil_append, length_nil, Nat.zero_add] at walked
  have wholeOptions := read24_octets24 few
  have wholeAddress := read128_octets128 linkLocal
  have wholeCount := read32_octets32 (BitVec.ofNat 32 prefixes.length)
  generalize contents : [priority] ++ _ ++ _ ++ _ ++ _ = body at done
  have first : Octets.get body 0 = priority := contents ▸ rfl
  have word : read24 body 1 = options := contents ▸ wholeOptions
  have link : read128 body 4 = linkLocal := contents ▸ wholeAddress
  have rest : body.drop 24 = prefixes.flatMap (writePrefix false) := contents ▸ rfl
  have length : body.length = 24 + (prefixes.flatMap (writePrefix false)).length := by
    rw [← contents, length_append]
    rfl
  have number : (read32 body 20).toNat = prefixes.length := by
    have read : read32 body 20 = BitVec.ofNat 32 prefixes.length := contents ▸ wholeCount
    rw [read, BitVec.toNat_ofNat]
    rw [contents, lsaHeaderOctets] at small
    omega
  have last : ¬ ((prefixes.flatMap (writePrefix false)).length ≠ body.length - 24 ∨
      (!linkAddressValid linkLocal ipv4AddressFamily) = true) := by
    rw [address, length]
    simp
  unfold parseVersionThreeLink
  rw [versionThreeBody_understood done three type, bind_some,
    if_neg (by rw [length]; omega), rest, number, walked]
  dsimp only
  rw [link, if_neg last, word, first]

theorem intraAreaPrefix_understood {referencedType : BitVec 16}
    {referencedLinkStateId referencedAdvertisingRouter : BitVec 32} {prefixes : List PrefixInput}
    (done : Finished header
      (octets16 (BitVec.ofNat 16 prefixes.length) ++ octets16 referencedType ++
        octets32 referencedLinkStateId ++ octets32 referencedAdvertisingRouter ++
        prefixes.flatMap (writePrefix true)) bytes)
    (three : header.version = .three) (type : header.function = 9#16)
    (canonical : ∀ input ∈ prefixes, input.canonical = true) (few : prefixes.length ≤ 65535) :
    parseVersionThreeIntraAreaPrefix bytes = some
      { prefixes := prefixes.map (·.view true), referencedLinkStateId, referencedAdvertisingRouter,
        referencedLsaType := referencedType } := by
  have walked := versionThreePrefixes_append true canonical []
  rw [nil_append, length_nil, Nat.zero_add] at walked
  have wholeCount := read16_octets16 (BitVec.ofNat 16 prefixes.length)
  have wholeType := read16_octets16 referencedType
  have wholeId := read32_octets32 referencedLinkStateId
  have wholeRouter := read32_octets32 referencedAdvertisingRouter
  generalize contents : octets16 _ ++ _ ++ _ ++ _ ++ _ = body at done
  have link : read32 body 4 = referencedLinkStateId := contents ▸ wholeId
  have router : read32 body 8 = referencedAdvertisingRouter := contents ▸ wholeRouter
  have kind : read16 body 2 = referencedType := contents ▸ wholeType
  have rest : body.drop 12 = prefixes.flatMap (writePrefix true) := contents ▸ rfl
  have length : body.length = 12 + (prefixes.flatMap (writePrefix true)).length := by
    rw [← contents, length_append]
    rfl
  have number : (read16 body 0).toNat = prefixes.length := by
    have read : read16 body 0 = BitVec.ofNat 16 prefixes.length := contents ▸ wholeCount
    rw [read, BitVec.toNat_ofNat]
    omega
  have last : ¬ (prefixes.flatMap (writePrefix true)).length ≠ body.length - 12 := by
    omega
  unfold parseVersionThreeIntraAreaPrefix
  rw [versionThreeBody_understood done three type, bind_some,
    if_neg (by rw [length]; omega), rest, number, walked]
  dsimp only
  rw [if_neg last, link, router, kind]

end VersionThree

section RouterInformation

theorem tlv_rest_lt {item : TlvView} (h : tlv body = some item) :
    item.rest.length < body.length := by
  unfold tlv at h
  dsimp only at h
  split at h
  · cases h
  cases h
  rw [length_drop]
  omega

theorem routerInformationItems_cons {instanceId : BitVec 32} {steps ordinal : Nat}
    {view : RouterInformationView} (more : body ≠ []) :
    routerInformationItems instanceId (steps + 1) ordinal body view =
      (tlv body).bind fun item => (view.item instanceId ordinal item).bind fun view =>
        routerInformationItems instanceId steps (ordinal + 1) item.rest view := by
  cases body with
  | nil => exact absurd rfl more
  | cons octet rest => rfl

theorem routerInformationItems_steps {instanceId : BitVec 32} {steps more ordinal : Nat}
    {view : RouterInformationView} (h : body.length ≤ steps) (h' : body.length ≤ more) :
    routerInformationItems instanceId steps ordinal body view =
      routerInformationItems instanceId more ordinal body view := by
  induction steps generalizing more ordinal body view with
  | zero =>
    have none : body = [] := eq_nil_of_length_eq_zero (by omega)
    subst none
    cases more <;> rfl
  | succ steps ih =>
    by_cases none : body = []
    · subst none
      cases more <;> rfl
    · have some : 0 < body.length := length_pos_iff.mpr none
      obtain ⟨more, rfl⟩ : ∃ n, more = n + 1 := ⟨more - 1, by omega⟩
      rw [routerInformationItems_cons none, routerInformationItems_cons none]
      cases found : tlv body with
      | none => rfl
      | some item =>
        have shorter := tlv_rest_lt found
        rw [bind_some, bind_some]
        cases view.item instanceId ordinal item with
        | none => rfl
        | some view => exact ih (by omega) (by omega)

theorem routerInformation_understood {capabilities : BitVec 32} {version : Version}
    (done : Finished header
      (Octets.octets16 1#16 ++ Octets.octets16 4#16 ++ Octets.octets32 capabilities) bytes)
    (same : header.version = version)
    (identity : ∀ view, view.type = header.type → view.linkStateId = header.linkStateId →
      (routerInformationInstance view version).isSome) :
    parseRouterInformationLsa bytes version = some
      { informationalCapabilities := Octets.octets32 capabilities } := by
  obtain ⟨view, read, viewType, viewId⟩ := done.bodyHeader
  rw [same] at read
  obtain ⟨instanceId, isInstance⟩ := isSome_iff_exists.mp (identity view viewType viewId)
  have one : tlv (Octets.octets16 1#16 ++ Octets.octets16 4#16 ++ Octets.octets32 capabilities) =
      some { type := 1#16, value := Octets.octets32 capabilities, rest := [] } := by
    simp [tlv, Octets.octets16, Octets.octets32, Octets.read16, Octets.get]
  have added : ({} : RouterInformationView).item instanceId 0
      { type := 1#16, value := Octets.octets32 capabilities, rest := [] } =
        some { informationalCapabilities := Octets.octets32 capabilities } := by
    simp [RouterInformationView.item, Octets.octets32]
  have items : ∀ steps, routerInformationItems instanceId (steps + 1) 0
      (Octets.octets16 1#16 ++ Octets.octets16 4#16 ++ Octets.octets32 capabilities) {} =
        some { informationalCapabilities := Octets.octets32 capabilities } := by
    intro steps
    rw [routerInformationItems_cons (by simp [Octets.octets16]), one, bind_some, added,
      bind_some]
    cases steps <;> rfl
  unfold parseRouterInformationLsa
  rw [read, bind_some, isInstance, bind_some, done.contents, done.length, Nat.add_comm]
  exact items _

end RouterInformation

end RouterSim.Ospf
