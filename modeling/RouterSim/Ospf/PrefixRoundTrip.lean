import RouterSim.Ospf.LsaBuilder

/-! Prefixes with padded octets, and links of one width: reading what was written, at any
offset. -/
namespace RouterSim.Ospf

open Ip (Ipv6)
open List Octets

section OnePrefix

variable {input : PrefixInput} {metric : Bool} {field : BitVec 16} {before more : List (BitVec 8)}

/-- The prefix that is read back. -/
def PrefixInput.view (input : PrefixInput) (metric : Bool) : VersionThreePrefix :=
  { significantOctets := (octets128 input.network).take ((input.length.toNat + 7) / 8)
    metric := if metric then input.metric else 0#16, length := input.length,
    options := input.options }

theorem PrefixInput.canonical_iff : input.canonical = true ↔
    ¬ 128#8 < input.length ∧ Ip.mask input.network input.length.toNat = input.network := by
  simp [canonical]

theorem length_le_of_not_lt {length : BitVec 8} (short : ¬ 128#8 < length) :
    length.toNat ≤ 128 := by
  simpa [BitVec.lt_def] using short

variable (canonical : input.canonical = true)
include canonical

theorem PrefixInput.bit_eq_false {i : Nat} (behind : i < 128 - input.length.toNat) :
    input.network.getLsbD i = false := by
  rw [← (PrefixInput.canonical_iff.mp canonical).2, Ip.getLsbD_mask, decide_eq_false (by omega),
    Bool.false_and]

theorem PrefixInput.octet_eq_zero {k : Nat} (behind : (input.length.toNat + 7) / 8 ≤ k) :
    Octets.get (octets128 input.network) k = 0#8 := by
  by_cases inside : k < 16
  · apply BitVec.eq_of_getLsbD_eq
    intro j hj
    rw [get_octets128 _ inside hj, bit_eq_false canonical (by omega)]
    exact (BitVec.getLsbD_zero ..).symm
  · exact get_of_length_le (by rw [length_octets128]; omega)

omit canonical in
theorem hostMask_eq_false : ∀ bits < 8, ∀ j < 8, bits ≤ j →
    ((1#8 <<< bits) - 1#8).getLsbD j = false := by
  decide

/-- The last octet with meaning has no bit behind the length. -/
theorem PrefixInput.hostBits_eq_zero (partly : input.length.toNat % 8 ≠ 0) :
    Octets.get (octets128 input.network) ((input.length.toNat + 7) / 8 - 1) &&&
      ((1#8 <<< (8 - input.length.toNat % 8)) - 1#8) = 0#8 := by
  have short := length_le_of_not_lt (PrefixInput.canonical_iff.mp canonical).1
  apply BitVec.eq_of_getLsbD_eq
  intro j hj
  rw [BitVec.getLsbD_and, BitVec.getLsbD_zero]
  by_cases behind : j < 8 - input.length.toNat % 8
  · rw [get_octets128 _ (by omega) hj, bit_eq_false canonical (by omega), Bool.false_and]
  · rw [hostMask_eq_false _ (by omega) j hj (by omega), Bool.and_false]

omit canonical in
theorem paddedPrefixOctets_le (length : BitVec 8) (short : length.toNat ≤ 128) :
    paddedPrefixOctets length ≤ 16 ∧ (length.toNat + 7) / 8 ≤ paddedPrefixOctets length := by
  unfold paddedPrefixOctets
  omega

theorem PrefixInput.length_networkOctets :
    input.networkOctets.length = paddedPrefixOctets input.length := by
  have short := length_le_of_not_lt (PrefixInput.canonical_iff.mp canonical).1
  have padded := paddedPrefixOctets_le input.length short
  rw [networkOctets, length_take, length_octets128]
  omega

theorem PrefixInput.canonicalPrefix_networkOctets :
    canonicalPrefix input.networkOctets input.length (paddedPrefixOctets input.length) = true := by
  have valid := (PrefixInput.canonical_iff.mp canonical).1
  have padded := paddedPrefixOctets_le input.length (length_le_of_not_lt valid)
  have octets := length_networkOctets canonical
  have host : ¬ ((input.length.toNat + 7) / 8 ≠ 0 ∧ input.length.toNat % 8 ≠ 0 ∧
      Octets.get input.networkOctets ((input.length.toNat + 7) / 8 - 1) &&&
        ((1#8 <<< (8 - input.length.toNat % 8)) - 1#8) ≠ 0#8) := by
    rintro ⟨some, partly, bits⟩
    rw [networkOctets, get_take (by omega)] at bits
    exact bits (hostBits_eq_zero canonical partly)
  unfold canonicalPrefix
  rw [if_neg (not_or.mpr ⟨valid, by omega⟩)]
  rw [if_neg host, all_eq_true]
  intro octet hmem
  obtain ⟨k, hk, rfl⟩ := getElem_of_mem hmem
  have zero := octet_eq_zero canonical (k := (input.length.toNat + 7) / 8 + k) (by omega)
  rw [getElem_drop, getElem_take, beq_iff_eq, ← zero]
  rw [length_drop, length_take] at hk
  rw [← get_take (n := paddedPrefixOctets input.length) (by omega), Octets.get,
    getD_eq_getElem?_getD, List.getElem?_eq_getElem]
  rfl

theorem versionThreePrefix_append {metricPresent : Bool} {reserved : Bool}
    (before more : List (BitVec 8)) (field : BitVec 16)
    (reservedZero : metricPresent = false → reserved = true → field = 0#16) :
    versionThreePrefix (before ++ ([input.length, input.options] ++ octets16 field ++
        input.networkOctets ++ more)) before.length metricPresent reserved =
      some ({ input.view false with metric := if metricPresent then field else 0#16 },
        before.length + (4 + input.networkOctets.length)) := by
  have valid := (PrefixInput.canonical_iff.mp canonical).1
  have padded := paddedPrefixOctets_le input.length (length_le_of_not_lt valid)
  have octets := PrefixInput.length_networkOctets canonical
  generalize bytesAre : before ++ _ = bytes
  have long : bytes.length =
      before.length + (4 + paddedPrefixOctets input.length + more.length) := by
    rw [← bytesAre]
    simp [octets16]
    omega
  have reads : ∀ k, Octets.get bytes (before.length + k) =
      Octets.get ([input.length, input.options] ++ octets16 field ++
        input.networkOctets ++ more) k := by
    intro k
    rw [← bytesAre, get_append_right (Nat.le_add_right ..), Nat.add_sub_cancel_left]
  have length : Octets.get bytes before.length = input.length := reads 0
  have options : Octets.get bytes (before.length + 1) = input.options := reads 1
  have word : read16 bytes (before.length + 2) = field := by
    rw [read16, reads 2, Nat.add_assoc, reads 3]
    exact read16_octets16 field
  have address : (bytes.drop (before.length + 4)).take (paddedPrefixOctets input.length) =
      input.networkOctets := by
    rw [← bytesAre, ← drop_drop, drop_left, ← octets]
    exact take_left
  have meaning : (input.networkOctets).take ((input.length.toNat + 7) / 8) =
      (octets128 input.network).take ((input.length.toNat + 7) / 8) := by
    rw [PrefixInput.networkOctets, take_take, Nat.min_eq_left padded.2]
  have clear : (!metricPresent && reserved && field != 0#16) = false := by
    cases metricPresent with
    | true => rfl
    | false =>
      cases reserved with
      | false => rfl
      | true => simp [reservedZero rfl rfl]
  unfold versionThreePrefix
  rw [if_neg (by omega)]
  dsimp only
  rw [length, if_neg (not_or.mpr ⟨valid, by omega⟩), address, word, clear, options,
    PrefixInput.canonicalPrefix_networkOctets canonical, meaning, octets]
  rfl

theorem expandPrefix_view : expandPrefix (input.view metric) = some input.network := by
  have valid := (PrefixInput.canonical_iff.mp canonical).1
  have short := length_le_of_not_lt valid
  have octets : (input.view metric).significantOctets.length = (input.length.toNat + 7) / 8 := by
    rw [PrefixInput.view, length_take, length_octets128]
    omega
  have whole : ¬ (128#8 < (input.view metric).length ∨
      (input.view metric).significantOctets.length ≠ ((input.view metric).length.toNat + 7) / 8) :=
    not_or.mpr ⟨valid, fun other => other octets⟩
  unfold expandPrefix
  rw [if_neg whole]
  have same : read128 (input.view metric).significantOctets 0 =
      read128 (octets128 input.network) 0 := by
    apply read128_congr
    intro k hk
    rw [Nat.zero_add]
    by_cases meaningful : k < (input.length.toNat + 7) / 8
    · exact get_take meaningful
    · rw [PrefixInput.octet_eq_zero canonical (by omega),
        get_of_length_le (by omega)]
  rw [same, read128_octets128]

end OnePrefix

section Prefixes

variable {metric : Bool}

theorem length_writePrefix {input : PrefixInput} :
    (writePrefix metric input).length = 4 + input.networkOctets.length := by
  simp [writePrefix, octets16]
  omega

theorem canonical_of_prefixesOctets {inputs : List PrefixInput} {total octets : Nat}
    (h : prefixesOctets inputs total = some octets) : ∀ input ∈ inputs, input.canonical = true := by
  induction inputs generalizing total with
  | nil => simp
  | cons first rest ih =>
    rw [prefixesOctets] at h
    split at h
    · cases h
    next canonical =>
    dsimp only at h
    split at h
    · cases h
    intro input hmem
    obtain rfl | hmem := mem_cons.mp hmem
    · simpa using canonical
    · exact ih h input hmem

theorem length_le_flatMap_writePrefix (metric : Bool) (inputs : List PrefixInput) :
    inputs.length ≤ (inputs.flatMap (writePrefix metric)).length := by
  induction inputs with
  | nil => simp
  | cons input rest ih =>
    rw [flatMap_cons, length_append, length_writePrefix, length_cons]
    omega

/-- All prefixes, by induction on them; what was read moves before the rest. -/
theorem versionThreePrefixes_append (metric : Bool) {inputs : List PrefixInput}
    (canonical : ∀ input ∈ inputs, input.canonical = true) (before : List (BitVec 8)) :
    versionThreePrefixes (before ++ inputs.flatMap (writePrefix metric)) metric inputs.length
        before.length =
      some (inputs.map (·.view metric),
        before.length + (inputs.flatMap (writePrefix metric)).length) := by
  induction inputs generalizing before with
  | nil => rfl
  | cons input rest ih =>
    have first : versionThreePrefix
        (before ++ (writePrefix metric input ++ rest.flatMap (writePrefix metric))) before.length
        metric true =
          some (input.view metric, before.length + (writePrefix metric input).length) := by
      rw [writePrefix, versionThreePrefix_append (canonical input mem_cons_self) before]
      · rw [← writePrefix, length_writePrefix]
        cases metric <;> rfl
      · rintro rfl _
        rfl
    have next := ih (fun other hmem => canonical other (mem_cons_of_mem _ hmem))
      (before ++ writePrefix metric input)
    rw [append_assoc, length_append] at next
    rw [flatMap_cons, length_cons, versionThreePrefixes, first]
    dsimp only
    rw [next, Option.map_some, map_cons, length_append, Nat.add_assoc]

end Prefixes

section Links

theorem routerLinkType_octet (type : RouterLinkType) : routerLinkType type.octet = some type := by
  cases type <;> rfl

theorem length_versionTwoLink (link : VersionTwoRouterLink) : link.octets.length = 12 := rfl

theorem length_versionThreeLink (link : VersionThreeRouterLink) : link.octets.length = 16 := rfl

theorem versionTwoRouterLink_append (link : VersionTwoRouterLink) (before more : List (BitVec 8)) :
    versionTwoRouterLink (before ++ (link.octets ++ more)) before.length =
      some (link, before.length + 12) := by
  generalize bytesAre : before ++ _ = bytes
  have long : bytes.length = before.length + (12 + more.length) := by
    rw [← bytesAre, length_append, length_append, length_versionTwoLink]
  have reads : ∀ k, Octets.get bytes (before.length + k) = Octets.get (link.octets ++ more) k := by
    intro k
    rw [← bytesAre, get_append_right (Nat.le_add_right ..), Nat.add_sub_cancel_left]
  have linkId : read32 bytes before.length = link.linkId := by
    rw [read32, reads 1, reads 2, reads 3]
    refine Eq.trans ?_ (read32_octets32 link.linkId)
    rw [show Octets.get bytes before.length = _ from reads 0]
    rfl
  have linkData : read32 bytes (before.length + 4) = link.linkData := by
    simp only [read32, Nat.add_assoc, reads]
    exact read32_octets32 link.linkData
  have metric : read16 bytes (before.length + 10) = link.metric := by
    simp only [read16, Nat.add_assoc, reads]
    exact read16_octets16 link.metric
  have noMore : Octets.get bytes (before.length + 9) = 0#8 := reads 9
  have type : Octets.get bytes (before.length + 8) = link.type.octet := reads 8
  unfold versionTwoRouterLink
  rw [if_neg (by omega), noMore, type, routerLinkType_octet]
  dsimp only
  rw [if_neg (by simp; omega), linkId, linkData, metric]
  rfl

theorem versionTwoRouterLinks_append (links : List VersionTwoRouterLink)
    (before : List (BitVec 8)) :
    versionTwoRouterLinks (before ++ links.flatMap (·.octets)) links.length before.length =
      some (links, before.length + (links.flatMap (·.octets)).length) := by
  induction links generalizing before with
  | nil => rfl
  | cons link rest ih =>
    have next := ih (before ++ link.octets)
    rw [append_assoc, length_append, length_versionTwoLink] at next
    rw [flatMap_cons, length_cons, versionTwoRouterLinks, versionTwoRouterLink_append]
    dsimp only
    rw [next, Option.map_some, length_append, length_versionTwoLink, Nat.add_assoc]

theorem versionThreeRouterLink_drop (bytes : List (BitVec 8)) (index : Nat) :
    versionThreeRouterLink bytes index = versionThreeRouterLink (bytes.drop (index * 16)) 0 := by
  have inside : bytes.length < index * 16 + 16 ↔ bytes.length - index * 16 < 16 := by omega
  simp [versionThreeRouterLink, read32, read16, get_drop, inside]

theorem versionThreeRouterLink_octets (link : VersionThreeRouterLink) (more : List (BitVec 8)) :
    versionThreeRouterLink (link.octets ++ more) 0 = some link := by
  have interfaceId : read32 (link.octets ++ more) 4 = link.interfaceId :=
    read32_octets32 link.interfaceId
  have neighborInterfaceId : read32 (link.octets ++ more) 8 = link.neighborInterfaceId :=
    read32_octets32 link.neighborInterfaceId
  have neighborRouterId : read32 (link.octets ++ more) 12 = link.neighborRouterId :=
    read32_octets32 link.neighborRouterId
  have metric : read16 (link.octets ++ more) 2 = link.metric := read16_octets16 link.metric
  have type : Octets.get (link.octets ++ more) 0 = link.type.octet := rfl
  have reserved : Octets.get (link.octets ++ more) 1 = 0#8 := rfl
  have long : ¬ (link.octets ++ more).length < 0 + 16 := by
    rw [length_append, length_versionThreeLink]
    omega
  unfold versionThreeRouterLink
  rw [if_neg (by simpa using long)]
  rw [type, routerLinkType_octet]
  dsimp only
  rw [reserved, if_neg (by simp), interfaceId, neighborInterfaceId, neighborRouterId, metric]

theorem versionThreeRouterLinks_flatMap (links : List VersionThreeRouterLink) :
    (List.range ((links.flatMap (·.octets)).length / 16)).map
      (versionThreeRouterLink (links.flatMap (·.octets))) = links.map some := by
  rw [length_records length_versionThreeLink, Nat.mul_div_cancel _ (by decide)]
  rw [← map_records length_versionThreeLink (versionThreeRouterLink · 0) some
    versionThreeRouterLink_octets links]
  exact map_congr_left fun index _ => versionThreeRouterLink_drop _ index

theorem read32_drop (bytes : List (BitVec 8)) (i : Nat) :
    read32 bytes i = read32 (bytes.drop i) 0 := by
  simp [read32, get_drop]

theorem length_routers (routers : List (BitVec 32)) :
    (routers.flatMap octets32).length = routers.length * 4 :=
  length_records (fun _ => by rfl) _

theorem attachedRouters_flatMap (routers : List (BitVec 32)) :
    (List.range ((routers.flatMap octets32).length / 4)).map
      (fun i => read32 (routers.flatMap octets32) (i * 4)) = routers := by
  have four : ∀ router, (octets32 router).length = 4 := fun _ => rfl
  rw [length_routers, Nat.mul_div_cancel _ (by decide)]
  have read := map_records four (read32 · 0) id (fun router _ => read32_octets32 router) routers
  rw [map_id] at read
  exact (map_congr_left fun index _ => read32_drop _ (index * 4)).trans read

end Links

end RouterSim.Ospf
