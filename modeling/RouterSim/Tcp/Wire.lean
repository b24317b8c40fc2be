import RouterSim.Tcp.Packet

/-! The TCP wire codec. A span that a function writes is the list of octets it
returns; the size of the span is an argument where the function looks at it. -/
namespace RouterSim.Tcp

abbrev minimumHeaderOctets : Nat := 20
abbrev maximumHeaderOctets : Nat := 60
abbrev maximumOptionOctets : Nat := 40
abbrev maximumIpv4SegmentOctets : Nat := 65515
abbrev maximumIpv6SegmentOctets : Nat := 65535
abbrev ipv6NextHeaderTcp : BitVec 8 := 6#8

/-! ## Network byte order -/

def read16 (bytes : List Octet) (offset : Nat) : BitVec 16 :=
  bytes.getD offset 0#8 ++ bytes.getD (offset + 1) 0#8

def read32 (bytes : List Octet) (offset : Nat) : BitVec 32 :=
  read16 bytes offset ++ read16 bytes (offset + 2)

def octets16 (value : BitVec 16) : List Octet := [(value >>> 8).setWidth 8, value.setWidth 8]

def octets32 (value : BitVec 32) : List Octet :=
  octets16 ((value >>> 16).setWidth 16) ++ octets16 (value.setWidth 16)

/-! ## Checksum -/

/-- Big-endian words added into the sum; a last odd octet is the high one. -/
def addWords (sum : BitVec 32) : List Octet → BitVec 32
  | high :: low :: rest => addWords (sum + (high ++ low).setWidth 32) rest
  | [high] => sum + (high ++ 0#8).setWidth 32
  | [] => sum

def foldCarry (sum : BitVec 32) : BitVec 32 :=
  if sum >>> 16 == 0#32 then sum else (sum &&& 0xffff#32) + (sum >>> 16)

theorem foldCarry_toNat (sum : BitVec 32) :
    (foldCarry sum).toNat = sum.toNat % 0x10000 + sum.toNat / 0x10000 := by
  have low : (sum &&& 0xffff#32).toNat = sum.toNat % 0x10000 := by
    exact Nat.and_two_pow_sub_one_eq_mod sum.toNat 16
  have high : (sum >>> 16).toNat = sum.toNat / 0x10000 := by
    simp [Nat.shiftRight_eq_div_pow]
  unfold foldCarry
  split
  · rename_i none
    have : (sum >>> 16).toNat = 0 := by simp [beq_iff_eq.mp none]
    omega
  · rw [BitVec.toNat_add, low, high]
    omega

/-- Two rounds of the carry loop leave nothing above the low word. -/
theorem foldCarry_twice (sum : BitVec 32) : (foldCarry (foldCarry sum)).toNat < 0x10000 := by
  rw [foldCarry_toNat, foldCarry_toNat]
  omega

def finishChecksum (sum : BitVec 32) : BitVec 16 := (~~~(foldCarry (foldCarry sum))).setWidth 16

def ipv4UpperLayerChecksum (source destination : Ipv4) (protocol : BitVec 8)
    (payload : List Octet) : BitVec 16 :=
  let addresses := addWords (addWords 0#32 source.toList) destination.toList
  let pseudo := addresses + protocol.setWidth 32 + (BitVec.ofNat 16 payload.length).setWidth 32
  finishChecksum (addWords pseudo payload)

def ipv6UpperLayerChecksum (source destination : Ipv6) (nextHeader : BitVec 8)
    (payload : List Octet) : BitVec 16 :=
  let addresses := addWords (addWords 0#32 source.toList) destination.toList
  let length := BitVec.ofNat 32 payload.length
  let pseudo := addresses + (length >>> 16) + (length &&& 0xffff#32) + nextHeader.setWidth 32
  finishChecksum (addWords pseudo payload)

/-! ## Options -/

structure OptionView where
  kind : BitVec 8
  raw : List Octet

def standardLengthIsValid (kind length : BitVec 8) : Bool :=
  if kind == 2#8 then length == 4#8
  else if kind == 3#8 then length == 3#8
  else if kind == 4#8 then length == 2#8
  else if kind == 5#8 then decide (10#8 ≤ length) && (length - 2#8) % 8#8 == 0#8
  else if kind == 8#8 then length == 10#8
  else decide (2#8 ≤ length)

/-- The option at the head of the remaining octets, with those after it. The end
of the option list takes the padding behind it along. -/
def nextOption : List Octet → Option (OptionView × List Octet)
  | [] => none
  | kind :: rest =>
    if kind == 0#8 then some ({ kind, raw := [kind] }, [])
    else if kind == 1#8 then some ({ kind, raw := [kind] }, rest)
    else
      match rest with
      | [] => none
      | length :: _ =>
        if !standardLengthIsValid kind length || decide (rest.length + 1 < length.toNat) then none
        else
          some ({ kind, raw := (kind :: rest).take length.toNat }, (kind :: rest).drop length.toNat)

/-- Every round takes at least one octet, so their number bounds the rounds. -/
def validateOptionsLoop : Nat → List Octet → Bool
  | 0, remaining => remaining.isEmpty
  | rounds + 1, remaining =>
    match remaining with
    | [] => true
    | kind :: rest =>
      if kind == 0#8 then rest.all (· == 0#8)
      else
        match nextOption (kind :: rest) with
        | none => false
        | some (_, after) => validateOptionsLoop rounds after

def validateOptions (options : List Octet) : Bool := validateOptionsLoop options.length options

/-! ## Segments -/

def paddedOptionOctets (options : List Octet) : Nat := (options.length + 3) / 4 * 4

/-- The octets of a segment with a zero checksum field. -/
def encodeShape (outputSize : Nat) (fields : Fields) (options payload : List Octet)
    (maximumSegmentOctets : Nat) : Option (List Octet) :=
  let padded := paddedOptionOctets options
  let header := minimumHeaderOctets + padded
  if !validateOptions options || decide (maximumOptionOctets < options.length) ||
      decide (maximumOptionOctets < padded) ||
      decide (maximumSegmentOctets - header < payload.length) ||
      decide (outputSize < header + payload.length) then none
  else
    some (octets16 fields.sourcePort ++ octets16 fields.destinationPort ++
      octets32 fields.sequence ++ octets32 fields.acknowledgment ++
      [BitVec.ofNat 8 (header / 4 * 16), fields.flags] ++ octets16 fields.window ++
      octets16 0#16 ++ octets16 fields.urgentPointer ++ options ++
      List.replicate (padded - options.length) 0#8 ++ payload)

def setChecksum (bytes : List Octet) (value : BitVec 16) : List Octet :=
  (bytes.set 16 ((value >>> 8).setWidth 8)).set 17 (value.setWidth 8)

def encodeIpv4 (outputSize : Nat) (source destination : Ipv4) (fields : Fields)
    (options payload : List Octet) : Option (List Octet) :=
  (encodeShape outputSize fields options payload maximumIpv4SegmentOctets).map fun bytes =>
    setChecksum bytes (ipv4UpperLayerChecksum source destination ipv6NextHeaderTcp bytes)

def encodeIpv6 (outputSize : Nat) (source destination : Ipv6) (fields : Fields)
    (options payload : List Octet) : Option (List Octet) :=
  (encodeShape outputSize fields options payload maximumIpv6SegmentOctets).map fun bytes =>
    setChecksum bytes (ipv6UpperLayerChecksum source destination ipv6NextHeaderTcp bytes)

def parseShape (bytes : List Octet) : Option View :=
  let header := (bytes.getD 12 0#8).toNat / 16 * 4
  let options := (bytes.take header).drop minimumHeaderOctets
  if bytes.length < minimumHeaderOctets then none
  else if decide (header < minimumHeaderOctets) || decide (maximumHeaderOctets < header) ||
      decide (bytes.length < header) then none
  else if !validateOptions options then none
  else
    some
      { sourcePort := read16 bytes 0, destinationPort := read16 bytes 2, sequence := read32 bytes 4,
        acknowledgment := read32 bytes 8, flags := bytes.getD 13 0#8, window := read16 bytes 14,
        urgentPointer := read16 bytes 18, checksum := read16 bytes 16, options,
        payload := bytes.drop header }

def parseIpv4 (bytes : List Octet) (source destination : Ipv4) : Option View :=
  if decide (maximumIpv4SegmentOctets < bytes.length) ||
      ipv4UpperLayerChecksum source destination ipv6NextHeaderTcp bytes != 0#16 then none
  else parseShape bytes

def parseIpv6 (bytes : List Octet) (source destination : Ipv6) : Option View :=
  if decide (maximumIpv6SegmentOctets < bytes.length) ||
      ipv6UpperLayerChecksum source destination ipv6NextHeaderTcp bytes != 0#16 then none
  else parseShape bytes

end RouterSim.Tcp
