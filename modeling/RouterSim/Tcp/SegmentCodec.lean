import RouterSim.Lib.OnesComplement
import RouterSim.Tcp.OptionCodec

/-! What the segment encoders write, the segment parsers accept and read back. -/
namespace RouterSim.Tcp

open OnesComplement List

/-! ## The checksum -/

theorem addWords_toNat (sum : BitVec 32) (bytes : List Octet)
    (h : sum.toNat + wordSum bytes < 0x100000000) :
    (addWords sum bytes).toNat = sum.toNat + wordSum bytes := by
  induction sum, bytes using addWords.induct with
  | case1 sum high low rest ih =>
    have hword : ((high ++ low).setWidth 32).toNat = high.toNat * 256 + low.toNat := by
      rw [BitVec.toNat_setWidth, BitVec.toNat_append, ← Nat.shiftLeft_add_eq_or_of_lt low.isLt,
        Nat.shiftLeft_eq]
      omega
    simp only [wordSum] at h ⊢
    have hsum : (sum + (high ++ low).setWidth 32).toNat =
        sum.toNat + (high.toNat * 256 + low.toNat) := by
      rw [BitVec.toNat_add, hword]
      omega
    rw [addWords, ih (by omega), hsum]
    omega
  | case2 sum high =>
    have hword : ((high ++ 0#8).setWidth 32).toNat = high.toNat * 256 := by
      rw [BitVec.toNat_setWidth, BitVec.toNat_append, ← Nat.shiftLeft_add_eq_or_of_lt (by decide),
        Nat.shiftLeft_eq]
      simp only [BitVec.toNat_ofNat]
      omega
    simp only [wordSum] at h ⊢
    rw [addWords, BitVec.toNat_add, hword]
    omega
  | case3 sum => simp [addWords, wordSum]

theorem finishChecksum_toNat (sum : BitVec 32) :
    (finishChecksum sum).toNat = 0xffff - fold (fold sum.toNat) := by
  have small := foldCarry_twice sum
  have twice : (foldCarry (foldCarry sum)).toNat = fold (fold sum.toNat) := by
    simp [foldCarry_toNat, fold]
  rw [finishChecksum, BitVec.toNat_setWidth, BitVec.toNat_not]
  omega

/-- The octets of an integer in place of two zeros add it to the sum of the words. -/
theorem wordSum_setChecksum {front : List Octet} (h : front.length = 16) (rest : List Octet)
    (value : BitVec 16) :
    setChecksum (front ++ 0#8 :: 0#8 :: rest) value =
      front ++ (value >>> 8).setWidth 8 :: value.setWidth 8 :: rest ∧
    wordSum (front ++ (value >>> 8).setWidth 8 :: value.setWidth 8 :: rest) =
      wordSum (front ++ 0#8 :: 0#8 :: rest) + value.toNat := by
  constructor
  · simp [setChecksum, h]
  · have split : value.toNat =
        ((value >>> 8).setWidth 8).toNat * 256 + (value.setWidth 8).toNat := by
      simp only [BitVec.toNat_setWidth, BitVec.toNat_ushiftRight]
      omega
    rw [wordSum_append (by omega), wordSum_append (by omega)]
    simp only [wordSum, BitVec.toNat_ofNat]
    omega

/-- With its checksum in place a segment sums to all ones. -/
theorem checksum_verifies {pseudo : BitVec 32} {front rest : List Octet} (h : front.length = 16)
    (positive : 0 < pseudo.toNat)
    (bound : pseudo.toNat + wordSum (front ++ 0#8 :: 0#8 :: rest) + 0xffff < 0x100000000) :
    finishChecksum (addWords pseudo (setChecksum (front ++ 0#8 :: 0#8 :: rest)
      (finishChecksum (addWords pseudo (front ++ 0#8 :: 0#8 :: rest))))) = 0#16 := by
  have blank := addWords_toNat pseudo (front ++ 0#8 :: 0#8 :: rest) (by omega)
  have value := finishChecksum_toNat (addWords pseudo (front ++ 0#8 :: 0#8 :: rest))
  obtain ⟨placed, total⟩ := wordSum_setChecksum h rest
    (finishChecksum (addWords pseudo (front ++ 0#8 :: 0#8 :: rest)))
  rw [placed]
  apply BitVec.eq_of_toNat_eq
  rw [finishChecksum_toNat, addWords_toNat _ _ (by omega), total, value, blank, ← Nat.add_assoc,
    fold_complement (by omega) (by omega)]
  rfl

/-- What the pseudo-header of IPv4 adds. -/
def ipv4Pseudo (source destination : Ipv4) (length : Nat) : BitVec 32 :=
  addWords (addWords 0#32 source.toList) destination.toList +
    ipv6NextHeaderTcp.setWidth 32 + (BitVec.ofNat 16 length).setWidth 32

/-- What the pseudo-header of IPv6 adds. -/
def ipv6Pseudo (source destination : Ipv6) (length : Nat) : BitVec 32 :=
  addWords (addWords 0#32 source.toList) destination.toList + (BitVec.ofNat 32 length >>> 16) +
    (BitVec.ofNat 32 length &&& 0xffff#32) + ipv6NextHeaderTcp.setWidth 32

theorem addresses_le (source destination : List Octet) (hs : source.length ≤ 16)
    (hd : destination.length ≤ 16) :
    (addWords (addWords 0#32 source) destination).toNat ≤ 0x100000 := by
  have first := wordSum_le source
  have second := wordSum_le destination
  have inner : (addWords 0#32 source).toNat = wordSum source := by
    rw [addWords_toNat _ _ (by simp only [BitVec.toNat_ofNat]; omega)]
    simp
  rw [addWords_toNat _ _ (by omega), inner]
  omega

theorem ipv4Pseudo_bounds (source destination : Ipv4) (length : Nat) :
    0 < (ipv4Pseudo source destination length).toNat ∧
    (ipv4Pseudo source destination length).toNat ≤ 0x200000 := by
  have hle := addresses_le source.toList destination.toList (by simp) (by simp)
  have protocol : (ipv6NextHeaderTcp.setWidth 32).toNat = 6 := rfl
  have octets : ((BitVec.ofNat 16 length).setWidth 32).toNat ≤ 0xffff := by
    rw [BitVec.toNat_setWidth, BitVec.toNat_ofNat]
    omega
  unfold ipv4Pseudo
  rw [BitVec.toNat_add, BitVec.toNat_add, protocol]
  omega

theorem ipv6Pseudo_bounds (source destination : Ipv6) (length : Nat) :
    0 < (ipv6Pseudo source destination length).toNat ∧
    (ipv6Pseudo source destination length).toNat ≤ 0x200000 := by
  have hle := addresses_le source.toList destination.toList (by simp) (by simp)
  have protocol : (ipv6NextHeaderTcp.setWidth 32).toNat = 6 := rfl
  have high : (BitVec.ofNat 32 length >>> 16).toNat ≤ 0xffff := by
    rw [BitVec.toNat_ushiftRight, Nat.shiftRight_eq_div_pow]
    omega
  have low : (BitVec.ofNat 32 length &&& 0xffff#32).toNat ≤ 0xffff := by
    exact Nat.and_le_right
  unfold ipv6Pseudo
  rw [BitVec.toNat_add, BitVec.toNat_add, BitVec.toNat_add, protocol]
  omega

/-! ## The header -/

/-- The octets before the checksum field. -/
def headerFront (fields : Fields) (header : Nat) : List Octet :=
  octets16 fields.sourcePort ++ octets16 fields.destinationPort ++ octets32 fields.sequence ++
    octets32 fields.acknowledgment ++ [BitVec.ofNat 8 (header / 4 * 16), fields.flags] ++
    octets16 fields.window

theorem headerFront_length (fields : Fields) (header : Nat) :
    (headerFront fields header).length = 16 := rfl

/-- The octets of the options with the zeros that align them. -/
def paddedOptions (options : List Octet) : List Octet :=
  options ++ List.replicate (paddedOptionOctets options - options.length) 0#8

theorem paddedOptions_length (options : List Octet) :
    (paddedOptions options).length = paddedOptionOctets options := by
  simp only [paddedOptions, length_append, length_replicate, paddedOptionOctets]
  omega

variable {outputSize maximum : Nat} {fields : Fields} {options payload bytes : List Octet}

section

variable (h : encodeShape outputSize fields options payload maximum = some bytes)
include h

theorem encodeShape_some :
    validateOptions options = true ∧ paddedOptionOctets options ≤ 40 ∧
    payload.length ≤ maximum - (20 + paddedOptionOctets options) ∧
    bytes = headerFront fields (20 + paddedOptionOctets options) ++ 0#8 :: 0#8 ::
      (octets16 fields.urgentPointer ++ (paddedOptions options ++ payload)) := by
  rw [encodeShape, Option.ite_none_left_eq_some] at h
  obtain ⟨guard, written⟩ := h
  simp only [asserted, not_or, refuted, Nat.not_lt] at guard
  obtain ⟨⟨⟨⟨valid, _⟩, small⟩, fits⟩, _⟩ := guard
  refine ⟨valid, small, fits, ?_⟩
  rw [← Option.some.inj written]
  simp only [paddedOptions, append_assoc]
  rfl

omit h in
/-- A header of whole words is read back field by field, whatever its checksum. -/
theorem parseShape_front {header : Nat} {high low : Octet} (hheader : 20 + options.length = header)
    (words : header % 4 = 0) (least : header ≤ 60) (valid : validateOptions options = true) :
    parseShape (headerFront fields header ++ high :: low ::
      (octets16 fields.urgentPointer ++ (options ++ payload))) =
    some { toFields := fields, checksum := high ++ low, options, payload } := by
  obtain ⟨twenty, htwenty⟩ : ∃ twenty, twenty = headerFront fields header ++ high :: low ::
      octets16 fields.urgentPointer := ⟨_, rfl⟩
  have hlen : twenty.length = 20 := by
    rw [htwenty]
    rfl
  have whole : headerFront fields header ++ high :: low ::
      (octets16 fields.urgentPointer ++ (options ++ payload)) = twenty ++ (options ++ payload) := by
    rw [htwenty]
    rfl
  have offset : ((headerFront fields header ++ high :: low ::
      (octets16 fields.urgentPointer ++ (options ++ payload))).getD 12 0#8).toNat / 16 * 4 =
      header := by
    show (BitVec.ofNat 8 (header / 4 * 16)).toNat / 16 * 4 = header
    rw [BitVec.toNat_ofNat]
    omega
  have hoptions : ((twenty ++ (options ++ payload)).take header).drop 20 = options := by
    rw [← append_assoc, take_left' (by rw [length_append]; omega),
      drop_left' hlen]
  have hpayload : (twenty ++ (options ++ payload)).drop header = payload := by
    rw [← append_assoc, drop_left' (by rw [length_append]; omega)]
  have hsize : (twenty ++ (options ++ payload)).length = header + payload.length := by
    simp only [length_append]
    omega
  have sourcePort : read16 (twenty ++ (options ++ payload)) 0 = fields.sourcePort := by
    rw [← whole]
    exact Octets.append_halves fields.sourcePort
  have destinationPort : read16 (twenty ++ (options ++ payload)) 2 = fields.destinationPort := by
    rw [← whole]
    exact Octets.append_halves fields.destinationPort
  have sequence : read32 (twenty ++ (options ++ payload)) 4 = fields.sequence := by
    rw [← whole]
    exact read32_octets32 fields.sequence []
  have acknowledgment : read32 (twenty ++ (options ++ payload)) 8 = fields.acknowledgment := by
    rw [← whole]
    exact read32_octets32 fields.acknowledgment []
  have flags : (twenty ++ (options ++ payload)).getD 13 0#8 = fields.flags := by
    rw [← whole]
    rfl
  have window : read16 (twenty ++ (options ++ payload)) 14 = fields.window := by
    rw [← whole]
    exact Octets.append_halves fields.window
  have checksum : read16 (twenty ++ (options ++ payload)) 16 = high ++ low := by
    rw [← whole]
    rfl
  have urgentPointer : read16 (twenty ++ (options ++ payload)) 18 = fields.urgentPointer := by
    rw [← whole]
    exact Octets.append_halves fields.urgentPointer
  unfold parseShape
  dsimp only [minimumHeaderOctets, maximumHeaderOctets]
  rw [offset, whole, hoptions, hpayload, hsize, if_neg (by omega), if_neg (by
    simp only [asserted]
    omega), if_neg (by simp [valid]), sourcePort, destinationPort, sequence, acknowledgment, flags,
    window, checksum, urgentPointer]

/-- A segment as it is read back, with the options it was given and their padding. -/
def viewOf (fields : Fields) (options payload bytes : List Octet) : View :=
  { toFields := fields, checksum := read16 bytes 16, options := paddedOptions options, payload }

/-- The checksum field of an encoded shape does not change what else is read. -/
theorem parseShape_setChecksum (value : BitVec 16) :
    parseShape (setChecksum bytes value) =
      some (viewOf fields options payload (setChecksum bytes value)) := by
  obtain ⟨valid, small, _, hbytes⟩ := encodeShape_some h
  have placed := (wordSum_setChecksum (headerFront_length fields (20 + paddedOptionOctets options))
    (octets16 fields.urgentPointer ++ (paddedOptions options ++ payload)) value).1
  have padded : validateOptions (paddedOptions options) = true := validateOptions_pad valid _
  have words : (20 + paddedOptionOctets options) % 4 = 0 := by
    simp only [paddedOptionOctets]
    omega
  rw [hbytes, placed]
  exact parseShape_front (by rw [paddedOptions_length]) words (by omega) padded

/-- The sum of a whole segment stays within the accumulator. -/
theorem encodeShape_bounds (hmax : maximum ≤ 65535) (least : 60 ≤ maximum) :
    bytes.length ≤ maximum ∧ wordSum bytes ≤ 0x80000000 := by
  obtain ⟨_, small, fits, hbytes⟩ := encodeShape_some h
  have hlen : bytes.length = 20 + paddedOptionOctets options + payload.length := by
    rw [hbytes]
    simp only [length_append, length_cons, headerFront_length, paddedOptions_length,
      octets16, length_nil]
    omega
  have sum := wordSum_le bytes
  omega

/-- With its checksum in place an encoded shape sums to all ones. -/
theorem encodeShape_verifies (hmax : maximum ≤ 65535) (least : 60 ≤ maximum) {pseudo : BitVec 32}
    (hpseudo : 0 < pseudo.toNat ∧ pseudo.toNat ≤ 0x200000) :
    finishChecksum (addWords pseudo
      (setChecksum bytes (finishChecksum (addWords pseudo bytes)))) = 0#16 := by
  obtain ⟨_, sum⟩ := encodeShape_bounds h hmax least
  obtain ⟨_, _, _, hbytes⟩ := encodeShape_some h
  rw [hbytes] at sum ⊢
  exact checksum_verifies (headerFront_length _ _) hpseudo.1 (by omega)

end

/-- An encoded shape with its checksum in place: of a segment's size, checked, and read back. -/
theorem shape_accepted {pseudo : Nat → BitVec 32}
    (bounds : ∀ length, 0 < (pseudo length).toNat ∧ (pseudo length).toNat ≤ 0x200000)
    (h : (encodeShape outputSize fields options payload maximum).map (fun shape =>
      setChecksum shape (finishChecksum (addWords (pseudo shape.length) shape))) = some bytes)
    (hmax : maximum ≤ 65535) (least : 60 ≤ maximum) :
    (decide (maximum < bytes.length) ||
      finishChecksum (addWords (pseudo bytes.length) bytes) != 0#16) = false ∧
      parseShape bytes = some (viewOf fields options payload bytes) := by
  obtain ⟨shape, hshape, rfl⟩ := Option.map_eq_some_iff.mp h
  have size := (encodeShape_bounds hshape hmax least).1
  have same : ∀ value, (setChecksum shape value).length = shape.length := by simp [setChecksum]
  refine ⟨?_, parseShape_setChecksum hshape _⟩
  rw [same, encodeShape_verifies hshape hmax least (bounds _)]
  simpa using size

theorem parse_ipv4 {source destination : Ipv4}
    (h : encodeIpv4 outputSize source destination fields options payload = some bytes) :
    parseIpv4 bytes source destination = some (viewOf fields options payload bytes) := by
  obtain ⟨valid, parsed⟩ := shape_accepted (ipv4Pseudo_bounds source destination) h
    (by decide) (by decide)
  exact (if_neg (ne_true_of_eq_false valid)).trans parsed

theorem parse_ipv6 {source destination : Ipv6}
    (h : encodeIpv6 outputSize source destination fields options payload = some bytes) :
    parseIpv6 bytes source destination = some (viewOf fields options payload bytes) := by
  obtain ⟨valid, parsed⟩ := shape_accepted (ipv6Pseudo_bounds source destination) h
    (by decide) (by decide)
  exact (if_neg (ne_true_of_eq_false valid)).trans parsed

/-- The codecs are inverse: segments of both families, the options of an offer, one
to four blocks, both together, and the walk over any accepted option string. -/
theorem codecs_inverse :
    (∀ (outputSize : Nat) (source destination : Ipv4) (fields : Fields)
      (options payload bytes : List Octet),
      encodeIpv4 outputSize source destination fields options payload = some bytes →
      parseIpv4 bytes source destination = some (viewOf fields options payload bytes)) ∧
    (∀ (outputSize : Nat) (source destination : Ipv6) (fields : Fields)
      (options payload bytes : List Octet),
      encodeIpv6 outputSize source destination fields options payload = some bytes →
      parseIpv6 bytes source destination = some (viewOf fields options payload bytes)) ∧
    (∀ (outputSize : Nat) (offer : SynOptionOffer) (options : List Octet),
      encodeSynOptions outputSize offer = some options → ∀ padding : Nat,
      parseTypedOptions (options ++ List.replicate padding 0#8) = some offer.typed) ∧
    (∀ blocks : List SackBlock, blocks ≠ [] → blocks.length ≤ 4 →
      (∀ block ∈ blocks, Serial.after block.rightEdge block.leftEdge = true) →
      ∀ outputSize : Nat, 2 + blocks.length * 8 ≤ outputSize →
      ∃ options, encodeSackOption outputSize blocks = some options ∧
        (∀ padding : Nat, parseTypedOptions (options ++ List.replicate padding 0#8) =
          some (TypedOptions.none.withBlocks blocks)) ∧
        ∀ (synSize : Nat) (offer : SynOptionOffer) (syn : List Octet),
          encodeSynOptions synSize offer = some syn → ∀ padding : Nat,
          parseTypedOptions (syn ++ options ++ List.replicate padding 0#8) =
            some (offer.typed.withBlocks blocks)) ∧
    (∀ options : List Octet, validateOptions options = true →
      ∃ views, OptionString views options ∧
        ∀ rounds : Nat, options.length ≤ rounds → visitOptions rounds options = (views, [])) := by
  refine ⟨fun _ _ _ _ _ _ _ h => parse_ipv4 h, fun _ _ _ _ _ _ _ h => parse_ipv6 h,
    fun _ _ _ h padding => parse_syn h padding, ?_, ?_⟩
  · intro blocks nonempty small valid outputSize room
    obtain ⟨options, h⟩ := encodeSackOption_some nonempty small room valid
    exact ⟨options, h, fun padding => parse_sack h padding,
      fun _ _ _ g padding => parse_syn_sack g h padding⟩
  · intro options accepted
    obtain ⟨views, string⟩ := validateOptions_iff.mp accepted
    exact ⟨views, string, fun _ enough => string.visit enough⟩

def handshakeOffer : SynOptionOffer where
  receiveMss := 1460#16
  receiveWindowShift := 7#8
  offerWindowScale := true
  offerTimestamps := true
  offerSack := true
  timestampValue := 5#32
  timestampEchoReply := 0#32

def handshakeFields : Fields :=
  { sourcePort := 1024#16, destinationPort := 80#16, sequence := 1#32, flags := Flag.syn
    window := 512#16 }

def handshakeOptions : List Octet := (encodeSynOptions 40 handshakeOffer).getD []

def handshakeSegment : List Octet :=
  (encodeIpv4 64 #v[192#8, 0#8, 2#8, 1#8] #v[192#8, 0#8, 2#8, 2#8] handshakeFields handshakeOptions
    []).getD []

theorem handshake_codecs :
    parseIpv4 handshakeSegment #v[192#8, 0#8, 2#8, 1#8] #v[192#8, 0#8, 2#8, 2#8] =
      some (viewOf handshakeFields handshakeOptions [] handshakeSegment) ∧
    parseTypedOptions (handshakeOptions ++ List.replicate 1 0#8) = some handshakeOffer.typed ∧
    (∃ options, encodeSackOption 40 [⟨0xffffffff#32, 1#32⟩] = some options ∧
      (∀ padding : Nat, parseTypedOptions (options ++ List.replicate padding 0#8) =
        some (TypedOptions.none.withBlocks [⟨0xffffffff#32, 1#32⟩])) ∧
      ∀ (synSize : Nat) (offer : SynOptionOffer) (syn : List Octet),
        encodeSynOptions synSize offer = some syn → ∀ padding : Nat,
        parseTypedOptions (syn ++ options ++ List.replicate padding 0#8) =
          some (offer.typed.withBlocks [⟨0xffffffff#32, 1#32⟩])) ∧
    ∃ views, OptionString views handshakeOptions ∧ ∀ rounds : Nat,
      handshakeOptions.length ≤ rounds → visitOptions rounds handshakeOptions = (views, []) :=
  ⟨codecs_inverse.1 64 _ _ _ _ _ _ (by decide),
    codecs_inverse.2.2.1 40 handshakeOffer _ (by decide) 1,
    codecs_inverse.2.2.2.1 _ (by decide) (by decide) (by decide) 40 (by decide),
    codecs_inverse.2.2.2.2 _ (by decide)⟩

end RouterSim.Tcp
