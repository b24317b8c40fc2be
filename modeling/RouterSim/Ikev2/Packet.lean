import RouterSim.Lib.Octets

/-! IKE messages: the fixed header and the chain of payloads behind it. Writing a message and
reading it back gives its header and its payloads. -/
namespace RouterSim.Ikev2

open Octets

/-- What the rest of the service knows of the exchange types by name. -/
abbrev exchangeIkeSaInit : BitVec 8 := 34#8

abbrev payloadNone : BitVec 8 := 0#8
abbrev payloadEncrypted : BitVec 8 := 46#8
abbrev payloadEncryptedFragment : BitVec 8 := 53#8

structure Header where
  initiatorSpi : BitVec 64 := 0#64
  responderSpi : BitVec 64 := 0#64
  firstPayload : BitVec 8 := 0#8
  majorVersion : BitVec 8 := 0#8
  minorVersion : BitVec 8 := 0#8
  exchangeType : BitVec 8 := 0#8
  initiator : Bool := false
  higherVersionSupported : Bool := false
  response : Bool := false
  messageId : BitVec 32 := 0#32
  length : BitVec 32 := 0#32

structure Payload where
  type : BitVec 8
  nextPayload : BitVec 8
  critical : Bool
  body : List (BitVec 8)

structure PayloadView extends Payload where
  offset : Nat

inductive ParseStatus
  | ok | truncatedHeader | invalidLength | invalidVersion | invalidFlags | invalidSpi
  | truncatedPayload | invalidPayloadLength | payloadCapacityExhausted | trailingPayloadType
  deriving DecidableEq

structure ParseResult where
  status : ParseStatus := .truncatedHeader
  header : Header := {}
  payloads : List PayloadView := []

section Parse

def read64 (bytes : List (BitVec 8)) (i : Nat) : BitVec 64 := read32 bytes i ++ read32 bytes (i + 4)

/-- The responder SPI is zero in an IKE_SA_INIT request and nowhere else. -/
def headerSemanticsValid (header : Header) : Bool :=
  if header.initiatorSpi == 0#64 || header.majorVersion != 2#8 ||
      decide (header.length < 28#32) then false
  else if header.responderSpi == 0#64 &&
      (header.response || header.exchangeType != exchangeIkeSaInit) then false
  else true

/-- The next payload octet of such a payload names what is inside of it. -/
def protectedContainer (type : BitVec 8) : Bool :=
  type == payloadEncrypted || type == payloadEncryptedFragment

/-- The rest of a chain, with room for so many more views. -/
def parseChain : Nat → BitVec 8 → List (BitVec 8) → Nat → ParseStatus × List PayloadView
  | room, type, encoded, offset =>
    if type = payloadNone then (if encoded.length ≠ 0 then .trailingPayloadType else .ok, [])
    else if encoded.length < 4 then (.truncatedPayload, [])
    else
      match room with
      | 0 => (.payloadCapacityExhausted, [])
      | room + 1 =>
        let length := (read16 encoded 2).toNat
        let flags := get encoded 1
        if length < 4 ∨ encoded.length < length then (.invalidPayloadLength, [])
        else if flags &&& 0x7f#8 ≠ 0#8 then (.invalidFlags, [])
        else
          let view : PayloadView :=
            { type, nextPayload := get encoded 0, critical := flags &&& 0x80#8 ≠ 0#8
              body := (encoded.drop 4).take (length - 4), offset }
          let rest :=
            parseChain room (if protectedContainer type then payloadNone else view.nextPayload)
              (encoded.drop length) (offset + length)
          (rest.1, view :: rest.2)

def parseHeader (datagram : List (BitVec 8)) : Header :=
  { initiatorSpi := read64 datagram 0, responderSpi := read64 datagram 8,
    firstPayload := get datagram 16, majorVersion := get datagram 17 >>> 4,
    minorVersion := get datagram 17 &&& 0x0f#8, exchangeType := get datagram 18,
    initiator := get datagram 19 &&& 0x08#8 ≠ 0#8
    higherVersionSupported := get datagram 19 &&& 0x10#8 ≠ 0#8
    response := get datagram 19 &&& 0x20#8 ≠ 0#8, messageId := read32 datagram 20,
    length := read32 datagram 24 }

def parse (datagram : List (BitVec 8)) (room : Nat) : ParseResult :=
  if datagram.length < 28 then {}
  else
    let header := parseHeader datagram
    if header.length.toNat ≠ datagram.length then { status := .invalidLength, header }
    else if header.majorVersion ≠ 2#8 then { status := .invalidVersion, header }
    else if get datagram 19 &&& 0xc7#8 ≠ 0#8 then { status := .invalidFlags, header }
    else if !headerSemanticsValid header then { status := .invalidSpi, header }
    else
      let chain := parseChain room header.firstPayload (datagram.drop 28) 28
      { status := chain.1, header, payloads := chain.2 }

end Parse

section Encode

def octets64 (value : BitVec 64) : List (BitVec 8) :=
  octets32 ((value >>> 32).setWidth 32) ++ octets32 (value.setWidth 32)

def headerFlags (header : Header) : BitVec 8 :=
  (if header.initiator then 0x08#8 else 0#8) |||
    (if header.higherVersionSupported then 0x10#8 else 0#8) |||
    (if header.response then 0x20#8 else 0#8)

/-- The 28 octets, where the output has room for the whole message. -/
def encodeHeader (header : Header) : Option (List (BitVec 8)) :=
  if !headerSemanticsValid header then none
  else
    some (octets64 header.initiatorSpi ++ octets64 header.responderSpi ++
      [header.firstPayload, (header.majorVersion <<< 4) ||| header.minorVersion,
        header.exchangeType, headerFlags header] ++
      octets32 header.messageId ++ octets32 header.length)

def encodePayload (payload : Payload) : Option (List (BitVec 8)) :=
  if 65535 < 4 + payload.body.length then none
  else
    some (payload.nextPayload :: (if payload.critical then 0x80#8 else 0#8) ::
      octets16 (BitVec.ofNat 16 (4 + payload.body.length)) ++ payload.body)

/-- The payloads one behind the other. -/
def encodeChain : List Payload → Option (List (BitVec 8))
  | [] => some []
  | payload :: rest =>
    (encodePayload payload).bind fun first => (encodeChain rest).map fun more => first ++ more

/-- Each payload names the type of the next one, and a protected one is the last. -/
def Chained : BitVec 8 → List Payload → Prop
  | type, [] => type = payloadNone
  | type, payload :: rest =>
    payload.type = type ∧ type ≠ payloadNone ∧
      (protectedContainer type → rest = []) ∧
      (¬protectedContainer type → Chained payload.nextPayload rest)

end Encode

section RoundTrip

theorem read64_octets64 (value : BitVec 64) : read64 (octets64 value) 0 = value := by
  have high := read32_octets32 ((value >>> 32).setWidth 32)
  have low := read32_octets32 (value.setWidth 32)
  have halves : read64 (octets64 value) 0 = (value >>> 32).setWidth 32 ++ value.setWidth 32 := by
    refine Eq.trans ?_ (congr (congrArg HAppend.hAppend high) low)
    rfl
  rw [halves]
  exact append_split (m := 32) (n := 32) value

variable {bytes head : List (BitVec 8)}

theorem length_encodePayload {payload : Payload}
    (h : encodePayload payload = some bytes) : bytes.length = 4 + payload.body.length := by
  unfold encodePayload at h
  split at h
  · cases h
  cases h
  simp [octets16]
  omega

/-- A payload at the head of a chain is read as it was written. -/
theorem parseChain_payload {payload : Payload}
    (h : encodePayload payload = some bytes) (type : payload.type ≠ payloadNone) (room : Nat)
    (more : List (BitVec 8)) (offset : Nat) :
    parseChain (room + 1) payload.type (bytes ++ more) offset =
      ((parseChain room
          (if protectedContainer payload.type then payloadNone else payload.nextPayload) more
          (offset + bytes.length)).1,
        { payload with offset } :: (parseChain room
          (if protectedContainer payload.type then payloadNone else payload.nextPayload) more
          (offset + bytes.length)).2) := by
  have long := length_encodePayload h
  unfold encodePayload at h
  split at h
  · cases h
  have length : (read16 (bytes ++ more) 2).toNat = bytes.length := by
    cases h
    refine (congrArg BitVec.toNat (read16_octets16 _)).trans ?_
    rw [long, BitVec.toNat_ofNat]
    omega
  have flags : get (bytes ++ more) 1 = if payload.critical then 0x80#8 else 0#8 := by
    cases h
    rfl
  have next : get (bytes ++ more) 0 = payload.nextPayload := by
    cases h
    rfl
  have body : ((bytes ++ more).drop 4).take (bytes.length - 4) = payload.body := by
    cases h
    simp [octets16]
  have total : ¬ (bytes ++ more).length < 4 := by simp; omega
  have sizes : ¬ (bytes.length < 4 ∨ (bytes ++ more).length < bytes.length) := by simp; omega
  have reserved : (if payload.critical then 0x80#8 else 0#8) &&& 0x7f#8 = 0#8 := by
    cases payload.critical <;> rfl
  have critical : decide ((if payload.critical then 0x80#8 else 0#8) &&& 0x80#8 ≠ 0#8) =
      payload.critical := by
    cases payload.critical <;> rfl
  have rest : (bytes ++ more).drop bytes.length = more := by simp
  rw [parseChain]
  simp only [type, total, length, sizes, flags, next, body, reserved, critical, rest, ↓reduceIte,
    ne_eq, settled]

theorem parseChain_none (room : Nat) (offset : Nat) :
    parseChain room payloadNone [] offset = (.ok, []) := by
  unfold parseChain
  rfl

/-- A chain is read back whole where there is room for its views. -/
theorem parseChain_encode {payloads : List Payload}
    (h : encodeChain payloads = some bytes) {type : BitVec 8} (chained : Chained type payloads)
    (room : Nat) (offset : Nat) :
    (payloads.length ≤ room → (parseChain room type bytes offset).1 = .ok ∧
      (parseChain room type bytes offset).2.map (·.toPayload) = payloads) ∧
    (room < payloads.length → (parseChain room type bytes offset).1 =
      .payloadCapacityExhausted) := by
  induction payloads generalizing type bytes room offset with
  | nil =>
    cases h
    rw [show type = payloadNone from chained, parseChain_none]
    exact ⟨fun _ => ⟨rfl, rfl⟩, fun less => absurd less (Nat.not_lt_zero _)⟩
  | cons payload rest ih =>
    obtain ⟨rfl, real, last, following⟩ := chained
    obtain ⟨first, encoded, tail⟩ := Option.bind_eq_some_iff.mp h
    obtain ⟨more, rested, rfl⟩ := Option.map_eq_some_iff.mp tail
    have long := length_encodePayload encoded
    have next : Chained
        (if protectedContainer payload.type then payloadNone else payload.nextPayload) rest := by
      split
      · next container =>
        rw [last container]
        rfl
      · next outer => exact following outer
    cases room with
    | zero =>
      refine ⟨fun none => absurd none (by simp), fun _ => ?_⟩
      unfold parseChain
      rw [if_neg real, if_neg (by simp; omega)]
    | succ room =>
      rw [parseChain_payload encoded real]
      have later := ih rested next room (offset + first.length)
      refine ⟨fun fits => ?_, fun less => later.2 (by simpa using less)⟩
      obtain ⟨ok, same⟩ := later.1 (by simpa using fits)
      exact ⟨ok, by rw [List.map_cons, same]⟩

theorem length_encodeHeader {header : Header}
    (h : encodeHeader header = some head) : head.length = 28 := by
  unfold encodeHeader at h
  split at h
  · cases h
  · cases h
    rfl

theorem semantics_of_encodeHeader {header : Header}
    (h : encodeHeader header = some head) : headerSemanticsValid header = true := by
  unfold encodeHeader at h
  split at h
  · cases h
  · next valid => simpa using valid

theorem version_two {header : Header} (valid : headerSemanticsValid header = true) :
    header.majorVersion = 2#8 := by
  unfold headerSemanticsValid at valid
  by_cases two : header.majorVersion = 2#8
  · exact two
  · have refused : (header.majorVersion != 2#8) = true := by simpa using two
    simp [refused] at valid

theorem version_octet : ∀ minor : BitVec 8, minor &&& 0xf0#8 = 0#8 →
    ((2#8 <<< 4 ||| minor) >>> 4 = 2#8 ∧ (2#8 <<< 4 ||| minor) &&& 0x0f#8 = minor) := by
  decide +kernel

theorem flags_octet (header : Header) :
    decide (headerFlags header &&& 0x08#8 ≠ 0#8) = header.initiator ∧
      decide (headerFlags header &&& 0x10#8 ≠ 0#8) = header.higherVersionSupported ∧
      decide (headerFlags header &&& 0x20#8 ≠ 0#8) = header.response ∧
      headerFlags header &&& 0xc7#8 = 0#8 := by
  unfold headerFlags
  cases header.initiator <;> cases header.higherVersionSupported <;> cases header.response <;>
    decide

theorem parseHeader_encode {header : Header}
    (h : encodeHeader header = some head) (minor : header.minorVersion &&& 0xf0#8 = 0#8)
    (more : List (BitVec 8)) :
    parseHeader (head ++ more) = header ∧ get (head ++ more) 19 &&& 0xc7#8 = 0#8 := by
  have two := version_two (semantics_of_encodeHeader h)
  unfold encodeHeader at h
  split at h
  · cases h
  cases h
  obtain ⟨initiator, higher, response, reserved⟩ := flags_octet header
  obtain ⟨high, low⟩ := version_octet header.minorVersion minor
  refine ⟨?_, reserved⟩
  refine Header.mk.injEq .. ▸ ⟨read64_octets64 _, read64_octets64 _, rfl, ?_, ?_, rfl,
    initiator, higher, response, read32_octets32 _, read32_octets32 _⟩
  · rw [two]
    exact high
  · rw [two]
    exact low

/-- A message that was written whole. -/
structure Encoded (header : Header) (payloads : List Payload) (datagram : List (BitVec 8)) :
    Prop where
  minor : header.minorVersion &&& 0xf0#8 = 0#8
  chained : Chained header.firstPayload payloads
  octets : ∃ head chain, encodeHeader header = some head ∧ encodeChain payloads = some chain ∧
    datagram = head ++ chain
  length : header.length.toNat = datagram.length

theorem parse_encoded {header : Header} {payloads : List Payload} {datagram : List (BitVec 8)}
    (h : Encoded header payloads datagram) (room : Nat) :
    (parse datagram room).header = header ∧
      (payloads.length ≤ room → (parse datagram room).status = .ok ∧
        (parse datagram room).payloads.map (·.toPayload) = payloads) ∧
      (room < payloads.length → (parse datagram room).status = .payloadCapacityExhausted) := by
  obtain ⟨minor, chained, ⟨head, chain, encoded, chainEncoded, rfl⟩, length⟩ := h
  have long := length_encodeHeader encoded
  have valid := semantics_of_encodeHeader encoded
  obtain ⟨read, reserved⟩ := parseHeader_encode encoded minor chain
  have rest : (head ++ chain).drop 28 = chain := by simp [← long]
  have parsed : parse (head ++ chain) room =
      { status := (parseChain room header.firstPayload chain 28).1, header
        payloads := (parseChain room header.firstPayload chain 28).2 } := by
    unfold parse
    rw [if_neg (by simp; omega)]
    rw [read, if_neg (by simpa using length), if_neg (by simpa using version_two valid),
      if_neg (by simpa using reserved), if_neg (by simp [valid]), rest]
  rw [parsed]
  exact ⟨rfl, parseChain_encode chainEncoded chained room 28⟩

end RoundTrip

end RouterSim.Ikev2
