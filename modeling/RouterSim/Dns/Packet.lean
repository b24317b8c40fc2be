import RouterSim.Dns.Zone

/-! Messages: the parser of a received message and the encoder of a response. -/
namespace RouterSim.Dns

open Octets

def headerOctets : Nat := 12
def typeOpt : BitVec 16 := 41#16

section Parse

structure Header where
  id : BitVec 16
  questionCount : BitVec 16
  answerCount : BitVec 16
  authorityCount : BitVec 16
  additionalCount : BitVec 16
  opcode : BitVec 4
  rcode : BitVec 4
  response : Bool
  authoritative : Bool
  truncated : Bool
  recursionDesired : Bool
  recursionAvailable : Bool
  authenticData : Bool
  checkingDisabled : Bool

structure ResourceRecord where
  owner : Name
  type : BitVec 16
  recordClass : BitVec 16
  ttl : BitVec 32
  rdata : List (BitVec 8)
  rdataMessageOffset : Nat

/-- How many entries the caller has room for in each section. -/
structure MessageStorage where
  questions : Nat
  answers : Nat
  authorities : Nat
  additionals : Nat

structure MessageView where
  header : Header
  questions : List Question
  answers : List ResourceRecord
  authorities : List ResourceRecord
  additionals : List ResourceRecord

variable (message : List (BitVec 8))

def parseQuestion (offset : Nat) : Option (Question × Nat) :=
  match parseName message offset with
  | none => none
  | some (name, consumed) =>
    if message.length - offset < consumed then none
    else
      let offset := offset + consumed
      if message.length - offset < 4 then none
      else
        some
          ({ name, type := read16 message offset,
             recordClass := read16 message (offset + 2) }, offset + 4)

def parseRecord (offset : Nat) : Option (ResourceRecord × Nat) :=
  match parseName message offset with
  | none => none
  | some (owner, consumed) =>
    if message.length - offset < consumed then none
    else
      let offset := offset + consumed
      if message.length - offset < 10 then none
      else
        let rdataOctets := (read16 message (offset + 8)).toNat
        if message.length - (offset + 10) < rdataOctets then none
        else
          some
            ({ owner, type := read16 message offset, recordClass := read16 message (offset + 2),
               ttl := read32 message (offset + 4)
               rdata := (message.drop (offset + 10)).take rdataOctets
               rdataMessageOffset := offset + 10 }, offset + 10 + rdataOctets)

def parseEntries {α : Type} (parseOne : Nat → Option (α × Nat)) : Nat → Nat → Option (List α × Nat)
  | 0, offset => some ([], offset)
  | count + 1, offset =>
    match parseOne offset with
    | none => none
    | some (entry, offset) =>
      match parseEntries parseOne count offset with
      | none => none
      | some (entries, offset) => some (entry :: entries, offset)

def parseSection {α : Type} (parseOne : Nat → Option (α × Nat)) (storage : Nat)
    (count : BitVec 16) (offset : Nat) : Option (List α × Nat) :=
  if storage < count.toNat then none else parseEntries parseOne count.toNat offset

def parseHeader : Header :=
  let flags := read16 message 2
  { id := read16 message 0, questionCount := read16 message 4, answerCount := read16 message 6,
    authorityCount := read16 message 8, additionalCount := read16 message 10,
    opcode := (flags >>> 11).setWidth 4, rcode := flags.setWidth 4,
    response := flags &&& 0x8000#16 != 0#16, authoritative := flags &&& 0x0400#16 != 0#16,
    truncated := flags &&& 0x0200#16 != 0#16, recursionDesired := flags &&& 0x0100#16 != 0#16,
    recursionAvailable := flags &&& 0x0080#16 != 0#16, authenticData := flags &&& 0x0020#16 != 0#16,
    checkingDisabled := flags &&& 0x0010#16 != 0#16 }

def parse (storage : MessageStorage) : Option MessageView :=
  if message.length < headerOctets then none
  else
    let header := parseHeader message
    match parseSection (parseQuestion message) storage.questions header.questionCount
        headerOctets with
    | none => none
    | some (questions, offset) =>
      match parseSection (parseRecord message) storage.answers header.answerCount offset with
      | none => none
      | some (answers, offset) =>
        match parseSection (parseRecord message) storage.authorities header.authorityCount
            offset with
        | none => none
        | some (authorities, offset) =>
          match parseSection (parseRecord message) storage.additionals header.additionalCount
              offset with
          | none => none
          | some (additionals, offset) =>
            if offset ≠ message.length then none
            else
              some
                { header, questions, answers, authorities, additionals }

end Parse

section Encode

def Rcode.value : Rcode → BitVec 16
  | .noError => 0#16
  | .formatError => 1#16
  | .serverFailure => 2#16
  | .nameError => 3#16
  | .notImplemented => 4#16
  | .refused => 5#16
  | .yxDomain => 6#16

structure ResponseConfiguration where
  rcode : Rcode := .noError
  authoritative : Bool := false
  recursionDesired : Bool := false
  recursionAvailable : Bool := false
  authenticData : Bool := false
  checkingDisabled : Bool := false
  ednsUdpPayloadSize : Option (BitVec 16) := none
  ednsExtendedRcode : BitVec 8 := 0#8
  ednsVersion : BitVec 8 := 0#8
  dnssecOk : Bool := false

def sameRrset (left right : RecordData) : Bool :=
  left.type == right.type && left.recordClass == right.recordClass &&
    equalCaseInsensitive left.owner right.owner

variable (question : Question)

def encodedOwnerOctets (record : RecordData) : Nat :=
  if equalCaseInsensitive record.owner question.name then 2 else record.owner.octets

def validRecord (record : RecordData) : Bool :=
  record.type != 0#16 && decide (record.rdata.length ≤ 65535) && validName record.owner

/-- An owner that is the question's name is a pointer to it. -/
def writeOwner (record : RecordData) : List (BitVec 8) :=
  if equalCaseInsensitive record.owner question.name then [0xc0#8, 0x0c#8] else record.owner.wire

def writeRecord (record : RecordData) : List (BitVec 8) :=
  writeOwner question record ++
    (octets16 record.type ++
      (octets16 record.recordClass ++
        (octets32 record.ttl ++ (octets16 (BitVec.ofNat 16 record.rdata.length) ++ record.rdata))))

/-- The records in their consecutive RRsets. Each takes at least one record. -/
def rrsets : Nat → List RecordData → List (List RecordData)
  | 0, _ => []
  | _ + 1, [] => []
  | steps + 1, record :: rest =>
    (record :: rest.takeWhile (sameRrset record)) ::
      rrsets steps (rest.dropWhile (sameRrset record))

/-- What was written of a section. -/
structure Section where
  octets : List (BitVec 8)
  count : Nat
  truncated : Bool

def requiredOctets (rrset : List RecordData) : Nat :=
  rrset.foldl
    (fun required record => required + (encodedOwnerOctets question record + 10 +
      record.rdata.length)) 0

/-- The RRsets as long as whole ones fit below the limit and in the count. -/
def encodeRrsets (limit : Nat) : Nat → Nat → List (List RecordData) → Option Section
  | _, count, [] => some ⟨[], count, false⟩
  | offset, count, rrset :: rest =>
    if !rrset.all validRecord then none
    else if limit - offset < requiredOctets question rrset ∨ 65535 - count < rrset.length then
      some ⟨[], count, true⟩
    else
      let octets := rrset.flatMap (writeRecord question)
      match encodeRrsets limit (offset + octets.length) (count + rrset.length) rest with
      | none => none
      | some later => some { later with octets := octets ++ later.octets }

/-- A section after the ones before it. Nothing follows a section that was cut short. -/
def encodeSection (limit offset : Nat) (truncated : Bool) (records : List RecordData) :
    Option Section :=
  if truncated then some ⟨[], 0, true⟩
  else encodeRrsets question limit offset 0 (rrsets records.length records)

def optRecord (configuration : ResponseConfiguration) (payload : BitVec 16) : List (BitVec 8) :=
  0#8 :: (octets16 typeOpt ++
    (octets16 (if payload < 512#16 then 512#16 else payload) ++
      ([configuration.ednsExtendedRcode, configuration.ednsVersion,
        if configuration.dnssecOk then 0x80#8 else 0#8, 0#8] ++ octets16 0#16)))

def optOctets (configuration : ResponseConfiguration) : List (BitVec 8) :=
  match configuration.ednsUdpPayloadSize with
  | none => []
  | some payload => optRecord configuration payload

def responseFlags (configuration : ResponseConfiguration) (truncated : Bool) : BitVec 16 :=
  0x8000#16 ||| (if configuration.authoritative then 0x0400#16 else 0#16) |||
    (if truncated then 0x0200#16 else 0#16) |||
    (if configuration.recursionDesired then 0x0100#16 else 0#16) |||
    (if configuration.recursionAvailable then 0x0080#16 else 0#16) |||
    (if configuration.authenticData then 0x0020#16 else 0#16) |||
    (if configuration.checkingDisabled then 0x0010#16 else 0#16) ||| configuration.rcode.value

/-- The parts of a response, with the counts and flags that are known at the end. -/
def responseOctets (id : BitVec 16) (configuration : ResponseConfiguration)
    (first second third : Section) : List (BitVec 8) :=
  let opt := optOctets configuration
  let additionalCount := third.count + if opt.isEmpty then 0 else 1
  let header := [id, responseFlags configuration third.truncated, 1#16,
    BitVec.ofNat 16 first.count, BitVec.ofNat 16 second.count, BitVec.ofNat 16 additionalCount]
  header.flatMap octets16 ++
    (question.name.wire ++
      (octets16 question.type ++
        (octets16 question.recordClass ++
          (first.octets ++ (second.octets ++ (third.octets ++ opt))))))

/-- A response in a buffer of so many octets. -/
def encodeResponse (capacity : Nat) (id : BitVec 16)
    (answers authorities additionals : List RecordData) (configuration : ResponseConfiguration) :
    Option (List (BitVec 8)) :=
  let questionOctets := question.name.octets + 4
  let opt := (optOctets configuration).length
  if !validName question.name || question.type == 0#16 || question.recordClass == 0#16 ||
      decide (capacity < headerOctets + questionOctets + opt) then none
  else
    let limit := capacity - opt
    let offset := headerOctets + questionOctets
    match encodeSection question limit offset false answers with
    | none => none
    | some first =>
      let offset := offset + first.octets.length
      match encodeSection question limit offset first.truncated authorities with
      | none => none
      | some second =>
        let offset := offset + second.octets.length
        match encodeSection question limit offset second.truncated additionals with
        | none => none
        | some third => some (responseOctets question id configuration first second third)

end Encode

end RouterSim.Dns
