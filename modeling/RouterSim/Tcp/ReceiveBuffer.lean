import RouterSim.Lib.Bitmap
import RouterSim.Tcp.SendBuffer

namespace RouterSim.Tcp

structure SackBlock where
  leftEdge : BitVec 32 := 0#32
  rightEdge : BitVec 32 := 0#32
  deriving DecidableEq

inductive ReceiveInsertStatus
  | accepted | duplicate | outsideWindow | invalid

structure ReceiveInsertResult where
  status : ReceiveInsertStatus := .invalid
  receiveNext : BitVec 32 := 0#32
  newlyStored : Nat := 0

/-- The receive repository: a circular arena of octets and a bitmap over the same
arena that tells a received zero octet from a hole. -/
structure ReceiveBuffer where
  storage : List Octet
  receivedBitmap : List Octet
  readSequence : BitVec 32
  receiveNext : BitVec 32
  head : BitVec 32 := 0#32
  valid : Bool
  recentSequence : BitVec 32 := 0#32
  recentSequencePresent : Bool := false

namespace ReceiveBuffer

def create (storage receivedBitmap : List Octet) (initialReceiveSequence : BitVec 32) :
    ReceiveBuffer :=
  let valid := !storage.isEmpty && decide (storage.length ≤ 0x40000000) &&
    receivedBitmap.length == (storage.length + 7) / 8
  { storage := if valid then List.replicate storage.length 0#8 else storage
    receivedBitmap := if valid then List.replicate receivedBitmap.length 0#8 else receivedBitmap
    readSequence := initialReceiveSequence, receiveNext := initialReceiveSequence, valid }

def received (b : ReceiveBuffer) (physicalIndex : Nat) : Bool :=
  Bitmap.get b.receivedBitmap physicalIndex

def physical (b : ReceiveBuffer) (offset : BitVec 32) : Nat :=
  Circular.slot b.storage.length b.head.toNat offset.toNat

/-- At most as many rounds as the arena has octets: each moves RCV.NXT one octet
closer to the right edge. -/
def advanceContiguousLoop (b : ReceiveBuffer) : Nat → ReceiveBuffer
  | 0 => b
  | rounds + 1 =>
    let offset := b.receiveNext - b.readSequence
    if offset.toNat < b.storage.length then
      if !b.received (b.physical offset) then b
      else advanceContiguousLoop { b with receiveNext := b.receiveNext + 1#32 } rounds
    else b

def advanceContiguous (b : ReceiveBuffer) : ReceiveBuffer :=
  b.advanceContiguousLoop b.storage.length

def storeOctet (b : ReceiveBuffer) (position : Nat) (octet : Octet) : ReceiveBuffer :=
  { b with
    storage := b.storage.set position octet
    receivedBitmap := Bitmap.set b.receivedBitmap position true }

/-- The insertion loop of `accept`: the buffer, the number of octets stored so far
and the sequence number of the first of them. -/
def insert (sequence offset : BitVec 32) :
    Nat → List Octet → ReceiveBuffer → Nat → BitVec 32 → ReceiveBuffer × Nat × BitVec 32
  | _, [], b, newlyStored, firstNew => (b, newlyStored, firstNew)
  | index, octet :: rest, b, newlyStored, firstNew =>
    let position := b.physical (offset + BitVec.ofNat 32 index)
    if b.received position then insert sequence offset (index + 1) rest b newlyStored firstNew
    else
      insert sequence offset (index + 1) rest (b.storeOctet position octet) (newlyStored + 1)
        (if newlyStored == 0 then sequence + BitVec.ofNat 32 index else firstNew)

/-- The part of `accept` after the octets before RCV.NXT were trimmed. -/
def acceptTrimmed (b : ReceiveBuffer) (sequence : BitVec 32) (payload : List Octet) :
    ReceiveBuffer × ReceiveInsertResult :=
  let offset := sequence - b.readSequence
  if b.storage.length ≤ offset.toNat then
    (b, { status := .outsideWindow, receiveNext := b.receiveNext })
  else
    let admitted := min payload.length (b.storage.length - offset.toNat)
    let (stored, newlyStored, firstNew) := insert sequence offset 0 (payload.take admitted) b 0 0#32
    let marked := if newlyStored != 0 then
      { stored with recentSequence := firstNew, recentSequencePresent := true } else stored
    let advanced := marked.advanceContiguous
    (advanced,
      { status := if newlyStored == 0 then .duplicate else .accepted
        receiveNext := advanced.receiveNext, newlyStored })

def accept (b : ReceiveBuffer) (sequence : BitVec 32) (payload : List Octet) :
    ReceiveBuffer × ReceiveInsertResult :=
  if !b.valid then (b, {})
  else if payload.isEmpty then (b, { status := .duplicate, receiveNext := b.receiveNext })
  else if Serial.before sequence b.receiveNext then
    let old := b.receiveNext - sequence
    if payload.length ≤ old.toNat then (b, { status := .duplicate, receiveNext := b.receiveNext })
    else b.acceptTrimmed b.receiveNext (payload.drop old.toNat)
  else b.acceptTrimmed sequence payload

def readableOctets (b : ReceiveBuffer) : Nat :=
  if b.valid then (b.receiveNext - b.readSequence).toNat else 0

def advertisedWindow (b : ReceiveBuffer) : BitVec 32 :=
  if b.valid then BitVec.ofNat 32 b.storage.length - (b.receiveNext - b.readSequence) else 0#32

/-- The octets read stay in the arena but lose their receipt bits. -/
def read (b : ReceiveBuffer) (outputSize : Nat) : ReceiveBuffer × List Octet :=
  if !b.valid then (b, [])
  else
    let count := min outputSize b.readableOctets
    let positions := (List.range count).map fun index => b.physical (BitVec.ofNat 32 index)
    ({ b with
        receivedBitmap :=
          positions.foldl (fun bits position => Bitmap.set bits position false) b.receivedBitmap
        head := BitVec.ofNat 32 ((b.head.toNat + count) % b.storage.length)
        readSequence := b.readSequence + BitVec.ofNat 32 count },
      positions.map fun position => b.storage.getD position 0#8)

def blockLeft (b : ReceiveBuffer) (firstOffset : Nat) : Nat → Nat
  | 0 => 0
  | left + 1 =>
    if firstOffset < left + 1 && b.received (b.physical (BitVec.ofNat 32 left)) then
      b.blockLeft firstOffset left
    else left + 1

/-- At most as many rounds as there are octets to the right edge. -/
def blockRight (b : ReceiveBuffer) : Nat → Nat → Nat
  | 0, right => right
  | rounds + 1, right =>
    if right < b.storage.length && b.received (b.physical (BitVec.ofNat 32 right)) then
      b.blockRight rounds (right + 1)
    else right

def blockAt (b : ReceiveBuffer) (firstOffset offset : Nat) : Option SackBlock :=
  if offset < firstOffset || b.storage.length ≤ offset ||
      !b.received (b.physical (BitVec.ofNat 32 offset)) then none
  else
    some
      { leftEdge := b.readSequence + BitVec.ofNat 32 (b.blockLeft firstOffset offset)
        rightEdge := b.readSequence +
          BitVec.ofNat 32 (b.blockRight b.storage.length (offset + 1)) }

/-- The scan from the right edge; `rounds` bounds the loop by the arena size. -/
def scanBlocks (b : ReceiveBuffer) (firstOffset capacity : Nat) (recent : Option SackBlock) :
    Nat → Nat → List SackBlock → List SackBlock
  | 0, _, output => output
  | rounds + 1, cursor, output =>
    if firstOffset < cursor && output.length < capacity then
      if !b.received (b.physical (BitVec.ofNat 32 (cursor - 1))) then
        b.scanBlocks firstOffset capacity recent rounds (cursor - 1) output
      else
        match b.blockAt firstOffset (cursor - 1) with
        | none => b.scanBlocks firstOffset capacity recent rounds (cursor - 1) output
        | some block =>
          let next := (block.leftEdge - b.readSequence).toNat
          if recent == some block then b.scanBlocks firstOffset capacity recent rounds next output
          else b.scanBlocks firstOffset capacity recent rounds next (output ++ [block])
    else output

def sackBlocks (b : ReceiveBuffer) (capacity : Nat) : List SackBlock :=
  let firstOffset := (b.receiveNext - b.readSequence).toNat
  if !b.valid || capacity == 0 || b.storage.length ≤ firstOffset then []
  else
    let recent :=
      if b.recentSequencePresent then
        b.blockAt firstOffset (b.recentSequence - b.readSequence).toNat
      else none
    b.scanBlocks firstOffset capacity recent b.storage.length b.storage.length recent.toList

end ReceiveBuffer

end RouterSim.Tcp
