import RouterSim.Ip.Packet

/-! The destination's reassembly table: one entry for each source, destination and
identification, freed when its datagram completes, is rejected or expires. -/
namespace RouterSim.Ip

open Octets

/-- Sixty seconds, in nanoseconds. -/
abbrev ipv6ReassemblyTimeout : Int := 60000000000

abbrev ipv6ReassemblyEntriesPerEndpoint : Nat := 4

inductive Ipv6ReassemblyStatus
  | notFragment
  | incomplete
  | complete
  | atomic
  | malformed
  | overlap
  | resourceExhausted
  deriving DecidableEq

structure Ipv6ReassemblyResult where
  status : Ipv6ReassemblyStatus
  packet : List Octet := []

structure Entry where
  source : Ipv6 := 0#128
  destination : Ipv6 := 0#128
  firstFragment : Frame := []
  fragmentable : Nat → Octet := fun _ => 0#8
  received : Nat → Bool := fun _ => false
  expires : Int := 0
  identification : BitVec 32 := 0#32
  fragmentHeaderOffset : BitVec 16 := 0#16
  previousNextHeaderOffset : BitVec 16 := 0#16
  extent : BitVec 32 := 0#32
  finalSize : BitVec 16 := 0#16
  fragmentNextHeader : Octet := 0#8
  occupied : Bool := false
  haveFirst : Bool := false
  haveLast : Bool := false

structure Ipv6ReassemblyTable where
  entries : List Entry

def Ipv6ReassemblyTable.empty : Ipv6ReassemblyTable :=
  { entries := List.replicate ipv6ReassemblyEntriesPerEndpoint {} }

/-- The payload octets stay behind, unreachable. -/
def Entry.clear (entry : Entry) : Entry := { fragmentable := entry.fragmentable }

/-- What tells the fragments of one datagram from those of another. -/
structure FragmentKey where
  source : Ipv6
  destination : Ipv6
  identification : BitVec 32
  deriving DecidableEq

def Ipv6View.key (view : Ipv6View) (fragment : Ipv6FragmentView) : FragmentKey :=
  { source := view.source, destination := view.destination,
    identification := fragment.identification }

def Entry.key (entry : Entry) : FragmentKey :=
  { source := entry.source, destination := entry.destination,
    identification := entry.identification }

def Entry.holds (entry : Entry) (key : FragmentKey) : Bool := entry.occupied && entry.key == key

def Entry.allocate (entry : Entry) (key : FragmentKey) (now : Int) : Entry :=
  { entry.clear with
    occupied := true, source := key.source, destination := key.destination,
    identification := key.identification, expires := now + ipv6ReassemblyTimeout }

def Entry.expire (now : Int) (entry : Entry) : Entry :=
  if entry.occupied && decide (entry.expires ≤ now) then entry.clear else entry

namespace Ipv6ReassemblyTable

def find (table : Ipv6ReassemblyTable) (key : FragmentKey) : Option Nat :=
  table.entries.findIdx? (·.holds key)

def free (table : Ipv6ReassemblyTable) : Option Nat := table.entries.findIdx? (!·.occupied)

def expire (table : Ipv6ReassemblyTable) (now : Int) : Ipv6ReassemblyTable :=
  { entries := table.entries.map (Entry.expire now) }

/-- The slot for a key: its own entry, else a free one made its own. -/
def findOrAllocate (table : Ipv6ReassemblyTable) (key : FragmentKey) (now : Int) :
    Option (Nat × Entry) :=
  match table.find key with
  | some slot => table.entries[slot]?.map (slot, ·)
  | none =>
    match table.free with
    | some slot => table.entries[slot]?.map fun entry => (slot, entry.allocate key now)
    | none => none

def active (table : Ipv6ReassemblyTable) : Nat := table.entries.countP (·.occupied)

end Ipv6ReassemblyTable

def Entry.assemble (entry : Entry) : List Octet :=
  if !entry.haveFirst || !entry.haveLast || entry.finalSize == 0#16 then []
  else
    let header := entry.fragmentHeaderOffset.toNat
    let reassembledPayload := header - 54 + entry.finalSize.toNat
    if maximumIpv6PayloadOctets < reassembledPayload ∨
        maximumEthernetIpv6DatagramOctets < 54 + reassembledPayload then []
    else
      let unfragmentable := (entry.firstFragment.take header).set
        entry.previousNextHeaderOffset.toNat entry.fragmentNextHeader
      let fragmentable := (List.range entry.finalSize.toNat).map entry.fragmentable
      pad
        (write16 (unfragmentable ++ fragmentable) 18 (BitVec.ofNat 16 reassembledPayload))
        ethernetMinimumWithoutFcs

/-- An atomic fragment without its Fragment header. -/
def normalizeAtomic (fragment : Frame) (view : Ipv6View) : Ipv6ReassemblyResult :=
  let packetEnd := 54 + view.payloadLength.toNat
  let header := view.fragmentHeaderOffset.toNat
  if header = 0 ∨ packetEnd < header + ipv6FragmentHeaderOctets then { status := .malformed }
  else
    let joined := fragment.take header ++
      (fragment.take packetEnd).drop (header + ipv6FragmentHeaderOctets)
    let named := joined.set view.fragmentPreviousNextHeaderOffset.toNat (get fragment header)
    { status := .atomic, packet := pad
        (write16 named 18 (view.payloadLength - BitVec.ofNat 16 ipv6FragmentHeaderOctets))
        ethernetMinimumWithoutFcs }

/-- What a fragment brings: its octets, where they go and whether more follow. -/
structure Piece where
  offset : Nat
  data : List Octet
  more : Bool

/-- The payload of a fragment, if its size and place are allowed. -/
def pieceOf (fragment : Frame) (view : Ipv6View) (part : Ipv6FragmentView) : Option Piece :=
  let packetEnd := 54 + view.payloadLength.toNat
  let dataStart := view.fragmentHeaderOffset.toNat + ipv6FragmentHeaderOctets
  if packetEnd < dataStart then none
  else
    let dataSize := packetEnd - dataStart
    let offset := part.offset.toNat * ipv6FragmentOffsetUnitOctets
    let unfragmentablePayload := view.fragmentHeaderOffset.toNat - 54
    if dataSize = 0 ∨ (part.moreFragments = true ∧ dataSize % ipv6FragmentOffsetUnitOctets ≠ 0) ∨
        maximumIpv6PayloadOctets < offset + dataSize ∨
        maximumIpv6PayloadOctets < unfragmentablePayload + offset + dataSize then none
    else
      some
        { offset, data := (fragment.drop dataStart).take dataSize, more := part.moreFragments }

namespace Entry

/-- The fragments of one datagram name the same next header at the same place. -/
def consistent (entry : Entry) (view : Ipv6View) (nextHeader : Octet) : Bool :=
  entry.fragmentHeaderOffset == 0#16 ||
    entry.fragmentHeaderOffset == view.fragmentHeaderOffset && entry.fragmentNextHeader == nextHeader

def place (entry : Entry) (view : Ipv6View) (nextHeader : Octet) : Entry :=
  { entry with
    fragmentHeaderOffset := view.fragmentHeaderOffset
    previousNextHeaderOffset := view.fragmentPreviousNextHeaderOffset
    fragmentNextHeader := nextHeader }

def overlaps (entry : Entry) (piece : Piece) : Bool :=
  entry.haveLast && decide (entry.finalSize.toNat < piece.offset + piece.data.length) ||
    (List.range piece.data.length).any fun index => entry.received (piece.offset + index)

def covers (piece : Piece) (index : Nat) : Bool :=
  decide (piece.offset ≤ index) && decide (index < piece.offset + piece.data.length)

def store (entry : Entry) (fragment : Frame) (piece : Piece) : Entry :=
  { entry with
    fragmentable := fun index =>
      if covers piece index then get piece.data (index - piece.offset)
      else entry.fragmentable index
    received := fun index => covers piece index || entry.received index
    extent := BitVec.ofNat 32 (max entry.extent.toNat (piece.offset + piece.data.length))
    firstFragment := if piece.offset = 0 then fragment else entry.firstFragment
    haveFirst := entry.haveFirst || piece.offset == 0 }

/-- The final fragment fixes the size, which no earlier octet may exceed. -/
def finalize (entry : Entry) (piece : Piece) : Option Entry :=
  if piece.more then some entry
  else
    let finalSize := piece.offset + piece.data.length
    if (entry.haveLast = true ∧ entry.finalSize.toNat ≠ finalSize) ∨
        finalSize < entry.extent.toNat then none
    else
      some
        { entry with
          haveLast := true, finalSize := BitVec.ofNat 16 finalSize }

def isComplete (entry : Entry) : Bool :=
  entry.haveFirst && entry.haveLast && (List.range entry.finalSize.toNat).all entry.received

/-- An entry takes a piece of its datagram. -/
def take (entry : Entry) (fragment : Frame) (view : Ipv6View) (nextHeader : Octet)
    (piece : Piece) : Entry × Ipv6ReassemblyResult :=
  if !entry.consistent view nextHeader then (entry.clear, { status := .malformed })
  else
    let placed := entry.place view nextHeader
    if placed.overlaps piece then (placed.clear, { status := .overlap })
    else
      let stored := placed.store fragment piece
      match stored.finalize piece with
      | none => (stored.clear, { status := .malformed })
      | some final =>
        if final.isComplete then
          let packet := final.assemble
          (final.clear,
            { status := if packet.isEmpty then .malformed else .complete, packet })
        else (final, { status := .incomplete })

end Entry

namespace Ipv6ReassemblyTable

def acceptPiece (table : Ipv6ReassemblyTable) (fragment : Frame) (view : Ipv6View)
    (part : Ipv6FragmentView) (now : Int) : Ipv6ReassemblyTable × Ipv6ReassemblyResult :=
  match pieceOf fragment view part with
  | none => (table, { status := .malformed })
  | some piece =>
    match table.findOrAllocate (view.key part) now with
    | none => (table, { status := .resourceExhausted })
    | some (slot, entry) =>
      let nextHeader := get fragment view.fragmentHeaderOffset.toNat
      let taken := entry.take fragment view nextHeader piece
      ({ entries := table.entries.set slot taken.1 }, taken.2)

def accept (table : Ipv6ReassemblyTable) (fragment : Frame) (now : Int) :
    Ipv6ReassemblyTable × Ipv6ReassemblyResult :=
  let table := table.expire now
  match parseIpv6 fragment with
  | none => (table, { status := .malformed })
  | some view =>
    match view.fragment with
    | none => (table, { status := .notFragment })
    | some part =>
      if part.offset == 0#16 && !part.moreFragments then (table, normalizeAtomic fragment view)
      else table.acceptPiece fragment view part now

def discardAll (table : Ipv6ReassemblyTable) : Ipv6ReassemblyTable :=
  { entries := table.entries.map Entry.clear }

end Ipv6ReassemblyTable

end RouterSim.Ip
