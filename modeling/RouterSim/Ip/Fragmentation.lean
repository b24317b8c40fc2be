import RouterSim.Ip.Packet

/-! Source fragmentation: where the Fragment header goes, how much each fragment carries,
and the fragments as they are handed to the sink one by one. -/
namespace RouterSim.Ip

structure FragmentInsertion where
  offset : Nat
  previousNextHeaderOffset : Nat
  fragmentNextHeader : Octet

structure FragmentLayout where
  insertion : FragmentInsertion
  packetEnd : Nat
  unfragmentableIpSize : Nat
  perFragment : Nat
  fragmentableSize : Nat
  count : Nat

def HeaderCursor.insertion (cursor : HeaderCursor) : FragmentInsertion :=
  { offset := cursor.offset, previousNextHeaderOffset := cursor.nextHeaderOffset,
    fragmentNextHeader := cursor.current }

/-- Destination Options stay in front of the Fragment header only when the first Routing
header follows them. -/
def insertsBeforeOptions (packet : Frame) (routingSeen : Bool) (cursor : HeaderCursor) : Bool :=
  cursor.current == nextHeaderDestinationOptions &&
    (Octets.get packet cursor.offset != nextHeaderRouting || routingSeen)

def insertionPointFrom (packet : Frame) (packetEnd : Nat) :
    Nat → Bool → HeaderCursor → Option FragmentInsertion
  | 0, _, _ => none
  | rounds + 1, routingSeen, cursor =>
    if !hasOptionsLength cursor.current then some cursor.insertion
    else if packetEnd < cursor.offset + 2 then none
    else if packetEnd < cursor.offset + optionsLength packet cursor.offset then none
    else if insertsBeforeOptions packet routingSeen cursor then some cursor.insertion
    else
      insertionPointFrom packet packetEnd rounds
        (routingSeen || cursor.current == nextHeaderRouting)
        (cursor.next packet (optionsLength packet cursor.offset))

def insertionPoint (packet : Frame) (packetEnd : Nat) : Option FragmentInsertion :=
  insertionPointFrom packet packetEnd packetEnd false (firstCursor packet)

def fragmentLayout (packet : Frame) (mtu : BitVec 16) : Option FragmentLayout :=
  match parseIpv6 packet with
  | none => none
  | some view =>
    if view.fragment.isSome || decide (mtu.toNat < ipv6MinimumLinkMtu) then none
    else
      let originalIpSize := ipv6HeaderOctets + view.payloadLength.toNat
      if originalIpSize ≤ mtu.toNat then none
      else
        let packetEnd := ethernetHeaderOctets + originalIpSize
        match insertionPoint packet packetEnd with
        | none => none
        | some insertion =>
          let unfragmentableIpSize := insertion.offset - ethernetHeaderOctets
          if mtu.toNat ≤ unfragmentableIpSize + ipv6FragmentHeaderOctets then none
          else
            let perFragment :=
              (mtu.toNat - unfragmentableIpSize - ipv6FragmentHeaderOctets) /
                ipv6FragmentOffsetUnitOctets * ipv6FragmentOffsetUnitOctets
            let fragmentableSize := packetEnd - insertion.offset
            if perFragment = 0 ∨ fragmentableSize = 0 then none
            else
              some
                { insertion, packetEnd, unfragmentableIpSize, perFragment, fragmentableSize,
                  count := (fragmentableSize + perFragment - 1) / perFragment }

def ipv6FragmentCount (packet : Frame) (mtu : BitVec 16) : Option Nat :=
  (fragmentLayout packet mtu).map (·.count)

/-- Octets of the fragmentable part that the fragment at an offset carries. -/
def FragmentLayout.copied (layout : FragmentLayout) (offset : Nat) : Nat :=
  min layout.perFragment (layout.fragmentableSize - offset)

def FragmentLayout.field (layout : FragmentLayout) (offset : Nat) : BitVec 16 :=
  BitVec.ofNat 16 (offset / ipv6FragmentOffsetUnitOctets) <<< 3 |||
    if offset + layout.copied offset < layout.fragmentableSize then 1#16 else 0#16

def fragmentHeader (layout : FragmentLayout) (identification : BitVec 32) (offset : Nat) :
    List Octet :=
  [layout.insertion.fragmentNextHeader, 0#8] ++ Octets.octets16 (layout.field offset) ++
    Octets.octets32 identification

/-- The frame built for one round of the loop. -/
def fragmentAt (packet : Frame) (layout : FragmentLayout) (identification : BitVec 32)
    (offset : Nat) : Frame :=
  let insertion := layout.insertion
  let unfragmentable :=
    (packet.take insertion.offset).set insertion.previousNextHeaderOffset nextHeaderFragment
  let bytes := unfragmentable ++ fragmentHeader layout identification offset ++
    (packet.drop (insertion.offset + offset)).take (layout.copied offset)
  let payloadLength := BitVec.ofNat 16
    (insertion.offset - 54 + ipv6FragmentHeaderOctets + layout.copied offset)
  Octets.pad (Octets.write16 bytes 18 payloadLength) ethernetMinimumWithoutFcs

/-- The loop from an offset on: the sink may refuse a fragment, and no later one is built. -/
def emitFragments {σ : Type} (sink : σ → Frame → σ × Bool) (build : Nat → Frame) :
    List Nat → Nat → σ → σ × Option Nat
  | [], count, context => (context, some count)
  | offset :: offsets, count, context =>
    if (sink context (build offset)).2 then
      emitFragments sink build offsets (count + 1) (sink context (build offset)).1
    else ((sink context (build offset)).1, none)

/-- The offsets the loop goes through. -/
def FragmentLayout.offsets (layout : FragmentLayout) : List Nat :=
  (List.range layout.count).map (· * layout.perFragment)

def fragmentIpv6Datagram {σ : Type} (packet : Frame) (mtu : BitVec 16)
    (identification : BitVec 32) (sink : σ → Frame → σ × Bool) (context : σ) : σ × Option Nat :=
  match fragmentLayout packet mtu with
  | none => (context, none)
  | some layout =>
    emitFragments sink (fragmentAt packet layout identification) layout.offsets 0 context

abbrev minimumFragmentPayload : Nat :=
  (ipv6MinimumLinkMtu - ipv6HeaderOctets - ipv6FragmentHeaderOctets) /
    ipv6FragmentOffsetUnitOctets * ipv6FragmentOffsetUnitOctets

abbrev maximumFragmentCount : Nat :=
  (maximumFrameOctets + minimumFragmentPayload - 1) / minimumFragmentPayload

def appendToBatch (batch : List Frame) (fragment : Frame) : List Frame × Bool :=
  if maximumFragmentCount ≤ batch.length then (batch, false) else (batch ++ [fragment], true)

def fragmentIpv6 (packet : Frame) (mtu : BitVec 16) (identification : BitVec 32) :
    Option (List Frame) :=
  match fragmentIpv6Datagram packet mtu identification appendToBatch [] with
  | (batch, some count) => if count = batch.length then some batch else none
  | (_, none) => none

/-- A sink that keeps every fragment. -/
def collect (frames : List Frame) (fragment : Frame) : List Frame × Bool :=
  (frames ++ [fragment], true)

theorem emitFragments_collect (build : Nat → Frame) (offsets : List Nat) (count : Nat)
    (frames : List Frame) :
    emitFragments collect build offsets count frames =
      (frames ++ offsets.map build, some (count + offsets.length)) := by
  induction offsets generalizing count frames with
  | nil => simp [emitFragments]
  | cons offset offsets ih =>
    show emitFragments collect build offsets (count + 1) (frames ++ [build offset]) = _
    rw [ih]
    simp [Nat.add_assoc, Nat.add_comm 1]

theorem emitFragments_batch {build : Nat → Frame} {offsets : List Nat} {count emitted : Nat}
    {batch after : List Frame} (room : batch.length ≤ maximumFragmentCount) :
    emitFragments appendToBatch build offsets count batch = (after, some emitted) ↔
      batch.length + offsets.length ≤ maximumFragmentCount ∧
        emitFragments collect build offsets count batch = (after, some emitted) := by
  induction offsets generalizing count batch with
  | nil => simp [emitFragments, room]
  | cons offset offsets ih =>
    by_cases full : maximumFragmentCount ≤ batch.length
    · have past : ¬ batch.length + (offsets.length + 1) ≤ maximumFragmentCount := by omega
      simp [emitFragments, appendToBatch, full, past]
    · have next := @ih (count + 1) (batch ++ [build offset]) (by simp; omega)
      simp only [emitFragments, appendToBatch, if_neg full, ↓reduceIte, next, collect]
      simp [Nat.add_assoc, Nat.add_comm 1]

/-- A batch is what a sink that keeps every fragment is given, and its array is the only limit. -/
theorem fragmentIpv6_eq_some_iff {packet : Frame} {mtu : BitVec 16} {identification : BitVec 32}
    {batch : List Frame} :
    fragmentIpv6 packet mtu identification = some batch ↔
      batch.length ≤ maximumFragmentCount ∧
        fragmentIpv6Datagram packet mtu identification collect [] =
          (batch, some batch.length) := by
  unfold fragmentIpv6 fragmentIpv6Datagram
  cases fragmentLayout packet mtu with
  | none => simp
  | some layout =>
    have room : ([] : List Frame).length ≤ maximumFragmentCount := Nat.zero_le _
    have count {after : List Frame} {emitted : Nat} (whole : emitFragments collect
        (fragmentAt packet layout identification) layout.offsets 0 [] = (after, some emitted)) :
        layout.offsets.length = emitted := by
      simpa [emitFragments_collect] using congrArg Prod.snd whole
    constructor
    · intro h
      split at h
      next made =>
        obtain ⟨few, whole⟩ := (emitFragments_batch room).mp made
        obtain ⟨rfl, same⟩ := Option.ite_none_right_eq_some.mp h
        cases same
        exact ⟨by simpa [count whole] using few, whole⟩
      next => cases h
    · rintro ⟨few, whole⟩
      have made := (emitFragments_batch room).mpr ⟨by simpa [count whole] using few, whole⟩
      simp [made]

end RouterSim.Ip
