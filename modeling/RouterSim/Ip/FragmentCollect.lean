import RouterSim.Ip.FragmentParse

/-! An entry that takes the fragments of one packet: what it holds after some of them, and
what it assembles after the last. -/
namespace RouterSim.Ip

open List Octets

/-! ## Which fragment an octet is in -/

namespace Planned

variable {packet : Frame} {mtu : BitVec 16} {layout : FragmentLayout}
  {target final : HeaderCursor} {view : Ipv6View} {identification : BitVec 32} {index : Nat}

theorem next_offset (layout : FragmentLayout) (index : Nat) :
    (index + 1) * layout.perFragment = index * layout.perFragment + layout.perFragment :=
  Nat.succ_mul index layout.perFragment

variable (h : Planned packet mtu layout target final view)
include h

theorem last_index : 1 < layout.count := by
  apply h.lt_count
  rw [Nat.one_mul]
  exact h.perFragment_lt

theorem more_iff (hi : index < layout.count) :
    index * layout.perFragment + layout.copied (index * layout.perFragment) <
      layout.fragmentableSize ↔ index ≠ layout.count - 1 := by
  have step := next_offset layout index
  constructor
  · intro more last
    have next : (index + 1) * layout.perFragment < layout.fragmentableSize := by
      unfold FragmentLayout.copied at more
      omega
    have := h.lt_count next
    omega
  · intro notLast
    have next := h.offset_lt (show index + 1 < layout.count by omega)
    unfold FragmentLayout.copied
    omega

omit h in
theorem copied_full
    (more : index * layout.perFragment + layout.copied (index * layout.perFragment) <
      layout.fragmentableSize) :
    layout.copied (index * layout.perFragment) = layout.perFragment := by
  unfold FragmentLayout.copied at more ⊢
  omega

/-- A fragment carries the octets whose place divides to its index. -/
theorem carried_iff (place : Nat) :
    index * layout.perFragment ≤ place ∧
        place < index * layout.perFragment + layout.copied (index * layout.perFragment) ↔
      place < layout.fragmentableSize ∧ place / layout.perFragment = index := by
  have step := next_offset layout index
  have pos := h.pos
  constructor
  · rintro ⟨low, high⟩
    unfold FragmentLayout.copied at high
    refine ⟨by omega, ?_⟩
    rw [Nat.div_eq_iff pos]
    omega
  · rintro ⟨inside, rfl⟩
    have low := Nat.div_mul_le_self place layout.perFragment
    have high : place < (place / layout.perFragment + 1) * layout.perFragment :=
      Nat.lt_mul_of_div_lt (Nat.lt_succ_self _) pos
    unfold FragmentLayout.copied
    omega

end Planned

/-! ## The piece a fragment brings -/

def pieceAt (packet : Frame) (layout : FragmentLayout) (target : HeaderCursor)
    (identification : BitVec 32) (index : Nat) : Piece :=
  { offset := index * layout.perFragment
    data := ((fragmentAt packet layout identification (index * layout.perFragment)).drop
      (target.offset + 8)).take (layout.copied (index * layout.perFragment))
    more := decide (index * layout.perFragment + layout.copied (index * layout.perFragment) <
      layout.fragmentableSize) }

namespace Planned

variable {packet : Frame} {mtu : BitVec 16} {layout : FragmentLayout}
  {target final : HeaderCursor} {view seen : Ipv6View} {identification : BitVec 32} {index : Nat}

variable (h : Planned packet mtu layout target final view)
include h

theorem length_pieceAt (hi : index < layout.count) :
    (pieceAt packet layout target identification index).data.length =
      layout.copied (index * layout.perFragment) := by
  have length : (fragmentAt packet layout identification (index * layout.perFragment)).length =
      target.offset + 8 + layout.copied (index * layout.perFragment) :=
    h.length_fragmentAt (h.offset_lt hi)
  rw [pieceAt, length_take, length_drop]
  omega

theorem get_pieceAt (hi : index < layout.count) {place : Nat}
    (carried : index * layout.perFragment ≤ place ∧
      place < index * layout.perFragment + layout.copied (index * layout.perFragment)) :
    Octets.get (pieceAt packet layout target identification index).data
      (place - index * layout.perFragment) = Octets.get packet (target.offset + place) := by
  rw [pieceAt, get_take (by omega), get_drop,
    h.get_fragmentAt_data (h.offset_lt hi) (by omega)]
  congr 1
  omega

theorem covers_pieceAt (hi : index < layout.count) (place : Nat) :
    Entry.covers (pieceAt packet layout target identification index) place =
      (decide (place < layout.fragmentableSize) &&
        decide (place / layout.perFragment = index)) := by
  rw [Entry.covers, h.length_pieceAt hi, ← Bool.decide_and, ← Bool.decide_and]
  exact decide_eq_decide.mpr (h.carried_iff place)

theorem target_small (port : mtu.toNat ≤ maximumNetworkIpMtu) :
    (BitVec.ofNat 16 target.offset).toNat = target.offset := by
  have port' : mtu.toNat ≤ 9198 := port
  have := h.room
  rw [BitVec.toNat_ofNat]
  omega

theorem pieceOf_fragmentAt (port : mtu.toNat ≤ maximumNetworkIpMtu) (hi : index < layout.count)
    (described : Describes packet layout target identification (index * layout.perFragment) seen)
    (part : Ipv6FragmentView) (hp : seen.fragment = some part) :
    pieceOf (fragmentAt packet layout identification (index * layout.perFragment)) seen part =
      some (pieceAt packet layout target identification index) := by
  have inside := h.offset_lt hi
  have some_ := copied_pos h inside
  have most := copied_le layout inside
  have total := h.inside
  have bound := packetEnd_le packet
  have start := h.named.start
  have header : seen.fragmentHeaderOffset.toNat = target.offset := by
    rw [described.header]
    exact h.target_small port
  have payload := described.payloadLength
  rw [described.fragment] at hp
  cases hp
  have place : (BitVec.ofNat 16 (index * layout.perFragment / 8)).toNat * 8 =
      index * layout.perFragment := by
    have unit : index * layout.perFragment % 8 = 0 := by
      rw [Nat.mul_mod, h.perFragment_mod, Nat.mul_zero, Nat.zero_mod]
    rw [BitVec.toNat_ofNat]
    omega
  have size : 54 + seen.payloadLength.toNat - (target.offset + 8) =
      layout.copied (index * layout.perFragment) := by omega
  have whole : index * layout.perFragment + layout.copied (index * layout.perFragment) <
      layout.fragmentableSize → layout.copied (index * layout.perFragment) % 8 = 0 := by
    intro more
    rw [copied_full more, h.perFragment_mod]
  unfold pieceOf
  simp only [ipv6FragmentHeaderOctets, maximumIpv6PayloadOctets, header, place, size]
  rw [if_neg (by omega), if_neg]
  · rfl
  · simp only [asserted]
    rintro (none_ | ⟨more, odd⟩ | far | far)
    · omega
    · exact odd (whole more)
    · omega
    · omega

end Planned

/-! ## An entry with some of the fragments -/

/-- The entry holds the fragments with the indices `done`, and no other octets. -/
structure Holding (packet : Frame) (layout : FragmentLayout) (target : HeaderCursor)
    (identification : BitVec 32) (entry : Entry) (done : List Nat) : Prop where
  received : ∀ place, entry.received place =
    (decide (place < layout.fragmentableSize) && done.contains (place / layout.perFragment))
  octets : ∀ place, entry.received place = true →
    entry.fragmentable place = Octets.get packet (target.offset + place)
  extent : entry.extent.toNat ≤ layout.fragmentableSize
  haveFirst : entry.haveFirst = done.contains 0
  first : entry.haveFirst = true → entry.firstFragment = fragmentAt packet layout identification 0
  haveLast : entry.haveLast = done.contains (layout.count - 1)
  finalSize : entry.haveLast = true → entry.finalSize.toNat = layout.fragmentableSize

/-- The entry knows where the Fragment header goes. -/
structure Placed (target : HeaderCursor) (entry : Entry) : Prop where
  header : entry.fragmentHeaderOffset = BitVec.ofNat 16 target.offset
  previous : entry.previousNextHeaderOffset = BitVec.ofNat 16 target.nextHeaderOffset
  nextHeader : entry.fragmentNextHeader = target.current

namespace Planned

variable {packet : Frame} {mtu : BitVec 16} {layout : FragmentLayout}
  {target final : HeaderCursor} {view seen : Ipv6View} {identification : BitVec 32} {index : Nat}
  {entry : Entry} {done : List Nat}

theorem holding_allocate (entry : Entry) (key : FragmentKey) (now : Int) :
    Holding packet layout target identification (entry.allocate key now) [] := by
  refine ⟨fun place => ?_, fun place h => ?_, Nat.zero_le _, rfl, fun h => ?_, rfl, fun h => ?_⟩
  · exact (Bool.and_false _).symm
  · cases h
  · cases h
  · cases h

variable (h : Planned packet mtu layout target final view)
include h

section

variable (holding : Holding packet layout target identification entry done)
include holding

theorem not_overlaps (hi : index < layout.count) (new : index ∉ done) :
    entry.overlaps (pieceAt packet layout target identification index) = false := by
  have most := copied_le layout (h.offset_lt hi)
  have length : (pieceAt packet layout target identification index).data.length =
      layout.copied (index * layout.perFragment) := h.length_pieceAt hi
  rw [Entry.overlaps, Bool.or_eq_false_iff]
  constructor
  · cases last : entry.haveLast with
    | false => rfl
    | true =>
      rw [holding.finalSize last, length, Bool.true_and, decide_eq_false_iff_not]
      show ¬ _ < index * layout.perFragment + _
      omega
  · rw [any_eq_false]
    intro j hj
    rw [mem_range, length] at hj
    have carried : index * layout.perFragment + j < layout.fragmentableSize ∧
        (index * layout.perFragment + j) / layout.perFragment = index :=
      (h.carried_iff _).mp ⟨by omega, by omega⟩
    show ¬ entry.received (index * layout.perFragment + j) = true
    rw [holding.received, carried.2]
    simp [new]

/-- One more fragment is stored; the final one still has to fix the size. -/
theorem store_holding (hi : index < layout.count) {stored : Entry} (hs : stored = entry.store
      (fragmentAt packet layout identification (index * layout.perFragment))
      (pieceAt packet layout target identification index)) :
    (∀ place, stored.received place = (decide (place < layout.fragmentableSize) &&
      (index :: done).contains (place / layout.perFragment))) ∧
    (∀ place, stored.received place = true →
      stored.fragmentable place = Octets.get packet (target.offset + place)) ∧
    stored.extent.toNat ≤ layout.fragmentableSize ∧
    stored.haveFirst = (index :: done).contains 0 ∧
    (stored.haveFirst = true →
      stored.firstFragment = fragmentAt packet layout identification 0) := by
  have most := copied_le layout (h.offset_lt hi)
  have length : (pieceAt packet layout target identification index).data.length =
      layout.copied (index * layout.perFragment) := h.length_pieceAt hi
  have covers : ∀ place, Entry.covers (pieceAt packet layout target identification index) place =
      (decide (place < layout.fragmentableSize) && decide (place / layout.perFragment = index)) :=
    fun place => h.covers_pieceAt hi place
  have zero : index * layout.perFragment = 0 ↔ index = 0 := by
    have := h.pos
    rw [Nat.mul_eq_zero]
    omega
  subst hs
  refine ⟨fun place => ?_, fun place got => ?_, ?_, ?_, ?_⟩
  · show (Entry.covers _ place || entry.received place) = _
    rw [covers, holding.received, contains_cons, Bool.and_or_distrib_left]
    rfl
  · show (if Entry.covers _ place = true then _ else entry.fragmentable place) = _
    by_cases here : Entry.covers (pieceAt packet layout target identification index) place = true
    · rw [if_pos here]
      rw [covers, Bool.and_eq_true, decide_eq_true_eq, decide_eq_true_eq] at here
      exact h.get_pieceAt hi ((h.carried_iff place).mpr here)
    · rw [if_neg here]
      apply holding.octets
      have got' : (Entry.covers (pieceAt packet layout target identification index) place ||
        entry.received place) = true := got
      simpa [here] using got'
  · show (BitVec.ofNat 32 (max entry.extent.toNat (index * layout.perFragment +
      (pieceAt packet layout target identification index).data.length))).toNat ≤ _
    have := holding.extent
    exact Nat.le_trans (Nat.mod_le _ _) (by omega)
  · show (entry.haveFirst || index * layout.perFragment == 0) = _
    rw [holding.haveFirst, contains_cons, Bool.or_comm]
    congr 1
    rw [Bool.eq_iff_iff, beq_iff_eq, beq_iff_eq, zero]
    exact eq_comm
  · show (entry.haveFirst || index * layout.perFragment == 0) = true →
      (if index * layout.perFragment = 0 then _ else entry.firstFragment) = _
    intro have_
    by_cases first : index * layout.perFragment = 0
    · rw [if_pos first, first]
    · rw [if_neg first]
      apply holding.first
      simpa [first] using have_

/-- The size is fixed by the last fragment, and agrees with what is held. -/
theorem finalize_holding (hi : index < layout.count) {stored : Entry} (hs : stored = entry.store
      (fragmentAt packet layout identification (index * layout.perFragment))
      (pieceAt packet layout target identification index)) :
    ∃ next, stored.finalize (pieceAt packet layout target identification index) = some next ∧
      Holding packet layout target identification next (index :: done) ∧
      (Placed target entry → Placed target next) ∧ next.occupied = entry.occupied ∧
      next.key = entry.key ∧ next.expires = entry.expires := by
  obtain ⟨received, octets, extent, haveFirst, first⟩ := h.store_holding holding hi hs
  have more := h.more_iff hi
  have most := copied_le layout (h.offset_lt hi)
  have total := h.inside
  have bound := packetEnd_le packet
  have start := h.named.start
  have length : (pieceAt packet layout target identification index).data.length =
      layout.copied (index * layout.perFragment) := h.length_pieceAt hi
  have haveLast : stored.haveLast = entry.haveLast := by rw [hs]; rfl
  have finalSize : stored.finalSize = entry.finalSize := by rw [hs]; rfl
  unfold Entry.finalize
  by_cases follows : index * layout.perFragment + layout.copied (index * layout.perFragment) <
      layout.fragmentableSize
  · have flag : (pieceAt packet layout target identification index).more = true :=
      decide_eq_true follows
    rw [if_pos flag]
    have notLast := more.mp follows
    refine ⟨stored, rfl, ⟨received, octets, extent, haveFirst, first, ?_, ?_⟩, ?_⟩
    · rw [haveLast, holding.haveLast, contains_cons, beq_eq_false_iff_ne.mpr (Ne.symm notLast),
        Bool.false_or]
    · rw [haveLast, finalSize]
      exact holding.finalSize
    · subst hs
      exact ⟨fun placed => ⟨placed.header, placed.previous, placed.nextHeader⟩, rfl, rfl, rfl⟩
  · have flag : ¬ (pieceAt packet layout target identification index).more = true := by
      show ¬ decide _ = true
      rw [decide_eq_true_iff]
      exact follows
    rw [if_neg flag]
    have last : index = layout.count - 1 := by
      by_cases h' : index = layout.count - 1
      · exact h'
      · exact absurd (more.mpr h') follows
    have size : index * layout.perFragment +
        (pieceAt packet layout target identification index).data.length =
        layout.fragmentableSize := by omega
    simp only [show (pieceAt packet layout target identification index).offset =
      index * layout.perFragment from rfl, size]
    rw [if_neg]
    · refine ⟨_, rfl, ⟨received, octets, extent, haveFirst, first, ?_, ?_⟩, ?_⟩
      · simp [last]
      · intro _
        rw [BitVec.toNat_ofNat]
        omega
      · subst hs
        exact ⟨fun placed => ⟨placed.header, placed.previous, placed.nextHeader⟩, rfl, rfl, rfl⟩
    · rintro (⟨have_, differs⟩ | exceeds)
      · rw [haveLast] at have_
        rw [finalSize] at differs
        exact differs (holding.finalSize have_)
      · omega

/-- The entry is complete exactly when every fragment is in. -/
theorem isComplete_iff : entry.isComplete = true ↔ ∀ j < layout.count, j ∈ done := by
  have many := h.last_index
  simp only [Entry.isComplete, asserted, all_eq_true, mem_range]
  constructor
  · rintro ⟨⟨-, last⟩, all⟩ j hj
    have inside := h.offset_lt hj
    have got := all (j * layout.perFragment) (by rw [holding.finalSize last]; exact inside)
    rw [holding.received, Nat.mul_div_cancel _ h.pos] at got
    simpa [inside] using got
  · intro all
    have last : entry.haveLast = true := by
      rw [holding.haveLast]
      simpa using all (layout.count - 1) (by omega)
    refine ⟨⟨?_, last⟩, fun place hp => ?_⟩
    · rw [holding.haveFirst]
      simpa using all 0 (by omega)
    · rw [holding.finalSize last] at hp
      have index := h.lt_count (Nat.lt_of_le_of_lt (Nat.div_mul_le_self place _) hp)
      rw [holding.received]
      simpa [hp] using all _ index

end

/-! ## The packet comes back -/

/-- With every fragment in, the entry assembles the octets of the packet. -/
theorem assemble_eq (port : mtu.toNat ≤ maximumNetworkIpMtu)
    (holding : Holding packet layout target identification entry done)
    (placed : Placed target entry) (all : ∀ j < layout.count, j ∈ done) :
    entry.assemble = packet.take (packetEndOf packet) := by
  have total := h.inside
  have long := h.packet_long
  have start := h.named.start
  have upper := h.named.upper
  have tooLong := h.tooLong
  have minimum := h.minimum
  have inside : 0 < layout.fragmentableSize := Nat.lt_trans h.pos h.perFragment_lt
  have complete := (h.isComplete_iff holding).mpr all
  simp only [Entry.isComplete, asserted, all_eq_true, mem_range] at complete
  obtain ⟨⟨haveFirst, haveLast⟩, every⟩ := complete
  have size := holding.finalSize haveLast
  have nonzero : (entry.finalSize == 0#16) = false := by
    rw [beq_eq_false_iff_ne]
    intro zero
    rw [zero] at size
    have : (0#16).toNat = 0 := rfl
    omega
  have header : entry.fragmentHeaderOffset.toNat = target.offset := by
    rw [placed.header]
    exact h.target_small port
  have previous : entry.previousNextHeaderOffset.toNat = target.nextHeaderOffset := by
    rw [placed.previous, BitVec.toNat_ofNat]
    omega
  have payload : target.offset - 54 + layout.fragmentableSize = (read16 packet 18).toNat := by
    have : packetEndOf packet = 54 + (read16 packet 18).toNat := rfl
    omega
  have length : ((entry.firstFragment.take target.offset).set target.nextHeaderOffset
      target.current ++ (List.range layout.fragmentableSize).map entry.fragmentable).length =
      packetEndOf packet := by
    rw [holding.first haveFirst, length_append, length_set, length_take,
      h.length_fragmentAt inside, length_map, length_range]
    omega
  unfold Entry.assemble
  rw [haveFirst, haveLast, nonzero]
  simp only [settled, Bool.or_self, ↓reduceIte, header, size, previous, placed.nextHeader, payload,
    BitVec.ofNat_toNat]
  rw [if_neg (by simp only [maximumIpv6PayloadOctets, maximumEthernetIpv6DatagramOctets,
    ethernetHeaderOctets, ipv6HeaderOctets]; omega), pad, length_write16, length,
    show ethernetMinimumWithoutFcs - packetEndOf packet = 0 by
      show 60 - _ = 0
      omega]
  rw [replicate_zero, append_nil]
  apply ext
  · rw [length_write16, length, length_take]
    omega
  · intro i hi
    rw [length_write16, length] at hi
    rw [get_take hi]
    by_cases field : i = 18 ∨ i = 19
    · exact get_write16_read16 (by omega) field
    · have front : ((entry.firstFragment.take target.offset).set target.nextHeaderOffset
          target.current).length = target.offset := by
        rw [length_append, length_map, length_range] at length
        omega
      rw [get_write16_ne (by omega) (by omega)]
      by_cases unfragmentable : i < target.offset
      · rw [get_append_left (by rw [front]; exact unfragmentable)]
        by_cases name : i = target.nextHeaderOffset
        · rw [name, get_set_eq (by rw [length_set] at front; omega), h.named.current]
        · rw [get_set_ne (Ne.symm name), get_take unfragmentable, holding.first haveFirst]
          exact h.get_fragmentAt_front inside unfragmentable name (by omega) (by omega)
      · rw [get_append_right (by rw [front]; omega), front]
        have place : i - target.offset < layout.fragmentableSize := by omega
        have got := holding.octets _ (every (i - target.offset) (by rw [size]; exact place))
        rw [Octets.get, getD_eq_getElem?_getD, List.getElem?_map, List.getElem?_range place]
        show entry.fragmentable (i - target.offset) = _
        rw [got]
        congr 1
        omega

/-- The entry takes one more fragment: it waits for the rest, or gives the packet back. -/
theorem take_fragment (port : mtu.toNat ≤ maximumNetworkIpMtu)
    (holding : Holding packet layout target identification entry done)
    (known : entry.fragmentHeaderOffset = 0#16 ∨ Placed target entry) (hi : index < layout.count)
    (new : index ∉ done)
    (described : Describes packet layout target identification (index * layout.perFragment) seen) :
    let taken := entry.take
      (fragmentAt packet layout identification (index * layout.perFragment)) seen target.current
      (pieceAt packet layout target identification index)
    (¬ (∀ j < layout.count, j ∈ index :: done) →
      taken.2 = { status := .incomplete } ∧
      Holding packet layout target identification taken.1 (index :: done) ∧
      Placed target taken.1 ∧ taken.1.occupied = entry.occupied ∧ taken.1.key = entry.key ∧
      taken.1.expires = entry.expires) ∧
    ((∀ j < layout.count, j ∈ index :: done) →
      taken.1.occupied = false ∧
      taken.2 =
        { status := .complete, packet := packet.take (packetEndOf packet) }) := by
  have consistent : entry.consistent seen target.current = true := by
    unfold Entry.consistent
    obtain zero | placed := known
    · simp [zero]
    · simp [placed.header, placed.nextHeader, described.header]
  have placed : Placed target (entry.place seen target.current) :=
    ⟨described.header, described.previous, rfl⟩
  have holding' : Holding packet layout target identification
      (entry.place seen target.current) done :=
    ⟨holding.received, holding.octets, holding.extent, holding.haveFirst, holding.first,
      holding.haveLast, holding.finalSize⟩
  obtain ⟨next, finalized, held, keeps, occupied, key, expires⟩ :=
    h.finalize_holding holding' hi rfl
  have complete := h.isComplete_iff held
  intro taken
  have htaken : taken = if next.isComplete then
      (next.clear,
        { status := if next.assemble.isEmpty then .malformed else .complete
          packet := next.assemble })
      else (next, { status := .incomplete }) := by
    show Entry.take _ _ _ _ _ = _
    rw [Entry.take, consistent]
    simp [h.not_overlaps holding' hi new, finalized]
  constructor
  · intro missing
    rw [htaken, if_neg (fun c => missing (complete.mp c))]
    exact ⟨rfl, held, keeps placed, occupied, key, expires⟩
  · intro all
    have back := h.assemble_eq port held (keeps placed) all
    have nonempty : (packet.take (packetEndOf packet)).isEmpty = false := by
      have := h.tooLong
      have := h.packet_long
      cases octets : packet.take (packetEndOf packet) with
      | cons => rfl
      | nil =>
        have length := congrArg List.length octets
        rw [length_take, length_nil] at length
        omega
    rw [htaken, if_pos (complete.mpr all), back, nonempty]
    exact ⟨rfl, rfl⟩

end Planned

end RouterSim.Ip
