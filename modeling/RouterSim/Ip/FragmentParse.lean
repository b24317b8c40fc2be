import RouterSim.Lib.Bitmap
import RouterSim.Ip.HeaderWalk
import RouterSim.Ip.Reassembly

/-! The fragments of a packet as the parser sees them at the destination. -/
namespace RouterSim.Ip

open List Octets

/-! ## The layout -/

theorem parseHeaders_payloadLength {packet : Frame} {packetEnd rounds : Nat}
    {view last : Ipv6View} {cursor final : HeaderCursor}
    (parsed : parseHeaders packet packetEnd rounds view cursor = some (last, final)) :
    last.payloadLength = view.payloadLength := by
  induction rounds generalizing view cursor with
  | zero => cases parsed
  | succ rounds ih =>
    have kept : ∀ after length, headerAt packet packetEnd view cursor = .extension after length →
        after.payloadLength = view.payloadLength := by
      intro after length h
      by_cases options : hasOptionsLength cursor.current = true
      · rw [headerAt_options options] at h
        split at h
        · cases h
        · cases h
          rfl
      · by_cases fragment : cursor.current = nextHeaderFragment
        · rw [headerAt_fragment fragment] at h
          split at h
          · cases h
          · cases h
            rfl
        · by_cases authentication : cursor.current = nextHeaderAuthentication
          · rw [headerAt_authentication authentication] at h
            split at h
            · cases h
            · cases h
              rfl
          · rw [headerAt_upperLayer (by simpa using options) fragment authentication] at h
            cases h
    rw [parseHeaders] at parsed
    split at parsed
    next => cases parsed
    next =>
      cases parsed
      rfl
    next after length hat =>
      have same := kept after length hat
      split at parsed
      next => cases parsed
      split at parsed
      next =>
        cases parsed
        exact same
      next => rw [ih parsed, same]

/-- What a layout is made from: the walk over the packet, which comes by the target, and
the sizes. -/
structure Planned (packet : Frame) (mtu : BitVec 16) (layout : FragmentLayout)
    (target final : HeaderCursor) (view : Ipv6View) : Prop where
  valid : fixedHeaderValid packet = true
  walked : walkHeaders packet = some (view, final)
  unknown : view.fragment = none
  path : OptionsTo packet target (firstCursor packet)
  notHop : target.current ≠ nextHeaderHopByHop
  onward : ∃ rounds, parseHeaders packet (packetEndOf packet) rounds (fixedView packet) target =
    some (view, final)
  minimum : 1280 ≤ mtu.toNat
  tooLong : mtu.toNat + 14 < packetEndOf packet
  room : target.offset + 8 < mtu.toNat + 14
  insertion : layout.insertion = target.insertion
  packetEnd : layout.packetEnd = packetEndOf packet
  perFragment : layout.perFragment = (mtu.toNat + 14 - target.offset - 8) / 8 * 8
  pos : 0 < layout.perFragment
  size : layout.fragmentableSize = packetEndOf packet - target.offset
  count : layout.count = (layout.fragmentableSize + layout.perFragment - 1) / layout.perFragment

theorem fragmentLayout_planned {packet : Frame} {mtu : BitVec 16} {layout : FragmentLayout}
    (h : fragmentLayout packet mtu = some layout) :
    ∃ target final view, Planned packet mtu layout target final view := by
  unfold fragmentLayout at h
  split at h
  next => cases h
  rename_i view parsed
  unfold parseIpv6 at parsed
  split at parsed
  next valid =>
    obtain ⟨⟨view₁, final⟩, walked, hview⟩ := Option.map_eq_some_iff.mp parsed
    split at h
    next => cases h
    rename_i plain
    simp only [asserted, Option.isSome_iff_ne_none, not_or, Decidable.not_not, Nat.not_lt] at plain
    have unknown : view₁.fragment = none := by
      rw [← plain.1, ← hview]
      rfl
    have length : view.payloadLength = read16 packet 18 := by
      rw [← hview]
      exact parseHeaders_payloadLength walked
    have packetEnd : ethernetHeaderOctets + (ipv6HeaderOctets + view.payloadLength.toNat) =
        packetEndOf packet := by
      show 14 + (40 + view.payloadLength.toNat) = packetEndOf packet
      rw [length, packetEndOf]
      omega
    simp only at h
    rw [packetEnd] at h
    split at h
    next => cases h
    rename_i long
    split at h
    next => cases h
    rename_i insertion inserted
    obtain ⟨target, hinsertion, path, notHop, onward⟩ := insertionPointFrom_reached inserted
      walked rfl
    have start := (path.named (firstCursor_named packet)).start
    have offset : insertion.offset = target.offset := by
      rw [← hinsertion]
      rfl
    rw [offset] at h
    split at h
    next => cases h
    rename_i room
    split at h
    next => cases h
    rename_i sizes
    cases h
    refine ⟨target, final, view₁, valid, walked, unknown, path, notHop, onward, plain.2,
      ?_, ?_, hinsertion.symm, rfl, ?_, ?_, rfl, rfl⟩
    · have : ¬ 40 + view.payloadLength.toNat ≤ mtu.toNat := long
      have : 14 + (40 + view.payloadLength.toNat) = packetEndOf packet := packetEnd
      omega
    · have : ¬ mtu.toNat ≤ target.offset - 14 + 8 := room
      omega
    · show (mtu.toNat - (target.offset - 14) - 8) / 8 * 8 = _
      congr 2
      omega
    · exact Nat.pos_of_ne_zero fun hz => sizes (.inl hz)
  next => cases parsed

namespace Planned

variable {packet : Frame} {mtu : BitVec 16} {layout : FragmentLayout}
  {target final : HeaderCursor} {view : Ipv6View}

section

variable (h : Planned packet mtu layout target final view)
include h

theorem named : target.Named packet :=
  h.path.named (firstCursor_named packet)

theorem inside : target.offset + layout.fragmentableSize = packetEndOf packet := by
  have := h.size
  have := h.tooLong
  have := h.room
  omega

theorem packet_long : packetEndOf packet ≤ packet.length := by
  have valid := h.valid
  simp only [fixedHeaderValid, asserted] at valid
  exact valid.2

theorem perFragment_lt : layout.perFragment < layout.fragmentableSize := by
  have := h.inside
  have := h.perFragment
  have := h.tooLong
  have := h.room
  omega

theorem perFragment_le : target.offset + 8 + layout.perFragment ≤ mtu.toNat + 14 := by
  have := h.perFragment
  have := h.room
  omega

theorem perFragment_mod : layout.perFragment % 8 = 0 := by
  rw [h.perFragment]
  omega

omit h in
theorem packetEnd_le (packet : Frame) : packetEndOf packet ≤ 54 + 65535 := by
  have := (read16 packet 18).isLt
  unfold packetEndOf
  omega

theorem offset_lt {index : Nat} (hi : index < layout.count) :
    index * layout.perFragment < layout.fragmentableSize := by
  have pos := h.pos
  rw [h.count] at hi
  have hle : (index + 1) * layout.perFragment ≤ layout.fragmentableSize + layout.perFragment - 1 :=
    Nat.le_trans (Nat.mul_le_mul_right _ hi) (Nat.div_mul_le_self _ _)
  rw [Nat.succ_mul] at hle
  omega

theorem lt_count {index : Nat} (hi : index * layout.perFragment < layout.fragmentableSize) :
    index < layout.count := by
  have pos := h.pos
  rw [h.count, Nat.lt_div_iff_mul_lt pos]
  omega

end

/-! ## The octets of a fragment -/

variable {identification : BitVec 32} {offset : Nat}

/-- The frame before its payload length is written. -/
def draft (packet : Frame) (layout : FragmentLayout) (identification : BitVec 32) (offset : Nat) :
    Frame :=
  (packet.take layout.insertion.offset).set layout.insertion.previousNextHeaderOffset
      nextHeaderFragment ++ fragmentHeader layout identification offset ++
    (packet.drop (layout.insertion.offset + offset)).take (layout.copied offset)

variable (h : Planned packet mtu layout target final view)
include h

theorem copied_pos (inside : offset < layout.fragmentableSize) : 0 < layout.copied offset := by
  have := h.pos
  unfold FragmentLayout.copied
  omega

omit h in
theorem copied_le (layout : FragmentLayout) (inside : offset < layout.fragmentableSize) :
    offset + layout.copied offset ≤ layout.fragmentableSize := by
  unfold FragmentLayout.copied
  omega

theorem insertion_offset : layout.insertion.offset = target.offset := by
  rw [h.insertion]
  rfl

theorem unfragmentable_length :
    ((packet.take layout.insertion.offset).set layout.insertion.previousNextHeaderOffset
      nextHeaderFragment).length = target.offset := by
  have := h.inside
  have := h.packet_long
  rw [length_set, length_take, h.insertion_offset]
  omega

theorem front_length :
    ((packet.take layout.insertion.offset).set layout.insertion.previousNextHeaderOffset
      nextHeaderFragment ++ fragmentHeader layout identification offset).length =
      target.offset + 8 := by
  rw [length_append, h.unfragmentable_length]
  rfl

variable (inside : offset < layout.fragmentableSize)
include inside

theorem draft_length :
    (draft packet layout identification offset).length =
      target.offset + 8 + layout.copied offset := by
  have := h.inside
  have := h.packet_long
  have := copied_le layout inside
  rw [draft, length_append, h.front_length, length_take, length_drop, h.insertion_offset]
  omega

theorem fragmentAt_eq :
    fragmentAt packet layout identification offset =
      write16 (draft packet layout identification offset) 18
        (BitVec.ofNat 16 (target.offset - 54 + 8 + layout.copied offset)) := by
  have start := h.named.start
  have length : (draft packet layout identification offset).length =
      target.offset + 8 + layout.copied offset := h.draft_length inside
  have long : 60 - (draft packet layout identification offset).length = 0 := by omega
  show pad (write16 (draft packet layout identification offset) 18
    (BitVec.ofNat 16 (layout.insertion.offset - 54 + 8 + layout.copied offset))) 60 = _
  rw [pad, length_write16, long, h.insertion_offset]
  exact append_nil _

theorem length_fragmentAt :
    (fragmentAt packet layout identification offset).length =
      target.offset + 8 + layout.copied offset := by
  rw [h.fragmentAt_eq inside, length_write16, h.draft_length inside]

/-- In front of the Fragment header the packet is unchanged but for the octet that names it
and the payload length. -/
theorem get_fragmentAt_front {i : Nat} (hi : i < target.offset) (name : i ≠ target.nextHeaderOffset)
    (high : i ≠ 18) (low : i ≠ 19) :
    get (fragmentAt packet layout identification offset) i = get packet i := by
  rw [h.fragmentAt_eq inside, get_write16_ne high (by omega), draft,
    get_append_left (by rw [h.front_length]; omega),
    get_append_left (by rw [h.unfragmentable_length]; exact hi),
    get_set_ne (by rw [h.insertion]; exact Ne.symm name),
    get_take (by rw [h.insertion_offset]; exact hi)]

theorem get_fragmentAt_name :
    get (fragmentAt packet layout identification offset) target.nextHeaderOffset =
      nextHeaderFragment := by
  have lower := h.named.lower
  have upper := h.named.upper
  have length := h.unfragmentable_length
  rw [length_set] at length
  rw [h.fragmentAt_eq inside, get_write16_ne (by omega) (by omega), draft,
    get_append_left (by rw [h.front_length]; omega),
    get_append_left (by rw [h.unfragmentable_length]; exact upper), h.insertion]
  rw [h.insertion] at length
  exact get_set_eq (by rw [length]; exact upper) _

theorem get_fragmentAt_header {i : Nat} (hi : i < 8) :
    get (fragmentAt packet layout identification offset) (target.offset + i) =
      get (fragmentHeader layout identification offset) i := by
  have start := h.named.start
  have length := h.unfragmentable_length
  rw [h.fragmentAt_eq inside, get_write16_ne (by omega) (by omega), draft,
    get_append_left (by rw [h.front_length]; omega),
    get_append_right (by rw [length]; omega), length]
  congr 1
  omega

theorem get_fragmentAt_data {i : Nat} (hi : i < layout.copied offset) :
    get (fragmentAt packet layout identification offset) (target.offset + 8 + i) =
      get packet (target.offset + offset + i) := by
  have start := h.named.start
  rw [h.fragmentAt_eq inside, get_write16_ne (by omega) (by omega), draft,
    get_append_right (by rw [h.front_length]; omega), h.front_length,
    get_take (by omega), get_drop, h.insertion_offset]
  congr 1
  omega

theorem packetEndOf_fragmentAt :
    packetEndOf (fragmentAt packet layout identification offset) =
      target.offset + 8 + layout.copied offset := by
  have start := h.named.start
  have length : (draft packet layout identification offset).length =
      target.offset + 8 + layout.copied offset := h.draft_length inside
  have whole := h.perFragment_le
  have chunk : layout.copied offset ≤ layout.perFragment := by
    unfold FragmentLayout.copied
    omega
  rw [packetEndOf, h.fragmentAt_eq inside, read16_write16 (by omega), BitVec.toNat_ofNat,
    Nat.mod_eq_of_lt (by omega)]
  omega

/-! ## The Fragment header -/

omit h inside in
theorem packed_offset (x : BitVec 16) (hx : x.toNat < 8192) (more : BitVec 16)
    (hm : ∀ i, more.getLsbD (3 + i) = false) : ((x <<< 3 ||| more) >>> 3) &&& 0x1fff#16 = x := by
  have mask : ∀ i, (0x1fff#16).getLsbD i = decide (i < 13) := by
    intro i
    rw [BitVec.getLsbD_ofNat, show 0x1fff = 2 ^ 13 - 1 from rfl, Nat.testBit_two_pow_sub_one]
    by_cases hi : i < 13
    · simp [hi, show i < 16 by omega]
    · simp [hi]
  apply BitVec.eq_of_getLsbD_eq
  intro i hi
  rw [BitVec.getLsbD_and, BitVec.getLsbD_ushiftRight, BitVec.getLsbD_or, hm, mask,
    BitVec.getLsbD_shiftLeft]
  by_cases low : i < 13
  · have inside : 3 + i < 16 := by omega
    simp [low, inside]
  · have zero : x.getLsbD i = false :=
      Nat.testBit_lt_two_pow (Nat.lt_of_lt_of_le (show x.toNat < 2 ^ 13 from hx)
        (Nat.pow_le_pow_right (by decide) (by omega)))
    simp [low, zero]

omit h inside in
theorem field_more (layout : FragmentLayout) (offset : Nat) :
    (layout.field offset &&& 1#16 != 0#16) =
      decide (offset + layout.copied offset < layout.fragmentableSize) := by
  have bit : (layout.field offset &&& 1#16 != 0#16) = (layout.field offset).getLsbD 0 :=
    Bitmap.and_bit_ne_zero (i := 0) (layout.field offset) (by decide)
  rw [bit, FragmentLayout.field, BitVec.getLsbD_or]
  by_cases more : offset + layout.copied offset < layout.fragmentableSize
  · simp [more]
  · simp [more]

theorem field_offset :
    (layout.field offset >>> 3) &&& 0x1fff#16 = BitVec.ofNat 16 (offset / 8) := by
  have total := h.inside
  have most := packetEnd_le packet
  have start := h.named.start
  apply packed_offset
  · show (BitVec.ofNat 16 (offset / 8)).toNat < 8192
    rw [BitVec.toNat_ofNat]
    omega
  · intro i
    split
    · show Nat.testBit 1 (3 + i) = false
      exact Nat.testBit_lt_two_pow (Nat.lt_of_lt_of_le (show 1 < 2 ^ 3 by decide)
        (Nat.pow_le_pow_right (by decide) (Nat.le_add_right 3 i)))
    · simp

theorem fragmentView_fragmentAt :
    fragmentView (fragmentAt packet layout identification offset) target.offset =
      { identification, offset := BitVec.ofNat 16 (offset / 8),
        moreFragments := decide (offset + layout.copied offset < layout.fragmentableSize) } := by
  have octet : ∀ i < 8, get (fragmentAt packet layout identification offset)
      (target.offset + i) = get (fragmentHeader layout identification offset) i :=
    fun i hi => h.get_fragmentAt_header inside hi
  have field : read16 (fragmentAt packet layout identification offset)
      (target.offset + 2) = layout.field offset := by
    rw [read16, octet 2 (by decide), Nat.add_assoc, octet 3 (by decide)]
    exact read16_octets16 (layout.field offset)
  have named : read32 (fragmentAt packet layout identification offset)
      (target.offset + 4) = identification := by
    rw [read32, octet 4 (by decide),
      show target.offset + 4 + 1 = target.offset + 5 from rfl, octet 5 (by decide),
      show target.offset + 4 + 2 = target.offset + 6 from rfl, octet 6 (by decide),
      show target.offset + 4 + 3 = target.offset + 7 from rfl, octet 7 (by decide)]
    exact read32_octets32 identification
  simp [fragmentView, field, named, h.field_offset inside, field_more]

/-! ## The parse -/

/-- What the destination reads from the fragment at an offset. -/
structure Describes (packet : Frame) (layout : FragmentLayout) (target : HeaderCursor)
    (identification : BitVec 32) (offset : Nat) (view : Ipv6View) : Prop where
  source : view.source = addressAt packet 22
  destination : view.destination = addressAt packet 38
  payloadLength : 54 + view.payloadLength.toNat = target.offset + 8 + layout.copied offset
  header : view.fragmentHeaderOffset = BitVec.ofNat 16 target.offset
  previous : view.fragmentPreviousNextHeaderOffset = BitVec.ofNat 16 target.nextHeaderOffset
  fragment : view.fragment = some
    { identification, offset := BitVec.ofNat 16 (offset / 8),
      moreFragments := decide (offset + layout.copied offset < layout.fragmentableSize) }

theorem addressAt_fragmentAt {start : Nat} (low : 22 ≤ start) (high : start + 16 ≤ 54) :
    addressAt (fragmentAt packet layout identification offset) start = addressAt packet start := by
  have first := h.named.start
  have name := h.path.before
  have total := h.inside
  have long := h.packet_long
  have length : (fragmentAt packet layout identification offset).length =
      target.offset + 8 + layout.copied offset := h.length_fragmentAt inside
  have elsewhere : target.nextHeaderOffset = 20 ∨ 54 ≤ target.nextHeaderOffset := by
    obtain heq | hle := name
    · left
      rw [← heq]
      rfl
    · exact .inr hle
  unfold addressAt
  congr 1
  apply ext
  · simp
    omega
  · intro i hi
    simp only [length_take] at hi
    rw [get_take (by omega), get_take (by omega), get_drop, get_drop]
    exact h.get_fragmentAt_front inside (by omega) (by omega) (by omega) (by omega)

theorem fixedHeaderValid_fragmentAt :
    fixedHeaderValid (fragmentAt packet layout identification offset) = true := by
  have start := h.named.start
  have lower := h.named.lower
  have valid := h.valid
  have length : (fragmentAt packet layout identification offset).length =
      target.offset + 8 + layout.copied offset := h.length_fragmentAt inside
  have ends : packetEndOf (fragmentAt packet layout identification offset) =
      target.offset + 8 + layout.copied offset := h.packetEndOf_fragmentAt inside
  simp only [fixedHeaderValid, Bool.and_eq_true, decide_eq_true_eq] at valid ⊢
  rw [h.get_fragmentAt_front inside (by omega) (by omega) (by decide) (by decide),
    h.get_fragmentAt_front inside (by omega) (by omega) (by decide) (by decide),
    h.get_fragmentAt_front inside (by omega) (by omega) (by decide) (by decide)]
  refine ⟨⟨⟨⟨⟨by omega, valid.1.1.1.1.2⟩, valid.1.1.1.2⟩, valid.1.1.2⟩, ?_⟩, by omega⟩
  rw [bne_iff_ne]
  intro zero
  rw [packetEndOf, zero] at ends
  have : (0#16).toNat = 0 := rfl
  omega

/-- What the view of a fragment says once its Fragment header is read. -/
def atFragment (fragment : Frame) (target : HeaderCursor) : Ipv6View :=
  { fixedView fragment with
    fragmentPreviousNextHeaderOffset := BitVec.ofNat 16 target.nextHeaderOffset
    fragment := some (fragmentView fragment target.offset)
    fragmentHeaderOffset := BitVec.ofNat 16 target.offset }

/-- The cursor behind the Fragment header. -/
def behindFragment (target : HeaderCursor) : HeaderCursor :=
  { current := target.current, offset := target.offset + 8, nextHeaderOffset := target.offset }

theorem describes (mark : Bool) (cursor : HeaderCursor) :
    Describes packet layout target identification offset
      (Ipv6View.finish { atFragment (fragmentAt packet layout identification offset) target with
        authenticationHeaderPresent := mark } cursor) := by
  refine ⟨?_, ?_, h.packetEndOf_fragmentAt inside, rfl, rfl, ?_⟩
  · exact h.addressAt_fragmentAt inside (by decide) (by decide)
  · exact h.addressAt_fragmentAt inside (by decide) (by decide)
  · show some (fragmentView _ target.offset) = _
    rw [h.fragmentView_fragmentAt inside]

/-- The parser of a fragment arrives at the Fragment header in a few rounds. -/
theorem walk_to_fragment {fragment : Frame}
    (hf : fragment = fragmentAt packet layout identification offset) :
    ∃ rounds, packetEndOf fragment < rounds + target.offset ∧
      walkHeaders fragment =
        if (atFragment fragment target).nonFirstFragment then
          some (atFragment fragment target, behindFragment target)
        else
          parseHeaders fragment (packetEndOf fragment) rounds (atFragment fragment target)
            (behindFragment target) := by
  have ends : packetEndOf fragment = target.offset + 8 + layout.copied offset := by
    rw [hf]
    exact h.packetEndOf_fragmentAt inside
  have path : OptionsTo fragment (target.reread fragment) (firstCursor fragment) := by
    apply h.path.transfer (firstCursor_named packet)
    intro i hi name high low
    rw [hf]
    exact h.get_fragmentAt_front inside hi name high low
  have within : (target.reread fragment).offset ≤ packetEndOf fragment := by
    show target.offset ≤ _
    omega
  obtain ⟨n, steps, walk⟩ := path.parse within (show (fixedView fragment).fragment = none from rfl)
  have few : 54 + n * 8 ≤ target.offset := steps
  obtain ⟨rounds, hrounds⟩ : ∃ rounds, packetEndOf fragment = rounds + 1 + n :=
    ⟨packetEndOf fragment - 1 - n, by omega⟩
  refine ⟨rounds, by omega, ?_⟩
  have number : (target.reread fragment).current = nextHeaderFragment := by
    rw [hf]
    exact h.get_fragmentAt_name inside
  have next : (target.reread fragment).next fragment 8 = behindFragment target := by
    have named : get fragment target.offset = target.current := by
      rw [hf]
      refine (h.get_fragmentAt_header inside (show 0 < 8 by decide)).trans ?_
      show layout.insertion.fragmentNextHeader = target.current
      rw [h.insertion]
      rfl
    show HeaderCursor.mk (get fragment target.offset) _ _ = _
    rw [named]
    rfl
  have room : ¬ packetEndOf fragment < target.offset + 8 := by omega
  have header : headerAt fragment (packetEndOf fragment) (fixedView fragment)
      (target.reread fragment) = .extension (atFragment fragment target) 8 := by
    rw [headerAt_fragment number]
    show (if (false || decide (packetEndOf fragment < target.offset + 8)) = true then _ else _) = _
    rw [decide_eq_false room]
    rfl
  have walked := walk (rounds + 1)
  rw [← hrounds] at walked
  rw [walkHeaders, walked, parseHeaders, header]
  simp only
  rw [if_neg (by show ¬ (8 = 0 ∨ packetEndOf fragment < target.offset + 8); omega), next]

theorem parseIpv6_fragmentAt {fragment : Frame}
    (hf : fragment = fragmentAt packet layout identification offset) :
    parseIpv6 fragment = (walkHeaders fragment).map fun walked => walked.1.finish walked.2 := by
  have valid : fixedHeaderValid fragment = true := by
    rw [hf]
    exact h.fixedHeaderValid_fragmentAt inside
  rw [parseIpv6, if_pos valid]

theorem nonFirstFragment_atFragment (unit : offset % 8 = 0) :
    (atFragment (fragmentAt packet layout identification offset) target).nonFirstFragment =
      decide (offset ≠ 0) := by
  have total := h.inside
  have most := packetEnd_le packet
  show (some (fragmentView _ target.offset)).any (fun fragment => fragment.offset != 0#16) = _
  rw [h.fragmentView_fragmentAt inside]
  by_cases zero : offset = 0
  · rw [zero]
    rfl
  · have : BitVec.ofNat 16 (offset / 8) ≠ 0#16 := by
      intro heq
      have := congrArg BitVec.toNat heq
      rw [BitVec.toNat_ofNat, Nat.mod_eq_of_lt (by omega)] at this
      have : (0#16).toNat = 0 := rfl
      omega
    simp [zero, this]

/-- A later fragment is parsed up to its Fragment header. -/
theorem parse_later (unit : offset % 8 = 0) (later : offset ≠ 0) :
    ∃ seen, parseIpv6 (fragmentAt packet layout identification offset) = some seen ∧
      Describes packet layout target identification offset seen := by
  obtain ⟨rounds, _, walked⟩ := h.walk_to_fragment inside
    (show fragmentAt packet layout identification offset = _ from rfl)
  rw [h.nonFirstFragment_atFragment inside unit, if_pos (by simp [later])] at walked
  refine ⟨_, ?_, h.describes inside false (behindFragment target)⟩
  rw [h.parseIpv6_fragmentAt inside rfl, walked]
  rfl

end Planned

/-- The extension headers of the packet fit in its first fragment. -/
def headersFit (packet : Frame) (layout : FragmentLayout) : Bool :=
  (walkHeaders packet).any fun walked =>
    decide (walked.2.offset ≤ layout.insertion.offset + layout.perFragment)

namespace Planned

variable {packet : Frame} {mtu : BitVec 16} {layout : FragmentLayout}
  {target final : HeaderCursor} {view : Ipv6View} {identification : BitVec 32}

variable (h : Planned packet mtu layout target final view)
include h

/-- The first fragment is parsed beyond its Fragment header, as far as the headers of the
packet go. -/
theorem walk_first {fragment : Frame} (hf : fragment = fragmentAt packet layout identification 0) :
    (final.offset ≤ target.offset + layout.perFragment → ∃ mark cursor, walkHeaders fragment =
      some ({ atFragment fragment target with authenticationHeaderPresent := mark }, cursor)) ∧
    (target.offset + layout.perFragment < final.offset → walkHeaders fragment = none) := by
  have inside : 0 < layout.fragmentableSize := Nat.lt_trans h.pos h.perFragment_lt
  have start := h.named.start
  have copied : layout.copied 0 = layout.perFragment := by
    have := h.perFragment_lt
    unfold FragmentLayout.copied
    omega
  have ends : packetEndOf fragment = target.offset + 8 + layout.perFragment := by
    rw [hf, h.packetEndOf_fragmentAt inside, copied]
  have first : (atFragment fragment target).nonFirstFragment = false := by
    rw [hf, h.nonFirstFragment_atFragment inside rfl]
    rfl
  have shifted : Shifted packet fragment (packetEndOf fragment) target.offset := by
    intro i hi hend
    rw [hf, show i + 8 = target.offset + 8 + (i - target.offset) by omega,
      h.get_fragmentAt_data inside (by omega)]
    congr 1
    omega
  obtain ⟨rounds, enough, walked⟩ := h.walk_to_fragment inside hf
  rw [first] at walked
  obtain ⟨rounds', onward⟩ := h.onward
  obtain ⟨succeeds, fails⟩ := parseHeaders_shifted onward h.unknown start (fun _ => h.notHop)
    shifted (by omega) first target.offset
  constructor
  · intro fits
    rw [walked]
    exact succeeds (by omega) rounds (by omega)
  · intro short
    rw [walked]
    exact fails (by omega) rounds

theorem headersFit_iff :
    headersFit packet layout = true ↔ final.offset ≤ target.offset + layout.perFragment := by
  rw [headersFit, h.walked, h.insertion_offset]
  exact decide_eq_true_iff

/-- Every fragment is parsed as what it is, if the headers fit in the first one. -/
theorem parse_fragment (fit : headersFit packet layout = true) {index : Nat}
    (hi : index < layout.count) :
    ∃ seen, parseIpv6 (fragmentAt packet layout identification (index * layout.perFragment)) =
        some seen ∧
      Describes packet layout target identification (index * layout.perFragment) seen := by
  have inside := h.offset_lt hi
  by_cases later : index * layout.perFragment = 0
  · rw [later] at inside ⊢
    obtain ⟨mark, cursor, walked⟩ := (h.walk_first rfl).1 (h.headersFit_iff.mp fit)
    refine ⟨_, ?_, h.describes inside mark cursor⟩
    rw [h.parseIpv6_fragmentAt inside rfl, walked]
    rfl
  · have unit : index * layout.perFragment % 8 = 0 := by
      rw [Nat.mul_mod, h.perFragment_mod, Nat.mul_zero, Nat.zero_mod]
    exact h.parse_later inside unit later

theorem parse_first_none (cut : headersFit packet layout = false) :
    parseIpv6 (fragmentAt packet layout identification 0) = none := by
  have inside : 0 < layout.fragmentableSize := Nat.lt_trans h.pos h.perFragment_lt
  have short : target.offset + layout.perFragment < final.offset := by
    apply Nat.lt_of_not_le
    intro fits
    rw [h.headersFit_iff.mpr fits] at cut
    cases cut
  rw [h.parseIpv6_fragmentAt inside rfl, (h.walk_first rfl).2 short]
  rfl

end Planned

end RouterSim.Ip
