import RouterSim.Ip.FragmentRoundTrip

/-! Which fragments a reassembled packet is made of, over any run of the table: every octet
behind the headers comes from one fragment of one datagram, and the headers are those of the
first fragment exactly when the last one to come in names the Fragment header at its place. -/
namespace RouterSim.Ip

open List Octets

/-! ## Fragments -/

/-- A fragment as the table reads it. -/
structure Received where
  frame : Frame
  view : Ipv6View
  part : Ipv6FragmentView
  piece : Piece

namespace Received

def key (r : Received) : FragmentKey := r.view.key r.part

/-- Where its Fragment header is. -/
def header (r : Received) : Nat := r.view.fragmentHeaderOffset.toNat

/-- Where the octet is that names its Fragment header. -/
def previous (r : Received) : Nat := r.view.fragmentPreviousNextHeaderOffset.toNat

/-- What its Fragment header is followed by. -/
def nextHeader (r : Received) : Octet := Octets.get r.frame r.header

def covers (r : Received) (place : Nat) : Bool := Entry.covers r.piece place

/-- The octet it has for a place in the fragmentable part. -/
def octetFor (r : Received) (place : Nat) : Octet :=
  Octets.get r.frame (r.header + ipv6FragmentHeaderOctets + (place - r.piece.offset))

end Received

/-- A frame that is a fragment, not an atomic one, and is not refused for its size. -/
def received (frame : Frame) : Option Received :=
  match parseIpv6 frame with
  | none => none
  | some view =>
    match view.fragment with
    | none => none
    | some part =>
      if part.offset == 0#16 && !part.moreFragments then none
      else (pieceOf frame view part).map fun piece => { frame, view, part, piece }

/-! ## The table with its past -/

inductive TableOp
  | accept (frame : Frame) (fits : frame.length ≤ maximumFrameOctets) (now : Int)
  | expire (now : Int)
  | discardAll

def TableOp.apply (table : Ipv6ReassemblyTable) : TableOp → Ipv6ReassemblyTable
  | .accept frame _ now => (table.accept frame now).1
  | .expire now => table.expire now
  | .discardAll => table.discardAll

def TableOp.frame? : TableOp → Option Frame
  | .accept frame _ _ => some frame
  | _ => none

/-- The table, and for each slot the fragments its entry has taken, in order. -/
structure Traced where
  table : Ipv6ReassemblyTable
  kept : Nat → List Received

/-- The slot a fragment goes to. -/
def Ipv6ReassemblyTable.slotFor (table : Ipv6ReassemblyTable) (frame : Frame) (now : Int) :
    Option (Nat × Received) :=
  (received frame).bind fun r =>
    (table.findOrAllocate r.key now).map fun allocated => (allocated.1, r)

/-- A slot that is free has taken no fragments. -/
def Ipv6ReassemblyTable.forget (table : Ipv6ReassemblyTable) (kept : Nat → List Received)
    (slot : Nat) : List Received :=
  if table.entries[slot]?.any (·.occupied) then kept slot else []

namespace Traced

def empty : Traced :=
  { table := .empty, kept := fun _ => [] }

/-- The fragments of each slot once a frame is offered to its own. -/
def offered (t : Traced) (frame : Frame) (now : Int) : Nat → List Received :=
  let waiting := (t.table.expire now).forget t.kept
  match (t.table.expire now).slotFor frame now with
  | none => waiting
  | some (slot, r) => fun i => if i = slot then waiting i ++ [r] else waiting i

/-- The fragments of the datagram a frame belongs to, up to the frame itself. -/
def fragments (t : Traced) (frame : Frame) (now : Int) : List Received :=
  match (t.table.expire now).slotFor frame now with
  | none => []
  | some (slot, _) => t.offered frame now slot

def step (t : Traced) (op : TableOp) : Traced :=
  let table := op.apply t.table
  { table, kept := table.forget <|
      match op with
      | .accept frame _ now => t.offered frame now
      | .expire _ => t.kept
      | .discardAll => t.kept }

end Traced

/-! ## What a packet is made of -/

/-- The packet behind the headers of `first`: the fragments are of one datagram, no place is
covered by two, and every octet comes from the one that covers its place. -/
structure Composed (fragments : List Received) (first : Received) (packet : List Octet) : Prop where
  mem : first ∈ fragments
  starts : first.piece.offset = 0
  oneKey : ∀ r ∈ fragments, r.key = first.key
  apart : fragments.Pairwise fun r s => ∀ place, ¬ (r.covers place = true ∧ s.covers place = true)
  octets : ∀ place, first.header + place < packetEndOf packet → ∃ r ∈ fragments,
    r.covers place = true ∧ Octets.get packet (first.header + place) = r.octetFor place
  ends : ∃ r ∈ fragments, r.piece.more = false ∧
    packetEndOf packet = first.header + (r.piece.offset + r.piece.data.length)

/-- The headers of the packet are those of the fragment, but for the octet that named the
Fragment header and the payload length. -/
def HeadersOf (first : Received) (packet : List Octet) : Prop :=
  ∀ i < first.header, i ≠ 18 → i ≠ 19 → Octets.get packet i =
    if i = first.previous then first.nextHeader else Octets.get first.frame i

/-- Both fragments name the Fragment header at one place, or it makes no difference. -/
def SamePlace (first last : Received) : Prop :=
  last.previous = first.previous ∨
    Octets.get first.frame first.previous = first.nextHeader ∧
      Octets.get first.frame last.previous = first.nextHeader

variable {frame : Frame} {r first last : Received} {table : Ipv6ReassemblyTable} {now : Int}
  {packetEnd : Nat} {view view' : Ipv6View} {cursor final : HeaderCursor}

/-! ## Where the Fragment header is -/

/-- A Fragment header that was seen lies in the packet, behind the octet that names it. -/
structure FragmentPlaced (packetEnd : Nat) (view : Ipv6View) : Prop where
  lower : 20 ≤ view.fragmentPreviousNextHeaderOffset.toNat
  upper : view.fragmentPreviousNextHeaderOffset.toNat < view.fragmentHeaderOffset.toNat
  start : 54 ≤ view.fragmentHeaderOffset.toNat
  inside : view.fragmentHeaderOffset.toNat + ipv6FragmentHeaderOctets ≤ packetEnd

theorem headerAt_placed {length : Nat}
    (h : headerAt frame packetEnd view cursor = .extension view' length)
    (named : cursor.Named frame) (small : packetEnd ≤ maximumFrameOctets)
    (placed : view.fragment.isSome = true → FragmentPlaced packetEnd view)
    (seen : view'.fragment.isSome = true) : FragmentPlaced packetEnd view' := by
  by_cases options : hasOptionsLength cursor.current = true
  · rw [headerAt_options options] at h
    split at h
    · cases h
    · cases h
      exact placed seen
  · by_cases fragment : cursor.current = nextHeaderFragment
    · rw [headerAt_fragment fragment] at h
      split at h
      · cases h
      rename_i room
      simp only [asserted] at room
      cases h
      have lower := named.lower
      have upper := named.upper
      have start := named.start
      have bound : packetEnd ≤ 9212 := small
      have offset : (BitVec.ofNat 16 cursor.offset).toNat = cursor.offset := by
        rw [BitVec.toNat_ofNat, Nat.mod_eq_of_lt (by omega)]
      have name : (BitVec.ofNat 16 cursor.nextHeaderOffset).toNat = cursor.nextHeaderOffset := by
        rw [BitVec.toNat_ofNat, Nat.mod_eq_of_lt (by omega)]
      refine ⟨?_, ?_, ?_, ?_⟩
      · rwa [name]
      · rwa [name, offset]
      · rwa [offset]
      · show (BitVec.ofNat 16 cursor.offset).toNat + 8 ≤ packetEnd
        omega
    · by_cases authentication : cursor.current = nextHeaderAuthentication
      · rw [headerAt_authentication authentication] at h
        split at h
        · cases h
        cases h
        exact ⟨(placed seen).lower, (placed seen).upper, (placed seen).start, (placed seen).inside⟩
      · rw [headerAt_upperLayer (by simpa using options) fragment authentication] at h
        cases h

theorem parseHeaders_placed {rounds : Nat}
    (h : parseHeaders frame packetEnd rounds view cursor = some (view', final))
    (named : cursor.Named frame) (small : packetEnd ≤ maximumFrameOctets)
    (placed : view.fragment.isSome = true → FragmentPlaced packetEnd view)
    (seen : view'.fragment.isSome = true) : FragmentPlaced packetEnd view' := by
  induction rounds generalizing view cursor with
  | zero => cases h
  | succ rounds ih =>
    rw [parseHeaders] at h
    split at h
    next => cases h
    next =>
      cases h
      exact placed seen
    next next_ length hat =>
      have placed' := headerAt_placed hat named small placed
      split at h
      next => cases h
      split at h
      next =>
        cases h
        exact placed' seen
      next => exact ih h (named.next (by omega)) placed'

theorem parseIpv6_placed (h : parseIpv6 frame = some view)
    (fits : frame.length ≤ maximumFrameOctets) (seen : view.fragment.isSome = true) :
    FragmentPlaced (packetEndOf frame) view ∧ packetEndOf frame ≤ frame.length := by
  obtain ⟨valid, h⟩ := Option.ite_none_right_eq_some.mp h
  obtain ⟨⟨walked, final⟩, walk, rfl⟩ := Option.map_eq_some_iff.mp h
  simp only [fixedHeaderValid, asserted] at valid
  have whole := valid.2
  have placed := parseHeaders_placed walk (firstCursor_named frame) (Nat.le_trans whole fits)
    (fun other => by cases other) seen
  exact ⟨⟨placed.lower, placed.upper, placed.start, placed.inside⟩, whole⟩

/-- What is known of a fragment the table has read. -/
structure Received.Sound (r : Received) : Prop where
  lower : 20 ≤ r.previous
  upper : r.previous < r.header
  start : 54 ≤ r.header
  inside : r.header ≤ r.frame.length
  short : r.piece.offset + r.piece.data.length ≤ maximumIpv6PayloadOctets
  data : ∀ k < r.piece.data.length, Octets.get r.piece.data k =
    Octets.get r.frame (r.header + ipv6FragmentHeaderOctets + k)

theorem piece_short {part : Ipv6FragmentView} {piece : Piece}
    (h : pieceOf frame view part = some piece) :
    piece.offset + piece.data.length ≤ maximumIpv6PayloadOctets := by
  simp only [pieceOf, Option.ite_none_left_eq_some] at h
  obtain ⟨-, sizes, h⟩ := h
  obtain rfl := Option.some.inj h
  dsimp only
  rw [length_take]
  omega

theorem piece_data {part : Ipv6FragmentView} {piece : Piece}
    (h : pieceOf frame view part = some piece) {k : Nat} (small : k < piece.data.length) :
    Octets.get piece.data k = Octets.get frame
      (view.fragmentHeaderOffset.toNat + ipv6FragmentHeaderOctets + k) := by
  simp only [pieceOf, Option.ite_none_left_eq_some] at h
  obtain ⟨-, -, h⟩ := h
  obtain rfl := Option.some.inj h
  rw [length_take] at small
  rw [get_take (by omega), get_drop]

theorem sound_of_received (h : received frame = some r) (fits : frame.length ≤ maximumFrameOctets) :
    r.frame = frame ∧ r.Sound := by
  unfold received at h
  split at h
  next => cases h
  rename_i view parsed
  split at h
  next => cases h
  rename_i part hpart
  obtain ⟨-, h⟩ := Option.ite_none_left_eq_some.mp h
  obtain ⟨piece, hpiece, rfl⟩ := Option.map_eq_some_iff.mp h
  obtain ⟨placed, whole⟩ := parseIpv6_placed parsed fits (by rw [hpart]; rfl)
  have inside := placed.inside
  refine ⟨rfl, placed.lower, placed.upper, placed.start, ?_, ?_, ?_⟩
  · show view.fragmentHeaderOffset.toNat ≤ frame.length
    omega
  · exact piece_short hpiece
  · exact fun k small => piece_data hpiece small

/-! ## What accept does with it -/

theorem accept_none (h : received frame = none) :
    (table.accept frame now).1 = table.expire now ∧
      (table.accept frame now).2.status ≠ .complete := by
  unfold received at h
  unfold Ipv6ReassemblyTable.accept
  cases parsed : parseIpv6 frame with
  | none => exact ⟨rfl, by simp⟩
  | some view =>
    rw [parsed] at h
    cases hpart : view.fragment with
    | none => exact ⟨by simp [hpart], by simp [hpart]⟩
    | some part =>
      simp only [hpart] at h ⊢
      by_cases atomic : (part.offset == 0#16 && !part.moreFragments) = true
      · rw [if_pos atomic]
        refine ⟨rfl, ?_⟩
        simp only [normalizeAtomic]
        split
        · simp
        · simp
      · rw [if_neg atomic] at h ⊢
        rw [Ipv6ReassemblyTable.acceptPiece, Option.map_eq_none_iff.mp h]
        exact ⟨rfl, by simp⟩

theorem accept_some (h : received frame = some r) :
    table.accept frame now =
      match (table.expire now).findOrAllocate r.key now with
      | none => (table.expire now, { status := .resourceExhausted })
      | some (slot, entry) =>
        let taken := entry.take r.frame r.view r.nextHeader r.piece
        ({ entries := (table.expire now).entries.set slot taken.1 }, taken.2) := by
  unfold received at h
  split at h
  next => cases h
  rename_i view parsed
  split at h
  next => cases h
  rename_i part hpart
  obtain ⟨notAtomic, h⟩ := Option.ite_none_left_eq_some.mp h
  obtain ⟨piece, hpiece, rfl⟩ := Option.map_eq_some_iff.mp h
  simp only [Ipv6ReassemblyTable.accept, parsed, hpart]
  rw [if_neg notAtomic, Ipv6ReassemblyTable.acceptPiece, hpiece]
  rfl

/-! ## What an entry has gathered -/

/-- The fragments an entry was made of, and what it remembers of them. -/
structure Gathers (entry : Entry) (kept : List Received) : Prop where
  sound : ∀ r ∈ kept, r.Sound
  key : ∀ r ∈ kept, r.key = entry.key
  apart : kept.Pairwise fun r s => ∀ place, ¬ (r.covers place = true ∧ s.covers place = true)
  received : ∀ place, entry.received place = true ↔ ∃ r ∈ kept, r.covers place = true
  octets : ∀ r ∈ kept, ∀ place, r.covers place = true → entry.fragmentable place = r.octetFor place
  place : ∀ r ∈ kept, entry.fragmentHeaderOffset = r.view.fragmentHeaderOffset ∧
    entry.fragmentNextHeader = r.nextHeader
  last : ∀ r, kept.getLast? = some r →
    entry.previousNextHeaderOffset = r.view.fragmentPreviousNextHeaderOffset
  first : entry.haveFirst = true → ∃ r ∈ kept, r.piece.offset = 0 ∧ entry.firstFragment = r.frame
  ends : entry.haveLast = true → ∃ r ∈ kept, r.piece.more = false ∧
    entry.finalSize.toNat = r.piece.offset + r.piece.data.length

variable {entry : Entry} {kept : List Received} {key : FragmentKey}

theorem gathers_allocate (entry : Entry) (key : FragmentKey) (now : Int) :
    Gathers (entry.allocate key now) [] := by
  constructor
  · intro r member
    cases member
  · intro r member
    cases member
  · exact .nil
  · intro place
    constructor
    · intro got
      cases got
    · rintro ⟨r, member, -⟩
      cases member
  · intro r member
    cases member
  · intro r member
    cases member
  · intro r found
    cases found
  · intro first
    cases first
  · intro last
    cases last

/-- A fragment that agrees with the entry on its headers. -/
theorem Gathers.agrees (h : Gathers entry kept)
    (consistent : entry.consistent r.view r.nextHeader = true) :
    ∀ s ∈ kept, r.view.fragmentHeaderOffset = s.view.fragmentHeaderOffset ∧
      r.nextHeader = s.nextHeader := by
  intro s member
  obtain ⟨header, nextHeader⟩ := h.place s member
  have start := (h.sound s member).start
  have known : entry.fragmentHeaderOffset ≠ 0#16 := by
    intro zero
    rw [Received.header, ← header, zero] at start
    cases start
  simp only [Entry.consistent, asserted, known, settled] at consistent
  exact ⟨consistent.1.symm.trans header, consistent.2.symm.trans nextHeader⟩

/-- Nothing held is covered by a piece that does not overlap. -/
theorem Gathers.free (h : Gathers entry kept) (clear : entry.overlaps r.piece = false) :
    ∀ s ∈ kept, ∀ place, ¬ (s.covers place = true ∧ r.covers place = true) := by
  rintro s member place ⟨before, now⟩
  have held := (h.received place).mpr ⟨s, member, before⟩
  simp only [Received.covers, Entry.covers, asserted] at now
  have untouched := (Bool.or_eq_false_iff.mp clear).2
  rw [any_eq_false] at untouched
  have missing := untouched (place - r.piece.offset) (mem_range.mpr (by omega))
  rw [Nat.add_sub_cancel' now.1] at missing
  exact missing held

theorem Gathers.store (h : Gathers entry kept) (sound : r.Sound) (key : r.key = entry.key)
    (agrees : ∀ s ∈ kept, r.view.fragmentHeaderOffset = s.view.fragmentHeaderOffset ∧
      r.nextHeader = s.nextHeader)
    (free : ∀ s ∈ kept, ∀ place, ¬ (s.covers place = true ∧ r.covers place = true)) :
    Gathers ((entry.place r.view r.nextHeader).store r.frame r.piece) (kept ++ [r]) := by
  have old : ∀ s ∈ kept, s ∈ kept ++ [r] := fun s member => mem_append_left _ member
  have new : r ∈ kept ++ [r] := mem_append_right _ mem_cons_self
  have each : ∀ {p : Received → Prop}, (∀ s ∈ kept, p s) → p r → ∀ s ∈ kept ++ [r], p s := by
    intro p before this s member
    obtain member | member := mem_append.mp member
    · exact before s member
    · rwa [mem_singleton.mp member]
  constructor
  · exact each h.sound sound
  · exact each h.key key
  · apply pairwise_append.mpr
    refine ⟨h.apart, pairwise_singleton _ _, fun s member => ?_⟩
    intro t last
    rw [mem_singleton.mp last]
    exact free s member
  · intro place
    show (r.covers place || entry.received place) = true ↔ _
    rw [Bool.or_eq_true, h.received]
    constructor
    · rintro (this | ⟨s, member, covered⟩)
      · exact ⟨r, new, this⟩
      · exact ⟨s, old s member, covered⟩
    · rintro ⟨s, member, covered⟩
      obtain member | member := mem_append.mp member
      · exact .inr ⟨s, member, covered⟩
      · rw [mem_singleton.mp member] at covered
        exact .inl covered
  · apply each
    · intro s member place covered
      show (if r.covers place = true then _ else entry.fragmentable place) = _
      rw [if_neg fun this => free s member place ⟨covered, this⟩]
      exact h.octets s member place covered
    · intro place covered
      show (if r.covers place = true then Octets.get r.piece.data (place - r.piece.offset)
        else entry.fragmentable place) = _
      rw [if_pos covered]
      simp only [Received.covers, Entry.covers, asserted] at covered
      exact sound.data _ (by omega)
  · exact each agrees ⟨rfl, rfl⟩
  · intro s last
    rw [List.getLast?_concat] at last
    obtain rfl := Option.some.inj last
    rfl
  · intro first
    show ∃ s ∈ kept ++ [r], s.piece.offset = 0 ∧
      (if r.piece.offset = 0 then r.frame else entry.firstFragment) = s.frame
    by_cases zero : r.piece.offset = 0
    · exact ⟨r, new, zero, if_pos zero⟩
    · have first : (entry.haveFirst || r.piece.offset == 0) = true := first
      obtain ⟨s, member, starts, same⟩ := h.first (by simpa [zero] using first)
      refine ⟨s, old s member, starts, ?_⟩
      rwa [if_neg zero]
  · intro last
    obtain ⟨s, member, final, size⟩ := h.ends last
    exact ⟨s, old s member, final, size⟩

theorem finalize_some {piece : Piece} {final : Entry} (h : entry.finalize piece = some final) :
    piece.more = true ∧ final = entry ∨
      piece.more = false ∧ final =
        { entry with
          haveLast := true, finalSize := BitVec.ofNat 16 (piece.offset + piece.data.length) } := by
  unfold Entry.finalize at h
  cases more : piece.more with
  | true =>
    rw [more] at h
    exact .inl ⟨rfl, (Option.some.inj h).symm⟩
  | false =>
    rw [more] at h
    obtain ⟨-, h⟩ := Option.ite_none_left_eq_some.mp h
    exact .inr ⟨rfl, (Option.some.inj h).symm⟩

theorem Gathers.finalize (h : Gathers entry kept) (sound : r.Sound) (member : r ∈ kept)
    {final : Entry} (finalized : entry.finalize r.piece = some final) : Gathers final kept := by
  obtain ⟨-, rfl⟩ | ⟨last, rfl⟩ := finalize_some finalized
  · exact h
  · have size : r.piece.offset + r.piece.data.length ≤ 65535 := sound.short
    refine ⟨h.sound, h.key, h.apart, h.received, h.octets, h.place, h.last, h.first, ?_⟩
    intro _
    refine ⟨r, member, last, ?_⟩
    rw [BitVec.toNat_ofNat, Nat.mod_eq_of_lt (by omega)]

/-- An entry refuses a fragment and is freed, or has gathered it, and waits or is done. -/
theorem Gathers.take (h : Gathers entry kept) (sound : r.Sound) (key : r.key = entry.key)
    {taken : Entry × Ipv6ReassemblyResult}
    (htaken : taken = entry.take r.frame r.view r.nextHeader r.piece) :
    taken.1.occupied = false ∧ taken.2.status ≠ .complete ∨
      ∃ final, Gathers final (kept ++ [r]) ∧
        (taken = (final, { status := .incomplete }) ∨
          final.isComplete = true ∧ taken =
            (final.clear,
              { status := if final.assemble.isEmpty then .malformed else .complete
                packet := final.assemble })) := by
  subst htaken
  unfold Entry.take
  cases consistent : entry.consistent r.view r.nextHeader with
  | false => exact .inl ⟨rfl, by simp⟩
  | true =>
    simp only [settled]
    cases overlaps : (entry.place r.view r.nextHeader).overlaps r.piece with
    | true => exact .inl ⟨rfl, by simp⟩
    | false =>
      simp only [settled]
      cases finalized : ((entry.place r.view r.nextHeader).store r.frame r.piece).finalize
          r.piece with
      | none => exact .inl ⟨rfl, by simp⟩
      | some final =>
        have stored := h.store sound key (h.agrees consistent) (h.free overlaps)
        have gathered := stored.finalize sound (mem_append_right _ mem_cons_self) finalized
        refine .inr ⟨final, gathered, ?_⟩
        dsimp only
        cases complete : final.isComplete with
        | false => exact .inl (if_neg Bool.false_ne_true)
        | true => exact .inr ⟨rfl, if_pos rfl⟩

/-! ## The packet -/

/-- Headers and data put behind each other, with the payload length written. -/
theorem get_joined {headers data : List Octet} (long : 54 ≤ headers.length) (length : BitVec 16)
    {packet : List Octet}
    (hp : packet = pad (write16 (headers ++ data) 18 length) ethernetMinimumWithoutFcs) :
    packetEndOf packet = 54 + length.toNat ∧
      (∀ i < headers.length, i ≠ 18 → i ≠ 19 → Octets.get packet i = Octets.get headers i) ∧
      ∀ k < data.length, Octets.get packet (headers.length + k) = Octets.get data k := by
  have whole : (write16 (headers ++ data) 18 length).length = headers.length + data.length := by
    rw [length_write16, length_append]
  have front : ∀ i < headers.length + data.length,
      Octets.get packet i = Octets.get (write16 (headers ++ data) 18 length) i := by
    intro i inside
    rw [hp, pad, get_append_left (by rwa [whole])]
  refine ⟨?_, fun i inside high low => ?_, fun k inside => ?_⟩
  · have field : read16 packet 18 = length := by
      rw [read16, front 18 (by omega), front (18 + 1) (by omega)]
      apply read16_write16
      rw [length_append]
      omega
    rw [packetEndOf, field]
  · rw [front i (by omega), get_write16_ne high low, get_append_left inside]
  · rw [front _ (by omega), get_write16_ne (by omega) (by omega),
      get_append_right (by omega), Nat.add_sub_cancel_left]

theorem assemble_joined (nonempty : entry.assemble ≠ []) :
    (entry.haveFirst = true ∧ entry.haveLast = true ∧
      entry.fragmentHeaderOffset.toNat - 54 + entry.finalSize.toNat ≤ maximumIpv6PayloadOctets) ∧
      entry.assemble = pad (write16
        ((entry.firstFragment.take entry.fragmentHeaderOffset.toNat).set
          entry.previousNextHeaderOffset.toNat entry.fragmentNextHeader ++
          (List.range entry.finalSize.toNat).map entry.fragmentable) 18
        (BitVec.ofNat 16 (entry.fragmentHeaderOffset.toNat - 54 + entry.finalSize.toNat)))
        ethernetMinimumWithoutFcs := by
  unfold Entry.assemble at nonempty ⊢
  split at nonempty
  next => exact absurd rfl nonempty
  rename_i ready
  simp only [asserted, not_or, refuted] at ready
  dsimp only at nonempty
  split at nonempty
  next => exact absurd rfl nonempty
  rename_i sizes
  refine ⟨⟨ready.1.1, ready.1.2, by omega⟩, ?_⟩
  rw [if_neg (by simp [ready]), if_neg sizes]

theorem assemble_spec (nonempty : entry.assemble ≠ [])
    (start : 54 ≤ entry.fragmentHeaderOffset.toNat)
    (inside : entry.fragmentHeaderOffset.toNat ≤ entry.firstFragment.length) :
    packetEndOf entry.assemble = entry.fragmentHeaderOffset.toNat + entry.finalSize.toNat ∧
      (∀ i < entry.fragmentHeaderOffset.toNat, i ≠ 18 → i ≠ 19 → Octets.get entry.assemble i =
        if i = entry.previousNextHeaderOffset.toNat then entry.fragmentNextHeader
        else Octets.get entry.firstFragment i) ∧
      ∀ place < entry.finalSize.toNat,
        Octets.get entry.assemble (entry.fragmentHeaderOffset.toNat + place) =
          entry.fragmentable place := by
  obtain ⟨⟨-, -, most⟩, shape⟩ := assemble_joined nonempty
  have most : entry.fragmentHeaderOffset.toNat - 54 + entry.finalSize.toNat ≤ 65535 := most
  have front : ((entry.firstFragment.take entry.fragmentHeaderOffset.toNat).set
      entry.previousNextHeaderOffset.toNat entry.fragmentNextHeader).length =
      entry.fragmentHeaderOffset.toNat := by
    rw [length_set, length_take]
    omega
  have back : ((List.range entry.finalSize.toNat).map entry.fragmentable).length =
      entry.finalSize.toNat := by
    rw [length_map, length_range]
  obtain ⟨ends, headers, data⟩ := get_joined (by rwa [front]) _ shape
  rw [front] at headers data
  rw [back] at data
  refine ⟨?_, fun i small high low => ?_, fun place small => ?_⟩
  · rw [ends, BitVec.toNat_ofNat, Nat.mod_eq_of_lt (by omega)]
    omega
  · rw [headers i small high low]
    by_cases name : i = entry.previousNextHeaderOffset.toNat
    · rw [if_pos name, name, get_set_eq]
      rw [length_take]
      omega
    · rw [if_neg name, get_set_ne (Ne.symm name), get_take small]
  · rw [data place small, Octets.get, getD_eq_getElem?_getD, List.getElem?_map,
      List.getElem?_range small]
    rfl

/-- Where the headers of one fragment are named at the place of another, they are kept when
the two places are one, or the number is at both already. -/
theorem headersOf_iff {packet : List Octet}
    (headers : ∀ i < first.header, i ≠ 18 → i ≠ 19 → Octets.get packet i =
      if i = last.previous then first.nextHeader else Octets.get first.frame i)
    (sound : first.Sound) (lower : 20 ≤ last.previous) (upper : last.previous < first.header) :
    HeadersOf first packet ↔ SamePlace first last := by
  constructor
  · intro kept
    by_cases same : last.previous = first.previous
    · exact .inl same
    · have lower' := sound.lower
      have own := kept first.previous sound.upper (by omega) (by omega)
      rw [headers _ sound.upper (by omega) (by omega), if_neg (Ne.symm same), if_pos rfl] at own
      have other := kept last.previous upper (by omega) (by omega)
      rw [headers _ upper (by omega) (by omega), if_pos rfl, if_neg same] at other
      exact .inr ⟨own, other.symm⟩
  · rintro (same | ⟨own, other⟩) i small high low
    · rw [headers i small high low, same]
    · rw [headers i small high low]
      by_cases here : i = last.previous
      · by_cases there : i = first.previous
        · rw [if_pos here, if_pos there]
        · rw [if_pos here, if_neg there, here, other]
      · by_cases there : i = first.previous
        · rw [if_neg here, if_pos there, there, own]
        · rw [if_neg here, if_neg there]

/-- A complete entry is assembled from the fragments it has gathered. -/
theorem Gathers.assembled (h : Gathers entry kept) (complete : entry.isComplete = true)
    (nonempty : entry.assemble ≠ []) (last : kept.getLast? = some r) :
    ∃ first, Composed kept first entry.assemble ∧
      (HeadersOf first entry.assemble ↔ SamePlace first r) := by
  simp only [Entry.isComplete, asserted, all_eq_true, mem_range] at complete
  obtain ⟨⟨haveFirst, haveLast⟩, every⟩ := complete
  obtain ⟨first, member, starts, frame⟩ := h.first haveFirst
  obtain ⟨final, hfinal, more, size⟩ := h.ends haveLast
  have sound := h.sound first member
  obtain ⟨header, nextHeader⟩ := h.place first member
  have start := sound.start
  have within := sound.inside
  have previous : entry.previousNextHeaderOffset.toNat = r.previous :=
    congrArg BitVec.toNat (h.last r last)
  have offset : entry.fragmentHeaderOffset.toNat = first.header := congrArg BitVec.toNat header
  obtain ⟨ends, headers, data⟩ := assemble_spec nonempty (by omega) (by rw [frame]; omega)
  rw [offset] at ends headers data
  rw [frame, nextHeader, previous] at headers
  have hr := mem_of_getLast? last
  have other := h.sound r hr
  have upper : r.previous < first.header := by
    have same : entry.fragmentHeaderOffset.toNat = r.header :=
      congrArg BitVec.toNat (h.place r hr).1
    have := other.upper
    omega
  refine ⟨first, ⟨member, starts, ?_, h.apart, ?_, ?_⟩,
    headersOf_iff headers sound other.lower upper⟩
  · intro s hs
    rw [h.key s hs, h.key first member]
  · intro place inside
    have small : place < entry.finalSize.toNat := by omega
    obtain ⟨s, hs, covered⟩ := (h.received place).mp (every place small)
    exact ⟨s, hs, covered, (data place small).trans (h.octets s hs place covered)⟩
  · exact ⟨final, hfinal, more, by rw [ends, size]⟩

/-! ## Runs -/

/-- Every entry in use has gathered the fragments of its slot. -/
def Traced.Genuine (t : Traced) : Prop :=
  ∀ (slot : Nat) (entry : Entry), t.table.entries[slot]? = some entry →
    entry.occupied = true → Gathers entry (t.kept slot)

theorem forget_occupied {kept : Nat → List Received} {slot : Nat}
    (here : table.entries[slot]? = some entry) (occupied : entry.occupied = true) :
    table.forget kept slot = kept slot := by
  rw [Ipv6ReassemblyTable.forget, here]
  exact if_pos occupied

theorem forget_free {kept : Nat → List Received} {slot : Nat}
    (here : table.entries[slot]? = some entry) (free : entry.occupied = false) :
    table.forget kept slot = [] := by
  rw [Ipv6ReassemblyTable.forget, here]
  exact if_neg (by simp [free])

variable {t : Traced}

/-- What is still in use after entries were freed has gathered what it had. -/
theorem Traced.Genuine.expire (h : t.Genuine) (now : Int) :
    Traced.Genuine ⟨t.table.expire now, (t.table.expire now).forget t.kept⟩ := by
  intro slot entry here occupied
  show Gathers entry ((t.table.expire now).forget t.kept slot)
  rw [forget_occupied here occupied]
  obtain ⟨old, hold, rfl⟩ := Option.map_eq_some_iff.mp (List.getElem?_map.symm.trans here)
  unfold Entry.expire at occupied ⊢
  split at occupied
  next => cases occupied
  rename_i alive
  rw [if_neg alive]
  exact h slot old hold occupied

/-- The entry a fragment is offered to has gathered the fragments of its slot. -/
theorem Traced.Genuine.allocated (h : t.Genuine) {slot : Nat}
    (found : (t.table.expire now).findOrAllocate key now = some (slot, entry)) :
    Gathers entry ((t.table.expire now).forget t.kept slot) ∧ key = entry.key := by
  obtain ⟨old, here, ⟨rfl, holds⟩ | ⟨free, rfl, -⟩⟩ := findOrAllocate_some found
  · simp [Entry.holds] at holds
    exact ⟨h.expire now slot _ here holds.1, holds.2.symm⟩
  · rw [forget_free here free]
    exact ⟨gathers_allocate old key now, rfl⟩

/-- The slots that take no fragment are as the expiry left them. -/
theorem Traced.Genuine.step (h : t.Genuine) (op : TableOp) : (t.step op).Genuine := by
  intro slot entry here occupied
  have here : (op.apply t.table).entries[slot]? = some entry := here
  show Gathers entry ((op.apply t.table).forget _ slot)
  rw [forget_occupied here occupied]
  cases op with
  | expire now =>
    have waiting := h.expire now slot entry here occupied
    rwa [show (_ : Traced).kept slot = _ from forget_occupied here occupied] at waiting
  | discardAll =>
    obtain ⟨old, -, rfl⟩ := Option.map_eq_some_iff.mp (List.getElem?_map.symm.trans here)
    cases occupied
  | accept frame fits now =>
    have here : (t.table.accept frame now).1.entries[slot]? = some entry := here
    show Gathers entry (t.offered frame now slot)
    unfold Traced.offered Ipv6ReassemblyTable.slotFor
    cases hr : received frame with
    | none =>
      rw [(accept_none hr).1] at here
      exact h.expire now slot entry here occupied
    | some r =>
      obtain ⟨rfl, sound⟩ := sound_of_received hr fits
      rw [accept_some hr] at here
      cases found : (t.table.expire now).findOrAllocate r.key now with
      | none =>
        rw [found] at here
        simp only [Option.bind_some, found]
        exact h.expire now slot entry here occupied
      | some allocated =>
        obtain ⟨place, old⟩ := allocated
        rw [found] at here
        simp only [Option.bind_some, found, Option.map_some]
        by_cases same : slot = place
        · subst same
          rw [if_pos rfl]
          obtain ⟨gathered, key⟩ := h.allocated found
          obtain ⟨entry', here', -⟩ := findOrAllocate_some found
          rw [List.getElem?_set_self (List.getElem?_eq_some_iff.mp here').1] at here
          obtain rfl := Option.some.inj here
          obtain ⟨free, -⟩ | ⟨final, after, eq | ⟨-, eq⟩⟩ := gathered.take sound key rfl
          · rw [free] at occupied
            cases occupied
          · rwa [eq]
          · rw [eq] at occupied
            cases occupied
        · rw [if_neg same]
          rw [List.getElem?_set_ne (Ne.symm same)] at here
          exact h.expire now slot entry here occupied

theorem genuine_empty : Traced.empty.Genuine := by
  intro slot entry here occupied
  have member := mem_of_getElem? here
  rw [Traced.empty, Ipv6ReassemblyTable.empty, mem_replicate] at member
  rw [member.2] at occupied
  cases occupied

/-- A packet that is reported complete, in terms of the fragments of its slot. -/
theorem Traced.Genuine.complete (h : t.Genuine) (fits : frame.length ≤ maximumFrameOctets)
    (complete : (t.table.accept frame now).2.status = .complete) :
    ∃ first last, received frame = some last ∧
      Composed (t.fragments frame now) first (t.table.accept frame now).2.packet ∧
      (HeadersOf first (t.table.accept frame now).2.packet ↔ SamePlace first last) := by
  cases hr : received frame with
  | none => exact absurd complete (accept_none hr).2
  | some r =>
    obtain ⟨rfl, sound⟩ := sound_of_received hr fits
    unfold Traced.fragments Traced.offered Ipv6ReassemblyTable.slotFor
    rw [accept_some hr] at complete ⊢
    simp only [hr, Option.bind_some]
    cases found : (t.table.expire now).findOrAllocate r.key now with
    | none =>
      rw [found] at complete
      cases complete
    | some allocated =>
      rw [found] at complete
      obtain ⟨gathered, key⟩ := h.allocated found
      dsimp only [Option.map_some] at complete ⊢
      rw [if_pos rfl]
      obtain ⟨-, other⟩ | ⟨final, after, eq | ⟨whole, eq⟩⟩ := gathered.take sound key rfl
      · exact absurd complete other
      · rw [eq] at complete
        cases complete
      · rw [eq] at complete ⊢
        have nonempty : final.assemble ≠ [] := by
          intro none
          simp [none] at complete
        obtain ⟨first, composed, headers⟩ := after.assembled whole nonempty (List.getLast?_concat)
        exact ⟨first, r, rfl, composed, headers⟩

/-! ## Where the fragments come from -/

/-- The fragments of the slots are among the frames. -/
def Traced.From (frames : List Frame) (t : Traced) : Prop :=
  ∀ slot, ∀ r ∈ t.kept slot, received r.frame = some r ∧ r.frame ∈ frames

theorem mem_of_forget {kept : Nat → List Received} {slot : Nat}
    (h : r ∈ table.forget kept slot) : r ∈ kept slot := by
  unfold Ipv6ReassemblyTable.forget at h
  split at h
  next => exact h
  next => cases h

theorem frame_of_received (h : received frame = some r) : r.frame = frame := by
  unfold received at h
  split at h
  next => cases h
  split at h
  next => cases h
  obtain ⟨-, h⟩ := Option.ite_none_left_eq_some.mp h
  obtain ⟨piece, -, rfl⟩ := Option.map_eq_some_iff.mp h
  rfl

theorem mem_offered {slot : Nat} (h : r ∈ t.offered frame now slot) :
    r ∈ t.kept slot ∨ received frame = some r := by
  cases found : (t.table.expire now).slotFor frame now with
  | none =>
    rw [Traced.offered, found] at h
    exact .inl (mem_of_forget h)
  | some place =>
    rw [Traced.offered, found] at h
    dsimp only at h
    split at h
    next =>
      obtain old | new := mem_append.mp h
      · exact .inl (mem_of_forget old)
      · obtain ⟨s, hs, found⟩ := Option.bind_eq_some_iff.mp found
        obtain ⟨_, -, rfl⟩ := Option.map_eq_some_iff.mp found
        rw [mem_singleton.mp new]
        exact .inr hs
    next => exact .inl (mem_of_forget h)

theorem Traced.From.step {frames : List Frame} (h : t.From frames) {op : TableOp}
    (among : ∀ frame, op.frame? = some frame → frame ∈ frames) : (t.step op).From frames := by
  intro slot r member
  have member := mem_of_forget member
  cases op with
  | expire now => exact h slot r member
  | discardAll => exact h slot r member
  | accept frame fits now =>
    obtain old | new := mem_offered member
    · exact h slot r old
    · have same := frame_of_received new
      subst same
      exact ⟨new, among r.frame rfl⟩

theorem run_from (ops : List TableOp) :
    (Runs.run Traced.step .empty ops).From (ops.filterMap TableOp.frame?) := by
  apply Runs.invariant_of_forall (fun t op (h : t.From _) => h.step)
  · intro slot r member
    cases member
  · intro op member frame known
    exact mem_filterMap.mpr ⟨op, member, known⟩

/-- In every run, a packet that is reported complete is put together from fragments that
were received, of one datagram, none over another, and it has the headers of the first
fragment if and only if the last one to come in names its Fragment header at the same place. -/
theorem reassembled_iff {ops : List TableOp} {t : Traced}
    (run : Runs.run Traced.step .empty ops = t) (fits : frame.length ≤ maximumFrameOctets)
    (complete : (t.table.accept frame now).2.status = .complete) :
    (∀ r ∈ t.fragments frame now, received r.frame = some r ∧
      r.frame ∈ frame :: ops.filterMap TableOp.frame?) ∧
    ∃ first last, received frame = some last ∧
      Composed (t.fragments frame now) first (t.table.accept frame now).2.packet ∧
      (HeadersOf first (t.table.accept frame now).2.packet ↔ SamePlace first last) := by
  subst run
  refine ⟨?_, (Runs.invariant (fun t op (h : t.Genuine) => h.step op) ops
    genuine_empty).complete fits complete⟩
  intro r member
  unfold Traced.fragments at member
  split at member
  next => cases member
  obtain old | new := mem_offered member
  · obtain ⟨genuine, among⟩ := run_from ops _ r old
    exact ⟨genuine, mem_cons_of_mem _ among⟩
  · have same := frame_of_received new
    rw [same]
    exact ⟨new, mem_cons_self⟩

/-- Sixteen octets of Hop-by-Hop Options, and the first of two fragments. -/
def oneHeader : Frame := samplePacket nextHeaderHopByHop 32
  ([nextHeaderFragment, 1#8] ++ List.replicate 14 0#8 ++ [17#8, 0#8, 0#8, 1#8, 0#8, 0#8, 0#8, 7#8])

/-- The second fragment, behind eight octets of Hop-by-Hop and of Destination Options each. -/
def twoHeaders : Frame := samplePacket nextHeaderHopByHop 32
  ([nextHeaderDestinationOptions, 0#8] ++ List.replicate 6 0#8 ++ [nextHeaderFragment, 0#8] ++
    List.replicate 6 0#8 ++ [17#8, 0#8, 0#8, 8#8, 0#8, 0#8, 0#8, 7#8])

def crossed : Traced := Runs.run Traced.step .empty [.accept oneHeader (by decide) 0]

theorem crossed_composed :
    (∀ r ∈ crossed.fragments twoHeaders 0, received r.frame = some r ∧
      r.frame ∈ [twoHeaders, oneHeader]) ∧
    ∃ first last, received twoHeaders = some last ∧
      Composed (crossed.fragments twoHeaders 0) first (crossed.table.accept twoHeaders 0).2.packet ∧
      (HeadersOf first (crossed.table.accept twoHeaders 0).2.packet ↔ SamePlace first last) :=
  reassembled_iff (t := crossed) rfl (by decide) (by decide +kernel)

/-- The number is written where the second fragment had it: the Hop-by-Hop Options of the
first still name a Fragment header, and an octet inside them is overwritten. -/
theorem crossed_headers : (crossed.table.accept twoHeaders 0).2.status = .complete ∧
    ∀ first ∈ crossed.fragments twoHeaders 0, first.piece.offset = 0 →
      ¬ HeadersOf first (crossed.table.accept twoHeaders 0).2.packet := by
  refine ⟨by decide +kernel, ?_⟩
  intro first member starts kept
  have known : ∀ first ∈ crossed.fragments twoHeaders 0, first.piece.offset = 0 →
      first.previous = 54 ∧ 54 < first.header ∧
      Octets.get (crossed.table.accept twoHeaders 0).2.packet 54 ≠ first.nextHeader := by
    decide +kernel
  obtain ⟨previous, inside, differs⟩ := known first member starts
  have named := kept 54 inside (by decide) (by decide)
  rw [if_pos previous.symm] at named
  exact differs named

end RouterSim.Ip
