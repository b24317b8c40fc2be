import RouterSim.Lib.Runs
import RouterSim.Lib.Table
import RouterSim.Ip.FragmentCollect

/-! Fragments of one packet delivered in any order among other traffic: every one but the
last is reported incomplete, and the last gives the packet back, exactly when the extension
headers of the packet fit in its first fragment. -/
namespace RouterSim.Ip

open List Option

/-! ## Deliveries -/

inductive Arrival
  | own (index : Nat)
  | other (frame : Frame)

/-- A frame that reaches the table: a fragment of the packet, by its index, or another one. -/
structure Delivery where
  now : Int
  arrival : Arrival

def Delivery.own (delivery : Delivery) : Option Nat :=
  match delivery.arrival with
  | .own index => some index
  | .other _ => none

def Delivery.frame (fragments : List Frame) (delivery : Delivery) : Frame :=
  match delivery.arrival with
  | .own index => fragments.getD index []
  | .other frame => frame

def deliver (fragments : List Frame) (table : Ipv6ReassemblyTable) (delivery : Delivery) :
    Ipv6ReassemblyTable :=
  (table.accept (delivery.frame fragments) delivery.now).1

/-- What the table reports for the fragments of the packet. -/
def reports (fragments : List Frame) :
    Ipv6ReassemblyTable → List Delivery → List Ipv6ReassemblyResult
  | _, [] => []
  | table, delivery :: rest =>
    let accepted := table.accept (delivery.frame fragments) delivery.now
    if delivery.own.isSome then accepted.2 :: reports fragments accepted.1 rest
    else reports fragments accepted.1 rest

def datagramKey (packet : Frame) (identification : BitVec 32) : FragmentKey :=
  { source := addressAt packet 22, destination := addressAt packet 38, identification }

/-- The key of the datagram a frame is a fragment of. -/
def fragmentKey (frame : Frame) : Option FragmentKey :=
  (parseIpv6 frame).bind fun view => view.fragment.map view.key

/-- No entry holds fragments of the key. -/
def Absent (key : FragmentKey) (table : Ipv6ReassemblyTable) : Prop :=
  ∀ (slot : Nat) (entry : Entry), table.entries[slot]? = some entry → entry.holds key = false

/-- There is an entry for the key, or a free one, when a fragment of it arrives. -/
def Room (key : FragmentKey) (table : Ipv6ReassemblyTable) (delivery : Delivery) : Prop :=
  delivery.own.isSome = true →
    ((table.expire delivery.now).findOrAllocate key delivery.now).isSome = true

/-! ## Other traffic -/

variable {key other : FragmentKey} {entry : Entry} {table : Ipv6ReassemblyTable} {now : Int}

/-- The entry at the slot is the only one of its key. -/
structure Only (key : FragmentKey) (table : Ipv6ReassemblyTable) (slot : Nat) (entry : Entry) :
    Prop where
  here : table.entries[slot]? = some entry
  holds : entry.holds key = true
  unique : ∀ (i : Nat) (entry' : Entry), table.entries[i]? = some entry' → entry'.holds key = true → i = slot

theorem expire_of_lt (h : now < entry.expires) : entry.expire now = entry := by
  unfold Entry.expire
  rw [if_neg (by simp; omega)]

theorem holds_of_take {fragment : Frame} {view : Ipv6View} {nextHeader : Octet} {piece : Piece}
    (h : (entry.take fragment view nextHeader piece).1.holds key = true) :
    entry.holds key = true := by
  unfold Entry.take at h
  split at h
  · cases h
  simp only at h
  split at h
  · cases h
  split at h
  · cases h
  rename_i final finalized
  have same : final.holds key = entry.holds key := by
    unfold Entry.finalize at finalized
    split at finalized
    · cases finalized
      rfl
    · simp only at finalized
      split at finalized
      · cases finalized
      · cases finalized
        rfl
  split at h
  · cases h
  · rw [← same]
    exact h

/-- A step that leaves the entries of a key alone: one that has not expired stays, and none
is made. -/
structure Spares (key : FragmentKey) (now : Int) (before after : Ipv6ReassemblyTable) : Prop where
  keeps : ∀ (slot : Nat) (entry : Entry), before.entries[slot]? = some entry → entry.holds key = true →
    now < entry.expires → after.entries[slot]? = some entry
  makesNone : ∀ (slot : Nat) (entry : Entry), after.entries[slot]? = some entry → entry.holds key = true →
    before.entries[slot]? = some entry

theorem spares_expire (key : FragmentKey) (now : Int) (table : Ipv6ReassemblyTable) :
    Spares key now table (table.expire now) := by
  have row : ∀ slot, (table.expire now).entries[slot]? =
      table.entries[slot]?.map (Entry.expire now) := fun slot => List.getElem?_map
  constructor
  · intro slot entry here _ alive
    rw [row, here, map_some, expire_of_lt alive]
  · intro slot entry here holds
    rw [row] at here
    obtain ⟨old, hold, rfl⟩ := map_eq_some_iff.mp here
    rw [hold]
    unfold Entry.expire at holds ⊢
    split at holds
    · cases holds
    · rename_i alive
      rw [if_neg alive]

variable {after : Ipv6ReassemblyTable} {slot : Nat}

theorem Spares.absent (h : Spares key now table after)
    (none_ : Absent key table) : Absent key after := by
  intro slot entry here
  cases holds : entry.holds key with
  | false => rfl
  | true => rw [← holds, none_ slot entry (h.makesNone slot entry here holds)]

theorem Spares.only (h : Spares key now table after)
    (one : Only key table slot entry) (alive : now < entry.expires) : Only key after slot entry :=
  ⟨h.keeps slot entry one.here one.holds alive, one.holds,
    fun i entry' here holds => one.unique i entry' (h.makesNone i entry' here holds) holds⟩

theorem Spares.trans {middle : Ipv6ReassemblyTable} (h : Spares key now table middle)
    (h' : Spares key now middle after) : Spares key now table after :=
  ⟨fun slot entry here holds alive =>
      h'.keeps slot entry (h.keeps slot entry here holds alive) holds alive,
    fun slot entry here holds => h.makesNone slot entry (h'.makesNone slot entry here holds) holds⟩

theorem findOrAllocate_some (h : table.findOrAllocate other now = some (slot, entry)) :
    ∃ old, table.entries[slot]? = some old ∧
      ((entry = old ∧ old.holds other = true) ∨
        (old.occupied = false ∧ entry = old.allocate other now ∧ Absent other table)) := by
  unfold Ipv6ReassemblyTable.findOrAllocate at h
  split at h
  · rename_i slot' found
    obtain ⟨old, here, heq⟩ := map_eq_some_iff.mp h
    cases heq
    obtain ⟨row, hrow, holds⟩ := Table.row_of_findIdx? found
    cases here.symm.trans hrow
    exact ⟨_, here, .inl ⟨rfl, holds⟩⟩
  · rename_i unknown
    split at h
    · rename_i slot' found
      obtain ⟨old, here, heq⟩ := map_eq_some_iff.mp h
      cases heq
      obtain ⟨row, hrow, free⟩ := Table.row_of_findIdx? found
      cases here.symm.trans hrow
      refine ⟨old, here, .inr ⟨by simpa using free, rfl, ?_⟩⟩
      intro i row' hrow'
      exact List.findIdx?_eq_none_iff.mp unknown row' (mem_of_getElem? hrow')
    · cases h

theorem eq_of_holds (h : entry.holds key = true) (h' : entry.holds other = true) : key = other := by
  simp only [Entry.holds, asserted] at h h'
  rw [← h.2, h'.2]

theorem holds_allocate (key : FragmentKey) (entry : Entry) (now : Int) :
    (entry.allocate key now).holds key = true := by
  simp [Entry.holds, Entry.allocate, Entry.key]

theorem not_holds_of_free (h : entry.occupied = false) : entry.holds key = false := by
  simp [Entry.holds, h]

theorem spares_acceptPiece {fragment : Frame} {view : Ipv6View} {part : Ipv6FragmentView}
    (different : view.key part ≠ key) :
    Spares key now table (table.acceptPiece fragment view part now).1 := by
  have unchanged : Spares key now table table := ⟨fun _ _ here _ _ => here, fun _ _ here _ => here⟩
  unfold Ipv6ReassemblyTable.acceptPiece
  split
  · exact unchanged
  split
  · exact unchanged
  rename_i slot entry allocated
  obtain ⟨old, here, origin⟩ := findOrAllocate_some allocated
  have oldOther : old.holds key = false := by
    cases holds : old.holds key with
    | false => rfl
    | true =>
      obtain ⟨-, same⟩ | ⟨free, -, -⟩ := origin
      · exact absurd (eq_of_holds same holds) different
      · rw [not_holds_of_free free] at holds
        cases holds
  have newOther : ∀ (next : Entry), (next.holds key = true → entry.holds key = true) →
      next.holds key = false := by
    intro next inherits
    cases holds : next.holds key with
    | false => rfl
    | true =>
      have mine := inherits holds
      obtain ⟨rfl, -⟩ | ⟨-, rfl, -⟩ := origin
      · rw [oldOther] at mine
        cases mine
      · exact absurd (eq_of_holds (holds_allocate _ _ _) mine) different
  constructor
  · intro i kept row holds _
    have hne : slot ≠ i := by
      rintro rfl
      cases here.symm.trans row
      rw [oldOther] at holds
      cases holds
    rw [List.getElem?_set_ne hne]
    exact row
  · intro i made row holds
    by_cases heq : slot = i
    · subst heq
      rw [List.getElem?_set_self (List.getElem?_eq_some_iff.mp here).1] at row
      cases row
      rw [newOther _ holds_of_take] at holds
      cases holds
    · rwa [List.getElem?_set_ne heq] at row

/-- A frame that is no fragment of the key leaves the entries of the key alone. -/
theorem spares_accept {frame : Frame} (foreign : fragmentKey frame ≠ some key) :
    Spares key now table (table.accept frame now).1 := by
  have expired := spares_expire key now table
  unfold Ipv6ReassemblyTable.accept
  split
  · exact expired
  rename_i view parsed
  split
  · exact expired
  rename_i part hpart
  split
  · exact expired
  apply expired.trans
  apply spares_acceptPiece
  intro same
  rw [fragmentKey, parsed, bind_some, hpart, map_some, same] at foreign
  exact foreign rfl


/-! ## A fragment of the packet -/

section Own

variable {packet : Frame} {mtu : BitVec 16} {layout : FragmentLayout}
  {target final : HeaderCursor} {view : Ipv6View} {identification : BitVec 32} {index : Nat}
  {done : List Nat} {deadline : Int}

/-- A fragment is taken by the slot of the packet's key. -/
theorem Planned.accept_own (h : Planned packet mtu layout target final view)
    (port : mtu.toNat ≤ maximumNetworkIpMtu) (fit : headersFit packet layout = true)
    (hi : index < layout.count)
    (allocated : (table.expire now).findOrAllocate (datagramKey packet identification) now =
      some (slot, entry)) :
    ∃ seen,
      Describes packet layout target identification (index * layout.perFragment) seen ∧
      ∀ taken, taken = entry.take
          (fragmentAt packet layout identification (index * layout.perFragment)) seen
          target.current (pieceAt packet layout target identification index) →
        table.accept (fragmentAt packet layout identification (index * layout.perFragment)) now =
          ({ entries := (table.expire now).entries.set slot taken.1 }, taken.2) := by
  obtain ⟨seen, parsed, described⟩ : ∃ seen,
      parseIpv6 (fragmentAt packet layout identification (index * layout.perFragment)) = some seen ∧
      Describes packet layout target identification (index * layout.perFragment) seen :=
    h.parse_fragment fit hi
  refine ⟨seen, described, ?_⟩
  rintro taken rfl
  have key : ∀ part, seen.fragment = some part →
      seen.key part = datagramKey packet identification := by
    intro part hpart
    rw [described.fragment] at hpart
    cases hpart
    rw [Ipv6View.key, described.source, described.destination]
    rfl
  have nextHeader : Octets.get (fragmentAt packet layout identification
      (index * layout.perFragment)) seen.fragmentHeaderOffset.toNat = target.current := by
    rw [described.header, h.target_small port]
    refine (h.get_fragmentAt_header (h.offset_lt hi) (show 0 < 8 by decide)).trans ?_
    show layout.insertion.fragmentNextHeader = target.current
    rw [h.insertion]
    rfl
  have notAtomic : (BitVec.ofNat 16 (index * layout.perFragment / 8) == 0#16 &&
      !decide (index * layout.perFragment + layout.copied (index * layout.perFragment) <
        layout.fragmentableSize)) = false := by
    by_cases zero : index = 0
    · have more := (h.more_iff hi).mpr (by have := h.last_index; omega)
      rw [decide_eq_true more, Bool.not_true, Bool.and_false]
    · have unit := h.perFragment_mod
      have inside := h.offset_lt hi
      have total := h.inside
      have bound := Planned.packetEnd_le packet
      have least : layout.perFragment ≤ index * layout.perFragment :=
        Nat.le_mul_of_pos_left _ (Nat.pos_of_ne_zero zero)
      have pos := h.pos
      rw [Bool.and_eq_false_iff]
      left
      rw [beq_eq_false_iff_ne]
      intro heq
      have := congrArg BitVec.toNat heq
      rw [BitVec.toNat_ofNat, Nat.mod_eq_of_lt (by omega)] at this
      have : (0#16).toNat = 0 := rfl
      omega
  have fragment := described.fragment
  have piece := h.pieceOf_fragmentAt port hi described _ fragment
  unfold Ipv6ReassemblyTable.accept
  simp only [parsed, fragment, notAtomic]
  unfold Ipv6ReassemblyTable.acceptPiece
  simp [piece, key _ fragment, allocated, nextHeader]

/-- The table while fragments of the packet come in: none so far, or an entry of its own
with those in `done`. -/
def Collecting (packet : Frame) (layout : FragmentLayout) (target : HeaderCursor)
    (identification : BitVec 32) (done : List Nat) (deadline : Int)
    (table : Ipv6ReassemblyTable) : Prop :=
  (done = [] ∧ Absent (datagramKey packet identification) table) ∨
  done ≠ [] ∧ ∃ slot entry, Only (datagramKey packet identification) table slot entry ∧
    Holding packet layout target identification entry done ∧ Placed target entry ∧
    entry.expires = deadline

/-- The slot a fragment finds holds what came before it. -/
theorem collecting_slot
    (collecting : Collecting packet layout target identification done deadline table)
    (alive : done ≠ [] → now < deadline)
    (allocated : (table.expire now).findOrAllocate (datagramKey packet identification) now =
      some (slot, entry)) : Holding packet layout target identification entry done ∧
    (entry.fragmentHeaderOffset = 0#16 ∨ Placed target entry) ∧
    entry.holds (datagramKey packet identification) = true ∧
    slot < (table.expire now).entries.length ∧
    (∀ (i : Nat) (entry' : Entry), (table.expire now).entries[i]? = some entry' →
      entry'.holds (datagramKey packet identification) = true → i = slot) ∧
    (done ≠ [] ∧ entry.expires = deadline ∨
      done = [] ∧ entry.expires = now + ipv6ReassemblyTimeout) := by
  have spared := spares_expire (datagramKey packet identification) now table
  obtain ⟨old, here, origin⟩ := findOrAllocate_some allocated
  have within := (List.getElem?_eq_some_iff.mp here).1
  obtain ⟨rfl, none_⟩ | ⟨some_, slot', entry', one, holding, placed, expires⟩ := collecting
  · have none' := spared.absent none_
    obtain ⟨-, holds⟩ | ⟨-, rfl, -⟩ := origin
    · rw [none' slot old here] at holds
      cases holds
    · refine ⟨Planned.holding_allocate old _ now, .inl rfl, holds_allocate _ _ _, within, ?_,
        .inr ⟨rfl, rfl⟩⟩
      intro i entry' row holds
      rw [none' i entry' row] at holds
      cases holds
  · have one' := spared.only one (by rw [expires]; exact alive some_)
    obtain ⟨rfl, holds⟩ | ⟨-, -, none_⟩ := origin
    · obtain rfl := one'.unique slot _ here holds
      cases here.symm.trans one'.here
      exact ⟨holding, .inr placed, one'.holds, within, one'.unique, .inl ⟨some_, expires⟩⟩
    · have holds := one'.holds
      rw [none_ slot' entry' one'.here] at holds
      cases holds

theorem Planned.step_own (h : Planned packet mtu layout target final view)
    (port : mtu.toNat ≤ maximumNetworkIpMtu) (fit : headersFit packet layout = true)
    (hi : index < layout.count) (new : index ∉ done)
    (collecting : Collecting packet layout target identification done deadline table)
    (alive : done ≠ [] → now < deadline)
    (room : ((table.expire now).findOrAllocate (datagramKey packet identification) now).isSome =
      true) {accepted : Ipv6ReassemblyTable × Ipv6ReassemblyResult}
    (ha : accepted = table.accept
      (fragmentAt packet layout identification (index * layout.perFragment)) now) :
    (¬ (∀ j < layout.count, j ∈ index :: done) → accepted.2 = { status := .incomplete } ∧
      ∃ deadline', Collecting packet layout target identification (index :: done) deadline'
          accepted.1 ∧
        (done ≠ [] ∧ deadline' = deadline ∨ done = [] ∧ deadline' = now + ipv6ReassemblyTimeout)) ∧
    ((∀ j < layout.count, j ∈ index :: done) → accepted.2 =
      { status := .complete, packet := packet.take (packetEndOf packet) }) := by
  obtain ⟨⟨slot, entry⟩, allocated⟩ := isSome_iff_exists.mp room
  obtain ⟨holding, known, holds, within, unique, expires⟩ :=
    collecting_slot collecting alive allocated
  obtain ⟨seen, described, accept⟩ := h.accept_own port fit hi allocated
  obtain ⟨waits, completes⟩ := h.take_fragment port holding known hi new described
  rw [ha, accept _ rfl]
  refine ⟨fun missing => ?_, fun all => (completes all).2⟩
  obtain ⟨incomplete, held, placed, occupied, key, kept⟩ := waits missing
  refine ⟨incomplete, _, .inr ⟨by simp, slot, _, ⟨?_, ?_, ?_⟩, held, placed, rfl⟩, ?_⟩
  · exact List.getElem?_set_self within
  · rw [Entry.holds, occupied, key]
    exact holds
  · intro i entry' row holds'
    by_cases heq : slot = i
    · exact heq.symm
    · rw [List.getElem?_set_ne heq] at row
      exact unique i entry' row holds'
  · rw [kept]
    exact expires

/-! ## Whole deliveries -/

/-- The fragment with an index, as the loop emits it. -/
def emitted (packet : Frame) (layout : FragmentLayout) (identification : BitVec 32) : List Frame :=
  layout.offsets.map (fragmentAt packet layout identification)

theorem frame_own {delivery : Delivery} (hd : delivery.own = some index)
    (hi : index < layout.count) :
    delivery.frame (emitted packet layout identification) =
      fragmentAt packet layout identification (index * layout.perFragment) := by
  obtain ⟨now, arrival⟩ := delivery
  cases arrival with
  | own index' =>
    cases hd
    simp [Delivery.frame, emitted, FragmentLayout.offsets, hi]
  | other frame => cases hd

theorem frame_other {delivery : Delivery} (hd : delivery.own = none) :
    ∃ frame, delivery.arrival = .other frame ∧ ∀ fragments, delivery.frame fragments = frame := by
  obtain ⟨now, arrival⟩ := delivery
  cases arrival with
  | own index => cases hd
  | other frame => exact ⟨frame, rfl, fun _ => rfl⟩

variable {deliveries : List Delivery}

theorem reports_none_own {fragments : List Frame}
    (h : deliveries.filterMap Delivery.own = []) : reports fragments table deliveries = [] := by
  induction deliveries generalizing table with
  | nil => rfl
  | cons delivery rest ih =>
    rw [filterMap_cons] at h
    cases hd : delivery.own with
    | none =>
      rw [hd] at h
      rw [reports, hd]
      exact ih h
    | some index =>
      rw [hd] at h
      cases h

theorem Collecting.spared
    (collecting : Collecting packet layout target identification done deadline table)
    (h : Spares (datagramKey packet identification) now table after)
    (alive : done ≠ [] → now < deadline) :
    Collecting packet layout target identification done deadline after := by
  obtain ⟨none_, absent⟩ | ⟨some_, slot, entry, one, holding, placed, expires⟩ := collecting
  · exact .inl ⟨none_, h.absent absent⟩
  · have alive' : now < entry.expires := by
      rw [expires]
      exact alive some_
    exact .inr ⟨some_, slot, entry, h.only one alive', holding, placed, expires⟩

/-- Every fragment has come exactly when none is left to come. -/
theorem all_come_iff {count : Nat} {rest : List Nat}
    (order : (done ++ index :: rest).Perm (List.range count)) :
    (∀ j < count, j ∈ index :: done) ↔ rest = [] := by
  have mem : ∀ j, j ∈ done ++ index :: rest ↔ j < count := fun j => by
    rw [order.mem_iff, mem_range]
  have distinct : (done ++ index :: rest).Nodup := order.nodup_iff.mpr nodup_range
  constructor
  · intro all
    cases rest with
    | nil => rfl
    | cons next rest =>
      have come := all next ((mem next).mp (by simp))
      rw [nodup_append] at distinct
      obtain ⟨-, tail, apart⟩ := distinct
      obtain rfl | earlier := mem_cons.mp come
      · simp at tail
      · exact absurd rfl (apart next earlier next (by simp))
  · rintro rfl j hj
    have := (mem j).mpr hj
    simp only [mem_append, mem_singleton] at this
    exact mem_cons.mpr this.symm

/-- A run of deliveries, from a table that has some of the fragments to the last of them. -/
theorem Planned.reports_collecting (h : Planned packet mtu layout target final view)
    (port : mtu.toNat ≤ maximumNetworkIpMtu) (fit : headersFit packet layout = true)
    (collecting : Collecting packet layout target identification done deadline table)
    (order : (done ++ deliveries.filterMap Delivery.own).Perm (List.range layout.count))
    (left : deliveries.filterMap Delivery.own ≠ [])
    (foreign : ∀ delivery ∈ deliveries, ∀ frame, delivery.arrival = .other frame →
      fragmentKey frame ≠ some (datagramKey packet identification))
    (forward : deliveries.Pairwise fun a b => a.now ≤ b.now)
    (timely : (deliveries.filter fun delivery => delivery.own.isSome).Pairwise fun a b =>
      b.now < a.now + ipv6ReassemblyTimeout)
    (alive : done ≠ [] → ∀ delivery ∈ deliveries, delivery.own.isSome = true →
      delivery.now < deadline)
    (room : Runs.Along (deliver (emitted packet layout identification))
      (Room (datagramKey packet identification)) table deliveries) :
    reports (emitted packet layout identification) table deliveries =
      List.replicate ((deliveries.filterMap Delivery.own).length - 1) { status := .incomplete } ++
        [{ status := .complete, packet := packet.take (packetEndOf packet) }] := by
  induction deliveries generalizing table done deadline with
  | nil => exact absurd rfl left
  | cons delivery rest ih =>
    have forward' := pairwise_cons.mp forward
    have foreign' : ∀ delivery ∈ rest, ∀ frame, delivery.arrival = .other frame →
        fragmentKey frame ≠ some (datagramKey packet identification) :=
      fun later hl => foreign later (mem_cons_of_mem _ hl)
    cases hd : delivery.own with
    | none =>
      have skip : (delivery :: rest).filterMap Delivery.own = rest.filterMap Delivery.own := by
        rw [filterMap_cons, hd]
      have drop : (delivery :: rest).filter (fun delivery => delivery.own.isSome) =
          rest.filter fun delivery => delivery.own.isSome := by
        rw [filter_cons, hd]
        rfl
      rw [skip] at order left ⊢
      rw [drop] at timely
      have spared : Spares (datagramKey packet identification) delivery.now table
          (deliver (emitted packet layout identification) table delivery) := by
        obtain ⟨frame, arrival, same⟩ := frame_other hd
        apply spares_accept
        rw [same]
        exact foreign delivery mem_cons_self frame arrival
      have before : done ≠ [] → delivery.now < deadline := by
        intro some_
        obtain ⟨index, hindex⟩ := exists_mem_of_ne_nil _ left
        obtain ⟨later, hl, own⟩ := mem_filterMap.mp hindex
        have soon := alive some_ later (mem_cons_of_mem _ hl) (by rw [own]; rfl)
        have := forward'.1 later hl
        omega
      rw [reports, hd]
      exact ih (collecting.spared spared before) order left foreign' forward'.2 timely
        (fun some_ later hl => alive some_ later (mem_cons_of_mem _ hl)) room.2
    | some index =>
      have take : (delivery :: rest).filterMap Delivery.own =
          index :: rest.filterMap Delivery.own := by
        rw [filterMap_cons, hd]
      have keep : (delivery :: rest).filter (fun delivery => delivery.own.isSome) =
          delivery :: rest.filter fun delivery => delivery.own.isSome := by
        rw [filter_cons, hd]
        rfl
      rw [take] at order ⊢
      rw [keep] at timely
      have timely' := pairwise_cons.mp timely
      have isOwn : delivery.own.isSome = true := by rw [hd]; rfl
      have hi : index < layout.count := mem_range.mp (order.mem_iff.mp (by simp))
      have new : index ∉ done := by
        intro earlier
        have distinct : (done ++ index :: rest.filterMap Delivery.own).Nodup :=
          order.nodup_iff.mpr nodup_range
        rw [nodup_append] at distinct
        exact absurd rfl (distinct.2.2 index earlier index (by simp))
      obtain ⟨waits, completes⟩ := h.step_own port fit hi new collecting
        (fun some_ => alive some_ delivery mem_cons_self isOwn) (room.1 isOwn) rfl
      have onward := room.2
      rw [deliver, frame_own hd hi] at onward
      rw [reports, frame_own hd hi, if_pos isOwn]
      by_cases last : rest.filterMap Delivery.own = []
      · rw [completes ((all_come_iff order).mpr last), reports_none_own last, last]
        rfl
      · have missing : ¬ ∀ j < layout.count, j ∈ index :: done :=
          fun all => last ((all_come_iff order).mp all)
        obtain ⟨incomplete, deadline', collecting', hdeadline⟩ := waits missing
        have order' : (index :: done ++ rest.filterMap Delivery.own).Perm
            (List.range layout.count) := perm_middle.symm.trans order
        have alive' : ∀ later ∈ rest, later.own.isSome = true → later.now < deadline' := by
          intro later hl own
          obtain ⟨some_, rfl⟩ | ⟨-, rfl⟩ := hdeadline
          · exact alive some_ later (mem_cons_of_mem _ hl) own
          · exact timely'.1 later (mem_filter.mpr ⟨hl, own⟩)
        rw [incomplete, ih collecting' order' last foreign' forward'.2 timely'.2 (fun _ => alive')
          onward]
        obtain ⟨next, more, hmore⟩ := exists_cons_of_ne_nil last
        rw [hmore]
        rfl

/-- A first fragment whose headers are cut off is refused wherever it comes. -/
theorem Planned.malformed_reported (h : Planned packet mtu layout target final view)
    (cut : headersFit packet layout = false) (first : 0 ∈ deliveries.filterMap Delivery.own) :
    { status := .malformed } ∈ reports (emitted packet layout identification) table deliveries := by
  induction deliveries generalizing table with
  | nil => cases first
  | cons delivery rest ih =>
    rw [reports]
    cases hd : delivery.own with
    | none =>
      rw [filterMap_cons, hd] at first
      exact ih first
    | some index =>
      rw [filterMap_cons, hd] at first
      obtain rfl | later := mem_cons.mp first
      · have many := h.last_index
        have refused : parseIpv6 (fragmentAt packet layout identification 0) = none :=
          h.parse_first_none cut
        rw [frame_own hd (by omega), Nat.zero_mul]
        rw [Ipv6ReassemblyTable.accept, refused]
        exact mem_cons_self
      · exact mem_cons_of_mem _ (ih later)

end Own

/-- The extension headers fit in the first fragment the packet is cut into. -/
def headersFitFirst (packet : Frame) (mtu : BitVec 16) : Bool :=
  (fragmentLayout packet mtu).any fun layout => headersFit packet layout

/-- The reports of a reassembly that works: all but the last fragment incomplete, then the
packet, octet by octet up to its end. -/
def roundTrip (packet : Frame) (count : Nat) : List Ipv6ReassemblyResult :=
  List.replicate (count - 1) { status := .incomplete } ++
    [{ status := .complete, packet := packet.take (packetEndOf packet) }]

theorem fragmentIpv6Datagram_collect {packet : Frame} {mtu : BitVec 16}
    {identification : BitVec 32} {fragments : List Frame} {count : Nat}
    (h : fragmentIpv6Datagram packet mtu identification collect [] = (fragments, some count)) :
    ∃ layout, fragmentLayout packet mtu = some layout ∧ count = layout.count ∧
      fragments = emitted packet layout identification := by
  unfold fragmentIpv6Datagram at h
  split at h
  · cases h
  rename_i layout hlayout
  rw [emitFragments_collect] at h
  cases h
  refine ⟨layout, hlayout, ?_, nil_append _⟩
  simp [FragmentLayout.offsets]

/-- For every packet that is cut into fragments, at the MTU of any network port, under every
identification: the fragments, delivered in any order within the timeout among frames of
other keys, to any table that has room for them, give the packet back with the last one and
report incomplete before it, if and only if the extension headers fit in the first. -/
theorem fragments_reassemble_iff {packet : Frame} {mtu : BitVec 16} {identification : BitVec 32}
    {fragments : List Frame} {count : Nat}
    (fragmented : fragmentIpv6Datagram packet mtu identification collect [] =
      (fragments, some count))
    (port : mtu.toNat ≤ maximumNetworkIpMtu) (table : Ipv6ReassemblyTable)
    (deliveries : List Delivery)
    (order : (deliveries.filterMap Delivery.own).Perm (List.range count))
    (fresh : Absent (datagramKey packet identification) table)
    (foreign : ∀ delivery ∈ deliveries, ∀ frame, delivery.arrival = .other frame →
      fragmentKey frame ≠ some (datagramKey packet identification))
    (forward : deliveries.Pairwise fun a b => a.now ≤ b.now)
    (timely : (deliveries.filter fun delivery => delivery.own.isSome).Pairwise fun a b =>
      b.now < a.now + ipv6ReassemblyTimeout)
    (room : Runs.Along (deliver fragments) (Room (datagramKey packet identification)) table
      deliveries) :
    reports fragments table deliveries = roundTrip packet count ↔
      headersFitFirst packet mtu = true := by
  obtain ⟨layout, hlayout, rfl, rfl⟩ := fragmentIpv6Datagram_collect fragmented
  obtain ⟨target, final, view, h⟩ := fragmentLayout_planned hlayout
  have many := h.last_index
  have fits : headersFitFirst packet mtu = headersFit packet layout := by
    rw [headersFitFirst, hlayout]
    rfl
  have length : (deliveries.filterMap Delivery.own).length = layout.count := by
    rw [order.length_eq, length_range]
  rw [fits]
  constructor
  · intro worked
    cases fit : headersFit packet layout with
    | true => rfl
    | false =>
      have first : 0 ∈ deliveries.filterMap Delivery.own :=
        order.mem_iff.mpr (mem_range.mpr (by omega))
      have refused : { status := .malformed } ∈ roundTrip packet layout.count := by
        rw [← worked]
        exact h.malformed_reported fit first
      rw [roundTrip, mem_append, mem_singleton] at refused
      obtain waiting | complete := refused
      · cases eq_of_mem_replicate waiting
      · cases complete
  · intro fit
    have left : deliveries.filterMap Delivery.own ≠ [] := by
      intro none_
      rw [none_] at length
      simp at length
      omega
    have start : Collecting packet layout target identification [] 0 table := .inl ⟨rfl, fresh⟩
    rw [roundTrip, ← length]
    exact h.reports_collecting port fit start order left foreign forward timely
      (fun some_ => absurd rfl some_) room

/-- A packet with zero addresses and a payload that follows the first octets given. -/
def samplePacket (nextHeader : Octet) (payloadLength : Nat) (first : List Octet) : Frame :=
  List.replicate 12 0#8 ++ [0x86#8, 0xdd#8, 0x60#8, 0#8, 0#8, 0#8] ++
    Octets.octets16 (BitVec.ofNat 16 payloadLength) ++ [nextHeader, 64#8] ++
    List.replicate 32 0#8 ++ first ++ List.replicate (payloadLength - first.length) 0#8

/-- One octet too long for the least MTU. -/
def longDatagram : Frame := samplePacket 17#8 1241 []

def longFragments : List Frame := (fragmentIpv6Datagram longDatagram 1280#16 7#32 collect []).1

def lastFirst : List Delivery :=
  [{ now := 0, arrival := .own 1 },
   { now := 5, arrival := .other [] },
   { now := 9, arrival := .own 0 }]

theorem longDatagram_fragmented :
    fragmentIpv6Datagram longDatagram 1280#16 7#32 collect [] = (longFragments, some 2) := by
  have count : (fragmentIpv6Datagram longDatagram 1280#16 7#32 collect []).2 = some 2 := by
    decide +kernel
  rw [longFragments, ← count]

theorem absent_empty (key : FragmentKey) : Absent key .empty := by
  intro slot entry here
  have member := mem_of_getElem? here
  rw [Ipv6ReassemblyTable.empty, mem_replicate] at member
  rw [member.2]
  rfl

theorem longDatagram_reassembled :
    reports longFragments .empty lastFirst = roundTrip longDatagram 2 := by
  have order : (lastFirst.filterMap Delivery.own).Perm (List.range 2) := by decide
  have forward : lastFirst.Pairwise fun a b => a.now ≤ b.now := by decide
  have timely : (lastFirst.filter fun delivery => delivery.own.isSome).Pairwise fun a b =>
      b.now < a.now + ipv6ReassemblyTimeout := by decide
  have fit : headersFitFirst longDatagram 1280#16 = true := by decide +kernel
  have room : Runs.Along (deliver longFragments) (Room (datagramKey longDatagram 7#32)) .empty
    lastFirst := ⟨fun _ => by decide +kernel, fun _ => by decide +kernel, fun _ => by decide +kernel, trivial⟩
  have foreign : ∀ delivery ∈ lastFirst, ∀ frame, delivery.arrival = .other frame →
      fragmentKey frame ≠ some (datagramKey longDatagram 7#32) := by
    intro delivery member frame other
    have empty : frame = [] := by
      simp [lastFirst] at member
      obtain rfl | rfl | rfl := member <;> simp_all
    rw [empty]
    decide
  exact (fragments_reassemble_iff longDatagram_fragmented (by decide) .empty lastFirst order
    (absent_empty _) foreign forward timely room).mpr fit

/-- Destination Options that take 2048 octets. -/
def longOptions : Frame := samplePacket nextHeaderDestinationOptions 2048 [59#8, 255#8]

def longOptionsFragments : List Frame :=
  (fragmentIpv6Datagram longOptions 1280#16 7#32 collect []).1

def inOrder : List Delivery :=
  [{ now := 0, arrival := .own 0 },
   { now := 0, arrival := .own 1 }]

/-- Two fragments are made of it, and the first is refused. -/
theorem longOptions_not_reassembled :
    (fragmentIpv6Datagram longOptions 1280#16 7#32 collect []).2 = some 2 ∧
    reports longOptionsFragments .empty inOrder ≠ roundTrip longOptions 2 := by
  refine ⟨by decide +kernel, fun worked => ?_⟩
  have refused : (reports longOptionsFragments .empty inOrder).head?.map (·.status) =
      some .malformed := by
    decide +kernel
  rw [worked] at refused
  cases refused

end RouterSim.Ip
