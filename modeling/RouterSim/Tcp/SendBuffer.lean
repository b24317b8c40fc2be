import RouterSim.Lib.Serial
import RouterSim.Lib.Circular
import RouterSim.Lib.Runs

namespace RouterSim.Tcp

open List Serial Circular

abbrev Octet := BitVec 8

inductive SendAcknowledgeStatus
  | advanced | duplicate | beyondSent | invalid
  deriving DecidableEq

structure SendAcknowledgeResult where
  status : SendAcknowledgeStatus := .invalid
  newlyAcknowledged : BitVec 32 := 0#32

/-- An intent to transmit. The generation ties it to the repository state that
prepared it; a range of length zero is the empty intent. -/
structure PreparedSendRange where
  sequence : BitVec 32 := 0#32
  length : BitVec 32 := 0#32
  generation : BitVec 64 := 0#64
  retransmission : Bool := false

def PreparedSendRange.present (range : PreparedSendRange) : Bool := range.length != 0#32

structure SendBuffer where
  storage : List Octet
  sendUnacknowledged : BitVec 32
  sendNext : BitVec 32
  writeNext : BitVec 32
  head : BitVec 32 := 0#32
  generation : BitVec 64 := 1#64
  valid : Bool
  deriving DecidableEq

namespace SendBuffer

def create (storage : List Octet) (initialDataSequence : BitVec 32) : SendBuffer :=
  let valid := !storage.isEmpty && decide (storage.length ≤ 0x40000000)
  { storage := if valid then List.replicate storage.length 0#8 else storage
    sendUnacknowledged := initialDataSequence, sendNext := initialDataSequence,
    writeNext := initialDataSequence, valid }

def physical (b : SendBuffer) (offset : BitVec 32) : Nat :=
  slot b.storage.length b.head.toNat offset.toNat

def flightSize (b : SendBuffer) : BitVec 32 :=
  if b.valid then b.sendNext - b.sendUnacknowledged else 0#32

def unsentOctets (b : SendBuffer) : BitVec 32 :=
  if b.valid then b.writeNext - b.sendNext else 0#32

def queuedOctets (b : SendBuffer) : BitVec 32 :=
  if b.valid then b.writeNext - b.sendUnacknowledged else 0#32

def writableOctets (b : SendBuffer) : BitVec 32 :=
  if b.valid then BitVec.ofNat 32 b.storage.length - b.queuedOctets else 0#32

def capacity (b : SendBuffer) : BitVec 32 :=
  if b.valid then BitVec.ofNat 32 b.storage.length else 0#32

/-- The second component is the number of octets accepted. -/
def write (b : SendBuffer) (input : List Octet) : SendBuffer × Nat :=
  if !b.valid || input.isEmpty then (b, 0)
  else
    let accepted := min input.length b.writableOctets.toNat
    ({ b with
        storage := store b.storage b.head.toNat b.queuedOctets.toNat (input.take accepted)
        writeNext := b.writeNext + BitVec.ofNat 32 accepted
        generation := if accepted != 0 then b.generation + 1#64 else b.generation },
      accepted)

def prepareNew (b : SendBuffer) (maximumPayload : BitVec 32) : PreparedSendRange :=
  if !b.valid || maximumPayload == 0#32 then {}
  else
    { sequence := b.sendNext
      length := if b.unsentOctets < maximumPayload then b.unsentOctets else maximumPayload
      generation := b.generation, retransmission := false }

def prepareRetransmission (b : SendBuffer) (maximumPayload : BitVec 32) : PreparedSendRange :=
  if !b.valid || maximumPayload == 0#32 then {}
  else
    { sequence := b.sendUnacknowledged
      length := if b.flightSize < maximumPayload then b.flightSize else maximumPayload
      generation := b.generation, retransmission := true }

def prepareRetransmissionAt (b : SendBuffer) (sequence maximumPayload : BitVec 32) :
    PreparedSendRange :=
  if !b.valid || maximumPayload == 0#32 || before sequence b.sendUnacknowledged ||
      !before sequence b.sendNext then {}
  else
    let retained := b.sendNext - sequence
    { sequence, length := if retained < maximumPayload then retained else maximumPayload,
      generation := b.generation, retransmission := true }

def rangeIsCurrent (b : SendBuffer) (range : PreparedSendRange) : Bool :=
  if !b.valid || range.length == 0#32 || range.generation != b.generation then false
  else
    let offset := range.sequence - b.sendUnacknowledged
    if b.queuedOctets ≤ offset || b.queuedOctets - offset < range.length then false
    else if range.retransmission then
      decide (offset < b.flightSize) && decide (range.length ≤ b.flightSize - offset)
    else range.sequence == b.sendNext && decide (range.length ≤ b.unsentOctets)

def copy (b : SendBuffer) (range : PreparedSendRange) (outputSize : Nat) : Option (List Octet) :=
  if !b.rangeIsCurrent range || decide (outputSize < range.length.toNat) then none
  else
    let offset := range.sequence - b.sendUnacknowledged
    some ((List.range range.length.toNat).map fun index =>
      b.storage.getD (b.physical (offset + BitVec.ofNat 32 index)) 0#8)

def commit (b : SendBuffer) (range : PreparedSendRange) : SendBuffer × Bool :=
  if !b.rangeIsCurrent range then (b, false)
  else
    ({ b with
        sendNext := if range.retransmission then b.sendNext else b.sendNext + range.length
        generation := b.generation + 1#64 },
      true)

def acknowledge (b : SendBuffer) (acknowledgment : BitVec 32) :
    SendBuffer × SendAcknowledgeResult :=
  if !b.valid then (b, {})
  else if after acknowledgment b.sendNext then (b, { status := .beyondSent })
  else if !after acknowledgment b.sendUnacknowledged then (b, { status := .duplicate })
  else
    let count := acknowledgment - b.sendUnacknowledged
    ({ b with
        storage := store b.storage b.head.toNat 0 (List.replicate count.toNat 0#8)
        head := BitVec.ofNat 32 ((b.head + count).toNat % b.storage.length)
        sendUnacknowledged := acknowledgment, generation := b.generation + 1#64 },
      { status := .advanced, newlyAcknowledged := count })

theorem write_refused {b : SendBuffer} {input : List Octet} (h : (b.write input).2 = 0) :
    (b.write input).1 = b := by
  simp only [write] at h ⊢
  split
  · rfl
  rename_i hne
  simp only [hne, settled, ↓reduceIte] at h
  simp [h, store]

theorem commit_queuedOctets (b : SendBuffer) (range : PreparedSendRange) :
    (b.commit range).1.queuedOctets = b.queuedOctets := by
  unfold commit
  split <;> rfl

end SendBuffer

/-! ## The stream a send repository stands for -/

/-- An append-only stream: what was accepted, and how much of it has been sent
and released. -/
structure SendStream where
  accepted : List Octet
  released : Nat
  sent : Nat
  released_le : released ≤ sent
  sent_le : sent ≤ accepted.length

/-- The circular arena holds exactly the accepted octets not yet released, and
the three counters show the three stream positions. -/
structure SendBuffer.Refines (b : SendBuffer) (origin : BitVec 32) (s : SendStream) : Prop where
  valid : b.valid = true
  nonempty : 0 < b.storage.length
  bounded : b.storage.length ≤ 0x40000000
  fits : s.accepted.length ≤ s.released + b.storage.length
  unacknowledged : b.sendUnacknowledged = counter origin s.released
  next : b.sendNext = counter origin s.sent
  written : b.writeNext = counter origin s.accepted.length
  head : b.head.toNat < b.storage.length
  queue : window b.storage 0#8 b.head.toNat (s.accepted.length - s.released) =
    s.accepted.drop s.released

namespace SendBuffer.Refines

variable {b : SendBuffer} {origin : BitVec 32} {s : SendStream}

variable (h : b.Refines origin s)
include h

theorem flight : b.flightSize.toNat = s.sent - s.released := by
  have := s.released_le
  have := s.sent_le
  have := h.bounded
  have := h.fits
  rw [flightSize, if_pos h.valid, h.next, h.unacknowledged,
    counter_sub origin (by omega) (by omega)]

theorem queued : b.queuedOctets.toNat = s.accepted.length - s.released := by
  have := s.released_le
  have := s.sent_le
  have := h.bounded
  have := h.fits
  rw [queuedOctets, if_pos h.valid, h.written, h.unacknowledged,
    counter_sub origin (by omega) (by omega)]

theorem unsent : b.unsentOctets.toNat = s.accepted.length - s.sent := by
  have := s.released_le
  have := s.sent_le
  have := h.bounded
  have := h.fits
  rw [unsentOctets, if_pos h.valid, h.written, h.next, counter_sub origin (by omega) (by omega)]

theorem writable : b.writableOctets.toNat = s.released + b.storage.length - s.accepted.length := by
  have := s.released_le
  have := s.sent_le
  have := h.bounded
  have := h.fits
  have hq := h.queued
  rw [writableOctets, if_pos h.valid]
  bv_omega

omit h in
theorem create (storage : List Octet) (origin : BitVec 32)
    (valid : (SendBuffer.create storage origin).valid = true) :
    (SendBuffer.create storage origin).Refines origin ⟨[], 0, 0, Nat.le_refl _, Nat.le_refl _⟩ := by
  have hv : 0 < storage.length ∧ storage.length ≤ 0x40000000 := by
    simpa [SendBuffer.create, length_pos_iff] using valid
  have hs : (SendBuffer.create storage origin).storage.length = storage.length := by
    simp only [SendBuffer.create]
    split <;> simp
  exact {
    valid
    nonempty := by rw [hs]; exact hv.1
    bounded := by rw [hs]; exact hv.2
    fits := by simp
    unacknowledged := by simp [SendBuffer.create]
    next := by simp [SendBuffer.create]
    written := by simp [SendBuffer.create]
    head := by rw [hs]; exact hv.1
    queue := by simp [window] }

theorem write (input : List Octet) :
    (b.write input).1.Refines origin
      ⟨s.accepted ++ input.take (b.write input).2, s.released, s.sent, s.released_le,
        by have := s.sent_le; simp; omega⟩ := by
  have hw := h.writable
  have hq := h.queued
  have hr := s.released_le
  have hs := s.sent_le
  simp only [SendBuffer.write]
  by_cases he : (!b.valid || input.isEmpty) = true
  · simpa [he] using h
  · simp only [he, settled, ↓reduceIte]
    have hlen : (input.take (min input.length b.writableOctets.toNat)).length =
        min input.length b.writableOctets.toNat := by simp
    have hfit := h.fits
    have hroom : b.queuedOctets.toNat + (input.take (min input.length
        b.writableOctets.toNat)).length ≤ b.storage.length := by omega
    exact {
      valid := h.valid
      nonempty := by simpa using h.nonempty
      bounded := by simpa using h.bounded
      fits := by
        simp only [length_append, store_length]
        omega
      unacknowledged := h.unacknowledged
      next := h.next
      written := by
        simp [h.written, counter_add]
      head := by simpa using h.head
      queue := by
        dsimp only
        have key := window_store 0#8 b.head.toNat hroom
        rw [hq, h.queue] at key
        rw [drop_append_of_le_length (by omega), ← key, hq]
        congr 1
        simp only [length_append]
        omega }

/-- A current range lies inside the queue, in the flight for a repair and
exactly at SND.NXT for new data. -/
theorem current {range : PreparedSendRange} (hc : b.rangeIsCurrent range = true) :
    range.generation = b.generation ∧ 0 < range.length.toNat ∧
    (range.sequence - b.sendUnacknowledged).toNat + range.length.toNat ≤
      s.accepted.length - s.released ∧
    (range.retransmission = false → range.sequence = b.sendNext ∧
      range.length.toNat ≤ s.accepted.length - s.sent) := by
  have hq := h.queued
  have hu := h.unsent
  unfold rangeIsCurrent at hc
  split at hc
  · cases hc
  rename_i hguard
  simp only [asserted, not_or, Decidable.not_not] at hguard
  dsimp only at hc
  split at hc
  · cases hc
  rename_i hbound
  simp only [asserted] at hbound
  refine ⟨hguard.2, by have := hguard.1.2; bv_omega, by bv_omega, ?_⟩
  intro hn
  simp only [hn, settled, ↓reduceIte, asserted] at hc
  exact ⟨hc.1, by have := hc.2; bv_omega⟩

/-- The stream positions of a current range: a repair lies inside the flight, new
data follows it. -/
theorem current_positions {range : PreparedSendRange} (hc : b.rangeIsCurrent range = true) :
    ∃ first, range.sequence = counter origin first ∧
      range.sequence + range.length = counter origin (first + range.length.toNat) ∧
      0 < range.length.toNat ∧ s.released ≤ first ∧
      (range.retransmission = true → first + range.length.toNat ≤ s.sent) ∧
      (range.retransmission = false → first = s.sent ∧
        first + range.length.toNat ≤ s.accepted.length) := by
  obtain ⟨_, hlen, hqueued, hnew⟩ := h.current hc
  have hf := h.flight
  have hr := s.released_le
  have hsequence : range.sequence = counter origin
      (s.released + (range.sequence - b.sendUnacknowledged).toNat) := by
    rw [counter_add, ← h.unacknowledged, BitVec.ofNat_toNat, BitVec.setWidth_eq]
    bv_omega
  refine ⟨_, hsequence, ?_, hlen, Nat.le_add_right _ _, ?_, ?_⟩
  · rw [counter_add, ← hsequence, BitVec.ofNat_toNat, BitVec.setWidth_eq]
  · intro repair
    simp only [rangeIsCurrent] at hc
    split at hc
    · cases hc
    split at hc
    · cases hc
    simp only [asserted] at hc
    bv_omega
  · intro fresh
    obtain ⟨hnext, hfit⟩ := hnew fresh
    have hflight : (range.sequence - b.sendUnacknowledged).toNat = s.sent - s.released := by
      rw [hnext, ← hf, flightSize, if_pos h.valid]
    omega

theorem commit {range : PreparedSendRange} (hc : b.rangeIsCurrent range = true) :
    ∃ fits, (b.commit range).1.Refines origin
      ⟨s.accepted, s.released,
        if range.retransmission then s.sent else s.sent + range.length.toNat,
        by have := s.released_le; split <;> omega, fits⟩ := by
  have hsent := s.sent_le
  obtain ⟨_, _, _, hnew⟩ := h.current hc
  have fits : (if range.retransmission then s.sent else s.sent + range.length.toNat) ≤
      s.accepted.length := by
    split
    · exact hsent
    rename_i hr
    have := (hnew (by simpa using hr)).2
    omega
  refine ⟨fits, ?_⟩
  simp only [SendBuffer.commit, hc, settled, ↓reduceIte]
  exact { h with
    next := by
      split
      · exact h.next
      · rw [counter_add, ← h.next, BitVec.ofNat_toNat, BitVec.setWidth_eq] }

/-- An acknowledgment is taken exactly when it lies in (SND.UNA, SND.NXT]. -/
theorem acknowledge_range {acknowledgment : BitVec 32}
    (hn : after acknowledgment b.sendNext = false)
    (hu : after acknowledgment b.sendUnacknowledged = true) :
    s.released + (acknowledgment - b.sendUnacknowledged).toNat ≤ s.sent := by
  have hf := h.flight
  rw [flightSize, if_pos h.valid] at hf
  rw [← Bool.not_eq_true, after_iff, sub_offset b.sendUnacknowledged] at hn
  rw [after_iff] at hu
  omega

theorem acknowledge {acknowledgment : BitVec 32} (hn : after acknowledgment b.sendNext = false)
    (hu : after acknowledgment b.sendUnacknowledged = true) :
    (b.acknowledge acknowledgment).1.Refines origin
      ⟨s.accepted, s.released + (acknowledgment - b.sendUnacknowledged).toNat, s.sent,
        h.acknowledge_range hn hu, s.sent_le⟩ := by
  have hrange := h.acknowledge_range hn hu
  have hs := s.sent_le
  have hb := h.bounded
  have hfits := h.fits
  have hhead := h.head
  have hsum : (b.head + (acknowledgment - b.sendUnacknowledged)).toNat =
      b.head.toNat + (acknowledgment - b.sendUnacknowledged).toNat := by bv_omega
  have hmod : (BitVec.ofNat 32 ((b.head + (acknowledgment - b.sendUnacknowledged)).toNat %
      b.storage.length)).toNat =
      (b.head.toNat + (acknowledgment - b.sendUnacknowledged).toNat) % b.storage.length := by
    have := Nat.mod_lt (b.head.toNat + (acknowledgment - b.sendUnacknowledged).toNat) h.nonempty
    rw [BitVec.toNat_ofNat, hsum]
    omega
  simp only [SendBuffer.acknowledge, h.valid, hn, hu, settled, ↓reduceIte]
  exact {
    valid := rfl
    nonempty := by simpa using h.nonempty
    bounded := by simpa using hb
    fits := by simp only [store_length]; omega
    unacknowledged := by
      rw [counter_add, ← h.unacknowledged, BitVec.ofNat_toNat, BitVec.setWidth_eq]
      bv_omega
    next := h.next
    written := h.written
    head := by
      simp only [hmod, store_length]
      exact Nat.mod_lt _ h.nonempty
    queue := by
      have rest := window_drop b.storage 0#8 b.head.toNat
        (n := s.accepted.length - s.released)
        (k := (acknowledgment - b.sendUnacknowledged).toNat) (by omega)
      have kept := @Circular.window_store_before _ b.storage 0#8 b.head.toNat 0
        (s.accepted.length - s.released - (acknowledgment - b.sendUnacknowledged).toNat)
        (List.replicate (acknowledgment - b.sendUnacknowledged).toNat 0#8)
        (by rw [length_replicate]; omega)
      rw [length_replicate, Nat.add_zero] at kept
      rw [hmod, ← drop_drop, ← h.queue, rest, ← kept, Nat.sub_sub] }

end SendBuffer.Refines

end RouterSim.Tcp
