import RouterSim.Tcp.Connection
import RouterSim.Tcp.ReceiveTrace

/-! The window a receiver advertises, as a range of stream positions it has
promised room for. -/
namespace RouterSim.Tcp

open Serial BitVec

/-- The positions from `next` up to `edge` are promised to the peer, and find room
beside the octets the application has not read yet. -/
structure Credit (capacity : Nat) where
  read : Nat
  next : Nat
  edge : Nat
  ordered : read ≤ next
  promised : next ≤ edge
  fits : edge ≤ read + capacity

namespace Credit

variable {capacity : Nat}

/-- Received octets use up the promise; octets past the edge leave none of it. -/
def receive (k : Credit capacity) (octets : Nat) (room : k.next + octets ≤ k.read + capacity) :
    Credit capacity where
  read := k.read
  next := k.next + octets
  edge := max k.edge (k.next + octets)
  ordered := Nat.le_trans k.ordered (Nat.le_add_right ..)
  promised := Nat.le_max_right ..
  fits := Nat.max_le.mpr ⟨k.fits, room⟩

def consume (k : Credit capacity) (octets : Nat) (received : k.read + octets ≤ k.next) :
    Credit capacity where
  read := k.read + octets
  next := k.next
  edge := k.edge
  ordered := received
  promised := k.promised
  fits := Nat.le_trans k.fits (Nat.add_le_add_right (Nat.le_add_right ..) _)

/-- Everything the arena has room for is promised. -/
def extend (k : Credit capacity) : Credit capacity where
  read := k.read
  next := k.next
  edge := k.read + capacity
  ordered := k.ordered
  promised := Nat.le_trans k.promised k.fits
  fits := Nat.le_refl _

/-- The edge moves forward, and by no more than the arena. -/
def Forward (k k' : Credit capacity) : Prop := k.edge ≤ k'.edge ∧ k'.edge ≤ k.edge + capacity

theorem Forward.refl (k : Credit capacity) : k.Forward k :=
  ⟨Nat.le_refl _, Nat.le_add_right ..⟩

theorem forward_receive (k : Credit capacity) {octets : Nat}
    (room : k.next + octets ≤ k.read + capacity) : k.Forward (k.receive octets room) := by
  have := k.ordered
  have := k.promised
  refine ⟨Nat.le_max_left .., Nat.max_le.mpr ⟨Nat.le_add_right .., ?_⟩⟩
  omega

theorem forward_consume_extend (k : Credit capacity) {octets : Nat}
    (received : k.read + octets ≤ k.next) : k.Forward (k.consume octets received).extend := by
  have := k.promised
  have := k.fits
  simp only [Forward, consume, extend]
  omega

end Credit

/-! ## What the receive repository does to its counters -/

namespace ReceiveBuffer

theorem insert_frame (sequence offset : BitVec 32) (index : Nat) (payload : List Octet)
    (b : ReceiveBuffer) (newlyStored : Nat) (firstNew : BitVec 32) :
    ∃ storage receivedBitmap, (insert sequence offset index payload b newlyStored firstNew).1 =
      { b with storage, receivedBitmap } := by
  induction payload generalizing b index newlyStored firstNew with
  | nil => exact ⟨b.storage, b.receivedBitmap, rfl⟩
  | cons octet rest ih =>
    simp only [insert]
    split
    · exact ih ..
    · exact ih (index + 1) (b.storeOctet _ octet) _ _

/-- RCV.NXT moved over octets the arena has room for; nothing else that is counted
moved. -/
structure MovedOver (b b' : ReceiveBuffer) (octets : Nat) : Prop where
  valid : b'.valid = b.valid
  size : b'.storage.length = b.storage.length
  readSequence : b'.readSequence = b.readSequence
  receiveNext : b'.receiveNext = b.receiveNext + BitVec.ofNat 32 octets
  room : (b.receiveNext - b.readSequence).toNat ≤ b.storage.length →
    (b.receiveNext - b.readSequence).toNat + octets ≤ b.storage.length

theorem MovedOver.refl (b : ReceiveBuffer) : b.MovedOver b 0 :=
  ⟨rfl, rfl, rfl, by simp, id⟩

theorem advanceContiguousLoop_moved {b : ReceiveBuffer} (bounded : b.storage.length ≤ 0x40000000)
    (rounds : Nat) : ∃ octets, b.MovedOver (b.advanceContiguousLoop rounds) octets := by
  induction rounds generalizing b with
  | zero => exact ⟨0, .refl b⟩
  | succ rounds ih =>
    unfold advanceContiguousLoop
    dsimp only
    split
    · rename_i inside
      split
      · exact ⟨0, .refl b⟩
      obtain ⟨octets, moved⟩ := ih (b := { b with receiveNext := b.receiveNext + 1#32 }) bounded
      have step : (b.receiveNext + 1#32 - b.readSequence).toNat =
          (b.receiveNext - b.readSequence).toNat + 1 := by bv_omega
      refine ⟨octets + 1, moved.valid, moved.size, moved.readSequence, ?_, fun _ => ?_⟩
      · rw [moved.receiveNext, Nat.add_comm octets, ofNat_add, ← BitVec.add_assoc]
      · have room := moved.room (by dsimp only; omega)
        dsimp only at room
        omega
    · exact ⟨0, .refl b⟩

theorem acceptTrimmed_moved {b : ReceiveBuffer} (bounded : b.storage.length ≤ 0x40000000)
    (sequence : BitVec 32) (payload : List Octet) :
    (∃ octets, b.MovedOver (b.acceptTrimmed sequence payload).1 octets) ∧
    (b.acceptTrimmed sequence payload).2.receiveNext =
      (b.acceptTrimmed sequence payload).1.receiveNext := by
  have size := Refines.acceptTrimmed_storage_length b sequence payload
  unfold acceptTrimmed at size ⊢
  dsimp only at size ⊢
  split
  · exact ⟨⟨0, .refl b⟩, rfl⟩
  refine ⟨?_, rfl⟩
  generalize payload.take _ = taken at size ⊢
  have length := Refines.insert_storage_length sequence (sequence - b.readSequence) 0 taken b 0 0#32
  obtain ⟨storage, bits, stored⟩ := insert_frame sequence (sequence - b.readSequence) 0 taken b 0 0#32
  rw [stored] at size length ⊢
  dsimp only at length
  -- Marking the segment leaves the counters alone.
  split
  · obtain ⟨octets, moved⟩ := advanceContiguousLoop_moved (b := { b with
      storage, receivedBitmap := bits,
      recentSequence := (insert sequence (sequence - b.readSequence) 0 taken b 0 0#32).2.2
      recentSequencePresent := true }) (by dsimp only; omega) storage.length
    exact ⟨octets, moved.valid, moved.size.trans length, moved.readSequence, moved.receiveNext,
      fun room => length ▸ moved.room (length.symm ▸ room)⟩
  · obtain ⟨octets, moved⟩ := advanceContiguousLoop_moved (b := { b with
      storage, receivedBitmap := bits }) (by dsimp only; omega) storage.length
    exact ⟨octets, moved.valid, moved.size.trans length, moved.readSequence, moved.receiveNext,
      fun room => length ▸ moved.room (length.symm ▸ room)⟩

/-- Whatever a segment brings, RCV.NXT moves forward inside the arena. -/
theorem accept_moved {b : ReceiveBuffer} (valid : b.valid = true)
    (bounded : b.storage.length ≤ 0x40000000) (sequence : BitVec 32) (payload : List Octet) :
    (∃ octets, b.MovedOver (b.accept sequence payload).1 octets) ∧
    (b.accept sequence payload).2.receiveNext = (b.accept sequence payload).1.receiveNext := by
  unfold accept
  rw [if_neg (by simp [valid])]
  split
  · exact ⟨⟨0, .refl b⟩, rfl⟩
  split
  · dsimp only
    split
    · exact ⟨⟨0, .refl b⟩, rfl⟩
    · exact acceptTrimmed_moved bounded ..
  · exact acceptTrimmed_moved bounded ..

end ReceiveBuffer

/-! ## The credit a repository and its window stand for -/

/-- The counters of the repository, taken from `origin`, and the advertised window. -/
structure Credit.Shown {capacity : Nat} (k : Credit capacity) (origin : BitVec 32)
    (b : ReceiveBuffer) (w : ReceiveWindow) : Prop where
  bounded : capacity ≤ 0x40000000
  buffer : b.valid = true
  window : w.valid = true
  size : b.storage.length = capacity
  readSequence : b.readSequence = Serial.counter origin k.read
  receiveNext : b.receiveNext = Serial.counter origin k.next
  advertised : w.advertisedOctets = BitVec.ofNat 32 (k.edge - k.next)

namespace Credit.Shown

variable {capacity : Nat} {k : Credit capacity} {origin : BitVec 32} {b : ReceiveBuffer}
  {w : ReceiveWindow}

variable (h : k.Shown origin b w)
include h

theorem unread : (b.receiveNext - b.readSequence).toNat = k.next - k.read := by
  have := h.bounded
  have := k.promised
  have := k.fits
  rw [h.receiveNext, h.readSequence]
  exact counter_sub origin k.ordered (by omega)

theorem offered : w.advertised.toNat = k.edge - k.next := by
  have := h.bounded
  have := k.ordered
  have := k.fits
  rw [ReceiveWindow.advertised, if_pos h.window, h.advertised, toNat_ofNat]
  exact Nat.mod_eq_of_lt (by omega)

/-- The right edge on the wire is the edge of the credit. -/
theorem rightEdge : b.receiveNext + w.advertised = Serial.counter origin k.edge := by
  have promised := k.promised
  have split : k.edge = k.next + (k.edge - k.next) := by omega
  rw [ReceiveWindow.advertised, if_pos h.window, h.advertised, h.receiveNext, split,
    counter_add, ← split]

theorem free : b.advertisedWindow.toNat = capacity - (k.next - k.read) := by
  have := h.bounded
  have := k.promised
  have := k.fits
  have := h.unread
  rw [ReceiveBuffer.advertisedWindow, if_pos h.buffer, h.size]
  bv_omega

theorem advertised_le : w.advertised ≤ b.advertisedWindow := by
  have := k.fits
  have := k.ordered
  rw [le_def, h.offered, h.free]
  omega

omit h in
theorem create {receiveBytes receiveBitmap : List Octet} {mss : BitVec 32}
    (buffer : (ReceiveBuffer.create receiveBytes receiveBitmap origin).valid = true)
    (window : (ReceiveWindow.create (BitVec.ofNat 32 receiveBytes.length) mss).valid = true) :
    (⟨0, 0, receiveBytes.length, Nat.le_refl _, Nat.zero_le _, by omega⟩ :
        Credit receiveBytes.length).Shown origin
      (ReceiveBuffer.create receiveBytes receiveBitmap origin)
      (ReceiveWindow.create (BitVec.ofNat 32 receiveBytes.length) mss) where
  bounded := by
    simp only [ReceiveBuffer.create, asserted] at buffer
    exact buffer.1.2
  buffer := buffer
  window := window
  size := by
    simp only [ReceiveBuffer.create]
    split
    · exact List.length_replicate
    · rfl
  readSequence := (counter_zero origin).symm
  receiveNext := (counter_zero origin).symm
  advertised := rfl

/-- The octets a segment adds to the stream use the credit up. -/
theorem accept (sequence : BitVec 32) (payload : List Octet) :
    ∃ k', k.Forward k' ∧ k'.Shown origin (b.accept sequence payload).1
      (w.receiveNextAdvanced ((b.accept sequence payload).2.receiveNext - b.receiveNext)) := by
  have := h.bounded
  have := k.ordered
  have := k.promised
  have := k.fits
  obtain ⟨⟨octets, moved⟩, result⟩ :=
    ReceiveBuffer.accept_moved h.buffer (by rw [h.size]; exact h.bounded) sequence payload
  have room := moved.room
  rw [h.unread, h.size] at room
  refine ⟨k.receive octets (by omega), k.forward_receive _, h.bounded, moved.valid.trans h.buffer, ?_,
    moved.size.trans h.size, moved.readSequence.trans h.readSequence, ?_, ?_⟩
  · unfold ReceiveWindow.receiveNextAdvanced
    split
    · exact h.window
    · exact h.window
  · rw [moved.receiveNext, h.receiveNext, Credit.receive, counter_add]
  · have advanced : b.receiveNext + BitVec.ofNat 32 octets - b.receiveNext = BitVec.ofNat 32 octets := by
      bv_omega
    have count : (BitVec.ofNat 32 octets).toNat = octets := by
      rw [toNat_ofNat]
      omega
    have offered : (BitVec.ofNat 32 (k.edge - k.next)).toNat = k.edge - k.next := by
      rw [toNat_ofNat]
      omega
    rw [result, moved.receiveNext, advanced]
    simp only [ReceiveWindow.receiveNextAdvanced, h.window, settled, ↓reduceIte, Credit.receive,
      h.advertised, le_def]
    split
    · rw [Nat.max_eq_right (by omega), Nat.sub_self]
    rw [Nat.max_eq_left (by omega)]
    apply eq_of_toNat_eq
    rw [toNat_sub_of_le (by rw [le_def, count, offered]; omega), count, offered,
      toNat_ofNat]
    omega

theorem read (outputSize : Nat) :
    ∃ octets received, (k.consume octets received).Shown origin (b.read outputSize).1 w := by
  have readable : b.readableOctets = k.next - k.read := by
    rw [ReceiveBuffer.readableOctets, if_pos h.buffer, h.unread]
  have := k.ordered
  refine ⟨min outputSize (k.next - k.read), by omega, h.bounded, ?_, h.window, ?_, ?_, ?_,
    h.advertised⟩
  all_goals
    simp only [ReceiveBuffer.read, h.buffer, settled, ↓reduceIte, readable]
  · exact h.size
  · rw [h.readSequence, Credit.consume, counter_add]
  · exact h.receiveNext

/-- Room that a read made is promised in full or, while there is little of it, not at all. -/
theorem extend : (w.applicationSpaceAvailable b.advertisedWindow).1 = w ∨
    k.extend.Shown origin b (w.applicationSpaceAvailable b.advertisedWindow).1 := by
  unfold ReceiveWindow.applicationSpaceAvailable
  split
  · exact .inl rfl
  have := k.ordered
  refine .inr ⟨h.bounded, h.buffer, h.window, h.size, h.readSequence, h.receiveNext, ?_⟩
  apply eq_of_toNat_eq
  dsimp only [Credit.extend]
  rw [h.free, toNat_ofNat]
  have := h.bounded
  omega

/-- Room for the octets stays when other hands write to the arenas. -/
theorem share {stored : ReceiveBuffer} (size : stored.storage.length = b.storage.length) :
    k.Shown origin (b.share stored) w :=
  ⟨h.bounded, h.buffer, h.window, size.trans h.size, h.readSequence, h.receiveNext, h.advertised⟩

end Credit.Shown

end RouterSim.Tcp
