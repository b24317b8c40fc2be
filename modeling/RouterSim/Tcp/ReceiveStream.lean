import RouterSim.Tcp.ReceiveBuffer

namespace RouterSim.Tcp

open List Serial BitVec

/-- What a receiver knows of a stream: the position read up to, the position
received up to, and every position received so far. -/
structure Reassembly where
  read : Nat
  next : Nat
  received : Nat → Bool

/-- RCV.NXT rests at a hole or at the right edge of the window. -/
def Reassembly.Rests (m : Reassembly) (edge : Nat) : Prop := m.next = edge ∨ m.received m.next = false

/-- Positions `start` up to `start + length` that lie inside the window. -/
def arrived (start length edge p : Nat) : Bool :=
  decide (start ≤ p) && decide (p < start + length) && decide (p < edge)

/-- The positions a segment brings that lie inside the window. -/
def brought (start : Int) (length edge p : Nat) : Bool :=
  decide (start ≤ p) && decide ((p : Int) < start + length) && decide (p < edge)

/-- The stream position a sequence number stands for: the one nearest RCV.NXT. -/
def ReceiveBuffer.position (b : ReceiveBuffer) (next : Nat) (sequence : BitVec 32) : Int :=
  if Serial.before sequence b.receiveNext then next - (b.receiveNext - sequence).toNat
  else next + (sequence - b.receiveNext).toNat

/-- The arena holds the octets of `stream` at the received positions of the window
that starts at the read position, and the bitmap says which those are. -/
structure ReceiveBuffer.Refines (b : ReceiveBuffer) (origin : BitVec 32)
    (stream : BitVec 32 → Octet) (m : Reassembly) : Prop where
  valid : b.valid = true
  nonempty : 0 < b.storage.length
  bounded : b.storage.length ≤ 0x40000000
  bitmap : b.receivedBitmap.length = (b.storage.length + 7) / 8
  readSequence : b.readSequence = Serial.counter origin m.read
  receiveNext : b.receiveNext = Serial.counter origin m.next
  ordered : m.read ≤ m.next
  fits : m.next ≤ m.read + b.storage.length
  bits : ∀ o, o < b.storage.length →
    b.received (Circular.slot b.storage.length b.head.toNat o) = m.received (m.read + o)
  octets : ∀ o, o < b.storage.length → m.received (m.read + o) = true →
    b.storage.getD (Circular.slot b.storage.length b.head.toNat o) 0#8 =
      stream (Serial.counter origin (m.read + o))
  window : ∀ p, m.received p = true → p < m.read + b.storage.length
  contiguous : ∀ p, p < m.next → m.received p = true

variable {receivedBitmap storage : List Octet}

namespace ReceiveBuffer.Refines

variable {b : ReceiveBuffer} {origin : BitVec 32} {stream : BitVec 32 → Octet} {m : Reassembly}

theorem create (valid : (ReceiveBuffer.create storage receivedBitmap origin).valid = true) :
    (ReceiveBuffer.create storage receivedBitmap origin).Refines origin stream
      ⟨0, 0, fun _ => false⟩ := by
  have shape := valid
  simp only [ReceiveBuffer.create, asserted] at shape
  obtain ⟨⟨nonempty, bounded⟩, bitmap⟩ := shape
  have hpos : 0 < storage.length := by
    cases storage with
    | nil => simp at nonempty
    | cons _ _ => simp
  have hb : ReceiveBuffer.create storage receivedBitmap origin =
      { storage := List.replicate storage.length 0#8
        receivedBitmap := List.replicate receivedBitmap.length 0#8, readSequence := origin,
        receiveNext := origin, valid := true } := by
    simp [ReceiveBuffer.create, nonempty, bounded, bitmap]
  rw [hb]
  constructor
  case octets => intro o _ h; cases h
  case bits => intro o _; exact Bitmap.get_replicate_zero _ _
  case contiguous => intro p hp; exact absurd hp (Nat.not_lt_zero p)
  all_goals simp_all

section

variable (h : b.Refines origin stream m)
include h

theorem readable : b.readableOctets = m.next - m.read := by
  have := h.fits
  have := h.bounded
  rw [readableOctets, if_pos h.valid, h.receiveNext, h.readSequence,
    counter_sub origin h.ordered (by omega)]

theorem advertised : b.advertisedWindow.toNat + b.readableOctets = b.storage.length := by
  have hr := h.readable
  have := h.fits
  have := h.bounded
  simp only [readableOctets, advertisedWindow, h.valid, ↓reduceIte] at hr ⊢
  bv_omega

/-- Storing the stream's octet in a hole of the window receives that position. -/
theorem storeOctet {o : Nat} (ho : o < b.storage.length) :
    (b.storeOctet (Circular.slot b.storage.length b.head.toNat o)
      (stream (Serial.counter origin (m.read + o)))).Refines origin stream
      { m with received := fun p => m.received p || p == m.read + o } := by
  have hslot := Circular.slot_lt h.nonempty b.head.toNat o
  have hbitmap := h.bitmap
  constructor
  case valid => exact h.valid
  case readSequence => exact h.readSequence
  case receiveNext => exact h.receiveNext
  case ordered => exact h.ordered
  case nonempty => simpa [ReceiveBuffer.storeOctet] using h.nonempty
  case bounded => simpa [ReceiveBuffer.storeOctet] using h.bounded
  case bitmap => simpa [ReceiveBuffer.storeOctet] using h.bitmap
  case fits => simpa [ReceiveBuffer.storeOctet] using h.fits
  case contiguous => intro p hp; simp [h.contiguous p hp]
  case bits =>
    intro o' ho'
    simp only [ReceiveBuffer.storeOctet, length_set] at ho' ⊢
    have hold := h.bits o' ho'
    simp only [received] at hold ⊢
    rw [Bitmap.get_set true (by omega), hold]
    by_cases heq : o' = o
    · simp [heq]
    · rw [if_neg (fun hs => heq (Circular.slot_inj ho' ho hs))]
      simp [heq]
  case octets =>
    intro o' ho' hr
    simp only [ReceiveBuffer.storeOctet, length_set] at ho' ⊢
    by_cases heq : o' = o
    · simp [heq, hslot]
    · have hne : Circular.slot b.storage.length b.head.toNat o ≠
          Circular.slot b.storage.length b.head.toNat o' := fun hs => heq (Circular.slot_inj ho' ho hs.symm)
      have hr' : m.received (m.read + o') = true := by simpa [heq] using hr
      rw [← h.octets o' ho' hr', getD_eq_getElem?_getD, List.getElem?_set_ne hne,
        ← getD_eq_getElem?_getD]
  case window =>
    intro p hp
    simp only [ReceiveBuffer.storeOctet, length_set]
    rcases Bool.or_eq_true_iff.mp hp with old | new
    · exact h.window p old
    · have := beq_iff_eq.mp new
      omega

/-- Receiving is a set union, so positions already received add nothing. -/
theorem congr (received : Nat → Bool) (same : ∀ p, received p = m.received p) :
    b.Refines origin stream { m with received } := by
  have : received = m.received := funext same
  exact this ▸ h

theorem physical_index {offset : BitVec 32} {index : Nat}
    (inside : offset.toNat + index < b.storage.length) :
    b.physical (offset + BitVec.ofNat 32 index) =
      Circular.slot b.storage.length b.head.toNat (offset.toNat + index) := by
  have hbound := h.bounded
  rw [physical, show (offset + BitVec.ofNat 32 index).toNat = offset.toNat + index by bv_omega]

end

theorem insert_storage_length (sequence offset : BitVec 32) (index : Nat) (payload : List Octet)
    (b : ReceiveBuffer) (newlyStored : Nat) (firstNew : BitVec 32) :
    (ReceiveBuffer.insert sequence offset index payload b newlyStored firstNew).1.storage.length =
      b.storage.length := by
  induction payload generalizing b index newlyStored firstNew with
  | nil => rfl
  | cons octet rest ih =>
    simp only [ReceiveBuffer.insert]
    split
    · exact ih _ _ _ _
    · rw [ih]
      simp [ReceiveBuffer.storeOctet]

variable {payload : List Octet} {sequence : BitVec 32}

theorem insert (sequence : BitVec 32) {offset : BitVec 32} {index : Nat}
    (h : b.Refines origin stream m) (newlyStored : Nat) (firstNew : BitVec 32)
    (fits : offset.toNat + index + payload.length ≤ b.storage.length)
    (agrees : ∀ i octet, payload[i]? = some octet →
      octet = stream (Serial.counter origin (m.read + (offset.toNat + index + i)))) :
    (ReceiveBuffer.insert sequence offset index payload b newlyStored firstNew).1.Refines
      origin stream
      { m with
        received := fun p => m.received p || (decide (m.read + (offset.toNat + index) ≤ p) &&
          decide (p < m.read + (offset.toNat + index) + payload.length)) } := by
  induction payload generalizing b m index newlyStored firstNew with
  | nil =>
    refine h.congr _ fun p => ?_
    have none : (decide (m.read + (offset.toNat + index) ≤ p) &&
        decide (p < m.read + (offset.toNat + index) + ([] : List Octet).length)) = false := by
      simp
    rw [none, Bool.or_false]
  | cons octet rest ih =>
    simp only [length_cons] at fits
    have ho : offset.toNat + index < b.storage.length := by omega
    have hrest : ∀ i x, rest[i]? = some x →
        x = stream (Serial.counter origin (m.read + (offset.toNat + (index + 1) + i))) := by
      intro i x hx
      have := agrees (i + 1) x (by simpa using hx)
      rwa [show offset.toNat + index + (i + 1) = offset.toNat + (index + 1) + i by omega] at this
    simp only [ReceiveBuffer.insert, h.physical_index ho]
    split
    · rename_i present
      rw [h.bits _ ho] at present
      refine (ih h newlyStored firstNew (by omega) hrest).congr _ fun p => ?_
      by_cases hp : p = m.read + (offset.toNat + index)
      · simp [hp, present]
      · congr 1
        rw [Bool.eq_iff_iff]
        simp
        omega
    · have hoctet := agrees 0 octet rfl
      rw [hoctet]
      have stored := h.storeOctet ho
      refine (ih stored (newlyStored + 1) _ ?_ hrest).congr _ fun p => ?_
      · simp [ReceiveBuffer.storeOctet]
        omega
      · dsimp only
        rw [Bool.or_assoc]
        congr 1
        rw [Bool.eq_iff_iff]
        simp
        omega

section

variable (h : b.Refines origin stream m)
include h

/-- The advance moves RCV.NXT over received positions and stops at a hole or at
the right edge. -/
theorem advanceContiguousLoop (rounds : Nat) (enough : m.read + b.storage.length ≤ m.next + rounds) :
    ∃ next, (b.advanceContiguousLoop rounds).Refines origin stream { m with next } ∧
      (next = m.read + b.storage.length ∨ m.received next = false) := by
  induction rounds generalizing b m with
  | zero =>
    have := h.fits
    exact ⟨m.next, h, Or.inl (by omega)⟩
  | succ rounds ih =>
    have hfits := h.fits
    have hbound := h.bounded
    have hoffset : (b.receiveNext - b.readSequence).toNat = m.next - m.read := by
      rw [h.receiveNext, h.readSequence, counter_sub origin h.ordered (by omega)]
    have hle := h.ordered
    simp only [ReceiveBuffer.advanceContiguousLoop, physical, hoffset]
    by_cases hedge : m.next - m.read < b.storage.length
    · have hbit := h.bits _ hedge
      rw [show m.read + (m.next - m.read) = m.next by omega] at hbit
      simp only [hedge, hbit]
      cases hr : m.received m.next with
      | false =>
        exact ⟨m.next, h, Or.inr hr⟩
      | true =>
        have moved : ReceiveBuffer.Refines { b with receiveNext := b.receiveNext + 1#32 } origin
            stream { m with next := m.next + 1 } :=
          { h with
            receiveNext := by rw [h.receiveNext, counter_add]
            ordered := by dsimp only; omega
            fits := by dsimp only; omega
            contiguous := by
              intro p hp
              rcases Nat.lt_succ_iff_lt_or_eq.mp hp with old | rfl
              · exact h.contiguous p old
              · exact hr }
        exact @ih _ { m with next := m.next + 1 } moved (by dsimp only; omega)
    · simp [hedge]
      exact ⟨m.next, h, Or.inl (by omega)⟩

theorem marked (recentSequence : BitVec 32) (recentSequencePresent : Bool) :
    ReceiveBuffer.Refines { b with recentSequence, recentSequencePresent } origin stream m :=
  { h with }

/-- Where text stands in the window and in the stream, by how far it lies ahead. -/
theorem place {ahead : Nat} (distance : (sequence - b.receiveNext).toNat = ahead)
    (near : ahead ≤ 0x80000000) :
    (sequence - b.readSequence).toNat = m.next - m.read + ahead ∧
      sequence = Serial.counter origin (m.next + ahead) := by
  have hfits := h.fits
  have hbound := h.bounded
  have hle := h.ordered
  have hspan : (b.receiveNext - b.readSequence).toNat = m.next - m.read := by
    rw [h.receiveNext, h.readSequence, counter_sub origin h.ordered (by omega)]
  refine ⟨by bv_omega, ?_⟩
  rw [← distance, counter_add, ← h.receiveNext, ofNat_toNat, setWidth_eq]
  bv_omega

omit h in
theorem take_agrees (count : Nat)
    (agrees : ∀ i octet, payload[i]? = some octet →
      octet = stream (sequence + BitVec.ofNat 32 i)) (i : Nat) (octet : Octet)
    (found : (payload.take count)[i]? = some octet) :
    octet = stream (sequence + BitVec.ofNat 32 i) := by
  apply agrees
  rw [List.getElem?_take] at found
  split at found
  · exact found
  · cases found

omit h in
theorem drop_agrees (agrees : ∀ i octet, payload[i]? = some octet →
      octet = stream (sequence + BitVec.ofNat 32 i)) (i : Nat) (octet : Octet)
    (found : (payload.drop (b.receiveNext - sequence).toNat)[i]? = some octet) :
    octet = stream (b.receiveNext + BitVec.ofNat 32 i) := by
  rw [List.getElem?_drop] at found
  rw [agrees _ octet found, ofNat_add, ofNat_toNat, setWidth_eq]
  congr 1
  bv_omega

theorem acceptTrimmed (rests : m.Rests (m.read + b.storage.length)) {ahead : Nat}
    (distance : (sequence - b.receiveNext).toNat = ahead) (near : ahead ≤ 0x80000000)
    (agrees : ∀ i octet, payload[i]? = some octet → octet = stream (sequence + BitVec.ofNat 32 i)) :
    ∃ next,
      let m' : Reassembly := { m with
        next, received := fun p => m.received p ||
          arrived (m.next + ahead) payload.length (m.read + b.storage.length) p }
      (b.acceptTrimmed sequence payload).1.Refines origin stream m' ∧
        m'.Rests (m.read + b.storage.length) := by
  have hle := h.ordered
  obtain ⟨hoffset, hsequence⟩ := h.place distance near
  simp only [ReceiveBuffer.acceptTrimmed, hoffset]
  split
  · have none : ∀ p, arrived (m.next + ahead) payload.length (m.read + b.storage.length) p =
        false := by
      intro p
      simp [arrived]
      omega
    refine ⟨m.next, h.congr _ fun p => by simp [none], ?_⟩
    simpa [none] using rests
  · have stored := @insert b origin stream m
      (payload.take (min payload.length (b.storage.length - (m.next - m.read + ahead)))) sequence
      (sequence - b.readSequence) 0 h 0 0#32 (by rw [length_take]; omega) (by
        intro i octet hi
        rw [take_agrees _ agrees i octet hi, hoffset, hsequence, ← counter_add]
        congr 2
        omega)
    have same : ∀ p, arrived (m.next + ahead) payload.length (m.read + b.storage.length) p =
        (decide (m.read + ((sequence - b.readSequence).toNat + 0) ≤ p) &&
          decide (p < m.read + ((sequence - b.readSequence).toNat + 0) + (payload.take
            (min payload.length (b.storage.length - (m.next - m.read + ahead)))).length)) := by
      intro p
      rw [hoffset, length_take, arrived, Bool.eq_iff_iff]
      simp only [asserted]
      omega
    have union := stored.congr (fun p => m.received p ||
      arrived (m.next + ahead) payload.length (m.read + b.storage.length) p) (by
        intro p
        simp [same])
    have hlength := insert_storage_length sequence (sequence - b.readSequence) 0
      (payload.take (min payload.length (b.storage.length - (m.next - m.read + ahead)))) b 0 0#32
    generalize ReceiveBuffer.insert sequence (sequence - b.readSequence) 0
      (payload.take (min payload.length (b.storage.length - (m.next - m.read + ahead))))
      b 0 0#32 = result at union hlength
    obtain ⟨stored, newlyStored, firstNew⟩ := result
    split
    · obtain ⟨next, refines, rest⟩ := (union.marked firstNew true).advanceContiguousLoop
        stored.storage.length (by dsimp only; omega)
      exact ⟨next, refines, by simpa only [Reassembly.Rests, hlength] using rest⟩
    · obtain ⟨next, refines, rest⟩ := union.advanceContiguousLoop
        stored.storage.length (by dsimp only; omega)
      exact ⟨next, refines, by simpa only [Reassembly.Rests, hlength] using rest⟩

omit h in
theorem acceptTrimmed_storage_length (b : ReceiveBuffer) (sequence : BitVec 32)
    (payload : List Octet) :
    (b.acceptTrimmed sequence payload).1.storage.length = b.storage.length := by
  have loop : ∀ (rounds : Nat) (b : ReceiveBuffer),
      (b.advanceContiguousLoop rounds).storage = b.storage := by
    intro rounds
    induction rounds with
    | zero => intro b; rfl
    | succ rounds ih =>
      intro b
      simp only [ReceiveBuffer.advanceContiguousLoop]
      split
      · split
        · rfl
        · exact ih _
      · rfl
  simp only [ReceiveBuffer.acceptTrimmed]
  split
  · rfl
  · simp only [advanceContiguous, loop]
    split <;> exact insert_storage_length _ _ _ _ _ _ _

omit h in
theorem accept_storage_length (b : ReceiveBuffer) (sequence : BitVec 32) (payload : List Octet) :
    (b.accept sequence payload).1.storage.length = b.storage.length := by
  unfold ReceiveBuffer.accept
  split
  · rfl
  split
  · rfl
  split
  · dsimp only
    split
    · rfl
    · exact acceptTrimmed_storage_length _ _ _
  · exact acceptTrimmed_storage_length _ _ _

theorem accept (rests : m.Rests (m.read + b.storage.length))
    (agrees : ∀ i octet, payload[i]? = some octet → octet = stream (sequence + BitVec.ofNat 32 i)) :
    ∃ next,
      let m' : Reassembly := { m with
        next, received := fun p => m.received p ||
          brought (b.position m.next sequence) payload.length (m.read + b.storage.length) p }
      (b.accept sequence payload).1.Refines origin stream m' ∧
        m'.Rests (m.read + b.storage.length) := by
  have stays : (∀ p, brought (b.position m.next sequence) payload.length
      (m.read + b.storage.length) p = true → m.received p = true) →
      ∃ next,
        let m' : Reassembly := { m with
          next, received := fun p => m.received p ||
            brought (b.position m.next sequence) payload.length (m.read + b.storage.length) p }
        b.Refines origin stream m' ∧ m'.Rests (m.read + b.storage.length) := by
    intro old
    have same : ∀ p, (m.received p || brought (b.position m.next sequence) payload.length
        (m.read + b.storage.length) p) = m.received p := by
      intro p
      cases hb : brought (b.position m.next sequence) payload.length
        (m.read + b.storage.length) p with
      | false => simp
      | true => simp [old p hb]
    exact ⟨m.next, h.congr _ same, by simpa [Reassembly.Rests, same] using rests⟩
  simp only [ReceiveBuffer.accept, h.valid, settled, ↓reduceIte]
  split
  · rename_i empty
    refine stays fun p hp => ?_
    rw [isEmpty_iff.mp empty] at hp
    simp [brought] at hp
    omega
  · split
    · rename_i before
      have hpos : b.position m.next sequence = m.next - (b.receiveNext - sequence).toNat := by
        rw [ReceiveBuffer.position, if_pos before]
      split
      · refine stays fun p hp => h.contiguous p ?_
        simp only [brought, asserted] at hp
        omega
      · rename_i partly
        have trimmed := @acceptTrimmed b origin stream m
          (payload.drop (b.receiveNext - sequence).toNat) b.receiveNext h rests 0 (by simp)
          (by decide) (drop_agrees agrees)
        have same : (fun p => m.received p || arrived (m.next + 0)
            (payload.drop (b.receiveNext - sequence).toNat).length (m.read + b.storage.length) p) =
            fun p => m.received p || brought (b.position m.next sequence) payload.length
              (m.read + b.storage.length) p := by
          funext p
          by_cases hp : p < m.next
          · simp [h.contiguous p hp]
          · congr 1
            rw [hpos, Bool.eq_iff_iff]
            simp only [arrived, brought, length_drop, asserted]
            omega
        rw [same] at trimmed
        exact trimmed
    · rename_i notBefore
      have near : (sequence - b.receiveNext).toNat ≤ 0x80000000 := by
        rw [before_iff] at notBefore
        bv_omega
      have whole := acceptTrimmed h rests rfl near agrees
      have same : (fun p => m.received p || arrived (m.next + (sequence - b.receiveNext).toNat)
          payload.length (m.read + b.storage.length) p) =
          fun p => m.received p || brought (b.position m.next sequence) payload.length
            (m.read + b.storage.length) p := by
        funext p
        rw [ReceiveBuffer.position, if_neg notBefore]
        congr 1
        rw [Bool.eq_iff_iff]
        simp only [arrived, brought, asserted]
        omega
      rw [same] at whole
      exact whole

end

theorem read_clears {count : Nat} (h : b.Refines origin stream m) (hcount : count ≤ b.storage.length)
    {o : Nat} (ho : o < b.storage.length) :
    Bitmap.get (((List.range count).map fun index => b.physical (BitVec.ofNat 32 index)).foldl
        (fun bits position => Bitmap.set bits position false) b.receivedBitmap)
      (Circular.slot b.storage.length b.head.toNat (count + o)) =
        m.received (m.read + (count + o)) := by
  have hbitmap := h.bitmap
  have hbound := h.bounded
  have hphysical : ∀ i, i < count → b.physical (BitVec.ofNat 32 i) =
      Circular.slot b.storage.length b.head.toNat i := by
    intro i hi
    rw [physical, toNat_ofNat, Nat.mod_eq_of_lt (by omega)]
  rw [Bitmap.get_clear _ (by
    intro j hj
    obtain ⟨i, _, rfl⟩ := mem_map.mp hj
    have := Circular.slot_lt h.nonempty b.head.toNat (BitVec.ofNat 32 i).toNat
    simp only [physical]
    omega)]
  by_cases hwrap : count + o < b.storage.length
  · rw [if_neg, ← h.bits _ hwrap]
    · rfl
    · intro hmem
      obtain ⟨i, hi, heq⟩ := mem_map.mp hmem
      have hlt := mem_range.mp hi
      rw [hphysical i hlt] at heq
      have := Circular.slot_inj (by omega) hwrap heq
      omega
  · have hlast : m.received (m.read + (count + o)) = false := by
      cases hr : m.received (m.read + (count + o)) with
      | false => rfl
      | true =>
        have := h.window _ hr
        omega
    rw [if_pos, hlast]
    refine mem_map.mpr ⟨count + o - b.storage.length, mem_range.mpr (by omega), ?_⟩
    rw [hphysical _ (by omega), Circular.slot, Circular.slot,
      show b.head.toNat + (count + o) =
        b.head.toNat + (count + o - b.storage.length) + b.storage.length by omega,
      Nat.add_mod_right]

/-- A read yields the next octets of the stream and slides the window over them. -/
theorem read (h : b.Refines origin stream m) (outputSize : Nat) :
    (b.read outputSize).2 = (List.range (min outputSize (m.next - m.read))).map
        (fun i => stream (Serial.counter origin (m.read + i))) ∧
      (b.read outputSize).1.Refines origin stream
        { m with read := m.read + min outputSize (m.next - m.read) } := by
  have hfits := h.fits
  have hbound := h.bounded
  have hle := h.ordered
  have hnonempty := h.nonempty
  have hreadable := h.readable
  simp only [ReceiveBuffer.read, h.valid, settled, ↓reduceIte, hreadable]
  generalize hcount : min outputSize (m.next - m.read) = count
  have hhead : (BitVec.ofNat 32 ((b.head.toNat + count) % b.storage.length)).toNat =
      (b.head.toNat + count) % b.storage.length := by
    have := Nat.mod_lt (b.head.toNat + count) hnonempty
    rw [toNat_ofNat]
    omega
  constructor
  · rw [map_map]
    apply map_congr_left
    intro i hi
    have hlt := mem_range.mp hi
    simp only [Function.comp_apply, physical, toNat_ofNat]
    rw [Nat.mod_eq_of_lt (by omega), h.octets i (by omega) (h.contiguous _ (by omega))]
  · constructor
    case valid => rfl
    case nonempty => exact hnonempty
    case bounded => exact hbound
    case bitmap => exact (Bitmap.length_clear _ _).trans h.bitmap
    case readSequence => rw [h.readSequence, counter_add]
    case receiveNext => exact h.receiveNext
    case ordered => dsimp only; omega
    case fits => dsimp only; omega
    case contiguous => exact h.contiguous
    case window =>
      intro p hp
      have := h.window p hp
      dsimp only
      omega
    case bits =>
      intro o ho
      rw [hhead, Circular.slot_advance, Nat.add_assoc]
      exact h.read_clears (by omega) ho
    case octets =>
      intro o ho hr
      dsimp only at hr ⊢
      have := h.window _ hr
      rw [Nat.add_assoc] at hr ⊢
      rw [hhead, Circular.slot_advance]
      exact h.octets _ (by omega) hr

end ReceiveBuffer.Refines

/-- A receive repository with the octets read from it and the positions received. -/
structure ReceiveHistory where
  buffer : ReceiveBuffer
  outputs : List Octet := []
  received : Nat → Bool := fun _ => false

inductive ReceiveOp
  | accept (sequence : BitVec 32) (payload : List Octet)
  | read (outputSize : Nat)

/-- The payload carries the stream's octets at its sequence numbers. -/
def ReceiveOp.Agrees (stream : BitVec 32 → Octet) : ReceiveOp → Prop
  | .accept sequence payload => ∀ i octet, payload[i]? = some octet →
      octet = stream (sequence + BitVec.ofNat 32 i)
  | .read _ => True

namespace ReceiveHistory

def start (storage receivedBitmap : List Octet) (origin : BitVec 32) : ReceiveHistory :=
  { buffer := ReceiveBuffer.create storage receivedBitmap origin }

/-- The stream position RCV.NXT stands at. -/
def next (t : ReceiveHistory) : Nat := t.outputs.length + t.buffer.readableOctets

/-- The right edge of the window. -/
def edge (t : ReceiveHistory) : Nat := t.outputs.length + t.buffer.storage.length

def step (t : ReceiveHistory) : ReceiveOp → ReceiveHistory
  | .accept sequence payload =>
    { t with
      buffer := (t.buffer.accept sequence payload).1, received := fun p => t.received p ||
        brought (t.buffer.position t.next sequence) payload.length t.edge p }
  | .read outputSize =>
    let (buffer, output) := t.buffer.read outputSize
    { t with buffer, outputs := t.outputs ++ output }

structure Inv (origin : BitVec 32) (stream : BitVec 32 → Octet) (capacity : Nat)
    (t : ReceiveHistory) : Prop where
  capacity : t.buffer.storage.length = capacity
  refines : t.buffer.Refines origin stream ⟨t.outputs.length, t.next, t.received⟩
  rests : Reassembly.Rests ⟨t.outputs.length, t.next, t.received⟩ t.edge
  outputs : t.outputs = (List.range t.outputs.length).map fun i => stream (Serial.counter origin i)

variable {origin : BitVec 32} {stream : BitVec 32 → Octet} {capacity : Nat} {t : ReceiveHistory}

theorem start_inv (valid : (ReceiveBuffer.create storage receivedBitmap origin).valid = true) :
    (start storage receivedBitmap origin).Inv origin stream storage.length := by
  have refines := @ReceiveBuffer.Refines.create _ _ origin stream valid
  have hnext : (start storage receivedBitmap origin).next = 0 := by
    rw [next, start, refines.readable]
    rfl
  refine ⟨?_, ?_, Or.inr rfl, rfl⟩
  · simp [start, ReceiveBuffer.create]
    split <;> simp
  · rw [hnext]
    exact refines

theorem step_inv (h : t.Inv origin stream capacity) (op : ReceiveOp) (agrees : op.Agrees stream) :
    (t.step op).Inv origin stream capacity := by
  cases op with
  | accept sequence payload =>
    obtain ⟨next, refines, rests⟩ := h.refines.accept h.rests agrees
    have hlength := ReceiveBuffer.Refines.accept_storage_length t.buffer sequence payload
    have hnext : (t.step (.accept sequence payload)).next = next := by
      have hr := refines.readable
      have hle := refines.ordered
      simp only [ReceiveHistory.next, step] at hr hle ⊢
      omega
    refine ⟨hlength.trans h.capacity, ?_, ?_, h.outputs⟩
    · rw [hnext]
      exact refines
    · rw [hnext, edge]
      simp only [step, hlength]
      exact rests
  | read outputSize =>
    obtain ⟨output, refines⟩ := h.refines.read outputSize
    have hlength : (t.buffer.read outputSize).1.storage = t.buffer.storage := by
      simp only [ReceiveBuffer.read]
      split <;> rfl
    have hcount : (t.buffer.read outputSize).2.length =
        min outputSize (t.next - t.outputs.length) := by
      rw [output]
      simp
    have hnext : (t.step (.read outputSize)).next = t.next := by
      have hr := refines.readable
      have hle := refines.ordered
      simp only [ReceiveHistory.next, step, length_append, hcount] at hr hle ⊢
      omega
    refine ⟨?_, ?_, ?_, ?_⟩
    · exact (congrArg List.length hlength).trans h.capacity
    · rw [hnext]
      simp only [step, length_append, hcount]
      exact refines
    · rw [hnext]
      rcases h.rests with atEdge | hole
      · right
        cases hr : t.received t.next with
        | false => exact hr
        | true =>
          have inside := h.refines.window t.next hr
          dsimp only [edge] at atEdge inside
          omega
      · exact Or.inr hole
    · simp [step, range_add]
      rw [← h.outputs, output]
      simp

theorem run_inv (valid : (ReceiveBuffer.create storage receivedBitmap origin).valid = true)
    {ops : List ReceiveOp} (agree : ∀ op ∈ ops, op.Agrees stream) :
    (Runs.run step (start storage receivedBitmap origin) ops).Inv origin stream storage.length :=
  Runs.invariant_of_forall (P := Inv origin stream storage.length)
    (fun _ op h ok => step_inv h op ok) (start_inv valid) agree

end ReceiveHistory

/-- However the segments of a stream arrive, what was read is a prefix of the
stream, RCV.NXT is the first position not received or the right edge of the
window, and the advertised window is the room left in the arena. -/
theorem receive_stream_correct (storage receivedBitmap : List Octet) (origin : BitVec 32)
    (valid : (ReceiveBuffer.create storage receivedBitmap origin).valid = true)
    (stream : BitVec 32 → Octet) (ops : List ReceiveOp) (agree : ∀ op ∈ ops, op.Agrees stream) :
    let t := Runs.run ReceiveHistory.step (ReceiveHistory.start storage receivedBitmap origin) ops
    (∀ i, i < t.outputs.length → t.outputs[i]? = some (stream (origin + BitVec.ofNat 32 i))) ∧
    t.buffer.receiveNext = origin + BitVec.ofNat 32 t.next ∧
    (∀ p, p < t.next → t.received p = true) ∧
    (t.received t.next = false ∨ t.next = t.outputs.length + storage.length) ∧
    t.buffer.advertisedWindow.toNat + t.buffer.readableOctets = storage.length := by
  intro t
  have inv : t.Inv origin stream storage.length := ReceiveHistory.run_inv valid agree
  refine ⟨?_, inv.refines.receiveNext, inv.refines.contiguous, ?_, ?_⟩
  · intro i hi
    rw [inv.outputs, List.getElem?_map, List.getElem?_range (by simpa using hi)]
    rfl
  · rcases inv.rests with atEdge | hole
    · right
      rw [← inv.capacity]
      exact atEdge
    · exact Or.inl hole
  · rw [← inv.capacity]
    exact inv.refines.advertised

/-- A late first octet: the two octets after it arrive before it does. -/
theorem receive_stream_correct_out_of_order :
    let t := Runs.run ReceiveHistory.step (ReceiveHistory.start [0#8, 0#8, 0#8] [0#8] 0xffffffff#32)
      [.accept 0#32 [0#8, 1#8], .accept 0xffffffff#32 [255#8], .read 2]
    t.outputs[1]? = some 0#8 :=
  (receive_stream_correct [0#8, 0#8, 0#8] [0#8] 0xffffffff#32 (by decide) (fun x => x.setWidth 8)
    [.accept 0#32 [0#8, 1#8], .accept 0xffffffff#32 [255#8], .read 2] (by
      intro op hop
      simp only [mem_cons, not_mem_nil, settled] at hop
      rcases hop with rfl | rfl | rfl
      · intro i octet hi
        match i with
        | 0 => simp_all
        | 1 => simp_all
        | i + 2 => simp at hi
      · intro i octet hi
        match i with
        | 0 => simp_all
        | i + 1 => simp at hi
      · trivial)).1 1 (by decide)

end RouterSim.Tcp
