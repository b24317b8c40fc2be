import RouterSim.Tcp.ReceiveStream
import RouterSim.Tcp.Checkpoint

/-! What a receive repository has received, whatever the octets are: the bits of
its window, RCV.NXT and the segment that stored something last. -/
namespace RouterSim.Tcp

open List Serial ReceiveBuffer

namespace ReceiveBuffer

/-! ## Forgetting the octets -/

/-- The repository with every octet it holds set to zero. -/
def blank (b : ReceiveBuffer) : ReceiveBuffer :=
  { b with storage := List.replicate b.storage.length 0#8 }

def zeros (payload : List Octet) : List Octet := List.replicate payload.length 0#8

section

variable (b : ReceiveBuffer)

@[simp] theorem blank_length : b.blank.storage.length = b.storage.length := by
  simp [blank]

@[simp] theorem blank_valid : b.blank.valid = b.valid := rfl

@[simp] theorem blank_readSequence : b.blank.readSequence = b.readSequence :=
  rfl

@[simp] theorem blank_receiveNext : b.blank.receiveNext = b.receiveNext := rfl

@[simp] theorem blank_physical (offset : BitVec 32) :
    b.blank.physical offset = b.physical offset := by
  simp [physical, blank]

@[simp] theorem blank_received (index : Nat) : b.blank.received index = b.received index := rfl

theorem blank_storeOctet (position : Nat) (octet : Octet) :
    b.blank.storeOctet position 0#8 = (b.storeOctet position octet).blank := by
  simp [storeOctet, blank]

theorem blank_insert (sequence offset : BitVec 32) (index : Nat) (payload : List Octet)
    (b : ReceiveBuffer) (newlyStored : Nat) (firstNew : BitVec 32) :
    insert sequence offset index (zeros payload) b.blank newlyStored firstNew =
      ((insert sequence offset index payload b newlyStored firstNew).1.blank,
        (insert sequence offset index payload b newlyStored firstNew).2) := by
  induction payload generalizing b index newlyStored firstNew with
  | nil => rfl
  | cons octet rest ih =>
    simp only [zeros, length_cons, replicate_succ, insert, blank_physical, blank_received]
    split
    · exact ih ..
    · rw [blank_storeOctet]
      exact ih ..

/-- The insertion loop leaves the mark of the latest segment alone. -/
theorem insert_mark (sequence offset : BitVec 32) (index : Nat) (payload : List Octet)
    (b : ReceiveBuffer) (newlyStored : Nat) (firstNew : BitVec 32) :
    (insert sequence offset index payload b newlyStored firstNew).1.recentSequence =
        b.recentSequence ∧
      (insert sequence offset index payload b newlyStored firstNew).1.recentSequencePresent =
        b.recentSequencePresent := by
  induction payload generalizing b index newlyStored firstNew with
  | nil => exact ⟨rfl, rfl⟩
  | cons octet rest ih =>
    simp only [insert]
    split
    · exact ih ..
    · exact ih (index + 1) (b.storeOctet _ octet) _ _

theorem blank_advanceContiguousLoop (rounds : Nat) :
    b.blank.advanceContiguousLoop rounds = (b.advanceContiguousLoop rounds).blank := by
  induction rounds generalizing b with
  | zero => rfl
  | succ rounds ih =>
    unfold advanceContiguousLoop
    simp only [blank_length, blank_physical, blank_received, blank_receiveNext, blank_readSequence]
    split
    · split
      · rfl
      · exact ih { b with receiveNext := b.receiveNext + 1#32 }
    · rfl

theorem advanceContiguousLoop_frame (rounds : Nat) :
    ∃ receiveNext, b.advanceContiguousLoop rounds = { b with receiveNext } := by
  induction rounds generalizing b with
  | zero => exact ⟨b.receiveNext, rfl⟩
  | succ rounds ih =>
    unfold advanceContiguousLoop
    dsimp only
    split
    · split
      · exact ⟨b.receiveNext, rfl⟩
      · exact ih { b with receiveNext := b.receiveNext + 1#32 }
    · exact ⟨b.receiveNext, rfl⟩

theorem blank_acceptTrimmed (sequence : BitVec 32) (payload : List Octet) :
    b.blank.acceptTrimmed sequence (zeros payload) =
      ((b.acceptTrimmed sequence payload).1.blank, (b.acceptTrimmed sequence payload).2) := by
  have taken (count : Nat) : (zeros payload).take (min (zeros payload).length count) =
      zeros (payload.take (min payload.length count)) := by
    simp [zeros]
  unfold acceptTrimmed
  simp only [blank_length, blank_readSequence, taken, blank_insert]
  split
  · rfl
  generalize insert sequence (sequence - b.readSequence) 0
    (payload.take (min payload.length (b.storage.length - (sequence - b.readSequence).toNat)))
    b 0 0#32 = result
  obtain ⟨stored, newlyStored, firstNew⟩ := result
  have advanced (marked : ReceiveBuffer) :
      marked.blank.advanceContiguous = marked.advanceContiguous.blank := by
    rw [advanceContiguous, advanceContiguous, blank_length, blank_advanceContiguousLoop]
  split
  · exact congrArg (fun next : ReceiveBuffer => (next, ({
        status := if newlyStored == 0 then .duplicate else .accepted
        receiveNext := next.receiveNext
        newlyStored } : ReceiveInsertResult)))
      (advanced { stored with recentSequence := firstNew, recentSequencePresent := true })
  · exact congrArg (fun next : ReceiveBuffer => (next, ({
        status := if newlyStored == 0 then .duplicate else .accepted
        receiveNext := next.receiveNext
        newlyStored } : ReceiveInsertResult))) (advanced stored)

theorem blank_accept (sequence : BitVec 32) (payload : List Octet) :
    b.blank.accept sequence (zeros payload) =
      ((b.accept sequence payload).1.blank, (b.accept sequence payload).2) := by
  have length : (zeros payload).length = payload.length := by simp [zeros]
  have empty : (zeros payload).isEmpty = payload.isEmpty := by
    cases payload <;> rfl
  have dropped (count : Nat) : (zeros payload).drop count = zeros (payload.drop count) := by
    simp [zeros]
  unfold accept
  simp only [blank_valid, blank_receiveNext, empty, length, dropped, blank_acceptTrimmed]
  split
  · rfl
  split
  · rfl
  split
  · split <;> rfl
  · rfl

theorem blank_read (outputSize : Nat) :
    b.blank.read outputSize = ((b.read outputSize).1.blank, zeros (b.read outputSize).2) := by
  have octets (positions : List Nat) :
      positions.map (fun position => b.blank.storage.getD position 0#8) =
        zeros (positions.map fun position => b.storage.getD position 0#8) := by
    refine ext_getElem (by simp [zeros]) fun i _ _ => ?_
    simp [zeros, blank, List.getElem?_replicate]
    split <;> rfl
  unfold read
  simp only [blank_valid, blank_physical, blank_length, octets]
  split <;> rfl

end

/-! ## Images -/

def checkpoint (b : ReceiveBuffer) : ReceiveBufferCheckpoint where
  storage := b.storage
  received := b.receivedBitmap
  readSequence := b.readSequence
  receiveNext := b.receiveNext
  head := b.head
  recentSequence := b.recentSequence
  recentSequencePresent := b.recentSequencePresent

/-- Every octet below RCV.NXT is present, and no bit stands past the arena. -/
def validBits (state : ReceiveBufferCheckpoint) (size : Nat) : Bool :=
  (List.range (state.receiveNext - state.readSequence).toNat).all (fun offset =>
      Bitmap.get state.received (Circular.slot size state.head.toNat offset)) &&
    (List.range (state.received.length * 8 - size)).all (fun bit =>
      !Bitmap.get state.received (size + bit))

def restore (b : ReceiveBuffer) (state : ReceiveBufferCheckpoint) : ReceiveBuffer × Bool :=
  if !b.valid || state.storage.length != b.storage.length ||
      state.received.length != b.receivedBitmap.length ||
      decide (b.storage.length ≤ state.head.toNat) ||
      decide (b.storage.length < (state.receiveNext - state.readSequence).toNat) then (b, false)
  else if !validBits state b.storage.length then (b, false)
  else
    ({ b with
        storage := state.storage, receivedBitmap := state.received,
        readSequence := state.readSequence, receiveNext := state.receiveNext, head := state.head,
        recentSequence := state.recentSequence
        recentSequencePresent := state.recentSequencePresent },
      true)

/-- An image that is taken over brings its repository back. -/
theorem restore_checkpoint {b saved : ReceiveBuffer} (valid : saved.valid = true)
    (restored : (b.restore saved.checkpoint).2 = true) :
    (b.restore saved.checkpoint).1 = saved := by
  unfold restore at restored ⊢
  split at restored
  · cases restored
  next shape =>
  split at restored
  · cases restored
  next bits =>
  have own : b.valid = true := by
    simp only [asserted, not_or, refuted] at shape
    exact shape.1.1.1.1
  rw [if_neg shape, if_neg bits]
  simp [checkpoint, own, ← valid]

end ReceiveBuffer

/-! ## Runs -/

/-- A receive history with the positions that the latest segment to store
anything stored. -/
structure ReceiveTrace extends ReceiveHistory where
  latest : Nat → Bool := fun _ => false

namespace ReceiveTrace

def step (t : ReceiveTrace) (op : ReceiveOp) : ReceiveTrace where
  toReceiveHistory := t.toReceiveHistory.step op
  latest :=
    match op with
    | .accept sequence payload =>
      if (t.buffer.accept sequence payload).2.newlyStored = 0 then t.latest
      else fun p => (t.toReceiveHistory.step op).received p && !t.received p
    | .read _ => t.latest

end ReceiveTrace

/-- What can be reached from fresh repositories by segments and reads, and by
taking over the image of another. `origin` is the sequence number of position 0. -/
inductive ReceiveReached : BitVec 32 → ReceiveTrace → Prop
  | start (storage receivedBitmap : List Octet) (origin : BitVec 32)
      (valid : (create storage receivedBitmap origin).valid = true) :
      ReceiveReached origin
        { toReceiveHistory := ReceiveHistory.start storage receivedBitmap origin }
  | step (op : ReceiveOp) (reached : ReceiveReached origin t) : ReceiveReached origin (t.step op)
  | restore (reached : ReceiveReached origin t) (other : ReceiveReached origin' saved)
      (restored : (t.buffer.restore saved.buffer.checkpoint).2 = true) :
      ReceiveReached origin' { saved with buffer := (t.buffer.restore saved.buffer.checkpoint).1 }

/-! ## What the latest segment left -/

namespace ReceiveBuffer.Refines

variable {b : ReceiveBuffer} {origin : BitVec 32} {stream : BitVec 32 → Octet} {m : Reassembly}

/-- The insertion loop counts what it stores, and remembers the first of it. -/
theorem insert_first (sequence : BitVec 32) {offset : BitVec 32} {index : Nat}
    {payload : List Octet} (h : b.Refines origin stream m) (newlyStored : Nat)
    (firstNew : BitVec 32) (fits : offset.toNat + index + payload.length ≤ b.storage.length)
    (agrees : ∀ i octet, payload[i]? = some octet →
      octet = stream (counter origin (m.read + (offset.toNat + index + i)))) :
    ((∀ i, i < payload.length → m.received (m.read + (offset.toNat + index + i)) = true) ∧
      (ReceiveBuffer.insert sequence offset index payload b newlyStored firstNew).2 =
        (newlyStored, firstNew)) ∨
    (newlyStored < (ReceiveBuffer.insert sequence offset index payload b newlyStored firstNew).2.1 ∧
      ∃ i, i < payload.length ∧ m.received (m.read + (offset.toNat + index + i)) = false ∧
        (ReceiveBuffer.insert sequence offset index payload b newlyStored firstNew).2.2 =
          if newlyStored = 0 then sequence + BitVec.ofNat 32 (index + i) else firstNew) := by
  induction payload generalizing b m index newlyStored firstNew with
  | nil => exact .inl ⟨fun i inside => absurd inside (Nat.not_lt_zero i), rfl⟩
  | cons octet rest ih =>
    simp only [length_cons] at fits
    have ho : offset.toNat + index < b.storage.length := by omega
    have hrest : ∀ i x, rest[i]? = some x →
        x = stream (counter origin (m.read + (offset.toNat + (index + 1) + i))) := by
      intro i x hx
      have := agrees (i + 1) x (by simpa using hx)
      rwa [show offset.toNat + index + (i + 1) = offset.toNat + (index + 1) + i by omega] at this
    simp only [ReceiveBuffer.insert, h.physical_index ho]
    split
    · next present =>
      rw [h.bits _ ho] at present
      obtain ⟨all, same⟩ | ⟨more, i, inside, missing, first⟩ :=
        ih h newlyStored firstNew (by omega) hrest
      · refine .inl ⟨fun i inside => ?_, same⟩
        cases i with
        | zero => exact present
        | succ i =>
          have own := all i (by simpa using inside)
          rwa [show offset.toNat + (index + 1) + i = offset.toNat + index + (i + 1) by omega] at own
      · refine .inr ⟨more, i + 1, by simpa using inside, ?_, ?_⟩
        · rwa [show offset.toNat + index + (i + 1) = offset.toNat + (index + 1) + i by omega]
        · rw [first, show index + (i + 1) = index + 1 + i by omega]
    · next absent =>
      rw [h.bits _ ho, Bool.not_eq_true] at absent
      have hoctet := agrees 0 octet rfl
      rw [Nat.add_zero] at hoctet
      rw [hoctet]
      refine .inr ⟨?_, 0, Nat.zero_lt_succ _, absent, ?_⟩
      · obtain ⟨-, same⟩ | ⟨more, -⟩ := ih (h.storeOctet ho) (newlyStored + 1)
          (if newlyStored == 0 then sequence + BitVec.ofNat 32 index else firstNew)
          (by simp only [ReceiveBuffer.storeOctet, length_set]; omega) hrest
        · rw [same]
          exact Nat.lt_succ_self _
        · exact Nat.lt_of_succ_lt more
      · obtain ⟨-, same⟩ | ⟨-, i, -, -, kept⟩ := ih (h.storeOctet ho) (newlyStored + 1)
          (if newlyStored == 0 then sequence + BitVec.ofNat 32 index else firstNew)
          (by simp only [ReceiveBuffer.storeOctet, length_set]; omega) hrest
        · rw [same]
          simp
        · rw [kept]
          simp

/-- A segment either stores nothing, and then everything it brings was received
before, or it marks the first octet it stores. -/
structure Marks (b : ReceiveBuffer) (origin : BitVec 32) (m : Reassembly) (brings : Nat → Bool)
    (outcome : ReceiveBuffer × ReceiveInsertResult) : Prop where
  stale : outcome.2.newlyStored = 0 → outcome.1.recentSequence = b.recentSequence ∧
    outcome.1.recentSequencePresent = b.recentSequencePresent ∧
    ∀ p, brings p = true → m.received p = true
  fresh : outcome.2.newlyStored ≠ 0 → outcome.1.recentSequencePresent = true ∧
    ∃ first, outcome.1.recentSequence = counter origin first ∧ brings first = true ∧
      m.received first = false

theorem Marks.nothing {result : ReceiveInsertResult} {brings : Nat → Bool}
    (empty : result.newlyStored = 0) (old : ∀ p, brings p = true → m.received p = true) :
    Marks b origin m brings (b, result) :=
  ⟨fun _ => ⟨rfl, rfl, old⟩, fun some => absurd empty some⟩

theorem acceptTrimmed_marks (h : b.Refines origin stream m) {sequence : BitVec 32}
    {payload : List Octet} {ahead : Nat} (distance : (sequence - b.receiveNext).toNat = ahead)
    (near : ahead ≤ 0x80000000)
    (agrees : ∀ i octet, payload[i]? = some octet → octet = stream (sequence + BitVec.ofNat 32 i)) :
    Marks b origin m (arrived (m.next + ahead) payload.length (m.read + b.storage.length))
      (b.acceptTrimmed sequence payload) := by
  have hle := h.ordered
  obtain ⟨hoffset, hsequence⟩ := h.place distance near
  simp only [ReceiveBuffer.acceptTrimmed, hoffset]
  split
  · refine Marks.nothing rfl fun p inside => ?_
    simp only [arrived, asserted] at inside
    omega
  · next room =>
    have length : (payload.take
        (min payload.length (b.storage.length - (m.next - m.read + ahead)))).length =
        min payload.length (b.storage.length - (m.next - m.read + ahead)) := by
      rw [length_take]
      omega
    have marks := @insert_first b origin stream m sequence (sequence - b.readSequence) 0
      (payload.take (min payload.length (b.storage.length - (m.next - m.read + ahead))))
      h 0 0#32 (by rw [length]; omega) (by
        intro i octet hi
        rw [take_agrees _ agrees i octet hi, hoffset, hsequence, ← counter_add]
        congr 2
        omega)
    have kept := insert_mark sequence (sequence - b.readSequence) 0
      (payload.take (min payload.length (b.storage.length - (m.next - m.read + ahead)))) b 0 0#32
    generalize ReceiveBuffer.insert sequence (sequence - b.readSequence) 0
      (payload.take (min payload.length (b.storage.length - (m.next - m.read + ahead))))
      b 0 0#32 = result at marks kept
    obtain ⟨stored, newlyStored, firstNew⟩ := result
    dsimp only at marks kept ⊢
    rw [length, hoffset] at marks
    constructor
    · intro none
      dsimp only at none
      obtain ⟨all, -⟩ | ⟨some, -⟩ := marks
      · obtain ⟨next, advanced⟩ := stored.advanceContiguousLoop_frame stored.storage.length
        rw [if_neg (by simp [none]), advanceContiguous, advanced]
        refine ⟨kept.1, kept.2, fun p inside => ?_⟩
        simp only [arrived, asserted] at inside
        have own := all (p - (m.next + ahead)) (by omega)
        rwa [show m.read + (m.next - m.read + ahead + 0 + (p - (m.next + ahead))) = p by omega]
          at own
      · omega
    · intro some
      obtain ⟨-, none⟩ | ⟨-, i, inside, missing, first⟩ := marks
      · exact absurd (congrArg Prod.fst none) some
      · obtain ⟨next, advanced⟩ :=
          { stored with recentSequence := firstNew, recentSequencePresent := true }
            |>.advanceContiguousLoop_frame stored.storage.length
        rw [if_pos (by simp [some]), advanceContiguous, advanced]
        refine ⟨rfl, m.next + ahead + i, ?_, ?_, ?_⟩
        · rw [counter_add, ← hsequence]
          simpa using first
        · simp [arrived]
          omega
        · rwa [show m.read + (m.next - m.read + ahead + 0 + i) = m.next + ahead + i by omega]
            at missing

theorem accept_marks (h : b.Refines origin stream m) (sequence : BitVec 32) {payload : List Octet}
    (agrees : ∀ i octet, payload[i]? = some octet → octet = stream (sequence + BitVec.ofNat 32 i)) :
    Marks b origin m
      (brought (b.position m.next sequence) payload.length (m.read + b.storage.length))
      (b.accept sequence payload) := by
  simp only [ReceiveBuffer.accept, h.valid, settled, ↓reduceIte]
  split
  · next empty =>
    refine Marks.nothing rfl fun p inside => ?_
    rw [isEmpty_iff.mp empty] at inside
    simp [brought] at inside
    omega
  · split
    · next before =>
      have hpos : b.position m.next sequence = m.next - (b.receiveNext - sequence).toNat := by
        rw [ReceiveBuffer.position, if_pos before]
      split
      · refine Marks.nothing rfl fun p inside => h.contiguous p ?_
        simp only [brought, asserted] at inside
        omega
      · have hold := (before_iff _ _).mp before
        have trimmed := @acceptTrimmed_marks b origin stream m h b.receiveNext
          (payload.drop (b.receiveNext - sequence).toNat) 0 (by simp) (by decide)
          (drop_agrees agrees)
        have inside (p : Nat) : arrived (m.next + 0)
            (payload.drop (b.receiveNext - sequence).toNat).length (m.read + b.storage.length) p =
              (decide (m.next ≤ p) && brought (b.position m.next sequence) payload.length
                (m.read + b.storage.length) p) := by
          rw [hpos, Bool.eq_iff_iff]
          simp only [arrived, brought, length_drop, asserted]
          omega
        constructor
        · intro none
          obtain ⟨same, present, old⟩ := trimmed.stale none
          refine ⟨same, present, fun p brings => ?_⟩
          by_cases behind : p < m.next
          · exact h.contiguous p behind
          · exact old p (by rw [inside, brings]; simpa using behind)
        · intro some
          obtain ⟨present, first, sequence', brings, missing⟩ := trimmed.fresh some
          rw [inside, Bool.and_eq_true] at brings
          exact ⟨present, first, sequence', brings.2, missing⟩
    · next notBefore =>
      have near : (sequence - b.receiveNext).toNat ≤ 0x80000000 := by
        rw [before_iff] at notBefore
        bv_omega
      have whole := acceptTrimmed_marks h rfl near agrees
      have same : arrived (m.next + (sequence - b.receiveNext).toNat) payload.length
          (m.read + b.storage.length) =
          brought (b.position m.next sequence) payload.length (m.read + b.storage.length) := by
        funext p
        rw [ReceiveBuffer.position, if_neg notBefore, Bool.eq_iff_iff]
        simp only [arrived, brought, asserted]
        omega
      rw [same] at whole
      exact whole

end ReceiveBuffer.Refines

/-! ## The invariant -/

def ReceiveHistory.blank (t : ReceiveHistory) : ReceiveHistory where
  buffer := t.buffer.blank
  outputs := zeros t.outputs
  received := t.received

def ReceiveOp.blank : ReceiveOp → ReceiveOp
  | .accept sequence payload => .accept sequence (zeros payload)
  | .read outputSize => .read outputSize

theorem ReceiveOp.blank_agrees (op : ReceiveOp) : op.blank.Agrees fun _ => 0#8 := by
  cases op with
  | accept sequence payload =>
    intro i octet found
    simp only [zeros, List.getElem?_replicate] at found
    split at found
    · exact (Option.some.inj found).symm
    · cases found
  | read outputSize => trivial

namespace ReceiveHistory

@[simp] theorem blank_next (t : ReceiveHistory) : t.blank.next = t.next := by
  simp only [next, blank, zeros, length_replicate]
  rfl

@[simp] theorem blank_edge (t : ReceiveHistory) : t.blank.edge = t.edge := by
  simp [edge, blank, zeros]

theorem blank_step (t : ReceiveHistory) (op : ReceiveOp) :
    (t.step op).blank = t.blank.step op.blank := by
  cases op with
  | accept sequence payload =>
    have length : (zeros payload).length = payload.length := by
      simp [zeros]
    simp only [step, ReceiveOp.blank, blank_next, blank_edge, length]
    simp only [blank, blank_accept]
    rfl
  | read outputSize =>
    simp only [step, ReceiveOp.blank, blank, blank_read]
    simp [zeros]

end ReceiveHistory

namespace ReceiveTrace

variable {t : ReceiveTrace} {origin : BitVec 32} {op : ReceiveOp}

/-- `first` is the octet the buffer remembers, and everything from it to any
octet stored with it was received. -/
structure Recent (t : ReceiveTrace) (origin : BitVec 32) (first : Nat) : Prop where
  sequence : t.buffer.recentSequence = counter origin first
  received : t.received first = true
  joined : ∀ p n, t.latest p = true → first ≤ n ∧ n ≤ p ∨ p ≤ n ∧ n ≤ first → t.received n = true

structure Inv (origin : BitVec 32) (t : ReceiveTrace) : Prop where
  blank : t.toReceiveHistory.blank.Inv origin (fun _ => 0#8) t.buffer.storage.length
  unmarked : t.buffer.recentSequencePresent = false → ∀ p, t.latest p = false
  marked : t.buffer.recentSequencePresent = true → ∃ first, t.Recent origin first

theorem Inv.marks (inv : t.Inv origin) (sequence : BitVec 32) (payload : List Octet) :
    ReceiveBuffer.Refines.Marks t.buffer.blank origin ⟨t.outputs.length, t.next, t.received⟩
      (brought (t.buffer.position t.next sequence) payload.length t.edge)
      ((t.buffer.accept sequence payload).1.blank, (t.buffer.accept sequence payload).2) := by
  have marks := inv.blank.refines.accept_marks sequence
    (ReceiveOp.blank_agrees (.accept sequence payload))
  have length : (zeros payload).length = payload.length := by
    simp [zeros]
  have outputs : (zeros t.outputs).length = t.outputs.length := by
    simp [zeros]
  rw [ReceiveHistory.blank_next] at marks
  simp only [ReceiveHistory.blank, blank_accept, length, outputs, blank_length] at marks
  exact marks

/-- A segment that stores nothing changes nothing that is remembered. -/
theorem Inv.stale (inv : t.Inv origin) (next : (t.step op).toReceiveHistory.blank.Inv origin
      (fun _ => 0#8) (t.step op).buffer.storage.length)
    (mark : (t.step op).buffer.recentSequence = t.buffer.recentSequence)
    (present : (t.step op).buffer.recentSequencePresent = t.buffer.recentSequencePresent)
    (received : ∀ p, (t.step op).received p = t.received p)
    (latest : (t.step op).latest = t.latest) : (t.step op).Inv origin := by
  refine ⟨next, fun absent p => ?_, fun some => ?_⟩
  · rw [latest]
    exact inv.unmarked (present.symm.trans absent) p
  · obtain ⟨first, own⟩ := inv.marked (present.symm.trans some)
    refine ⟨first, mark.trans own.sequence, ?_, fun p n fromLatest between => ?_⟩
    · rw [received]
      exact own.received
    · rw [received]
      exact own.joined p n (latest ▸ fromLatest) between

theorem Inv.step (inv : t.Inv origin) (op : ReceiveOp) : (t.step op).Inv origin := by
  have next := ReceiveHistory.step_inv inv.blank op.blank op.blank_agrees
  rw [← ReceiveHistory.blank_step] at next
  have length : (t.step op).buffer.storage.length = t.buffer.storage.length := by
    rw [← next.capacity, ReceiveHistory.blank, ReceiveBuffer.blank_length]
    rfl
  rw [← length] at next
  cases op with
  | accept sequence payload =>
    obtain ⟨stale, fresh⟩ := inv.marks sequence payload
    by_cases none : (t.buffer.accept sequence payload).2.newlyStored = 0
    · obtain ⟨mark, present, old⟩ := stale none
      refine inv.stale next mark present (fun p => ?_) (if_pos none)
      have union : (t.step (.accept sequence payload)).received p = (t.received p ||
        brought (t.buffer.position t.next sequence) payload.length t.edge p) := rfl
      rw [union]
      cases brings : brought (t.buffer.position t.next sequence) payload.length t.edge p with
      | false => rw [Bool.or_false]
      | true =>
        rw [Bool.or_true]
        exact (old p brings).symm
    · obtain ⟨present, first, mark, brings, missing⟩ := fresh none
      have union (p : Nat) : (t.step (.accept sequence payload)).received p = (t.received p ||
        brought (t.buffer.position t.next sequence) payload.length t.edge p) := rfl
      have latest : (t.step (.accept sequence payload)).latest = fun p =>
        (t.step (.accept sequence payload)).received p && !t.received p := if_neg none
      refine ⟨next, fun absent => ?_, fun _ => ⟨first, mark, ?_, fun p n fromLatest between => ?_⟩⟩
      · cases absent.symm.trans present
      · rw [union, brings, Bool.or_true]
      · rw [latest] at fromLatest
        simp only [union, asserted] at fromLatest
        have brings' := fromLatest.1.resolve_left (by simp [fromLatest.2])
        rw [union]
        have inner :
            brought (t.buffer.position t.next sequence) payload.length t.edge n = true := by
          simp only [brought, asserted] at brings brings' ⊢
          omega
        rw [inner, Bool.or_true]
  | read outputSize =>
    have mark : (t.step (.read outputSize)).buffer.recentSequence = t.buffer.recentSequence ∧
        (t.step (.read outputSize)).buffer.recentSequencePresent =
          t.buffer.recentSequencePresent := by
      simp only [ReceiveTrace.step, ReceiveHistory.step, ReceiveBuffer.read]
      split <;> exact ⟨rfl, rfl⟩
    exact inv.stale next mark.1 mark.2 (fun p => rfl) rfl

end ReceiveTrace

theorem ReceiveReached.inv {t : ReceiveTrace} {origin : BitVec 32}
    (reached : ReceiveReached origin t) : t.Inv origin := by
  induction reached with
  | start storage receivedBitmap origin valid =>
    have unmarked : (create storage receivedBitmap origin).recentSequencePresent = false := rfl
    have length : (create storage receivedBitmap origin).storage.length = storage.length := by
      simp only [create]
      split <;> simp
    refine ⟨?_, fun _ _ => rfl, fun marked => absurd (unmarked.symm.trans marked) (by decide)⟩
    have fresh := @ReceiveHistory.start_inv receivedBitmap storage origin (fun _ => 0#8) valid
    have blanks : (ReceiveHistory.start storage receivedBitmap origin).blank =
        ReceiveHistory.start storage receivedBitmap origin := by
      have valid' := valid
      simp only [create] at valid'
      simp only [ReceiveHistory.blank, ReceiveHistory.start, blank,
        create, valid', if_true, length_replicate]
      rfl
    rw [blanks]
    exact length.symm ▸ fresh
  | step op reached ih => exact ih.step op
  | @restore _ _ _ saved reached other restored ih saved' =>
    have valid : saved.buffer.valid = true := saved'.blank.refines.valid
    rw [restore_checkpoint valid restored]
    exact saved'

end RouterSim.Tcp
