import RouterSim.Tcp.ReceiveStream
import RouterSim.Tcp.SendStream

/-! The two repositories at the ends of a network that loses, repeats, delays and reorders. -/
namespace RouterSim.Tcp

open List Serial

/-- Whatever was sent may be delivered at any time, any number of times. -/
structure Transfer where
  sender : SendHistory
  receiver : ReceiveHistory
  network : List (BitVec 32 × List Octet) := []

inductive TransferOp
  | send (op : SendOp)
  | transmit (range : PreparedSendRange) (outputSize : Nat)
  | deliver (segment : BitVec 32 × List Octet)
  | read (outputSize : Nat)

namespace Transfer

def step (t : Transfer) : TransferOp → Transfer
  | .send op => { t with sender := t.sender.step op }
  | .transmit range outputSize =>
    match t.sender.buffer.copy range outputSize with
    | some payload => { t with network := (range.sequence, payload) :: t.network }
    | none => t
  | .deliver segment =>
    if segment ∈ t.network then
      { t with receiver := t.receiver.step (.accept segment.1 segment.2) }
    else t
  | .read outputSize => { t with receiver := t.receiver.step (.read outputSize) }

/-- Every stream with the accepted octets has those of the receiver and of the network. -/
structure Inv (origin : BitVec 32) (capacity : Nat) (t : Transfer) : Prop where
  sender : t.sender.Inv origin
  follows : ∀ stream, (ReceiveOp.accept origin t.sender.accepted).Agrees stream →
    t.receiver.Inv origin stream capacity ∧
      ∀ segment ∈ t.network, (ReceiveOp.accept segment.1 segment.2).Agrees stream

variable {origin : BitVec 32} {capacity : Nat} {t : Transfer}

/-- A copied segment has the accepted octets of its place. -/
theorem Inv.copied (h : t.Inv origin capacity) {range : PreparedSendRange} {outputSize : Nat}
    {payload : List Octet} (copied : t.sender.buffer.copy range outputSize = some payload)
    {stream : BitVec 32 → Octet}
    (agrees : (ReceiveOp.accept origin t.sender.accepted).Agrees stream) :
    (ReceiveOp.accept range.sequence payload).Agrees stream := by
  obtain ⟨_, _, _, refines⟩ := h.sender.refines
  have place : range.sequence = counter origin (t.sender.position range) := by
    rw [SendHistory.position, counter_add, ← refines.unacknowledged, BitVec.ofNat_toNat,
      BitVec.setWidth_eq]
    bv_omega
  intro i octet there
  rw [h.sender.copied copied, getElem?_take] at there
  split at there
  · rw [place, ← counter_add]
    exact agrees _ octet (getElem?_drop ▸ there)
  · cases there

theorem step_inv (h : t.Inv origin capacity) (op : TransferOp) :
    (t.step op).Inv origin capacity := by
  cases op with
  | send op =>
    obtain ⟨more, grown⟩ : ∃ more, (t.sender.step op).accepted = t.sender.accepted ++ more := by
      cases op <;> first | exact ⟨_, rfl⟩ | exact ⟨[], (append_nil _).symm⟩
    refine ⟨SendHistory.step_inv h.sender op, fun stream agrees => h.follows stream ?_⟩
    intro i octet there
    have inside := (List.getElem?_eq_some_iff.mp there).1
    refine agrees i octet ?_
    rw [step, grown, getElem?_append_left inside, there]
  | transmit range outputSize =>
    simp only [step]
    split
    next payload copied =>
      refine ⟨h.sender, fun stream agrees => ⟨(h.follows stream agrees).1, ?_⟩⟩
      exact forall_mem_cons.mpr ⟨h.copied copied agrees, (h.follows stream agrees).2⟩
    next => exact h
  | deliver segment =>
    simp only [step]
    split
    next sent =>
      refine ⟨h.sender, fun stream agrees => ?_⟩
      obtain ⟨receiver, network⟩ := h.follows stream agrees
      exact ⟨ReceiveHistory.step_inv receiver _ (network segment sent), network⟩
    next => exact h
  | read outputSize =>
    refine ⟨h.sender, fun stream agrees => ?_⟩
    obtain ⟨receiver, network⟩ := h.follows stream agrees
    exact ⟨ReceiveHistory.step_inv receiver (.read outputSize) trivial, network⟩

/-- What the receiver reads is what the sender accepted, from the start and in order, as long as
no sequence number is used twice. -/
theorem read_is_accepted (sendStorage receiveStorage receivedBitmap : List Octet)
    (origin : BitVec 32) (sends : (SendBuffer.create sendStorage origin).valid = true)
    (receives : (ReceiveBuffer.create receiveStorage receivedBitmap origin).valid = true)
    (ops : List TransferOp) :
    let t := Runs.run step ⟨.start sendStorage origin,
      .start receiveStorage receivedBitmap origin, []⟩ ops
    t.sender.accepted.length < 0x100000000 → t.receiver.outputs <+: t.sender.accepted := by
  intro t short
  have inv : t.Inv origin receiveStorage.length := by
    refine Runs.invariant (P := Inv origin receiveStorage.length)
      (fun _ op h => step_inv h op) ops ⟨SendHistory.start_inv _ _ sends, fun _ _ => ?_⟩
    exact ⟨ReceiveHistory.start_inv receives, nofun⟩
  -- Past the accepted octets the stream may have any.
  have octet : ∀ last, ∀ i ≤ t.sender.accepted.length, i < t.receiver.outputs.length →
      t.receiver.outputs[i]? = some (t.sender.accepted.getD i last) := by
    have place : ∀ i ≤ t.sender.accepted.length, (counter origin i - origin).toNat = i := by
      intro i inside
      simpa only [counter_zero, Nat.sub_zero] using counter_sub origin (Nat.zero_le i) (by omega)
    intro last i inside read
    have outputs := (inv.follows
      (fun sequence => t.sender.accepted.getD (sequence - origin).toNat last)
      fun i octet there => ?_).1.outputs
    · rw [outputs, getElem?_map, getElem?_range read, Option.map_some, place i inside]
    · obtain ⟨inside, rfl⟩ := List.getElem?_eq_some_iff.mp there
      show _ = t.sender.accepted.getD (counter origin i - origin).toNat last
      simp [place i (by omega), inside]
  have inside : t.receiver.outputs.length ≤ t.sender.accepted.length := by
    apply Nat.le_of_not_lt
    intro beyond
    have twice := (octet 0#8 _ (Nat.le_refl _) beyond).symm.trans
      (octet 1#8 _ (Nat.le_refl _) beyond)
    simp at twice
  rw [prefix_iff_getElem?]
  intro i read
  have there := octet 0#8 i (by omega) read
  have early : i < t.sender.accepted.length := by omega
  simpa [read, early, eq_comm] using there

theorem two_octets_read :
    let t := Runs.run step ⟨.start [0#8, 0#8] 5#32, .start [0#8, 0#8] [0#8] 5#32, []⟩
      [.send (.write [7#8, 8#8]), .transmit ⟨5#32, 2#32, 2#64, false⟩ 2,
        .deliver (5#32, [7#8, 8#8]), .read 2]
    t.receiver.outputs <+: t.sender.accepted :=
  read_is_accepted [0#8, 0#8] [0#8, 0#8] [0#8] 5#32 (by decide) (by decide) _ (by decide)

end Transfer

end RouterSim.Tcp
