import RouterSim.Tcp.SendBuffer

namespace RouterSim.Tcp

open Runs Circular SendBuffer

/-- A prepared range with what was true when it was prepared: the stream
position of its first octet and the number of changes made so far. -/
structure SendIntent where
  range : PreparedSendRange
  position : Nat
  changes : Nat

/-- A send repository with the history of its calls. A change is a write that
accepted octets, an advancing acknowledgment or a successful commit. -/
structure SendHistory where
  buffer : SendBuffer
  accepted : List Octet := []
  released : Nat := 0
  changes : Nat := 0
  prepared : List SendIntent := []

inductive SendOp
  | write (input : List Octet)
  | prepareNew (maximumPayload : BitVec 32)
  | prepareRetransmission (maximumPayload : BitVec 32)
  | prepareRetransmissionAt (sequence maximumPayload : BitVec 32)
  | commit (range : PreparedSendRange)
  | acknowledge (acknowledgment : BitVec 32)

namespace SendHistory

def start (storage : List Octet) (origin : BitVec 32) : SendHistory :=
  { buffer := create storage origin }

def position (t : SendHistory) (range : PreparedSendRange) : Nat :=
  t.released + (range.sequence - t.buffer.sendUnacknowledged).toNat

def record (t : SendHistory) (range : PreparedSendRange) : SendHistory :=
  { t with prepared := ⟨range, t.position range, t.changes⟩ :: t.prepared }

def step (t : SendHistory) : SendOp → SendHistory
  | .write input =>
    let (buffer, count) := t.buffer.write input
    { t with
      buffer, accepted := t.accepted ++ input.take count,
      changes := if count != 0 then t.changes + 1 else t.changes }
  | .prepareNew maximumPayload => t.record (t.buffer.prepareNew maximumPayload)
  | .prepareRetransmission maximumPayload =>
    t.record (t.buffer.prepareRetransmission maximumPayload)
  | .prepareRetransmissionAt sequence maximumPayload =>
    t.record (t.buffer.prepareRetransmissionAt sequence maximumPayload)
  | .commit range =>
    let (buffer, committed) := t.buffer.commit range
    { t with buffer, changes := if committed then t.changes + 1 else t.changes }
  | .acknowledge acknowledgment =>
    let (buffer, result) := t.buffer.acknowledge acknowledgment
    { t with
      buffer, released := t.released + result.newlyAcknowledged.toNat,
      changes := if result.status == .advanced then t.changes + 1 else t.changes }

/-- The repository refines the recorded stream, its generation counts the
changes modulo 2^64, and every intent recorded since the last change still
names the positions it was prepared for. -/
structure Inv (origin : BitVec 32) (t : SendHistory) : Prop where
  refines : ∃ sent released_le sent_le,
    t.buffer.Refines origin ⟨t.accepted, t.released, sent, released_le, sent_le⟩
  generation : t.buffer.generation = BitVec.ofNat 64 (t.changes + 1)
  intents : ∀ p ∈ t.prepared, p.changes ≤ t.changes ∧
    (p.range.length ≠ 0#32 → p.range.generation = BitVec.ofNat 64 (p.changes + 1)) ∧
    (p.changes = t.changes → p.position = t.position p.range)

theorem start_inv (storage : List Octet) (origin : BitVec 32)
    (valid : (create storage origin).valid = true) : (start storage origin).Inv origin where
  refines := ⟨0, _, _, SendBuffer.Refines.create storage origin valid⟩
  generation := rfl
  intents := by simp [start]

variable {origin : BitVec 32} {t : SendHistory}

variable (h : t.Inv origin)
include h

/-- Recording an intent of the present generation keeps the invariant. -/
theorem record_inv {range : PreparedSendRange}
    (hg : range.length ≠ 0#32 → range.generation = t.buffer.generation) :
    (t.record range).Inv origin where
  refines := h.refines
  generation := h.generation
  intents := by
    intro p hp
    rcases List.mem_cons.mp hp with rfl | old
    · exact ⟨Nat.le_refl _, fun hl => (hg hl).trans h.generation, fun _ => rfl⟩
    · exact h.intents p old

theorem changed_inv {buffer : SendBuffer} {accepted : List Octet} {released : Nat}
    (hr : ∃ sent released_le sent_le,
      buffer.Refines origin ⟨accepted, released, sent, released_le, sent_le⟩)
    (hg : buffer.generation = t.buffer.generation + 1#64) :
    Inv origin { t with buffer, accepted, released, changes := t.changes + 1 } where
  refines := hr
  generation := by rw [hg, h.generation]; simp [BitVec.ofNat_add]
  intents := by
    intro p hp
    obtain ⟨hle, hgen, _⟩ := h.intents p hp
    exact ⟨by dsimp only; omega, hgen, by dsimp only; omega⟩

theorem step_inv (op : SendOp) : (t.step op).Inv origin := by
  obtain ⟨sent, hle, hsent, href⟩ := h.refines
  cases op with
  | write input =>
    have hw := href.write input
    simp only [step]
    by_cases hc : (t.buffer.write input).2 = 0
    · simpa [hc, write_refused hc] using h
    · simp only [hc, asserted, ne_eq]
      refine changed_inv h ⟨sent, _, _, hw⟩ ?_
      simp only [write] at hc ⊢
      split
      · rename_i he
        simp [he] at hc
      · rename_i hne
        simp only [hne, settled, ↓reduceIte] at hc
        simp [hc]
  | prepareNew maximumPayload =>
    apply record_inv h
    unfold prepareNew
    split <;> simp
  | prepareRetransmission maximumPayload =>
    apply record_inv h
    unfold prepareRetransmission
    split <;> simp
  | prepareRetransmissionAt sequence maximumPayload =>
    apply record_inv h
    unfold prepareRetransmissionAt
    split <;> simp
  | commit range =>
    simp only [step]
    cases hc : t.buffer.rangeIsCurrent range with
    | false => simpa [commit, hc] using h
    | true =>
      obtain ⟨fits, hb⟩ := href.commit hc
      have hok : (t.buffer.commit range).2 = true := by simp [commit, hc]
      simp only [hok]
      exact changed_inv h ⟨_, _, fits, hb⟩ (by simp [commit, hc])
  | acknowledge acknowledgment =>
    simp only [step]
    cases hn : Serial.after acknowledgment t.buffer.sendNext with
    | true => simpa [acknowledge, href.valid, hn] using h
    | false =>
      cases hu : Serial.after acknowledgment t.buffer.sendUnacknowledged with
      | false => simpa [acknowledge, href.valid, hn, hu] using h
      | true =>
        have hb := href.acknowledge hn hu
        have hres : (t.buffer.acknowledge acknowledgment).2 =
            { status := .advanced,
              newlyAcknowledged := acknowledgment - t.buffer.sendUnacknowledged } := by
          simp [acknowledge, href.valid, hn, hu]
        simp only [hres]
        exact changed_inv h ⟨sent, _, _, hb⟩ (by simp [acknowledge, href.valid, hn, hu])

omit h in
theorem run_inv (storage : List Octet) (origin : BitVec 32)
    (valid : (create storage origin).valid = true) (ops : List SendOp) :
    (run step (start storage origin) ops).Inv origin :=
  invariant (P := Inv origin) (fun _ op h => step_inv h op) ops (start_inv storage origin valid)

/-- An intent fewer than 2^64 changes old that is still current was prepared
with no change in between. -/
theorem Inv.unchanged {p : SendIntent} (hp : p ∈ t.prepared)
    (recent : t.changes < p.changes + 0x10000000000000000)
    (hc : t.buffer.rangeIsCurrent p.range = true) : p.changes = t.changes := by
  obtain ⟨sent, _, _, href⟩ := h.refines
  obtain ⟨hle, hgen, _⟩ := h.intents p hp
  obtain ⟨hcur, hlen, _⟩ := href.current hc
  have hne : p.range.length ≠ 0#32 := by
    intro hz
    simp [hz] at hlen
  have hmod : (p.changes + 1) % 0x10000000000000000 = (t.changes + 1) % 0x10000000000000000 := by
    have := congrArg BitVec.toNat ((hgen hne).symm.trans (hcur.trans h.generation))
    simpa only [BitVec.toNat_ofNat] using this
  omega

/-- What a successful copy yields, whatever range it was called with. -/
theorem Inv.copied {range : PreparedSendRange} {outputSize : Nat} {output : List Octet}
    (hcopy : t.buffer.copy range outputSize = some output) :
    output = (t.accepted.drop (t.position range)).take range.length.toNat := by
  obtain ⟨sent, _, _, href⟩ := h.refines
  simp only [copy] at hcopy
  split at hcopy
  · cases hcopy
  rename_i hok
  simp only [asserted, not_or, refuted] at hok
  obtain ⟨_, _, hfit, _⟩ := href.current hok.1
  have hb := href.bounded
  have hfits := href.fits
  have hqueue := href.queue
  rw [position, ← List.drop_drop, ← hqueue, window_drop _ _ _ (by omega),
    window_take _ _ (by omega)]
  simp only [Option.some.injEq] at hcopy
  rw [← hcopy, window]
  apply List.map_congr_left
  intro i hi
  have hi' := List.mem_range.mp hi
  have hsum : (range.sequence - t.buffer.sendUnacknowledged + BitVec.ofNat 32 i).toNat =
      (range.sequence - t.buffer.sendUnacknowledged).toNat + i := by
    bv_omega
  rw [physical, hsum, slot_advance]

end SendHistory

/-- Whatever calls were made, the counters stay in order inside the capacity, the
arena holds exactly the accepted octets not yet acknowledged, and an intent
fewer than 2^64 changes old copies the octets accepted at its positions and
commits only if nothing changed since it was prepared. -/
theorem send_stream_correct (storage : List Octet) (origin : BitVec 32)
    (valid : (create storage origin).valid = true) (ops : List SendOp) :
    let t := run SendHistory.step (SendHistory.start storage origin) ops
    ((t.buffer.sendNext - t.buffer.sendUnacknowledged).toNat ≤
        (t.buffer.writeNext - t.buffer.sendUnacknowledged).toNat ∧
      (t.buffer.writeNext - t.buffer.sendUnacknowledged).toNat ≤ t.buffer.capacity.toNat) ∧
    (∀ i, i < (t.buffer.writeNext - t.buffer.sendUnacknowledged).toNat →
      some (t.buffer.storage.getD (t.buffer.physical (BitVec.ofNat 32 i)) 0#8) =
        t.accepted[t.released + i]?) ∧
    ∀ p ∈ t.prepared, t.changes < p.changes + 0x10000000000000000 →
      (∀ outputSize output, t.buffer.copy p.range outputSize = some output →
        output = (t.accepted.drop p.position).take p.range.length.toNat) ∧
      ((t.buffer.commit p.range).2 = true → t.changes = p.changes) := by
  intro t
  have inv : t.Inv origin := SendHistory.run_inv storage origin valid ops
  obtain ⟨sent, hle, hsent, href⟩ := inv.refines
  have hb := href.bounded
  have hfits := href.fits
  have hqueue := href.queue
  have hq := href.queued
  have hf := href.flight
  simp only [queuedOctets, flightSize, href.valid, ↓reduceIte] at hq hf
  dsimp only at hfits hqueue
  refine ⟨⟨by omega, ?_⟩, ?_, ?_⟩
  · rw [capacity, if_pos href.valid, BitVec.toNat_ofNat]
    omega
  · intro i hi
    rw [← List.getElem?_drop, ← hqueue, List.getElem?_eq_getElem (by simpa using by omega),
      window_getElem, physical, BitVec.toNat_ofNat, Nat.mod_eq_of_lt (by omega)]
  · intro p hp recent
    constructor
    · intro outputSize output hcopy
      have hc : t.buffer.rangeIsCurrent p.range = true := by
        cases hc : t.buffer.rangeIsCurrent p.range with
        | true => rfl
        | false => simp [copy, hc] at hcopy
      have same := inv.unchanged hp recent hc
      rw [(inv.intents p hp).2.2 same]
      exact inv.copied hcopy
    · intro hcommit
      have hc : t.buffer.rangeIsCurrent p.range = true := by
        cases hc : t.buffer.rangeIsCurrent p.range with
        | true => rfl
        | false => simp [commit, hc] at hcommit
      exact (inv.unchanged hp recent hc).symm

theorem send_stream_correct_one_octet : (create [0#8, 0#8] 5#32).valid = true ∧
    let t := run SendHistory.step (SendHistory.start [0#8, 0#8] 5#32)
      [.write [7#8], .prepareNew 1#32]
    ∀ p ∈ t.prepared, t.changes < p.changes + 0x10000000000000000 →
      (t.buffer.commit p.range).2 = true → t.changes = p.changes :=
  ⟨by decide, fun p hp recent =>
    ((send_stream_correct [0#8, 0#8] 5#32 (by decide) [.write [7#8], .prepareNew 1#32]).2.2
      p hp recent).2⟩

/-! The generation is a 64-bit counter, so 2^64 repairs of the same octet bring
an old intent back to life. -/

def repaired (n : Nat) : SendHistory :=
  { buffer := ⟨[7#8], 0#32, 1#32, 1#32, 0#32, BitVec.ofNat 64 (3 + n), true⟩, accepted := [7#8],
    changes := 2 + n, prepared := [⟨⟨0#32, 1#32, 3#64, true⟩, 0, 2⟩] }

def repair (n : Nat) : SendOp := .commit ⟨0#32, 1#32, BitVec.ofNat 64 (3 + n), true⟩

theorem repair_step (n : Nat) : (repaired n).step (repair n) = repaired (n + 1) := by
  have hg : BitVec.ofNat 64 (3 + n) + 1#64 = BitVec.ofNat 64 (3 + (n + 1)) :=
    (BitVec.ofNat_add (3 + n) 1).symm
  have hc : (repaired n).buffer.rangeIsCurrent ⟨0#32, 1#32, BitVec.ofNat 64 (3 + n), true⟩ = true := by
    simp [repaired, rangeIsCurrent, queuedOctets, flightSize]
  simp only [SendHistory.step, repair, commit, hc]
  simp [repaired, hg, Nat.add_assoc]

theorem repair_run (n : Nat) :
    run SendHistory.step (repaired 0) ((List.range n).map repair) = repaired n := by
  induction n with
  | zero => rfl
  | succ n ih => simp [List.range_succ, run_append, ih, repair_step]

theorem stale_intent_commits_after_wrap :
    ¬ ∀ ops, let t := run SendHistory.step (SendHistory.start [0#8] 0#32) ops
      ∀ p ∈ t.prepared, (t.buffer.commit p.range).2 = true → t.changes = p.changes := by
  intro h
  have hrun : run SendHistory.step (SendHistory.start [0#8] 0#32)
      ([.write [7#8], .commit ⟨0#32, 1#32, 2#64, false⟩, .prepareRetransmission 1#32] ++
        (List.range (0x10000000000000000)).map repair) = repaired (0x10000000000000000) := by
    rw [run_append]
    exact repair_run (0x10000000000000000)
  have hop := h ([.write [7#8], .commit ⟨0#32, 1#32, 2#64, false⟩, .prepareRetransmission 1#32] ++
    (List.range (0x10000000000000000)).map repair)
  simp only [hrun] at hop
  have equal := hop ⟨⟨0#32, 1#32, 3#64, true⟩, 0, 2⟩ (List.mem_singleton.mpr rfl) (by decide)
  simp [repaired] at equal

end RouterSim.Tcp
