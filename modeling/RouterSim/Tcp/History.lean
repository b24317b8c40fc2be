import RouterSim.Lib.Circular
import RouterSim.Tcp.Timers

namespace RouterSim.Tcp

open List Serial Circular

structure TransmissionRecord where
  firstTransmittedAt : Instant := 0
  lastTransmittedAt : Instant := 0
  first : BitVec 32 := 0#32
  last : BitVec 32 := 0#32
  retransmissions : BitVec 32 := 0#32
  deriving DecidableEq

/-- A nonempty range of at most 2^30 octets. -/
def boundedRange (first last : BitVec 32) : Bool :=
  last - first != 0#32 && decide (last - first ≤ 0x40000000#32)

namespace TransmissionRecord

def overlaps (first last : BitVec 32) (r : TransmissionRecord) : Bool :=
  before first r.last && before r.first last

def repair (first last : BitVec 32) (now : Instant) (r : TransmissionRecord) : TransmissionRecord :=
  if r.overlaps first last then
    { r with
      retransmissions :=
        if r.retransmissions != 0xffffffff#32 then r.retransmissions + 1#32 else r.retransmissions
      lastTransmittedAt := now }
  else r

end TransmissionRecord

/-- The ring of admitted original segments. -/
structure TransmissionHistory where
  records : List TransmissionRecord
  head : Nat := 0
  count : Nat := 0
  valid : Bool
  deriving DecidableEq

namespace TransmissionHistory

def create (records : List TransmissionRecord) : TransmissionHistory :=
  { records := List.replicate records.length {}, valid := !records.isEmpty }

/-- The retained records, oldest first. -/
def live (h : TransmissionHistory) : List TransmissionRecord := window h.records {} h.head h.count

def physical (h : TransmissionHistory) (logical : Nat) : Nat := slot h.records.length h.head logical

def canRecordOriginal (h : TransmissionHistory) (first last : BitVec 32) (now : Instant) : Bool :=
  if !h.valid || decide (h.records.length ≤ h.count) || !boundedRange first last then false
  else if h.count == 0 then true
  else
    let newest := h.records.getD (h.physical (h.count - 1)) {}
    newest.last == first && decide (newest.firstTransmittedAt ≤ now)

def recordOriginal (h : TransmissionHistory) (first last : BitVec 32) (now : Instant) :
    TransmissionHistory × Bool :=
  if !h.canRecordOriginal first last now then (h, false)
  else
    ({ h with
        records := h.records.set (h.physical h.count)
          { firstTransmittedAt := now, lastTransmittedAt := now, first, last }
        count := h.count + 1 },
      true)

def canRecordRetransmission (h : TransmissionHistory) (first last : BitVec 32) (now : Instant) :
    Bool :=
  if !h.valid || !boundedRange first last then false
  else
    let repaired := h.live.filter (·.overlaps first last)
    repaired.all (fun r => decide (r.lastTransmittedAt ≤ now)) && !repaired.isEmpty

/-- The second component is the number of records the repair touched. -/
def recordRetransmission (h : TransmissionHistory) (first last : BitVec 32) (now : Instant) :
    TransmissionHistory × Nat :=
  if !h.canRecordRetransmission first last now then (h, 0)
  else
    ({ h with
        records := update h.records h.head (·.repair first last now) h.count },
      (h.live.filter (·.overlaps first last)).length)

/-- One round for each retained record. -/
def acknowledgeLoop (h : TransmissionHistory) (acknowledgment : BitVec 32) :
    Nat → TransmissionHistory
  | 0 => h
  | rounds + 1 =>
    let record := h.records.getD h.head {}
    if beforeOrEqual record.last acknowledgment then
      acknowledgeLoop
        { h with
          records := h.records.set h.head {}, head := (h.head + 1) % h.records.length,
          count := h.count - 1 } acknowledgment rounds
    else if after acknowledgment record.first then
      { h with records := h.records.set h.head { record with first := acknowledgment } }
    else h

def acknowledge (h : TransmissionHistory) (acknowledgment : BitVec 32) : TransmissionHistory :=
  let released := h.acknowledgeLoop acknowledgment h.count
  if released.count == 0 then { released with head := 0 } else released

def oldest (h : TransmissionHistory) : Option TransmissionRecord :=
  if h.count == 0 then none else some (h.records.getD h.head {})

def contains (h : TransmissionHistory) (sequence : BitVec 32) : Bool :=
  h.live.any fun r => !before sequence r.first && before sequence r.last

/-- The ring is inside its arena. -/
structure Ring (h : TransmissionHistory) : Prop where
  valid : h.valid = true
  nonempty : 0 < h.records.length
  head : h.head < h.records.length
  count : h.count ≤ h.records.length

end TransmissionHistory

/-! ## The flight as a sequence of segments -/

/-- What is left of the retained records after a cumulative acknowledgment. -/
def releaseRecords (acknowledgment : BitVec 32) : List TransmissionRecord → List TransmissionRecord
  | [] => []
  | r :: rest =>
    if beforeOrEqual r.last acknowledgment then releaseRecords acknowledgment rest
    else if after acknowledgment r.first then { r with first := acknowledgment } :: rest
    else r :: rest

/-- The records cut the stream positions from `p` to `q` into nonempty segments. -/
def Covers (origin : BitVec 32) : Nat → List TransmissionRecord → Nat → Prop
  | p, [], q => p = q
  | p, r :: rest, q => ∃ n, p < n ∧ r.first = counter origin p ∧
      r.last = counter origin n ∧ Covers origin n rest q

namespace Covers

variable {origin : BitVec 32} {p q : Nat} {records : List TransmissionRecord}

section

variable (h : Covers origin p records q)
include h

theorem le : p ≤ q := by
  induction records generalizing p with
  | nil => exact Nat.le_of_eq h
  | cons r rest ih =>
    obtain ⟨n, hlt, _, _, tail⟩ := h
    have := ih tail
    omega

theorem nil_iff : records = [] ↔ p = q := by
  cases records with
  | nil => exact ⟨fun _ => h, fun _ => rfl⟩
  | cons r rest =>
    obtain ⟨n, hlt, _, _, tail⟩ := h
    have := tail.le
    constructor
    · intro absurdity
      cases absurdity
    · intro same
      omega

theorem append {r : TransmissionRecord} {n : Nat} (hlt : q < n)
    (hfirst : r.first = counter origin q) (hlast : r.last = counter origin n) :
    Covers origin p (records ++ [r]) n := by
  induction records generalizing p with
  | nil =>
    cases h
    exact ⟨n, hlt, hfirst, hlast, rfl⟩
  | cons head rest ih =>
    obtain ⟨m, hm, hf, hl, tail⟩ := h
    exact ⟨m, hm, hf, hl, ih tail⟩

theorem map {f : TransmissionRecord → TransmissionRecord}
    (hf : ∀ r, (f r).first = r.first ∧ (f r).last = r.last) :
    Covers origin p (records.map f) q := by
  induction records generalizing p with
  | nil => exact h
  | cons head rest ih =>
    obtain ⟨m, hm, hfirst, hlast, tail⟩ := h
    exact ⟨m, hm, (hf head).1.trans hfirst, (hf head).2.trans hlast, ih tail⟩

end

theorem head_bounded {r : TransmissionRecord} (h : Covers origin p (r :: records) q)
    (hq : q ≤ p + 0x40000000) : boundedRange r.first r.last = true := by
  obtain ⟨n, hlt, hfirst, hlast, tail⟩ := h
  have hn := tail.le
  have hspan := counter_sub origin (Nat.le_of_lt hlt) (by omega)
  rw [← hfirst, ← hlast] at hspan
  simp only [boundedRange, asserted]
  constructor <;> bv_omega

/-- A cumulative acknowledgment inside the flight releases what lies before it. -/
theorem release (h : Covers origin p records q) {a : Nat} (hp : p ≤ a) (ha : a ≤ q)
    (hq : q ≤ p + 0x40000000) : Covers origin a (releaseRecords (counter origin a) records) q := by
  induction records generalizing p with
  | nil =>
    cases h
    exact Nat.le_antisymm ha hp
  | cons r rest ih =>
    obtain ⟨n, hlt, hfirst, hlast, tail⟩ := h
    have hn := tail.le
    have hdone := counter_beforeOrEqual origin (p := n) (q := a) (by omega) (by omega)
    simp only [releaseRecords, hlast]
    by_cases done : n ≤ a
    · rw [if_pos (hdone.mpr done)]
      exact ih tail done (by omega)
    · rw [if_neg (fun hb => done (hdone.mp hb)), hfirst]
      have htrim := counter_before origin (p := p) (q := a) (by omega) (by omega)
      by_cases trimmed : p < a
      · rw [Serial.after, if_pos (htrim.mpr trimmed)]
        exact ⟨n, by omega, rfl, rfl, tail⟩
      · have same : p = a := by omega
        subst same
        rw [Serial.after, if_neg (fun hb => trimmed (htrim.mp hb))]
        exact ⟨n, hlt, hfirst, hlast, tail⟩

end Covers

namespace TransmissionHistory

variable {h : TransmissionHistory}

theorem live_oldest (hr : h.Ring) : h.oldest = h.live.head? := by
  unfold oldest live
  cases hc : h.count with
  | zero => rfl
  | succ n => simp [window_cons _ _ _ hr.head]

theorem create_ring {records : List TransmissionRecord}
    (hv : (create records).valid = true) : (create records).Ring := by
  have hpos : 0 < records.length := by
    simpa [create, length_pos_iff] using hv
  exact ⟨hv, by simpa [create] using hpos, by simpa [create] using hpos, Nat.zero_le _⟩

/-- An original segment is accepted only at the end of the flight, and is
appended to the retained records. -/
theorem recordOriginal_live (hr : h.Ring) {first last : BitVec 32} {now : Instant}
    (hc : h.canRecordOriginal first last now = true) :
    (h.recordOriginal first last now).2 = true ∧ (h.recordOriginal first last now).1.Ring ∧
    (h.recordOriginal first last now).1.live =
      h.live ++ [{ firstTransmittedAt := now, lastTransmittedAt := now, first, last }] := by
  have hroom : h.count < h.records.length := by
    unfold canRecordOriginal at hc
    split at hc
    · cases hc
    rename_i guard
    simp only [asserted, not_or, Nat.not_le] at guard
    exact guard.1.2
  unfold recordOriginal
  rw [if_neg (by simp [hc])]
  refine ⟨rfl, ⟨hr.valid, by simpa using hr.nonempty, by simpa using hr.head,
    by simp only [length_set]; omega⟩, ?_⟩
  exact window_push hroom

theorem repair_bounds (first last : BitVec 32) (now : Instant) (r : TransmissionRecord) :
    (r.repair first last now).first = r.first ∧ (r.repair first last now).last = r.last := by
  unfold TransmissionRecord.repair
  split <;> exact ⟨rfl, rfl⟩

/-- A repair touches at least one record and moves none of their bounds. -/
theorem recordRetransmission_live (hr : h.Ring) {first last : BitVec 32} {now : Instant}
    (hc : h.canRecordRetransmission first last now = true) :
    (h.recordRetransmission first last now).2 ≠ 0 ∧ (h.recordRetransmission first last now).1.Ring ∧
    (h.recordRetransmission first last now).1.live = h.live.map (·.repair first last now) := by
  have hsome : (h.live.filter (·.overlaps first last)).length ≠ 0 := by
    unfold canRecordRetransmission at hc
    split at hc
    · cases hc
    · simp only [asserted, isEmpty_eq_false_iff] at hc
      exact fun hz => hc.2 (eq_nil_of_length_eq_zero hz)
  unfold recordRetransmission
  rw [if_neg (by simp [hc])]
  exact ⟨hsome, ⟨hr.valid, by simpa using hr.nonempty, by simpa using hr.head,
    by simpa using hr.count⟩, window_update _ _ _ _ hr.count⟩

section covers

variable {origin : BitVec 32} {p q n : Nat} {first last : BitVec 32} {now : Instant}

theorem recordOriginal_covers (hr : h.Ring) (covers : Covers origin p h.live q)
    (hc : h.canRecordOriginal first last now = true) (hlt : q < n)
    (hfirst : first = counter origin q) (hlast : last = counter origin n) :
    Covers origin p (h.recordOriginal first last now).1.live n := by
  rw [(recordOriginal_live hr hc).2.2]
  exact covers.append hlt hfirst hlast

theorem recordRetransmission_covers (hr : h.Ring) (covers : Covers origin p h.live q)
    (hc : h.canRecordRetransmission first last now = true) :
    Covers origin p (h.recordRetransmission first last now).1.live q := by
  rw [(recordRetransmission_live hr hc).2.2]
  exact covers.map (repair_bounds first last now)

end covers

theorem acknowledgeLoop_live (hr : h.Ring) (acknowledgment : BitVec 32) {rounds : Nat}
    (hrounds : rounds = h.count) : (h.acknowledgeLoop acknowledgment rounds).Ring ∧
    (h.acknowledgeLoop acknowledgment rounds).live = releaseRecords acknowledgment h.live := by
  induction rounds generalizing h with
  | zero =>
    refine ⟨hr, ?_⟩
    simp [acknowledgeLoop, live, ← hrounds, window, releaseRecords]
  | succ rounds ih =>
    have hcount := hr.count
    have hlive : h.live = h.records.getD h.head {} ::
        window h.records {} ((h.head + 1) % h.records.length) rounds := by
      rw [live, ← hrounds, window_cons _ _ _ hr.head]
    rw [hlive]
    simp only [acknowledgeLoop, releaseRecords]
    split
    · have next := @ih
        { h with
          records := h.records.set h.head {}, head := (h.head + 1) % h.records.length,
          count := h.count - 1 }
        ⟨hr.valid, by simpa using hr.nonempty,
          by simpa using Nat.mod_lt _ hr.nonempty, by simp only [length_set]; omega⟩
        (by dsimp only; omega)
      refine ⟨next.1, next.2.trans (congrArg _ ?_)⟩
      rw [live]
      dsimp only
      rw [window_set_head _ _ hr.head (by omega), show h.count - 1 = rounds by omega]
    · split
      · refine ⟨⟨hr.valid, by simpa using hr.nonempty, by simpa using hr.head,
          by simpa using hcount⟩, ?_⟩
        rw [live]
        rw [← hrounds, window_cons _ _ _ (by simpa using hr.head), length_set,
          window_set_head _ _ hr.head (by omega), getD_eq_getElem?_getD,
          List.getElem?_set_self hr.head, Option.getD_some]
      · exact ⟨hr, hlive⟩

theorem acknowledge_live (hr : h.Ring) (acknowledgment : BitVec 32) :
    (h.acknowledge acknowledgment).Ring ∧
    (h.acknowledge acknowledgment).live = releaseRecords acknowledgment h.live := by
  obtain ⟨ring, records⟩ := acknowledgeLoop_live hr acknowledgment rfl
  unfold acknowledge
  dsimp only
  split
  · rename_i hz
    have hzero : (h.acknowledgeLoop acknowledgment h.count).count = 0 := by simpa using hz
    refine ⟨⟨ring.valid, ring.nonempty, ring.nonempty, ring.count⟩, ?_⟩
    rw [← records, live, live, hzero]
    rfl
  · exact ⟨ring, records⟩

end TransmissionHistory

/-! ## The failure detector follows the oldest segment -/

/-- The detector is running on exactly this segment. -/
def FailureDetector.Watches (f : FailureDetector) (r : TransmissionRecord) : Prop :=
  f.active = true ∧ f.segmentFirst = r.first ∧ f.segmentEnd = r.last

theorem FailureDetector.begin_watches (f : FailureDetector) {r : TransmissionRecord}
    (hr : boundedRange r.first r.last = true) (syn : Bool) (now : Instant) :
    (f.begin r.first r.last syn now).1.Watches r := by
  simp only [boundedRange, asserted] at hr
  have guard : (r.last - r.first == 0#32 || decide (0x40000000#32 < r.last - r.first)) = false := by
    simp only [refuted]
    exact ⟨hr.1, by have := hr.2; bv_omega⟩
  simp only [FailureDetector.begin, guard]
  exact ⟨rfl, rfl, rfl⟩

theorem FailureDetector.retransmitted_bounds (f : FailureDetector) (first last : BitVec 32)
    (now : Instant) : (f.retransmitted first last now).1.active = f.active ∧
    (f.retransmitted first last now).1.segmentFirst = f.segmentFirst ∧
    (f.retransmitted first last now).1.segmentEnd = f.segmentEnd := by
  unfold FailureDetector.retransmitted
  split
  · exact ⟨rfl, rfl, rfl⟩
  dsimp only
  -- The counter's own branch does not matter here.
  generalize (if f.retransmissions != 0xffffffff#32 then _ else _) = count
  split
  · exact ⟨rfl, rfl, rfl⟩
  · split <;> exact ⟨rfl, rfl, rfl⟩

/-- An acknowledgment trims the watched segment as it trims the oldest record, and
stops the detector exactly when that record is released. -/
theorem FailureDetector.acknowledge_watches {f : FailureDetector} {r : TransmissionRecord}
    (hw : f.Watches r) (rest : List TransmissionRecord) (acknowledgment : BitVec 32) :
    (f.acknowledge acknowledgment).active = false ∨
    ∃ r', (releaseRecords acknowledgment (r :: rest)).head? = some r' ∧
      (f.acknowledge acknowledgment).Watches r' := by
  obtain ⟨hactive, hfirst, hlast⟩ := hw
  simp only [FailureDetector.acknowledge, hactive, hlast, hfirst, settled, ↓reduceIte,
    releaseRecords]
  split
  · exact .inl rfl
  split
  · exact .inr ⟨_, rfl, rfl, rfl, rfl⟩
  · exact .inr ⟨_, rfl, hactive, hfirst, hlast⟩

theorem FailureDetector.acknowledge_inactive {f : FailureDetector} (h : f.active = false)
    (acknowledgment : BitVec 32) : f.acknowledge acknowledgment = f := by
  simp [FailureDetector.acknowledge, h]

end RouterSim.Tcp
