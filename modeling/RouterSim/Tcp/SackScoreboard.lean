import RouterSim.Tcp.ReceiveBuffer
import RouterSim.Tcp.History
import RouterSim.Tcp.Congestion

namespace RouterSim.Tcp

open List Serial

structure SackRange where
  first : BitVec 32 := 0#32
  last : BitVec 32 := 0#32
  deriving DecidableEq

inductive SackUpdateStatus
  | updated | unchanged | malformed | capacityExhausted
  deriving DecidableEq

inductive SackNextReason
  | lostRetransmission | newData | unsackedRetransmission | rescueRetransmission
  deriving DecidableEq

structure SackNextSegment where
  range : SackRange := {}
  reason : SackNextReason := .lostRetransmission

def SackNextSegment.present (segment : SackNextSegment) : Bool :=
  segment.range.first != segment.range.last

def duplicateThreshold : BitVec 32 := 3#32

/-! ## Staging ranges

The workspace of an update is the list of the ranges staged so far, in order of
their offsets from the cumulative acknowledgment. -/

def SackRange.length (r : SackRange) : BitVec 32 := r.last - r.first

/-- The number of leading ranges that end before the incoming one. -/
def insertPosition (base incomingFirst : BitVec 32) : List SackRange → Nat
  | [] => 0
  | r :: rest =>
    if r.last - base < incomingFirst then insertPosition base incomingFirst rest + 1 else 0

/-- The incoming range grown over the ranges it touches, and how many those are. -/
def mergeRanges (base : BitVec 32) (incoming : SackRange) : List SackRange → SackRange × Nat
  | [] => (incoming, 0)
  | r :: rest =>
    if r.first - base ≤ incoming.last - base then
      let grown : SackRange :=
        { first := if r.first - base < incoming.first - base then r.first else incoming.first
          last := if incoming.last - base < r.last - base then r.last else incoming.last }
      let merged := mergeRanges base grown rest
      (merged.1, merged.2 + 1)
    else (incoming, 0)

def insertWorkspace (capacity : Nat) (staged : List SackRange) (incoming : SackRange)
    (base : BitVec 32) : Option (List SackRange) :=
  let position := insertPosition base (incoming.first - base) staged
  let merged := mergeRanges base incoming (staged.drop position)
  if merged.2 == 0 && staged.length == capacity then none
  else some (staged.take position ++ merged.1 :: staged.drop (position + merged.2))

/-- The ranges that survive the new cumulative acknowledgment, clipped to it. -/
def stageExisting (capacity : Nat) (highAck : BitVec 32) :
    List SackRange → List SackRange → Option (List SackRange)
  | staged, [] => some staged
  | staged, candidate :: rest =>
    if beforeOrEqual candidate.last highAck then stageExisting capacity highAck staged rest
    else
      let clipped := if before candidate.first highAck then
        { candidate with first := highAck } else candidate
      match insertWorkspace capacity staged clipped highAck with
      | none => none
      | some staged => stageExisting capacity highAck staged rest

def stageBlocks (capacity : Nat) (highAck highDataEnd : BitVec 32) :
    List SackRange → List SackBlock → Except SackUpdateStatus (List SackRange)
  | staged, [] => .ok staged
  | staged, block :: rest =>
    if !boundedRange block.leftEdge block.rightEdge ||
        after block.rightEdge highDataEnd ||
        afterOrEqual block.leftEdge highDataEnd then .error .malformed
    else if beforeOrEqual block.rightEdge highAck then
      stageBlocks capacity highAck highDataEnd staged rest
    else
      let clipped : SackRange :=
        { first := if before block.leftEdge highAck then highAck else block.leftEdge
          last := block.rightEdge }
      match insertWorkspace capacity staged clipped highAck with
      | none => .error .capacityExhausted
      | some staged => stageBlocks capacity highAck highDataEnd staged rest

def sackedOctets (staged : List SackRange) : Nat := (staged.map (·.length.toNat)).foldl (· + ·) 0

/-! ## The scoreboard -/

/-- `ranges` is the whole arena; the first `count` of them are live. -/
structure SackScoreboard where
  ranges : List SackRange
  senderMss : BitVec 32
  highAck : BitVec 32 := 0#32
  highDataEnd : BitVec 32 := 0#32
  highRetransmittedEnd : BitVec 32 := 0#32
  recoveryPoint : BitVec 32 := 0#32
  rescueRetransmitted : BitVec 32 := 0#32
  duplicateAcknowledgments : BitVec 32 := 0#32
  count : Nat := 0
  recovery : Bool := false
  rescuePresent : Bool := false
  recoverySuppressed : Bool := false
  lastUpdateAddedSack : Bool := false
  valid : Bool
  deriving DecidableEq

namespace SackScoreboard

def create (ranges workspace : List SackRange) (senderMss : BitVec 32) : SackScoreboard :=
  let valid := !ranges.isEmpty && ranges.length == workspace.length && senderMss != 0#32
  { ranges := if valid then List.replicate ranges.length {} else ranges, senderMss, valid }

def live (k : SackScoreboard) : List SackRange := k.ranges.take k.count

def reset (k : SackScoreboard) (highAck highDataEnd : BitVec 32) : SackScoreboard × Bool :=
  if !k.valid || decide (0x40000000#32 < highDataEnd - highAck) then (k, false)
  else
    ({ k with
        ranges := List.replicate k.ranges.length {}, count := 0, highAck, highDataEnd,
        highRetransmittedEnd := highAck, recoveryPoint := highDataEnd, rescueRetransmitted := 0#32,
        duplicateAcknowledgments := 0#32, recovery := false, rescuePresent := false,
        recoverySuppressed := false },
      true)

def malformedEdges (k : SackScoreboard) (highAck highDataEnd : BitVec 32) : Bool :=
  !k.valid || before highAck k.highAck || before highDataEnd k.highDataEnd ||
    after highAck highDataEnd || decide (0x40000000#32 < highDataEnd - highAck)

/-- Leave recovery, and lift its suppression, once the recovery point is reached. -/
def settleRecovery (k : SackScoreboard) : SackScoreboard :=
  let left :=
    if k.recovery && beforeOrEqual k.recoveryPoint k.highAck then
      { k with recovery := false, rescuePresent := false }
    else k
  let lifted :=
    if left.recoverySuppressed && beforeOrEqual left.recoveryPoint left.highAck then
      { left with recoverySuppressed := false }
    else left
  if !lifted.recovery && !lifted.recoverySuppressed &&
      before lifted.recoveryPoint lifted.highAck then
    { lifted with recoveryPoint := lifted.highAck }
  else lifted

/-- Install the staged ranges and the new edges. -/
def install (k : SackScoreboard) (highAck highDataEnd : BitVec 32) (added : Bool)
    (staged : List SackRange) : SackScoreboard :=
  settleRecovery { k with
    ranges := staged ++ List.replicate (k.ranges.length - staged.length) {}, count := staged.length,
    highAck, highDataEnd
    highRetransmittedEnd :=
      if before k.highRetransmittedEnd highAck then highAck else k.highRetransmittedEnd
    duplicateAcknowledgments :=
      if after highAck k.highAck then 0#32 else k.duplicateAcknowledgments
    lastUpdateAddedSack := added }

def update (k : SackScoreboard) (highAck highDataEnd : BitVec 32) (blocks : List SackBlock) :
    SackScoreboard × SackUpdateStatus :=
  let cleared := { k with lastUpdateAddedSack := false }
  if k.malformedEdges highAck highDataEnd then (cleared, .malformed)
  else
    match stageExisting k.ranges.length highAck [] k.live with
    | none => (cleared, .capacityExhausted)
    | some existing =>
      match stageBlocks k.ranges.length highAck highDataEnd existing blocks with
      | .error status => (cleared, status)
      | .ok staged =>
        let changed := highAck != k.highAck || highDataEnd != k.highDataEnd || staged != k.live
        (k.install highAck highDataEnd (decide (sackedOctets existing < sackedOctets staged)) staged,
          if changed then .updated else .unchanged)

def isLost (k : SackScoreboard) (target : BitVec 32) : Bool :=
  if !k.valid || before target k.highAck || !before target k.highDataEnd then false
  else
    let afterTarget := target + 1#32
    let above := k.live.filter fun r => !beforeOrEqual r.last afterTarget
    let discontiguous := (above.filter fun r => after r.first target).length
    let sackedAbove := (above.map fun r =>
      (r.last - (if before r.first afterTarget then afterTarget else r.first)).toNat).foldl (· + ·) 0
    decide (duplicateThreshold.toNat ≤ discontiguous) ||
      decide ((duplicateThreshold.toNat - 1) * k.senderMss.toNat < sackedAbove)

/-- What one interval without a selective acknowledgment adds to the pipe. -/
def unsackedPipe (k : SackScoreboard) (first last : BitVec 32) : Nat :=
  if first == last then 0
  else
    (if k.isLost first then 0 else (last - first).toNat) +
      (if before first k.highRetransmittedEnd then
        ((if before last k.highRetransmittedEnd then last else k.highRetransmittedEnd) -
          first).toNat
      else 0)

def pipeFrom (k : SackScoreboard) (cursor : BitVec 32) : List SackRange → Nat
  | [] => k.unsackedPipe cursor k.highDataEnd
  | r :: rest => k.unsackedPipe cursor r.first + k.pipeFrom r.last rest

def pipe (k : SackScoreboard) : BitVec 32 :=
  if !k.valid then 0#32
  else
    let result := k.pipeFrom k.highAck k.live
    if 0xffffffff < result then 0xffffffff#32 else BitVec.ofNat 32 result

def duplicateAck (k : SackScoreboard) (carriesNewSack : Bool) : SackScoreboard × Bool :=
  if !k.valid || k.recovery || !carriesNewSack then (k, false)
  else
    let counted := { k with
      duplicateAcknowledgments :=
        if k.duplicateAcknowledgments != 0xffffffff#32 then k.duplicateAcknowledgments + 1#32
        else k.duplicateAcknowledgments }
    (counted,
      decide (duplicateThreshold ≤ counted.duplicateAcknowledgments) || counted.isLost k.highAck)

def firstUnsackedIn (ceiling : BitVec 32) : BitVec 32 → List SackRange → Option SackRange
  | cursor, [] => some { first := cursor, last := ceiling }
  | cursor, sacked :: rest =>
    if beforeOrEqual sacked.last cursor then firstUnsackedIn ceiling cursor rest
    else if before cursor sacked.first then
      some { first := cursor
             last := if before sacked.first ceiling then sacked.first else ceiling }
    else if !before sacked.last ceiling then none
    else firstUnsackedIn ceiling sacked.last rest

def firstUnsackedFrom (k : SackScoreboard) (start ceiling : BitVec 32) : Option SackRange :=
  let cursor := if before start k.highAck then k.highAck else start
  if !before cursor ceiling then none else firstUnsackedIn ceiling cursor k.live

def highestUnsackedIn (k : SackScoreboard) (result : Option SackRange) (cursor : BitVec 32) :
    List SackRange → Option SackRange
  | [] =>
    if before cursor k.highDataEnd then some { first := cursor, last := k.highDataEnd }
    else result
  | r :: rest =>
    highestUnsackedIn k
      (if before cursor r.first then some { first := cursor, last := r.first } else result)
      r.last rest

def highestUnsacked (k : SackScoreboard) : Option SackRange :=
  k.highestUnsackedIn none k.highAck k.live

/-- At most `senderMss` octets from the start of a range. -/
def leading (k : SackScoreboard) (r : SackRange) : SackRange :=
  { first := r.first, last := r.first + minimum k.senderMss r.length }

/-- Rule 1: the first lost interval below the highest selective acknowledgment.
Each round passes one live range, so `count` rounds and one more reach the end. -/
def lostFrom (k : SackScoreboard) (highestSack : BitVec 32) : Nat → BitVec 32 → Option SackRange
  | 0, _ => none
  | rounds + 1, search =>
    match k.firstUnsackedFrom search highestSack with
    | none => none
    | some candidate =>
      if k.isLost candidate.first then some candidate
      else if !before candidate.last highestSack then none
      else lostFrom k highestSack rounds candidate.last

def rescueSegment (k : SackScoreboard) : SackNextSegment :=
  if !k.rescuePresent || after k.highAck k.rescueRetransmitted then
    match k.highestUnsacked with
    | none => {}
    | some candidate =>
      { range := { first := candidate.last - minimum k.senderMss candidate.length
                   last := candidate.last }
        reason := .rescueRetransmission }
  else {}

def unsackedSegment (k : SackScoreboard) (highestSack : BitVec 32) : SackNextSegment :=
  match k.firstUnsackedFrom k.highRetransmittedEnd highestSack with
  | some candidate => { range := k.leading candidate, reason := .unsackedRetransmission }
  | none => k.rescueSegment

def nextSegment (k : SackScoreboard) (unsent : Option SackRange) : SackNextSegment :=
  if !k.valid || !k.recovery || k.count == 0 then {}
  else
    let highestSack := (k.ranges.getD (k.count - 1) {}).last
    match k.lostFrom highestSack (k.count + 1) k.highRetransmittedEnd with
    | some candidate => { range := k.leading candidate, reason := .lostRetransmission }
    | none =>
      match unsent with
      | none => k.unsackedSegment highestSack
      | some unsent =>
        if unsent.first == k.highDataEnd && boundedRange unsent.first unsent.last then
          { range := k.leading unsent, reason := .newData }
        else k.unsackedSegment highestSack

def enterRecovery (k : SackScoreboard) : SackScoreboard :=
  if !k.valid || k.recovery || k.recoverySuppressed then k
  else
    { k with
      recovery := true, recoveryPoint := k.highDataEnd, highRetransmittedEnd := k.highAck,
      rescuePresent := false, rescueRetransmitted := 0#32, duplicateAcknowledgments := 0#32 }

/-- The markers after a repair of the given range. -/
def commitRepair (k : SackScoreboard) (segment : SackNextSegment) : SackScoreboard :=
  if segment.reason == .rescueRetransmission then
    { k with rescueRetransmitted := k.recoveryPoint, rescuePresent := true }
  else if after segment.range.last k.highRetransmittedEnd then
    if segment.reason == .lostRetransmission && k.highRetransmittedEnd == k.highAck &&
        !k.rescuePresent then
      { k with
        highRetransmittedEnd := segment.range.last, rescueRetransmitted := segment.range.last,
        rescuePresent := true }
    else { k with highRetransmittedEnd := segment.range.last }
  else k

def commit (k : SackScoreboard) (segment : SackNextSegment) : SackScoreboard × Bool :=
  if !k.valid || !segment.present || !k.recovery ||
      !boundedRange segment.range.first segment.range.last then (k, false)
  else if segment.reason == .newData then
    if segment.range.first != k.highDataEnd then (k, false)
    else ({ k with highDataEnd := segment.range.last }, true)
  else if before segment.range.first k.highAck ||
      after segment.range.last k.highDataEnd then (k, false)
  else (k.commitRepair segment, true)

def onRetransmissionTimeout (k : SackScoreboard) : SackScoreboard :=
  if !k.valid then k
  else
    { k with
      ranges := List.replicate k.ranges.length {}, count := 0, recovery := false,
      recoveryPoint := k.highDataEnd, recoverySuppressed := k.highAck != k.highDataEnd,
      highRetransmittedEnd := k.highAck, rescuePresent := false, rescueRetransmitted := 0#32,
      duplicateAcknowledgments := 0#32 }

def reduceSenderMss (k : SackScoreboard) (senderMss : BitVec 32) : SackScoreboard :=
  if senderMss != 0#32 && decide (senderMss < k.senderMss) then { k with senderMss } else k

end SackScoreboard

/-! ## The scoreboard follows the flight -/

theorem mergeRanges_count_le (base : BitVec 32) (incoming : SackRange) (staged : List SackRange) :
    (mergeRanges base incoming staged).2 ≤ staged.length := by
  induction staged generalizing incoming with
  | nil => exact Nat.le_refl 0
  | cons r rest ih =>
    simp only [mergeRanges]
    split
    · exact Nat.succ_le_succ (ih _)
    · exact Nat.zero_le _

variable {capacity : Nat} {staged : List SackRange}

theorem insertWorkspace_length {result : List SackRange} {incoming : SackRange} {base : BitVec 32}
    (h : insertWorkspace capacity staged incoming base = some result) :
    result.length ≤ staged.length + 1 := by
  simp only [insertWorkspace] at h
  split at h
  · cases h
  simp only [Option.some.injEq] at h
  subst h
  simp only [length_append, length_take, length_cons, length_drop]
  omega

theorem insertWorkspace_isSome (incoming : SackRange)
    (base : BitVec 32) (hs : staged.length < capacity) :
    ∃ result, insertWorkspace capacity staged incoming base = some result := by
  have hne : (staged.length == capacity) = false := by
    rw [beq_eq_false_iff_ne]
    omega
  simp only [insertWorkspace, hne, settled]
  exact ⟨_, rfl⟩

/-- The live ranges always fit back into their own arena. -/
theorem stageExisting_isSome (highAck : BitVec 32) {ranges : List SackRange}
    (h : staged.length + ranges.length ≤ capacity) :
    ∃ result, stageExisting capacity highAck staged ranges = some result := by
  induction ranges generalizing staged with
  | nil => exact ⟨staged, rfl⟩
  | cons candidate rest ih =>
    rw [length_cons] at h
    simp only [stageExisting]
    split
    · exact ih (by omega)
    obtain ⟨next, hnext⟩ := insertWorkspace_isSome
      (if before candidate.first highAck then { candidate with first := highAck }
        else candidate) highAck (by omega : staged.length < capacity)
    have hle := insertWorkspace_length hnext
    rw [hnext]
    exact ih (by omega)

theorem stageBlocks_error {highAck highDataEnd : BitVec 32}
    {blocks : List SackBlock} {status : SackUpdateStatus}
    (h : stageBlocks capacity highAck highDataEnd staged blocks = .error status) :
    status = .malformed ∨ status = .capacityExhausted := by
  induction blocks generalizing staged with
  | nil => cases h
  | cons block rest ih =>
    simp only [stageBlocks] at h
    split at h
    · cases h
      exact .inl rfl
    · split at h
      · exact ih h
      · split at h
        · cases h
          exact .inr rfl
        · exact ih h

/-- HighACK and HighData sit at the two ends of the flight, and a recovery ends
strictly inside it. -/
structure SackScoreboard.Tracks (k : SackScoreboard) (origin : BitVec 32) (released sent : Nat) :
    Prop where
  valid : k.valid = true
  count : k.count ≤ k.ranges.length
  highAck : k.highAck = counter origin released
  highDataEnd : k.highDataEnd = counter origin sent
  recovery : k.recovery = true →
    ∃ point, released < point ∧ point ≤ sent ∧ k.recoveryPoint = counter origin point

def SackUpdateStatus.applied (status : SackUpdateStatus) : Bool :=
  status != .malformed && status != .capacityExhausted

namespace SackScoreboard

theorem settleRecovery_frame (k : SackScoreboard) :
    k.settleRecovery.valid = k.valid ∧ k.settleRecovery.count = k.count ∧
    k.settleRecovery.ranges = k.ranges ∧ k.settleRecovery.highAck = k.highAck ∧
    k.settleRecovery.highDataEnd = k.highDataEnd := by
  unfold settleRecovery
  dsimp only
  refine ⟨?_, ?_, ?_, ?_, ?_⟩ <;> repeat' split
  all_goals rfl

/-- Recovery ends exactly at the recovery point, and until then the point stays. -/
theorem settleRecovery_recovery (k : SackScoreboard) :
    k.settleRecovery.recovery = (k.recovery && !beforeOrEqual k.recoveryPoint k.highAck) ∧
    k.settleRecovery.recoverySuppressed =
      (k.recoverySuppressed && !beforeOrEqual k.recoveryPoint k.highAck) ∧
    (k.settleRecovery.recovery = true → k.settleRecovery.recoveryPoint = k.recoveryPoint) := by
  unfold settleRecovery
  cases hr : k.recovery <;> cases hs : k.recoverySuppressed <;>
    cases hb : beforeOrEqual k.recoveryPoint k.highAck <;>
    cases hl : before k.recoveryPoint k.highAck <;>
    simp [hr, hs, hb, hl]

variable {k : SackScoreboard} {origin : BitVec 32} {released sent : Nat}

variable {a q : Nat} {segment : SackNextSegment}

section

variable (h : k.Tracks origin released sent)
include h

theorem Tracks.install {added : Bool} (ha : released ≤ a) (hq : sent ≤ q)
    (hflight : sent ≤ released + 0x40000000) (hsent : a ≤ sent) :
    (k.install (counter origin a) (counter origin q) added staged).Tracks origin a q := by
  unfold SackScoreboard.install
  refine ⟨?_, ?_, ?_, ?_, ?_⟩
  · simpa only [settleRecovery_frame] using h.valid
  · simp [settleRecovery_frame]
  · simp [settleRecovery_frame]
  · simp [settleRecovery_frame]
  · intro recovering
    rw [(settleRecovery_recovery _).2.2 recovering]
    rw [(settleRecovery_recovery _).1, Bool.and_eq_true, Bool.not_eq_true'] at recovering
    obtain ⟨still, beyond⟩ := recovering
    obtain ⟨point, hlt, hle, hcounter⟩ := h.recovery still
    rw [hcounter, ← Bool.not_eq_true, counter_beforeOrEqual origin (by omega) (by omega)] at beyond
    exact ⟨point, by omega, by omega, hcounter⟩

theorem Tracks.edges (ha : released ≤ a) (hsent : a ≤ sent) (hq : sent ≤ q)
    (hflight : q ≤ released + 0x40000000) :
    k.malformedEdges (counter origin a) (counter origin q) = false := by
  have hback : before (counter origin a) (counter origin released) = false := by
    rw [← Bool.not_eq_true, counter_before origin (by omega) (by omega)]
    omega
  have hend : before (counter origin q) (counter origin sent) = false := by
    rw [← Bool.not_eq_true, counter_before origin (by omega) (by omega)]
    omega
  have horder : before (counter origin q) (counter origin a) = false := by
    rw [← Bool.not_eq_true, counter_before origin (by omega) (by omega)]
    omega
  have hspan := counter_sub origin (p := a) (q := q) (by omega) (by omega)
  simp only [malformedEdges, h.valid, h.highAck, h.highDataEnd, hback, hend, horder, Serial.after,
    settled, refuted]
  bv_omega

/-- An applied update moves the scoreboard to the new edges; any other leaves it
where it was. -/
theorem Tracks.update (blocks : List SackBlock) (ha : released ≤ a) (hsent : a ≤ sent)
    (hq : sent ≤ q) (hflight : q ≤ released + 0x40000000) :
    if (k.update (counter origin a) (counter origin q) blocks).2.applied then
      (k.update (counter origin a) (counter origin q) blocks).1.Tracks origin a q ∧
      ∃ added staged, (k.update (counter origin a) (counter origin q) blocks).1 =
        k.install (counter origin a) (counter origin q) added staged
    else (k.update (counter origin a) (counter origin q) blocks).1 =
      { k with lastUpdateAddedSack := false } := by
  have hlive : ([] : List SackRange).length + k.live.length ≤ k.ranges.length := by
    simp only [length_nil, live, length_take]
    omega
  obtain ⟨existing, hexisting⟩ := stageExisting_isSome (counter origin a) hlive
  simp only [SackScoreboard.update, h.edges ha hsent hq hflight, hexisting, settled, ↓reduceIte]
  cases hstaged : stageBlocks k.ranges.length (counter origin a) (counter origin q)
      existing blocks with
  | error status =>
    rcases stageBlocks_error hstaged with rfl | rfl <;> rfl
  | ok staged =>
    have happlied : ∀ changed : Bool, SackUpdateStatus.applied
        (if changed then .updated else .unchanged) = true := by decide
    rw [if_pos (happlied _)]
    exact ⟨h.install ha hq (by omega) hsent, _, _, rfl⟩

theorem Tracks.update_nil (ha : released ≤ a) (hsent : a ≤ sent) (hq : sent ≤ q)
    (hflight : q ≤ released + 0x40000000) :
    (k.update (counter origin a) (counter origin q) []).2.applied = true := by
  have hlive : ([] : List SackRange).length + k.live.length ≤ k.ranges.length := by
    simp only [length_nil, live, length_take]
    omega
  obtain ⟨existing, hexisting⟩ := stageExisting_isSome (counter origin a) hlive
  simp only [SackScoreboard.update, h.edges ha hsent hq hflight, hexisting, settled, ↓reduceIte,
    stageBlocks]
  split <;> rfl

omit h in
theorem Tracks.reset {k : SackScoreboard} (hv : k.valid = true) (origin : BitVec 32) {p : Nat}
    (hle : p ≤ q) (hq : q ≤ p + 0x40000000) :
    (k.reset (counter origin p) (counter origin q)).2 = true ∧
    (k.reset (counter origin p) (counter origin q)).1.Tracks origin p q := by
  have hspan := counter_sub origin hle (by omega)
  have guard : (!k.valid || decide (0x40000000#32 <
      counter origin q - counter origin p)) = false := by
    simp only [hv, settled, refuted]
    bv_omega
  simp only [SackScoreboard.reset, guard, Bool.false_eq_true, ↓reduceIte]
  exact ⟨trivial, hv, by simp, rfl, rfl, by simp⟩

theorem Tracks.enterRecovery (hlt : released < sent) :
    k.enterRecovery.Tracks origin released sent := by
  unfold SackScoreboard.enterRecovery
  split
  · exact h
  · exact ⟨h.valid, h.count, h.highAck, h.highDataEnd,
      fun _ => ⟨sent, hlt, Nat.le_refl _, h.highDataEnd⟩⟩

omit h in
theorem duplicateAck_frame (k : SackScoreboard) (carriesNewSack : Bool) :
    (k.duplicateAck carriesNewSack).1 = { k with
      duplicateAcknowledgments := (k.duplicateAck carriesNewSack).1.duplicateAcknowledgments } := by
  unfold duplicateAck
  split <;> rfl

theorem Tracks.duplicateAck (carriesNewSack : Bool) :
    (k.duplicateAck carriesNewSack).1.Tracks origin released sent := by
  rw [duplicateAck_frame]
  exact ⟨h.valid, h.count, h.highAck, h.highDataEnd, h.recovery⟩

theorem Tracks.onRetransmissionTimeout : k.onRetransmissionTimeout.Tracks origin released sent := by
  unfold SackScoreboard.onRetransmissionTimeout
  split
  · exact h
  · exact ⟨h.valid, by simp, h.highAck, h.highDataEnd, by simp⟩

omit h in
theorem reduceSenderMss_frame (k : SackScoreboard) (senderMss : BitVec 32) :
    k.reduceSenderMss senderMss =
      { k with senderMss := (k.reduceSenderMss senderMss).senderMss } := by
  unfold reduceSenderMss
  split <;> rfl

theorem Tracks.reduceSenderMss (senderMss : BitVec 32) :
    (k.reduceSenderMss senderMss).Tracks origin released sent := by
  rw [reduceSenderMss_frame]
  exact ⟨h.valid, h.count, h.highAck, h.highDataEnd, h.recovery⟩

end

theorem commitRepair_frame (k : SackScoreboard) (segment : SackNextSegment) :
    k.commitRepair segment = { k with
      highRetransmittedEnd := (k.commitRepair segment).highRetransmittedEnd
      rescueRetransmitted := (k.commitRepair segment).rescueRetransmitted
      rescuePresent := (k.commitRepair segment).rescuePresent } := by
  unfold commitRepair
  repeat' split
  all_goals rfl

theorem present_of_bounded
    (h : boundedRange segment.range.first segment.range.last = true) : segment.present = true := by
  simp only [boundedRange, asserted] at h
  simp only [SackNextSegment.present, asserted]
  intro same
  exact h.1 (by rw [same]; simp)

/-- New data at the end of the flight is always admitted to a recovery. -/
theorem Tracks.commit_new (h : k.Tracks origin released sent) (hr : k.recovery = true)
    (hreason : segment.reason = .newData) (hlt : sent < q)
    (hfirst : segment.range.first = counter origin sent)
    (hlast : segment.range.last = counter origin q)
    (hb : boundedRange segment.range.first segment.range.last = true) :
    (k.commit segment).2 = true ∧ (k.commit segment).1.Tracks origin released q ∧
    (k.commit segment).1.recovery = k.recovery := by
  have guard : (!k.valid || !segment.present || !k.recovery ||
      !boundedRange segment.range.first segment.range.last) = false := by
    simp [h.valid, present_of_bounded hb, hr, hb]
  have hend : (segment.range.first != k.highDataEnd) = false := by
    simp [hfirst, h.highDataEnd]
  simp only [SackScoreboard.commit, guard, hreason, hend, Bool.false_eq_true, beq_self_eq_true,
    ↓reduceIte]
  refine ⟨trivial, ⟨h.valid, h.count, h.highAck, hlast, ?_⟩, trivial⟩
  intro recovering
  obtain ⟨point, hp, hle, hcounter⟩ := h.recovery recovering
  exact ⟨point, hp, by omega, hcounter⟩

/-- A repair inside the flight is always admitted to a recovery. -/
theorem Tracks.commit_repair (h : k.Tracks origin released sent) (hr : k.recovery = true)
    (hreason : segment.reason ≠ .newData) {f l : Nat}
    (hf : released ≤ f) (hfl : f < l) (hl : l ≤ sent) (hflight : sent ≤ released + 0x40000000)
    (hfirst : segment.range.first = counter origin f)
    (hlast : segment.range.last = counter origin l)
    (hb : boundedRange segment.range.first segment.range.last = true) :
    (k.commit segment).2 = true ∧ (k.commit segment).1.Tracks origin released sent ∧
    (k.commit segment).1.recovery = k.recovery := by
  have guard : (!k.valid || !segment.present || !k.recovery ||
      !boundedRange segment.range.first segment.range.last) = false := by
    simp [h.valid, present_of_bounded hb, hr, hb]
  have hnew : (segment.reason == .newData) = false := by simpa using hreason
  have hback : before (counter origin f) (counter origin released) = false := by
    rw [← Bool.not_eq_true, counter_before origin (by omega) (by omega)]
    omega
  have hover : before (counter origin sent) (counter origin l) = false := by
    rw [← Bool.not_eq_true, counter_before origin (by omega) (by omega)]
    omega
  have hedges : (before segment.range.first k.highAck ||
      after segment.range.last k.highDataEnd) = false := by
    rw [hfirst, hlast, h.highAck, h.highDataEnd, Serial.after, hback, hover]
    rfl
  simp only [SackScoreboard.commit, guard, hnew, hedges, Bool.false_eq_true, ↓reduceIte]
  rw [commitRepair_frame]
  exact ⟨trivial, ⟨h.valid, h.count, h.highAck, h.highDataEnd, h.recovery⟩, rfl⟩

end SackScoreboard

end RouterSim.Tcp
