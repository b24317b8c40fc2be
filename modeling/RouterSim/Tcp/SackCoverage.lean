import RouterSim.Lib.Intervals
import RouterSim.Tcp.SackScoreboard

/-! The sequence numbers that a scoreboard covers. Its ranges are intervals of offsets from the
cumulative acknowledgment, and to stage a range is to insert its interval. -/
namespace RouterSim.Tcp

open Intervals (Interval Separated)
open List Serial SackRange

/-- The most sequence space that a flight spans. -/
def flightLimit : Nat := 0x40000000

def SackRange.Covers (r : SackRange) (s : BitVec 32) : Prop := s - r.first < r.last - r.first

instance (r : SackRange) (s : BitVec 32) : Decidable (r.Covers s) :=
  inferInstanceAs (Decidable (s - r.first < r.last - r.first))

def SackBlock.range (block : SackBlock) : SackRange :=
  { first := block.leftEdge, last := block.rightEdge }

def SackRange.interval (base : BitVec 32) (r : SackRange) : Interval :=
  { first := (r.first - base).toNat, last := (r.last - base).toNat }

section Staging

variable {base : BitVec 32} {capacity limit : Nat} {staged result : List SackRange}
  {incoming candidate : SackRange} {s : BitVec 32}

theorem mergeRanges_interval (base : BitVec 32) (incoming : SackRange) (staged : List SackRange) :
    ((mergeRanges base incoming staged).1 ::
        staged.drop (mergeRanges base incoming staged).2).map (interval base) =
      Intervals.absorb (incoming.interval base) (staged.map (interval base)) := by
  induction staged generalizing incoming with
  | nil => rfl
  | cons r rest ih =>
    rw [map_cons (l := rest), mergeRanges, Intervals.absorb]
    by_cases touch : r.first - base ≤ incoming.last - base
    · have meet : (r.interval base).first ≤ (incoming.interval base).last := touch
      rw [if_pos touch, if_pos meet]
      rw [drop_succ_cons, ih]
      congr 2
      simp only [interval, BitVec.lt_def]
      grind
    · have apart : ¬ (r.interval base).first ≤ (incoming.interval base).last := touch
      rw [if_neg touch, if_neg apart]
      rfl

theorem insertWorkspace_interval
    (inserted : insertWorkspace capacity staged incoming base = some result) :
    result.map (interval base) =
      Intervals.insert (incoming.interval base) (staged.map (interval base)) := by
  have each : ∀ l : List SackRange, (l.take (insertPosition base (incoming.first - base) l) ++
        (mergeRanges base incoming (l.drop (insertPosition base (incoming.first - base) l))).1 ::
          l.drop (insertPosition base (incoming.first - base) l + (mergeRanges base incoming
              (l.drop (insertPosition base (incoming.first - base) l))).2)).map (interval base) =
        Intervals.insert (incoming.interval base) (l.map (interval base)) := by
    intro l
    induction l with
    | nil => rfl
    | cons r rest ih =>
      rw [map_cons, Intervals.insert]
      by_cases before : r.last - base < incoming.first - base
      · have ahead : (r.interval base).last < (incoming.interval base).first := before
        simp only [insertPosition, if_pos before, if_pos ahead, take_succ_cons,
          drop_succ_cons, cons_append, map_cons, Nat.add_right_comm _ 1]
        rw [ih]
      · have here : ¬ (r.interval base).last < (incoming.interval base).first := before
        simp only [insertPosition, if_neg before, if_neg here, Nat.zero_add]
        exact mergeRanges_interval base incoming (r :: rest)
  unfold insertWorkspace at inserted
  dsimp only at inserted
  split at inserted
  · cases inserted
  · cases inserted
    exact each staged

theorem insertWorkspace_capacity
    (inserted : insertWorkspace capacity staged incoming base = some result)
    (fits : staged.length ≤ capacity) : result.length ≤ capacity := by
  have merged := mergeRanges_count_le base incoming
    (staged.drop (insertPosition base (incoming.first - base) staged))
  rw [length_drop] at merged
  unfold insertWorkspace at inserted
  dsimp only at inserted
  split at inserted
  · cases inserted
  next room =>
  cases inserted
  simp only [asserted] at room
  simp only [length_append, length_take, length_cons, length_drop]
  omega

/-- Ranges staged above a cumulative acknowledgment. -/
structure Staged (base : BitVec 32) (limit capacity : Nat) (staged : List SackRange) : Prop where
  separated : Separated (staged.map (interval base))
  below : ∀ i ∈ staged.map (interval base), i.last ≤ limit
  fits : staged.length ≤ capacity

/-- A range of bounded length that ends behind the acknowledgment or in the flight above it. -/
structure Placed (base : BitVec 32) (limit : Nat) (r : SackRange) : Prop where
  filled : 0 < (r.last - r.first).toNat
  short : (r.last - r.first).toNat ≤ flightLimit
  ends : (base - r.last).toNat < 0x80000000 ∨ (r.last - base).toNat ≤ limit

/-- What is left of a range above the acknowledgment. -/
def SackRange.clip (base : BitVec 32) (r : SackRange) : SackRange :=
  { first := if before r.first base then base else r.first, last := r.last }

theorem covers_iff {r : SackRange} (filled : (r.interval base).first < (r.interval base).last) :
    r.Covers s ↔ (r.interval base).Has (s - base).toNat := by
  simp only [SackRange.Covers, interval, Interval.Has] at filled ⊢
  bv_omega

theorem Placed.old (placed : Placed base limit candidate) (small : limit ≤ flightLimit)
    (old : beforeOrEqual candidate.last base = true) (inside : (s - base).toNat < limit) :
    ¬ candidate.Covers s := by
  obtain ⟨filled, short, -⟩ := placed
  rw [beforeOrEqual_iff] at old
  unfold flightLimit at small short
  simp only [SackRange.Covers]
  bv_omega

theorem Placed.clip (placed : Placed base limit candidate) (small : limit ≤ flightLimit)
    (live : beforeOrEqual candidate.last base = false) :
    ((candidate.clip base).interval base).first < ((candidate.clip base).interval base).last ∧
      ((candidate.clip base).interval base).last ≤ limit ∧
        ∀ s, ((candidate.clip base).interval base).Has (s - base).toNat ↔
          candidate.Covers s ∧ (s - base).toNat < limit := by
  obtain ⟨filled, short, ends⟩ := placed
  rw [← Bool.not_eq_true, beforeOrEqual_iff] at live
  have ends := ends.resolve_left live
  unfold flightLimit at small short
  have edge := before_iff candidate.first base
  simp only [SackRange.clip, SackRange.interval, Interval.Has, SackRange.Covers]
  by_cases before : before candidate.first base = true
  · rw [if_pos before]
    rw [edge] at before
    refine ⟨by bv_omega, ends, fun s => ?_⟩
    bv_omega
  · rw [if_neg before]
    rw [edge] at before
    refine ⟨by bv_omega, ends, fun s => ?_⟩
    bv_omega

theorem covered_iff (staged' : Staged base limit capacity staged) :
    (∃ r ∈ staged, r.Covers s) ↔
      Intervals.Covers (staged.map (interval base)) (s - base).toNat := by
  constructor
  · rintro ⟨r, mem, covers⟩
    have image := mem_map_of_mem (f := interval base) mem
    exact ⟨_, image, (covers_iff (staged'.separated.filled _ image)).mp covers⟩
  · rintro ⟨i, image, has⟩
    obtain ⟨r, mem, rfl⟩ := mem_map.mp image
    exact ⟨r, mem, (covers_iff (staged'.separated.filled _ image)).mpr has⟩

theorem Staged.insert (staged' : Staged base limit capacity staged) (small : limit ≤ flightLimit)
    (placed : Placed base limit candidate) (live : beforeOrEqual candidate.last base = false)
    (inserted : insertWorkspace capacity staged (candidate.clip base) base = some result) :
    Staged base limit capacity result ∧ ∀ s, (∃ r ∈ result, r.Covers s) ↔
      (∃ r ∈ staged, r.Covers s) ∨ candidate.Covers s ∧ (s - base).toNat < limit := by
  obtain ⟨filled, ends, has⟩ := placed.clip small live
  have next : Staged base limit capacity result := by
    have row := insertWorkspace_interval inserted
    refine ⟨?_, ?_, insertWorkspace_capacity inserted staged'.fits⟩
    · rw [row]
      exact Intervals.separated_insert staged'.separated filled
    · rw [row]
      exact Intervals.insert_below staged'.below ends
  refine ⟨next, fun s => ?_⟩
  rw [covered_iff next, covered_iff staged', insertWorkspace_interval inserted,
    Intervals.covers_insert staged'.separated filled, has, or_comm]

theorem stageExisting_staged {ranges : List SackRange} (small : limit ≤ flightLimit)
    (staged' : Staged base limit capacity staged) (placed : ∀ r ∈ ranges, Placed base limit r)
    (stages : stageExisting capacity base staged ranges = some result) :
    Staged base limit capacity result ∧ ∀ s, (∃ r ∈ result, r.Covers s) ↔
      (∃ r ∈ staged, r.Covers s) ∨ (∃ r ∈ ranges, r.Covers s) ∧ (s - base).toNat < limit := by
  induction ranges generalizing staged with
  | nil =>
    cases stages
    exact ⟨staged', by simp⟩
  | cons candidate rest ih =>
    obtain ⟨own, others⟩ := forall_mem_cons.mp placed
    rw [stageExisting] at stages
    split at stages
    · next old =>
      obtain ⟨next, covers⟩ := ih staged' others stages
      refine ⟨next, fun s => ?_⟩
      have nothing := own.old (s := s) small old
      simp only [covers]
      grind
    · next live =>
      have clipped : (if before candidate.first base then
          { candidate with first := base } else candidate) = candidate.clip base := by
        unfold clip
        split <;> rfl
      dsimp only at stages
      rw [clipped] at stages
      split at stages
      · cases stages
      next middle inserted =>
      obtain ⟨staged'', here⟩ := staged'.insert small own (Bool.not_eq_true _ ▸ live) inserted
      obtain ⟨next, covers⟩ := ih staged'' others stages
      refine ⟨next, fun s => ?_⟩
      simp only [covers]
      grind

/-- A block that is taken ends in the flight or behind it. -/
theorem placed_of_formed {block : SackBlock} {highDataEnd : BitVec 32}
    (formed : (boundedRange block.leftEdge block.rightEdge = true ∧
        after block.rightEdge highDataEnd = false) ∧
      afterOrEqual block.leftEdge highDataEnd = false) :
    Placed base (highDataEnd - base).toNat block.range := by
  obtain ⟨⟨bounded, inside⟩, ahead⟩ := formed
  simp only [boundedRange, asserted] at bounded
  rw [← Bool.not_eq_true, after_iff] at inside
  simp only [afterOrEqual, refuted] at ahead
  rw [← Bool.not_eq_true, after_iff] at ahead
  unfold SackBlock.range
  refine ⟨?_, ?_, ?_⟩ <;> dsimp only [flightLimit] <;> bv_omega

theorem stageBlocks_staged {blocks : List SackBlock} {highDataEnd : BitVec 32}
    (small : (highDataEnd - base).toNat ≤ flightLimit)
    (staged' : Staged base (highDataEnd - base).toNat capacity staged)
    (stages : stageBlocks capacity base highDataEnd staged blocks = .ok result) :
    Staged base (highDataEnd - base).toNat capacity result ∧ ∀ s, (∃ r ∈ result, r.Covers s) ↔
      (∃ r ∈ staged, r.Covers s) ∨
        (∃ b ∈ blocks, b.range.Covers s) ∧ (s - base).toNat < (highDataEnd - base).toNat := by
  induction blocks generalizing staged with
  | nil =>
    cases stages
    exact ⟨staged', by simp⟩
  | cons block rest ih =>
    rw [stageBlocks] at stages
    split at stages
    · cases stages
    next formed =>
    have own : Placed base (highDataEnd - base).toNat block.range :=
      placed_of_formed (by simpa using formed)
    split at stages
    · next old =>
      obtain ⟨next, covers⟩ := ih staged' stages
      refine ⟨next, fun s => ?_⟩
      have nothing := own.old (s := s) small old
      simp only [covers]
      grind
    · next live =>
      dsimp only at stages
      split at stages
      · cases stages
      next middle inserted =>
      have current : beforeOrEqual block.range.last base = false := Bool.not_eq_true _ ▸ live
      obtain ⟨staged'', here⟩ := staged'.insert small own current inserted
      obtain ⟨next, covers⟩ := ih staged'' stages
      refine ⟨next, fun s => ?_⟩
      simp only [covers]
      grind

/-- The octets of staged ranges are what their intervals count. -/
theorem sackedOctets_total (staged' : Staged base limit capacity staged) :
    sackedOctets staged = Intervals.total (staged.map (SackRange.interval base)) := by
  have each : ∀ (l : List SackRange) (sum : Nat),
      (∀ i ∈ l.map (SackRange.interval base), i.first < i.last) →
        (l.map (·.length.toNat)).foldl (· + ·) sum =
          sum + Intervals.total (l.map (SackRange.interval base)) := by
    intro l
    induction l with
    | nil => exact fun _ _ => rfl
    | cons r rest ih =>
      intro sum filled
      obtain ⟨own, others⟩ := forall_mem_cons.mp filled
      have length : r.length.toNat = (r.interval base).length := by
        simp only [SackRange.length, SackRange.interval, Intervals.Interval.length] at own ⊢
        bv_omega
      rw [map_cons, foldl_cons, ih _ others, map_cons, Intervals.total, length, Nat.add_assoc]
  rw [sackedOctets, each staged 0 staged'.separated.filled, Nat.zero_add]

theorem offset_of_covers {n : Nat} (covers : Intervals.Covers (staged.map (interval base)) n) :
    (base + BitVec.ofNat 32 n - base).toNat = n := by
  obtain ⟨i, image, has⟩ := covers
  obtain ⟨r, -, rfl⟩ := mem_map.mp image
  have := has.2
  simp only [interval] at this
  bv_omega

theorem intervals_within {other : List SackRange} (staged' : Staged base limit capacity staged)
    (other' : Staged base limit capacity other)
    (within : ∀ s, (∃ r ∈ staged, r.Covers s) → ∃ r ∈ other, r.Covers s) (n : Nat)
    (covers : Intervals.Covers (staged.map (interval base)) n) :
    Intervals.Covers (other.map (interval base)) n := by
  have here := within (base + BitVec.ofNat 32 n)
  rw [covered_iff staged', covered_iff other', offset_of_covers covers] at here
  exact here covers

/-- Ranges that cover what others do have more octets when they cover more. -/
theorem sackedOctets_lt_iff {other : List SackRange} (staged' : Staged base limit capacity staged)
    (other' : Staged base limit capacity other)
    (within : ∀ s, (∃ r ∈ staged, r.Covers s) → ∃ r ∈ other, r.Covers s) :
    sackedOctets staged < sackedOctets other ↔
      ∃ s, (∃ r ∈ other, r.Covers s) ∧ ¬ ∃ r ∈ staged, r.Covers s := by
  rw [sackedOctets_total staged', sackedOctets_total other',
    Intervals.total_lt_iff staged'.separated other'.separated
      (intervals_within staged' other' within)]
  constructor
  · rintro ⟨n, covers, more⟩
    refine ⟨base + BitVec.ofNat 32 n, ?_, ?_⟩
    · rwa [covered_iff other', offset_of_covers covers]
    · rwa [covered_iff staged', offset_of_covers covers]
  · rintro ⟨s, covers, more⟩
    rw [covered_iff other'] at covers
    rw [covered_iff staged'] at more
    exact ⟨_, covers, more⟩

theorem interval_injective {r r' : SackRange} (equal : r.interval base = r'.interval base) :
    r = r' := by
  obtain ⟨firsts, lasts⟩ := Interval.mk.inj equal
  cases r
  cases r'
  exact mk.injEq .. ▸ ⟨eq_of_offset_eq firsts, eq_of_offset_eq lasts⟩

theorem staged_unique {other : List SackRange} (staged' : Staged base limit capacity staged)
    (other' : Staged base limit capacity other)
    (same : ∀ s, (∃ r ∈ staged, r.Covers s) ↔ ∃ r ∈ other, r.Covers s) : staged = other := by
  rw [← map_inj_right fun _ _ => interval_injective]
  exact Intervals.separated_ext staged'.separated other'.separated fun n =>
    ⟨intervals_within staged' other' (fun s => (same s).mp) n,
      intervals_within other' staged' (fun s => (same s).mpr) n⟩

theorem staged_nil : Staged base limit capacity [] where
  separated := Intervals.separated_nil
  below := by simp
  fits := Nat.zero_le _

theorem Staged.sublist {part : List SackRange} (staged' : Staged base limit capacity staged)
    (sublist : part.Sublist staged) : Staged base limit capacity part where
  separated := staged'.separated.sublist (sublist.map _)
  below i mem := staged'.below i ((sublist.map _).subset mem)
  fits := Nat.le_trans sublist.length_le staged'.fits

end Staging

namespace SackScoreboard

/-- The sequence space that the flight spans. -/
def window (k : SackScoreboard) : Nat := (k.highDataEnd - k.highAck).toNat

/-- A selective acknowledgment covers the sequence number. -/
def Covered (k : SackScoreboard) (s : BitVec 32) : Prop := ∃ r ∈ k.live, r.Covers s

/-- The ranges are in order, apart from each other and inside a flight of bounded length. -/
structure Sound (k : SackScoreboard) : Prop where
  valid : k.valid = true
  small : k.window ≤ flightLimit
  count : k.count ≤ k.ranges.length
  staged : Staged k.highAck k.window k.ranges.length k.live

variable {k : SackScoreboard} {highAck highDataEnd s : BitVec 32} {blocks : List SackBlock}

theorem Sound.live_length (sound : k.Sound) : k.live.length = k.count := by
  rw [live, length_take, Nat.min_eq_left sound.count]

/-- The live ranges end behind a new cumulative acknowledgment or in its flight. -/
theorem Sound.placed (sound : k.Sound) (edges : k.malformedEdges highAck highDataEnd = false) :
    ∀ r ∈ k.live, Placed highAck (highDataEnd - highAck).toNat r := by
  intro r mem
  have image := mem_map_of_mem (f := interval k.highAck) mem
  have filled := sound.staged.separated.filled _ image
  have below := sound.staged.below _ image
  have small := sound.small
  simp only [malformedEdges, refuted] at edges
  obtain ⟨⟨⟨⟨-, back⟩, shrunk⟩, order⟩, long⟩ := edges
  rw [← Bool.not_eq_true, before_iff] at back shrunk
  simp only [interval, window, flightLimit] at filled below small
  refine ⟨?_, ?_, ?_⟩
  · bv_omega
  · dsimp only [flightLimit]
    bv_omega
  · bv_omega

/-- A refused update leaves all but its own flag as it was. -/
theorem update_refused (refused : (k.update highAck highDataEnd blocks).2.applied = false) :
    (k.update highAck highDataEnd blocks).1 = { k with lastUpdateAddedSack := false } := by
  unfold update at refused ⊢
  split
  · rfl
  next formed =>
  rw [if_neg formed] at refused
  split
  · rfl
  next staged =>
  simp only [staged] at refused
  split
  · rfl
  next blocks =>
  simp only [blocks] at refused
  split at refused <;> cases refused

theorem update_applied (applied : (k.update highAck highDataEnd blocks).2.applied = true) :
    k.malformedEdges highAck highDataEnd = false ∧ ∃ existing staged,
      stageExisting k.ranges.length highAck [] k.live = some existing ∧
        stageBlocks k.ranges.length highAck highDataEnd existing blocks = .ok staged ∧
          k.update highAck highDataEnd blocks =
            (k.install highAck highDataEnd
              (decide (sackedOctets existing < sackedOctets staged)) staged,
            if highAck != k.highAck || highDataEnd != k.highDataEnd || staged != k.live then
              .updated
            else .unchanged) := by
  unfold update at applied ⊢
  split
  · next formed =>
    rw [if_pos formed] at applied
    cases applied
  · next formed =>
    refine ⟨Bool.not_eq_true _ ▸ formed, ?_⟩
    rw [if_neg formed] at applied
    split
    · next none =>
      rw [none] at applied
      cases applied
    · next existing stages =>
      simp only [stages] at applied
      split
      · next status refused =>
        simp only [refused] at applied
        obtain rfl | rfl := stageBlocks_error refused <;> cases applied
      · next staged taken => exact ⟨existing, staged, stages, taken, rfl⟩

theorem install_live (k : SackScoreboard) (highAck highDataEnd : BitVec 32) (added : Bool)
    (staged : List SackRange) :
    (k.install highAck highDataEnd added staged).live = staged ∧
      (k.install highAck highDataEnd added staged).highAck = highAck ∧
        (k.install highAck highDataEnd added staged).highDataEnd = highDataEnd ∧
          (k.install highAck highDataEnd added staged).lastUpdateAddedSack = added := by
  refine ⟨by simp [live, install, settleRecovery_frame], by simp [install, settleRecovery_frame],
    by simp [install, settleRecovery_frame], ?_⟩
  unfold install settleRecovery
  dsimp only
  repeat' split
  all_goals rfl

/-- An update that is applied covers what was covered and what the blocks cover, in the new flight,
and says whether that is more. -/
theorem Sound.update (sound : k.Sound)
    (applied : (k.update highAck highDataEnd blocks).2.applied = true) :
    (k.update highAck highDataEnd blocks).1.highAck = highAck ∧
      (k.update highAck highDataEnd blocks).1.highDataEnd = highDataEnd ∧
      (k.update highAck highDataEnd blocks).1.ranges.length = k.ranges.length ∧
      (k.update highAck highDataEnd blocks).1.Sound ∧
      (∀ s, (k.update highAck highDataEnd blocks).1.Covered s ↔
        (k.Covered s ∨ ∃ b ∈ blocks, b.range.Covers s) ∧
          (s - highAck).toNat < (highDataEnd - highAck).toNat) ∧
      ((k.update highAck highDataEnd blocks).1.lastUpdateAddedSack = true ↔
        ∃ s, (k.update highAck highDataEnd blocks).1.Covered s ∧ ¬ k.Covered s) := by
  obtain ⟨edges, existing, staged, stages, taken, result⟩ := update_applied applied
  have small : (highDataEnd - highAck).toNat ≤ flightLimit := by
    simp only [malformedEdges, refuted] at edges
    dsimp only [flightLimit]
    bv_omega
  obtain ⟨keeps, kept⟩ := stageExisting_staged small staged_nil (sound.placed edges) stages
  obtain ⟨next, covers⟩ := stageBlocks_staged small keeps taken
  obtain ⟨live, ack, data, added⟩ := install_live k highAck highDataEnd
    (decide (sackedOctets existing < sackedOctets staged)) staged
  have old : ∀ s, (∃ r ∈ existing, r.Covers s) ↔
      k.Covered s ∧ (s - highAck).toNat < (highDataEnd - highAck).toNat := by
    intro s
    rw [kept]
    simp [Covered]
  have length : (k.install highAck highDataEnd
      (decide (sackedOctets existing < sackedOctets staged)) staged).ranges.length =
        k.ranges.length := by
    have fits := next.fits
    rw [install, (settleRecovery_frame _).2.2.1]
    simp only [length_append, length_replicate]
    omega
  rw [result]
  refine ⟨ack, data, length, ⟨?_, ?_, ?_, ?_⟩, ?_, ?_⟩
  · rw [install, (settleRecovery_frame _).1]
    exact sound.valid
  · rwa [window, ack, data]
  · have count : (k.install highAck highDataEnd
        (decide (sackedOctets existing < sackedOctets staged)) staged).count = staged.length := by
      rw [install, (settleRecovery_frame _).2.1]
    rw [count, length]
    exact next.fits
  · rw [window, ack, data, live, length]
    exact next
  · intro s
    rw [Covered, live, covers, old]
    grind
  · have more := sackedOctets_lt_iff keeps next fun s here => (covers s).mpr (.inl here)
    rw [added, decide_eq_true_eq]
    simp only [Covered, live]
    rw [more]
    refine exists_congr fun s => and_congr_right fun here => not_congr ?_
    have inside := (covers s).mp here
    rw [old] at inside ⊢
    exact ⟨And.left, fun covered => ⟨covered, inside.elim And.right And.right⟩⟩

/-- Whatever their order, the same blocks make the same ranges, if they fit. -/
theorem Sound.update_perm (sound : k.Sound) {blocks' : List SackBlock} (perm : blocks'.Perm blocks)
    (applied : (k.update highAck highDataEnd blocks).2.applied = true)
    (applied' : (k.update highAck highDataEnd blocks').2.applied = true) :
    k.update highAck highDataEnd blocks' = k.update highAck highDataEnd blocks := by
  obtain ⟨edges, existing, staged, stages, taken, result⟩ := update_applied applied
  obtain ⟨-, existing', staged', stages', taken', result'⟩ := update_applied applied'
  obtain rfl : existing = existing' := Option.some.inj (stages.symm.trans stages')
  have small : (highDataEnd - highAck).toNat ≤ flightLimit := by
    simp only [malformedEdges, refuted] at edges
    dsimp only [flightLimit]
    bv_omega
  obtain ⟨keeps, -⟩ := stageExisting_staged small staged_nil (sound.placed edges) stages
  obtain ⟨next, covers⟩ := stageBlocks_staged small keeps taken
  obtain ⟨next', covers'⟩ := stageBlocks_staged small keeps taken'
  obtain rfl : staged' = staged := by
    apply staged_unique next' next
    intro s
    rw [covers', covers]
    simp [perm.mem_iff]
  rw [result, result']

/-- Selective acknowledgments make up the union of what was acknowledged and what the blocks
acknowledge. -/
theorem update_union {k : SackScoreboard} (sound : k.Sound) (highAck highDataEnd : BitVec 32)
    (blocks : List SackBlock) :
    ((k.update highAck highDataEnd blocks).2.applied = false →
      (k.update highAck highDataEnd blocks).1 = { k with lastUpdateAddedSack := false }) ∧
    ((k.update highAck highDataEnd blocks).2.applied = true →
      (k.update highAck highDataEnd blocks).1.highAck = highAck ∧
      (k.update highAck highDataEnd blocks).1.highDataEnd = highDataEnd ∧
      (k.update highAck highDataEnd blocks).1.ranges.length = k.ranges.length ∧
      (k.update highAck highDataEnd blocks).1.Sound ∧
      (∀ s, (k.update highAck highDataEnd blocks).1.Covered s ↔
        (k.Covered s ∨ ∃ b ∈ blocks, b.range.Covers s) ∧
          (s - highAck).toNat < (highDataEnd - highAck).toNat) ∧
      ((k.update highAck highDataEnd blocks).1.lastUpdateAddedSack = true ↔
        ∃ s, (k.update highAck highDataEnd blocks).1.Covered s ∧ ¬ k.Covered s) ∧
      ∀ blocks' : List SackBlock, blocks'.Perm blocks →
        (k.update highAck highDataEnd blocks').2.applied = true →
          k.update highAck highDataEnd blocks' = k.update highAck highDataEnd blocks) := by
  refine ⟨update_refused, fun applied => ?_⟩
  obtain ⟨ack, data, length, next, covers, added⟩ := sound.update applied
  exact ⟨ack, data, length, next, covers, added,
    fun blocks' perm applied' => sound.update_perm perm applied applied'⟩

/-- Room for two ranges, both taken. -/
def twoRanges : SackScoreboard where
  ranges := [{ first := 0#32, last := 10#32 }, { first := 20#32, last := 30#32 }]
  senderMss := 1460#32
  highDataEnd := 100#32
  recoveryPoint := 100#32
  count := 2
  valid := true

theorem twoRanges_sound : twoRanges.Sound where
  valid := rfl
  small := by decide
  count := by decide
  staged := by
    have row : twoRanges.live.map (interval twoRanges.highAck) =
        [{ first := 0, last := 10 }, { first := 20, last := 30 }] := by decide
    refine ⟨?_, ?_, by decide⟩
    · rw [row]
      refine Intervals.separated_cons.mpr ⟨by decide, by simp, ?_⟩
      exact Intervals.separated_cons.mpr ⟨by decide, by simp, Intervals.separated_nil⟩
    · rw [row]
      simp [window, twoRanges]

theorem gap_filled :
    (twoRanges.update 0#32 100#32 [⟨10#32, 20#32⟩]).1.Sound ∧
      (twoRanges.update 0#32 100#32 [⟨10#32, 20#32⟩]).1.lastUpdateAddedSack = true := by
  obtain ⟨-, -, -, sound, -, added, -⟩ := (update_union twoRanges_sound 0#32 100#32
    [⟨10#32, 20#32⟩]).2 (by decide +kernel)
  have filled : (twoRanges.update 0#32 100#32 [⟨10#32, 20#32⟩]).1.Covered 15#32 :=
    ⟨⟨0#32, 30#32⟩, by decide +kernel, by decide⟩
  have before : ¬ twoRanges.Covered 15#32 := by
    rintro ⟨r, mem, covers⟩
    have live : twoRanges.live = [⟨0#32, 10#32⟩, ⟨20#32, 30#32⟩] := by decide
    rw [live] at mem
    simp only [mem_cons, not_mem_nil, or_false] at mem
    obtain rfl | rfl := mem <;> revert covers <;> decide
  exact ⟨sound, added.mpr ⟨15#32, filled, before⟩⟩

/-- There is room for a third range once the gap between two is filled, and none before. -/
theorem order_exhausts_capacity :
    twoRanges.Sound ∧
      [⟨40#32, 50#32⟩, ⟨10#32, 20#32⟩].Perm ([⟨10#32, 20#32⟩, ⟨40#32, 50#32⟩] : List SackBlock) ∧
        (twoRanges.update 0#32 100#32 [⟨10#32, 20#32⟩, ⟨40#32, 50#32⟩]).2 = .updated ∧
          (twoRanges.update 0#32 100#32 [⟨40#32, 50#32⟩, ⟨10#32, 20#32⟩]).2 = .capacityExhausted :=
  ⟨twoRanges_sound, .swap _ _ _, by decide +kernel, by decide +kernel⟩

end SackScoreboard

end RouterSim.Tcp
