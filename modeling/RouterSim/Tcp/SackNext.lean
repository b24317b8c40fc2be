import RouterSim.Tcp.SackPipe

/-! What a scoreboard in recovery sends next. Candidates are gaps between its ranges, and the
search for a lost one passes a range with every round. -/
namespace RouterSim.Tcp

open Intervals (Interval)
open List

namespace SackScoreboard

/-- Where the highest range ends. -/
def highestSack (k : SackScoreboard) : BitVec 32 := (k.ranges.getD (k.count - 1) {}).last

/-- The search for a lost gap, as a loop that ends. -/
inductive Searches (k : SackScoreboard) (highest : BitVec 32) : BitVec 32 → Option SackRange → Prop
  | exhausted {search : BitVec 32} (none : k.firstUnsackedFrom search highest = none) :
    Searches k highest search Option.none
  | found {search : BitVec 32} {candidate : SackRange}
    (some : k.firstUnsackedFrom search highest = some candidate)
    (lost : k.isLost candidate.first = true) : Searches k highest search (Option.some candidate)
  | reached {search : BitVec 32} {candidate : SackRange}
    (some : k.firstUnsackedFrom search highest = some candidate)
    (kept : k.isLost candidate.first = false)
    (done : Serial.before candidate.last highest = false) : Searches k highest search none
  | next {search : BitVec 32} {candidate : SackRange} {result : Option SackRange}
    (some : k.firstUnsackedFrom search highest = some candidate)
    (kept : k.isLost candidate.first = false) (more : Serial.before candidate.last highest = true)
    (rest : Searches k highest candidate.last result) : Searches k highest search result

variable {k : SackScoreboard}

/-- The offset of a sequence number. -/
def offset (k : SackScoreboard) (s : BitVec 32) : Nat := (s - k.highAck).toNat

theorem Sound.before_iff (sound : k.Sound) (s s' : BitVec 32) (inside : k.offset s ≤ k.window)
    (inside' : k.offset s' ≤ k.window) : Serial.before s s' = true ↔ k.offset s < k.offset s' := by
  have small := sound.small
  unfold flightLimit at small
  unfold offset at inside inside' ⊢
  exact Serial.before_offset (by omega) (by omega)

theorem Sound.beforeOrEqual_iff (sound : k.Sound) (s s' : BitVec 32)
    (inside : k.offset s ≤ k.window) (inside' : k.offset s' ≤ k.window) :
    Serial.beforeOrEqual s s' = true ↔ k.offset s ≤ k.offset s' := by
  have small := sound.small
  unfold flightLimit at small
  unfold offset at inside inside' ⊢
  exact Serial.beforeOrEqual_offset (by omega) (by omega)

/-- A candidate between two offsets: a gap that begins where what is covered from the first one
on ends. -/
structure Candidate (k : SackScoreboard) (start ceiling : Nat) (r : SackRange) : Prop where
  low : start ≤ k.offset r.first
  filled : k.offset r.first < k.offset r.last
  high : k.offset r.last ≤ ceiling
  passed : ∀ n, start ≤ n → n < k.offset r.first → Intervals.Covers k.row n
  gap : k.Gap (k.offset r.first) (k.offset r.last)
  /-- It ends where a range begins, or at the ceiling. -/
  edge : k.offset r.last = ceiling ∨ ∃ i ∈ k.row, i.first = k.offset r.last

variable {ceiling s : BitVec 32}

section

variable (sound : k.Sound)
include sound

theorem Sound.firstUnsackedIn_spec (inside : k.offset ceiling ≤ k.window) {rest : List SackRange}
    {cursor : BitVec 32} (below : k.offset cursor < k.offset ceiling)
    (sorted : Intervals.Separated (rest.map (SackRange.interval k.highAck)))
    (within : ∀ i ∈ rest.map (SackRange.interval k.highAck), i ∈ k.row)
    (split : ∀ i ∈ k.row, i.last ≤ k.offset cursor ∨ i ∈ rest.map (SackRange.interval k.highAck)) :
    (∀ r, firstUnsackedIn ceiling cursor rest = some r →
        k.Candidate (k.offset cursor) (k.offset ceiling) r) ∧
      (firstUnsackedIn ceiling cursor rest = none →
        ∀ n, k.offset cursor ≤ n → n < k.offset ceiling → Intervals.Covers k.row n) := by
  induction rest generalizing cursor with
  | nil =>
    refine ⟨?_, nofun⟩
    rintro _ ⟨⟩
    exact ⟨Nat.le_refl _, below, Nat.le_refl _,
      fun n low high => absurd high (Nat.not_lt.mpr low),
      fun i mem => .inl ((split i mem).resolve_right (by simp)), .inl rfl⟩
  | cons sacked rest ih =>
    obtain ⟨filled, own, others⟩ := Intervals.separated_cons.mp sorted
    obtain ⟨this, those⟩ := forall_mem_cons.mp within
    have filled : k.offset sacked.first < k.offset sacked.last := filled
    have bound : k.offset sacked.last ≤ k.window := sound.staged.below _ this
    have passes := sound.beforeOrEqual_iff sacked.last cursor bound (by omega)
    have ahead := sound.before_iff cursor sacked.first (by omega) (by omega)
    have cut := sound.before_iff sacked.first ceiling (by omega) inside
    have goes := sound.before_iff sacked.last ceiling bound inside
    have later : ∀ cursor' : BitVec 32, k.offset cursor ≤ k.offset cursor' →
        k.offset sacked.last ≤ k.offset cursor' → ∀ i ∈ k.row, i.last ≤ k.offset cursor' ∨
          i ∈ rest.map (SackRange.interval k.highAck) := by
      intro cursor' grown passed i mem
      obtain before | left := split i mem
      · exact .inl (by omega)
      · obtain rfl | here := mem_cons.mp left
        · exact .inl passed
        · exact .inr here
    rw [firstUnsackedIn]
    split
    · next passed =>
      rw [passes] at passed
      exact ih below others those (later cursor (Nat.le_refl _) passed)
    · next stays =>
      rw [passes] at stays
      split
      · next before =>
        rw [ahead] at before
        refine ⟨?_, nofun⟩
        rintro _ ⟨⟩
        have last : k.offset (if Serial.before sacked.first ceiling then sacked.first
            else ceiling) = min (k.offset sacked.first) (k.offset ceiling) := by
          split
          · next inner =>
            rw [cut] at inner
            omega
          · next outer =>
            rw [cut] at outer
            omega
        refine ⟨Nat.le_refl _, ?_, ?_, fun n low high => absurd high (Nat.not_lt.mpr low), ?_, ?_⟩
        · dsimp only
          omega
        · dsimp only
          omega
        · intro i mem
          rw [last]
          obtain before | left := split i mem
          · exact .inl before
          · right
            obtain rfl | here := mem_cons.mp left
            · exact Nat.min_le_left _ _
            · have behind : k.offset sacked.last < i.first := own i here
              omega
        · dsimp only
          rw [last]
          by_cases inner : k.offset sacked.first ≤ k.offset ceiling
          · exact .inr ⟨_, this, (Nat.min_eq_left inner).symm⟩
          · exact .inl (Nat.min_eq_right (by omega))
      · next after =>
        rw [ahead] at after
        have covered : ∀ n, k.offset cursor ≤ n → n < k.offset sacked.last →
            Intervals.Covers k.row n := by
          intro n low high
          exact ⟨_, this, Nat.le_trans (Nat.not_lt.mp after) low, high⟩
        split
        · next done =>
          rw [Bool.not_eq_true', ← Bool.not_eq_true, goes] at done
          exact ⟨nofun, fun _ n low high => covered n low (by omega)⟩
        · next more =>
          rw [Bool.not_eq_true', Bool.not_eq_false, goes] at more
          obtain ⟨candidate, none⟩ :=
            ih more others those (later sacked.last (by omega) (Nat.le_refl _))
          constructor
          · intro r some
            obtain ⟨low, filled, high, passed, gap, edge⟩ := candidate r some
            refine ⟨by omega, filled, high, fun n low high => ?_, gap, edge⟩
            by_cases inner : n < k.offset sacked.last
            · exact covered n low inner
            · exact passed n (by omega) high
          · intro nothing n low high
            by_cases inner : n < k.offset sacked.last
            · exact covered n low inner
            · exact none nothing n (by omega) high

/-- Where a search from the mark starts. -/
def cursor (k : SackScoreboard) (start : BitVec 32) : BitVec 32 :=
  if Serial.before start k.highAck then k.highAck else start

theorem cursor_inside {start : BitVec 32} (inside : k.offset start ≤ k.window) :
    k.cursor start = start := by
  have small := sound.small
  unfold cursor
  rw [if_neg]
  rw [Serial.before_iff]
  unfold flightLimit at small
  unfold offset at inside
  bv_omega

theorem Sound.cursor_before (start : BitVec 32) (inside : k.offset ceiling ≤ k.window) :
    Serial.before (k.cursor start) ceiling = true ↔
      k.offset (k.cursor start) < k.offset ceiling := by
  have small := sound.small
  have edge := Serial.before_iff start k.highAck
  rw [Serial.before_iff]
  unfold flightLimit at small
  unfold offset at inside ⊢
  unfold cursor
  split
  · bv_omega
  next ahead =>
  rw [edge] at ahead
  bv_omega

theorem Sound.firstUnsackedFrom_spec (start : BitVec 32) (inside : k.offset ceiling ≤ k.window) :
    (∀ r, k.firstUnsackedFrom start ceiling = some r →
        k.Candidate (k.offset (k.cursor start)) (k.offset ceiling) r) ∧
      (k.firstUnsackedFrom start ceiling = none → ∀ n, k.offset (k.cursor start) ≤ n →
        n < k.offset ceiling → Intervals.Covers k.row n) := by
  have edge := sound.cursor_before start inside
  have whole : k.firstUnsackedFrom start ceiling =
      if !Serial.before (k.cursor start) ceiling then none
      else firstUnsackedIn ceiling (k.cursor start) k.live := rfl
  rw [whole]
  split
  · next behind =>
    rw [Bool.not_eq_true', ← Bool.not_eq_true, edge] at behind
    exact ⟨nofun, fun _ n low high => by omega⟩
  · next ahead =>
    rw [Bool.not_eq_true', Bool.not_eq_false, edge] at ahead
    exact sound.firstUnsackedIn_spec inside ahead sound.staged.separated (fun _ mem => mem)
      fun _ mem => .inr mem

/-- With a round for each range ahead and one more, the search ends. -/
theorem Sound.searches {highest : BitVec 32} (inside : k.offset highest ≤ k.window) {rounds : Nat}
    (search : BitVec 32) (enough : (k.behind (k.offset (k.cursor search))).length < rounds) :
    k.Searches highest search (k.lostFrom highest rounds search) := by
  induction rounds generalizing search with
  | zero => omega
  | succ rounds ih =>
    rw [lostFrom]
    obtain ⟨candidate, -⟩ := sound.firstUnsackedFrom_spec search inside
    split
    · next none => exact .exhausted none
    next r some =>
    obtain ⟨low, filled, high, -, -, edge⟩ := candidate r some
    split
    · next lost => exact .found some lost
    next kept =>
    rw [Bool.not_eq_true] at kept
    have goes := sound.before_iff r.last highest (by omega) inside
    split
    · next done => exact .reached some kept (by simpa using done)
    next more =>
    rw [Bool.not_eq_true', Bool.not_eq_false] at more
    apply Searches.next some kept more
    apply ih
    rw [goes] at more
    rw [cursor_inside sound (by omega)]
    -- The range at the end of the gap was ahead and is not any more.
    obtain ⟨i, mem, starts⟩ := edge.resolve_left (by omega)
    have fewer : (k.behind (k.offset r.last)).length <
        (k.behind (k.offset (k.cursor search))).length := by
      have narrowed : k.behind (k.offset r.last) =
          (k.behind (k.offset (k.cursor search))).filter
            fun i => decide (k.offset r.last < i.first) := by
        rw [behind, behind, filter_filter]
        apply filter_congr
        intro i _
        rw [Bool.eq_iff_iff, Bool.and_eq_true, decide_eq_true_eq, decide_eq_true_eq]
        omega
      rw [narrowed, length_filter_lt_length_iff_exists]
      refine ⟨i, mem_filter.mpr ⟨mem, decide_eq_true (by omega)⟩, ?_⟩
      simp [starts]
    omega

theorem Sound.kept_candidate {start ceiling : Nat} {r : SackRange}
    (candidate : k.Candidate start ceiling r) (kept : k.isLost r.first = false)
    (inside : k.offset r.last ≤ k.window) {n : Nat} (low : start ≤ n) (high : n < k.offset r.last) :
    Intervals.Covers k.row n ∨ k.isLost (k.sequenceAt n) = false := by
  by_cases before : n < k.offset r.first
  · exact .inl (candidate.passed n low before)
  · right
    have first : k.sequenceAt (k.offset r.first) = r.first := k.sequenceAt_sub r.first
    rw [sound.isLost_gap candidate.gap (by omega) high inside, first, kept]

theorem Searches.spec {highest search : BitVec 32} {result : Option SackRange}
    (inside : k.offset highest ≤ k.window) (searches : k.Searches highest search result) :
    (∀ r, result = some r → k.isLost r.first = true ∧
        k.offset (k.cursor search) ≤ k.offset r.first ∧ k.offset r.first < k.offset r.last ∧
          k.offset r.last ≤ k.offset highest ∧ k.Gap (k.offset r.first) (k.offset r.last)) ∧
      (result = none → ∀ n, k.offset (k.cursor search) ≤ n → n < k.offset highest →
        Intervals.Covers k.row n ∨ k.isLost (k.sequenceAt n) = false) := by
  induction searches with
  | exhausted none =>
    exact ⟨nofun, fun _ n low high =>
      .inl ((sound.firstUnsackedFrom_spec _ inside).2 none n low high)⟩
  | found some lost =>
    obtain ⟨low, filled, high, -, gap, -⟩ := (sound.firstUnsackedFrom_spec _ inside).1 _ some
    refine ⟨?_, nofun⟩
    rintro _ ⟨⟩
    exact ⟨lost, low, filled, high, gap⟩
  | reached some kept done =>
    refine ⟨nofun, fun _ n low high => ?_⟩
    have candidate := (sound.firstUnsackedFrom_spec _ inside).1 _ some
    have ends := candidate.high
    rw [← Bool.not_eq_true, sound.before_iff _ _ (by omega) inside] at done
    exact sound.kept_candidate candidate kept (by omega) low (by omega)
  | next some kept more rest ih =>
    have candidate := (sound.firstUnsackedFrom_spec _ inside).1 _ some
    have starts := candidate.low
    have filled := candidate.filled
    have ends := candidate.high
    obtain ⟨found, none⟩ := ih
    rw [cursor_inside sound (by omega)] at found none
    refine ⟨fun r result => ?_, fun result n low high => ?_⟩
    · obtain ⟨lost, low, others⟩ := found r result
      exact ⟨lost, by omega, others⟩
    · obtain inner | outer := Nat.lt_or_ge n (k.offset _)
      · exact sound.kept_candidate candidate kept (by omega) low inner
      · exact none result n outer high

/-- Every range ends at or before the highest selective acknowledgment. -/
theorem Sound.highest (some : k.count ≠ 0) :
    k.offset k.highestSack ≤ k.window ∧ ∀ i ∈ k.row, i.last ≤ k.offset k.highestSack := by
  have length := sound.live_length
  have nonempty : k.live ≠ [] := by
    intro empty
    rw [empty] at length
    exact some length.symm
  have last : k.ranges.getD (k.count - 1) {} = k.live.getLast nonempty := by
    rw [getLast_eq_getElem, getD_eq_getElem?_getD, List.getElem?_eq_getElem (by
      have := sound.count
      omega), Option.getD_some]
    simp [live, Nat.min_eq_left sound.count]
  have mem := getLast_mem nonempty
  have image := mem_map_of_mem (f := SackRange.interval k.highAck) mem
  have row : k.row = k.live.dropLast.map (SackRange.interval k.highAck) ++
      [(k.live.getLast nonempty).interval k.highAck] := by
    rw [row, ← map_singleton, ← map_append, dropLast_concat_getLast nonempty]
  rw [highestSack, last]
  refine ⟨sound.staged.below _ image, fun i there => ?_⟩
  have apart := sound.staged.separated.apart
  have filled := sound.staged.separated.filled _ image
  change List.Pairwise _ k.row at apart
  rw [row] at there apart
  obtain before | here := mem_append.mp there
  · have := (pairwise_append.mp apart).2.2 i before _ (mem_singleton.mpr rfl)
    exact Nat.le_of_lt (Nat.lt_trans this filled)
  · obtain rfl := mem_singleton.mp here
    exact Nat.le_refl _

end

/-- A segment of at most one maximum size in a gap of the flight. -/
structure Repair (k : SackScoreboard) (r : SackRange) : Prop where
  filled : k.offset r.first < k.offset r.last
  short : k.offset r.last ≤ k.offset r.first + k.senderMss.toNat
  inside : k.offset r.last ≤ k.window
  gap : k.Gap (k.offset r.first) (k.offset r.last)

theorem Gap.part {first last first' last' : Nat} (gap : k.Gap first last) (low : first ≤ first')
    (high : last' ≤ last) : k.Gap first' last' := by
  intro i mem
  obtain before | after := gap i mem
  · exact .inl (by omega)
  · exact .inr (by omega)

theorem minimum_toNat (left right : BitVec 32) :
    (minimum left right).toNat = min left.toNat right.toNat := by
  unfold minimum
  split <;> bv_omega

variable {r : SackRange}

theorem Sound.length_toNat (filled : k.offset r.first < k.offset r.last) :
    r.length.toNat = k.offset r.last - k.offset r.first := by
  unfold offset at filled ⊢
  unfold SackRange.length
  bv_omega

theorem Sound.repair_leading (sized : k.senderMss ≠ 0#32)
    (filled : k.offset r.first < k.offset r.last) (inside : k.offset r.last ≤ k.window)
    (gap : k.Gap (k.offset r.first) (k.offset r.last)) : k.Repair (k.leading r) := by
  have part := minimum_toNat k.senderMss r.length
  rw [Sound.length_toNat filled] at part
  have some : 0 < k.senderMss.toNat := by bv_omega
  have last : k.offset (k.leading r).last =
      k.offset r.first + min k.senderMss.toNat (k.offset r.last - k.offset r.first) := by
    unfold leading
    unfold offset at part inside filled ⊢
    bv_omega
  have first : k.offset (k.leading r).first = k.offset r.first := rfl
  refine ⟨by omega, by omega, by omega, gap.part (by omega) (by omega)⟩

theorem Sound.repair_trailing (sized : k.senderMss ≠ 0#32)
    (filled : k.offset r.first < k.offset r.last) (inside : k.offset r.last ≤ k.window)
    (gap : k.Gap (k.offset r.first) (k.offset r.last)) :
    k.Repair { first := r.last - minimum k.senderMss r.length, last := r.last } := by
  have part := minimum_toNat k.senderMss r.length
  rw [Sound.length_toNat filled] at part
  have some : 0 < k.senderMss.toNat := by bv_omega
  have first : k.offset (r.last - minimum k.senderMss r.length) =
      k.offset r.last - min k.senderMss.toNat (k.offset r.last - k.offset r.first) := by
    unfold offset at part inside filled ⊢
    bv_omega
  refine ⟨?_, ?_, inside, ?_⟩ <;> dsimp only <;> rw [first]
  · omega
  · omega
  · exact gap.part (by omega) (Nat.le_refl _)

theorem Repair.missing (repair : k.Repair r) (sound : k.Sound)
    (covers : r.Covers s) : k.offset s < k.window ∧ ¬ k.Covered s := by
  have filled := repair.filled
  have inside := repair.inside
  have has : (r.interval k.highAck).Has (k.offset s) := (covers_iff filled).mp covers
  have low : k.offset r.first ≤ k.offset s := has.1
  have high : k.offset s < k.offset r.last := has.2
  refine ⟨by omega, ?_⟩
  rw [sound.covered_iff]
  exact repair.gap.missing low high

/-- A gap of the flight with something in it. -/
structure Open (k : SackScoreboard) (r : SackRange) : Prop where
  filled : k.offset r.first < k.offset r.last
  inside : k.offset r.last ≤ k.window
  gap : k.Gap (k.offset r.first) (k.offset r.last)

theorem Sound.highestUnsackedIn_open (sound : k.Sound) {rest : List SackRange}
    {result : Option SackRange} {cursor : BitVec 32} (inside : k.offset cursor ≤ k.window)
    (sorted : Intervals.Separated (rest.map (SackRange.interval k.highAck)))
    (ahead : ∀ i ∈ rest.map (SackRange.interval k.highAck), k.offset cursor ≤ i.first)
    (within : ∀ i ∈ rest.map (SackRange.interval k.highAck), i ∈ k.row)
    (split : ∀ i ∈ k.row, i.last ≤ k.offset cursor ∨ i ∈ rest.map (SackRange.interval k.highAck))
    (already : ∀ r, result = some r → k.Open r) :
    ∀ r, k.highestUnsackedIn result cursor rest = some r → k.Open r := by
  induction rest generalizing cursor result with
  | nil =>
    rw [highestUnsackedIn]
    have data : k.offset k.highDataEnd = k.window := rfl
    have goes := sound.before_iff cursor k.highDataEnd inside (Nat.le_of_eq data)
    split
    · next before =>
      rw [goes] at before
      rintro _ ⟨⟩
      exact ⟨before, Nat.le_of_eq data, fun i mem => .inl ((split i mem).resolve_right (by simp))⟩
    · exact already
  | cons sacked rest ih =>
    obtain ⟨filled, own, others⟩ := Intervals.separated_cons.mp sorted
    obtain ⟨low, -⟩ := forall_mem_cons.mp ahead
    obtain ⟨this, those⟩ := forall_mem_cons.mp within
    have filled : k.offset sacked.first < k.offset sacked.last := filled
    have bound : k.offset sacked.last ≤ k.window := sound.staged.below _ this
    have low : k.offset cursor ≤ k.offset sacked.first := low
    have goes := sound.before_iff cursor sacked.first inside (by omega)
    apply ih bound others (fun i mem => Nat.le_of_lt (own i mem)) those
    · intro i mem
      obtain before | left := split i mem
      · exact .inl (by omega)
      · obtain rfl | later := mem_cons.mp left
        · exact .inl (Nat.le_refl _)
        · exact .inr later
    · split
      · next before =>
        rw [goes] at before
        rintro _ ⟨⟩
        refine ⟨before, by dsimp only; omega, fun i mem => ?_⟩
        obtain before | left := split i mem
        · exact .inl before
        · obtain rfl | later := mem_cons.mp left
          · exact .inr (Nat.le_refl _)
          · have behind : k.offset sacked.last < i.first := own i later
            exact .inr (by dsimp only; omega)
      · exact already

theorem Sound.highestUnsacked_open (sound : k.Sound) (found : k.highestUnsacked = some r) :
    k.Open r := by
  have start : k.offset k.highAck = 0 := by simp [offset]
  apply sound.highestUnsackedIn_open (by omega) sound.staged.separated (fun _ _ => by omega)
    (fun _ mem => mem) (fun _ mem => .inr mem) (fun _ none => by cases none) r found

theorem Candidate.open {start ceiling : Nat} (candidate : k.Candidate start ceiling r)
    (inside : ceiling ≤ k.window) : k.Open r :=
  ⟨candidate.filled, Nat.le_trans candidate.high inside, candidate.gap⟩

theorem Open.leading (gap : k.Open r) (sized : k.senderMss ≠ 0#32) : k.Repair (k.leading r) :=
  Sound.repair_leading sized gap.filled gap.inside gap.gap

theorem Sound.rescueSegment_cases (sound : k.Sound) (sized : k.senderMss ≠ 0#32) :
    k.rescueSegment.present = false ∨
      k.rescueSegment.reason = .rescueRetransmission ∧ k.Repair k.rescueSegment.range := by
  unfold rescueSegment
  split
  · split
    · exact .inl rfl
    · next candidate found =>
      have gap := sound.highestUnsacked_open found
      exact .inr ⟨rfl, Sound.repair_trailing sized gap.filled gap.inside gap.gap⟩
  · exact .inl rfl

theorem Sound.unsackedSegment_cases (sound : k.Sound) (sized : k.senderMss ≠ 0#32)
    {highest : BitVec 32} (inside : k.offset highest ≤ k.window) :
    (k.unsackedSegment highest).present = false ∨
      (k.unsackedSegment highest).reason ≠ .newData ∧
        k.Repair (k.unsackedSegment highest).range := by
  unfold unsackedSegment
  split
  · next candidate some =>
    have gap := ((sound.firstUnsackedFrom_spec _ inside).1 _ some).open inside
    exact .inr ⟨nofun, gap.leading sized⟩
  · obtain nothing | ⟨reason, repair⟩ := sound.rescueSegment_cases sized
    · exact .inl nothing
    · refine .inr ⟨?_, repair⟩
      rw [reason]
      nofun

/-- The search for a lost gap from the mark on. -/
def lostGap (k : SackScoreboard) : Option SackRange :=
  k.lostFrom k.highestSack (k.count + 1) k.highRetransmittedEnd

theorem Sound.lostGap_searches (sound : k.Sound) (some : k.count ≠ 0) :
    k.Searches k.highestSack k.highRetransmittedEnd k.lostGap := by
  apply sound.searches (sound.highest some).1
  have ahead : (k.behind (k.offset (k.cursor k.highRetransmittedEnd))).length ≤ k.row.length :=
    length_filter_le _ _
  rw [row, length_map, sound.live_length] at ahead
  omega

/-- New data from the start of what is unsent. -/
structure SendsNew (k : SackScoreboard) (unsent : Option SackRange) (segment : SackNextSegment) :
    Prop where
  reason : segment.reason = .newData
  range : ∃ u, unsent = some u ∧ u.first = k.highDataEnd ∧ boundedRange u.first u.last = true ∧
    segment.range = k.leading u

/-- What a scoreboard sends: nothing, a repair of a lost gap, new data or another repair. -/
theorem Sound.nextSegment_cases (sound : k.Sound) (sized : k.senderMss ≠ 0#32)
    (recovering : k.recovery = true) (unsent : Option SackRange) :
    k.count = 0 ∧ (k.nextSegment unsent).present = false ∨
      k.count ≠ 0 ∧
        ((∃ r, k.lostGap = some r ∧ (k.nextSegment unsent).reason = .lostRetransmission ∧
            (k.nextSegment unsent).range = k.leading r) ∨
          k.lostGap = none ∧
            ((k.nextSegment unsent).present = false ∨ k.SendsNew unsent (k.nextSegment unsent) ∨
              (k.nextSegment unsent).reason ≠ .newData ∧
                k.Repair (k.nextSegment unsent).range)) := by
  by_cases empty : k.count = 0
  · refine .inl ⟨empty, ?_⟩
    rw [nextSegment, if_pos (by simp [empty])]
    rfl
  · refine .inr ⟨empty, ?_⟩
    have unsacked := sound.unsackedSegment_cases sized (sound.highest empty).1
    have guard : ¬ (!k.valid || !k.recovery || k.count == 0) = true := by
      simp [empty, sound.valid, recovering]
    cases found : k.lostGap with
    | some candidate =>
      have result : k.nextSegment unsent =
          { range := k.leading candidate, reason := .lostRetransmission } := by
        unfold lostGap highestSack at found
        rw [nextSegment, if_neg guard]
        simp only [found]
      exact .inl ⟨candidate, rfl, by rw [result], by rw [result]⟩
    | none =>
      refine .inr ⟨rfl, ?_⟩
      have sends : k.SendsNew unsent (k.nextSegment unsent) ∨
          k.nextSegment unsent = k.unsackedSegment k.highestSack := by
        unfold lostGap highestSack at found
        rw [nextSegment, if_neg guard]
        simp only [found]
        split
        · exact .inr rfl
        next u =>
        split
        · next taken =>
          rw [Bool.and_eq_true, beq_iff_eq] at taken
          exact .inl ⟨rfl, u, rfl, taken.1, taken.2, rfl⟩
        · exact .inr rfl
      obtain new | same := sends
      · exact .inr (.inl new)
      · rw [same]
        obtain nothing | repairs := unsacked
        · exact .inl nothing
        · exact .inr (.inr repairs)

theorem Repair.commits {segment : SackNextSegment} (repair : k.Repair segment.range)
    (sound : k.Sound) (recovering : k.recovery = true) (reason : segment.reason ≠ .newData) :
    (k.commit segment).2 = true := by
  obtain ⟨filled, -, inside, -⟩ := repair
  have small := sound.small
  have length : (segment.range.last - segment.range.first).toNat =
      k.offset segment.range.last - k.offset segment.range.first := Sound.length_toNat filled
  have bounded : boundedRange segment.range.first segment.range.last = true := by
    unfold flightLimit at small
    simp only [boundedRange, asserted]
    constructor <;> bv_omega
  have back : Serial.before segment.range.first k.highAck = false := by
    rw [← Bool.not_eq_true, sound.before_iff _ _ (by omega) (by simp [offset])]
    simp [offset]
  have within : Serial.after segment.range.last k.highDataEnd = false := by
    rw [Serial.after, ← Bool.not_eq_true, sound.before_iff _ _ (Nat.le_refl _) inside]
    exact Nat.not_lt.mpr inside
  rw [commit, if_neg (by simp [sound.valid, recovering, bounded, present_of_bounded bounded]),
    if_neg (by simpa using reason), if_neg (by simp [back, within])]

theorem leading_length (k : SackScoreboard) (r : SackRange) :
    ((k.leading r).last - (k.leading r).first).toNat =
      min k.senderMss.toNat (r.last - r.first).toNat := by
  have part := minimum_toNat k.senderMss r.length
  unfold SackRange.length at part
  unfold leading SackRange.length
  bv_omega

theorem SendsNew.commits {unsent : Option SackRange} {segment : SackNextSegment}
    (new : k.SendsNew unsent segment) (sound : k.Sound) (sized : k.senderMss ≠ 0#32)
    (recovering : k.recovery = true) :
    (k.commit segment).2 = true ∧ 0 < (segment.range.last - segment.range.first).toNat ∧
      (segment.range.last - segment.range.first).toNat ≤ k.senderMss.toNat ∧
        ∃ u, unsent = some u ∧ segment.range.first = u.first ∧
          (segment.range.last - u.first).toNat ≤ (u.last - u.first).toNat := by
  obtain ⟨reason, u, some, first, whole, range⟩ := new
  have length := k.leading_length u
  rw [← range] at length
  have start : segment.range.first = u.first := by
    rw [range]
    rfl
  have formed : 0 < (u.last - u.first).toNat ∧ (u.last - u.first).toNat ≤ 0x40000000 := by
    simp only [boundedRange, asserted] at whole
    constructor <;> bv_omega
  have some' : 0 < k.senderMss.toNat := by bv_omega
  have bounded : boundedRange segment.range.first segment.range.last = true := by
    simp only [boundedRange, asserted]
    constructor <;> bv_omega
  refine ⟨?_, by omega, by omega, u, some, start, ?_⟩
  · rw [commit, if_neg (by simp [sound.valid, recovering, bounded, present_of_bounded bounded]),
      if_pos (by simp [reason]), if_neg (by simp [start, first])]
  · rw [start] at length
    omega

theorem Sound.isLost_inside (lost : k.isLost s = true) : k.offset s < k.window := by
  have back := Serial.before_iff s k.highAck
  have ahead := Serial.before_iff s k.highDataEnd
  unfold isLost at lost
  split at lost
  · cases lost
  next guard =>
  simp only [Bool.or_eq_true, Bool.not_eq_true', not_or, Bool.not_eq_false] at guard
  obtain ⟨⟨-, notBack⟩, isAhead⟩ := guard
  rw [back] at notBack
  rw [ahead] at isAhead
  unfold offset window at *
  bv_omega

theorem Sound.cursor_le {start : BitVec 32} (after : Serial.afterOrEqual s start = true) :
    k.offset (k.cursor start) ≤ k.offset s := by
  have edge := Serial.before_iff start k.highAck
  simp only [Serial.afterOrEqual, asserted, Serial.after_iff] at after
  unfold cursor
  split
  · unfold offset
    simp
  · next ahead =>
    rw [edge] at ahead
    unfold offset
    bv_omega

/-- A lost octet from the mark on leads to a repair of a lost gap. -/
theorem Sound.lostGap_isSome (sound : k.Sound) (missing : ¬ k.Covered s) (lost : k.isLost s = true)
    (after : Serial.afterOrEqual s k.highRetransmittedEnd = true) :
    k.count ≠ 0 ∧ ∃ r, k.lostGap = some r ∧ k.isLost r.first = true := by
  have inside := Sound.isLost_inside lost
  have enough := sound.isLost_eq inside missing
  rw [lost, ← offset] at enough
  obtain ⟨i, ahead⟩ : ∃ i, i ∈ k.behind (k.offset s) := by
    cases found : k.behind (k.offset s) with
    | nil =>
      rw [found] at enough
      simp [Intervals.total] at enough
    | cons i rest => exact ⟨i, mem_cons_self⟩
  obtain ⟨mem, starts⟩ := mem_filter.mp ahead
  have starts := of_decide_eq_true starts
  have some : k.count ≠ 0 := by
    intro empty
    simp [row, live, empty] at mem
  have filled := sound.staged.separated.filled i mem
  have ends := (sound.highest some).2 i mem
  obtain ⟨found, none⟩ := Searches.spec sound (sound.highest some).1 (sound.lostGap_searches some)
  refine ⟨some, ?_⟩
  cases result : k.lostGap with
  | none =>
    obtain covers | kept := none result (k.offset s) (Sound.cursor_le after) (by omega)
    · exact absurd (sound.covered_iff.mpr covers) missing
    · rw [offset, k.sequenceAt_sub s, lost] at kept
      cases kept
  | some r => exact ⟨r, rfl, (found r result).1⟩

end SackScoreboard

end RouterSim.Tcp
