import RouterSim.Lib.MaximalRuns
import RouterSim.Tcp.ReceiveTrace

/-! The SACK blocks a receiver reports: the maximal runs above RCV.NXT, the one
the latest segment lies in first. -/
namespace RouterSim.Tcp

open MaximalRuns (Run starts isStart)
open List Serial ReceiveBuffer

namespace ReceiveBuffer

/-- The octet at an offset of the window was received. -/
def has (b : ReceiveBuffer) (offset : Nat) : Bool :=
  b.received (b.physical (BitVec.ofNat 32 offset))

/-- The block between two offsets of the window. -/
def edges (b : ReceiveBuffer) (left right : Nat) : SackBlock where
  leftEdge := b.readSequence + BitVec.ofNat 32 left
  rightEdge := b.readSequence + BitVec.ofNat 32 right

variable {b : ReceiveBuffer} {low : Nat}

/-! ## The block around an offset -/

theorem blockLeft_spec {offset : Nat} (above : low ≤ offset) :
    low ≤ b.blockLeft low offset ∧ b.blockLeft low offset ≤ offset ∧
      (∀ n, b.blockLeft low offset ≤ n → n < offset → b.has n = true) ∧
      (b.blockLeft low offset = low ∨ b.has (b.blockLeft low offset - 1) = false) := by
  induction offset with
  | zero =>
    unfold blockLeft
    exact ⟨above, Nat.le_refl _, fun n lower upper => by omega, .inl (by omega)⟩
  | succ left ih =>
    unfold blockLeft
    split
    · next further =>
      simp only [asserted] at further
      obtain ⟨lower, upper, all, opens⟩ := ih (by omega)
      refine ⟨lower, by omega, fun n least most => ?_, opens⟩
      by_cases top : n = left
      · rw [top]
        exact further.2
      · exact all n least (by omega)
    · next stops =>
      refine ⟨above, Nat.le_refl _, fun n least most => by omega, ?_⟩
      by_cases bottom : low = left + 1
      · exact .inl bottom.symm
      · refine .inr ?_
        simp only [asserted, not_and, refuted] at stops
        exact stops (by omega)

theorem blockRight_spec (rounds right : Nat) (enough : b.storage.length ≤ right + rounds)
    (inside : right ≤ b.storage.length) :
    right ≤ b.blockRight rounds right ∧ b.blockRight rounds right ≤ b.storage.length ∧
      (∀ n, right ≤ n → n < b.blockRight rounds right → b.has n = true) ∧
      (b.blockRight rounds right = b.storage.length ∨
        b.has (b.blockRight rounds right) = false) := by
  induction rounds generalizing right with
  | zero =>
    unfold blockRight
    exact ⟨Nat.le_refl _, inside, fun n lower upper => by omega, .inl (by omega)⟩
  | succ rounds ih =>
    unfold blockRight
    split
    · next further =>
      simp only [asserted] at further
      obtain ⟨lower, upper, all, closes⟩ := ih (right + 1) (by omega) (by omega)
      refine ⟨by omega, upper, fun n least most => ?_, closes⟩
      by_cases bottom : n = right
      · rw [bottom]
        exact further.2
      · exact all n (by omega) most
    · next stops =>
      refine ⟨Nat.le_refl _, inside, fun n lower upper => by omega, ?_⟩
      by_cases top : right = b.storage.length
      · exact .inl top
      · refine .inr ?_
        simp only [asserted, not_and, refuted] at stops
        exact stops (by omega)

/-- The block around a received octet is the run it lies in. -/
theorem blockAt_run {offset : Nat} (above : low ≤ offset) (inside : offset < b.storage.length)
    (present : b.has offset = true) : ∃ left right,
      b.blockAt low offset = some (b.edges left right) ∧
        Run b.has low b.storage.length left right ∧ left ≤ offset ∧ offset < right := by
  obtain ⟨lower, upper, before, opens⟩ := b.blockLeft_spec above
  obtain ⟨lower', upper', after, closes⟩ :=
    b.blockRight_spec b.storage.length (offset + 1) (by omega) (by omega)
  refine ⟨b.blockLeft low offset, b.blockRight b.storage.length (offset + 1), ?_,
    ⟨lower, by omega, upper', fun n least most => ?_, opens, closes⟩, upper, by omega⟩
  · rw [blockAt, if_neg]
    · rfl
    · have here : b.received (b.physical (BitVec.ofNat 32 offset)) = true := present
      simp only [here, settled, asserted]
      omega
  · obtain early | here | late := Nat.lt_trichotomy n offset
    · exact before n least early
    · rw [here]
      exact present
    · exact after n late most

theorem blockAt_none {offset : Nat}
    (absent : ¬ (low ≤ offset ∧ offset < b.storage.length ∧ b.has offset = true)) :
    b.blockAt low offset = none := by
  rw [blockAt, if_pos]
  simp only [asserted]
  by_cases above : low ≤ offset
  · by_cases inside : offset < b.storage.length
    · refine .inr ?_
      rw [← Bool.not_eq_true]
      exact fun present => absent ⟨above, inside, present⟩
    · exact .inl (.inr (by omega))
  · exact .inl (.inl (by omega))

/-! ## The scan -/

/-- The run that starts at an offset. -/
def runFrom (b : ReceiveBuffer) (left : Nat) : Nat × Nat :=
  (left, b.blockRight b.storage.length (left + 1))

/-- Every maximal run of the window, the highest first. -/
def runs (b : ReceiveBuffer) (low : Nat) : List (Nat × Nat) :=
  (starts b.has low b.storage.length).map b.runFrom

def blockOf (b : ReceiveBuffer) (run : Nat × Nat) : SackBlock := b.edges run.1 run.2

theorem runFrom_run {left : Nat} (inside : left < b.storage.length)
    (start : isStart b.has low left = true) :
    Run b.has low b.storage.length left (b.runFrom left).2 := by
  obtain ⟨lower, upper, after, closes⟩ :=
    b.blockRight_spec b.storage.length (left + 1) (by omega) (by omega)
  simp only [isStart, asserted] at start
  obtain ⟨⟨above, here⟩, opens⟩ := start
  refine ⟨above, lower, upper, fun n least most => ?_, opens, closes⟩
  by_cases bottom : n = left
  · rw [bottom]
    exact here
  · exact after n (by omega) most

theorem mem_runs {left right : Nat} :
    (left, right) ∈ b.runs low ↔ Run b.has low b.storage.length left right := by
  constructor
  · intro mem
    obtain ⟨start, found, same⟩ := mem_map.mp mem
    obtain ⟨inside, starts⟩ := MaximalRuns.mem_starts.mp found
    obtain ⟨rfl, rfl⟩ := Prod.mk.inj same
    exact runFrom_run inside starts
  · intro run
    have inside : left < b.storage.length := Nat.lt_of_lt_of_le run.filled run.below
    have own := runFrom_run inside run.isStart
    have same := (own.unique run ⟨Nat.le_refl _, own.filled⟩ ⟨Nat.le_refl _, run.filled⟩).2
    refine mem_map.mpr ⟨left, MaximalRuns.mem_starts.mpr ⟨inside, run.isStart⟩, ?_⟩
    exact Prod.ext rfl same

theorem runs_nodup (b : ReceiveBuffer) (low : Nat) : (b.runs low).Nodup := by
  refine List.Pairwise.map _ (fun left other apart same => ?_) (MaximalRuns.starts_nodup ..)
  exact apart (congrArg Prod.fst same)

/-- The scan appends the blocks below its cursor, but for the recent one, until
the output is full. -/
theorem scanBlocks_eq (small : b.storage.length ≤ 0x40000000) (recent : Option SackBlock)
    (capacity : Nat) {rounds cursor : Nat} (output : List SackBlock) (enough : cursor ≤ rounds)
    (inside : cursor ≤ b.storage.length) :
    b.scanBlocks low capacity recent rounds cursor output =
      output ++ ((((starts b.has low cursor).map fun left => b.blockOf (b.runFrom left)).filter
        fun block => !(recent == some block)).take (capacity - output.length)) := by
  induction rounds generalizing cursor output with
  | zero =>
    have bottom : cursor = 0 := Nat.le_zero.mp enough
    subst bottom
    simp [scanBlocks, starts]
  | succ rounds ih =>
    unfold scanBlocks
    split
    · next going =>
      simp only [asserted] at going
      have step : cursor = cursor - 1 + 1 := by omega
      cases present : b.has (cursor - 1) with
      | false =>
        have absent : b.received (b.physical (BitVec.ofNat 32 (cursor - 1))) = false := present
        have same : starts b.has low (cursor - 1 + 1) = starts b.has low (cursor - 1) :=
          MaximalRuns.starts_missing present
        rw [← step] at same
        rw [if_pos (by simp [absent]), ih output (by omega) (by omega), same]
      | true =>
        have here : b.received (b.physical (BitVec.ofNat 32 (cursor - 1))) = true := present
        have covered : low ≤ cursor - 1 := by omega
        obtain ⟨left, right, found, run, lower, upper⟩ :=
          b.blockAt_run covered (by omega) present
        have start : left < b.storage.length := by omega
        have same : b.blockOf (b.runFrom left) = b.edges left right := by
          have own := runFrom_run start run.isStart
          have ends := (own.unique run ⟨Nat.le_refl _, own.filled⟩ ⟨Nat.le_refl _, run.filled⟩).2
          rw [blockOf, ends]
          rfl
        have next : ((b.edges left right).leftEdge - b.readSequence).toNat = left := by
          simp only [edges]
          bv_omega
        have below : starts b.has low cursor = left :: starts b.has low left :=
          MaximalRuns.starts_filled run.above (by omega)
            (fun n least most => run.all n least (by omega)) run.opens
        rw [if_neg (by simp [here]), found]
        simp only [next, below, map_cons, same]
        split
        · next known =>
          rw [ih output (by omega) (by omega), filter_cons_of_neg (by simp [known])]
        · next unknown =>
          rw [ih (output ++ [b.edges left right]) (by omega) (by omega),
            filter_cons_of_pos (by simpa using unknown), length_append,
            show capacity - output.length = capacity - (output.length + 1) + 1 by omega,
            take_succ_cons, append_assoc]
          rfl
    · next stops =>
      simp only [asserted, not_and] at stops
      by_cases bottom : low < cursor
      · rw [show capacity - output.length = 0 by have := stops bottom; omega]
        simp
      · rw [MaximalRuns.starts_low (by omega)]
        simp

/-! ## The report -/

/-- One element of a list first, then the others, cut to a length. -/
theorem front_spec {xs : List SackBlock} (nodup : xs.Nodup) (recent : Option SackBlock)
    (known : ∀ x, recent = some x → x ∈ xs) {capacity : Nat} (room : 0 < capacity) :
    (recent.toList ++ (xs.filter fun x => !(recent == some x)).take
        (capacity - recent.toList.length)).Nodup ∧
      (∀ x ∈ recent.toList ++ (xs.filter fun x => !(recent == some x)).take
        (capacity - recent.toList.length), x ∈ xs) ∧
      (recent.toList ++ (xs.filter fun x => !(recent == some x)).take
        (capacity - recent.toList.length)).length = min capacity xs.length := by
  cases recent with
  | none =>
    have all : xs.filter (fun x => !((none : Option SackBlock) == some x)) = xs :=
      filter_eq_self.mpr fun x _ => rfl
    rw [all]
    refine ⟨nodup.sublist (take_sublist _ _), fun x mem => ?_, ?_⟩
    · exact mem_of_mem_take mem
    · simp
  | some x =>
    have others : xs.filter (fun y => !(some x == some y)) = xs.erase x := by
      rw [nodup.erase_eq_filter]
      refine filter_congr fun y _ => ?_
      rw [Option.some_beq_some, bne, Bool.beq_comm]
    rw [others]
    have mem := known x rfl
    have positive : 0 < xs.length := length_pos_of_mem mem
    refine ⟨?_, fun y found => ?_, ?_⟩
    · refine nodup_cons.mpr ⟨fun again => ?_, (nodup.erase x).sublist (take_sublist _ _)⟩
      exact nodup.not_mem_erase (mem_of_mem_take again)
    · obtain rfl | later := mem_cons.mp found
      · exact mem
      · exact mem_of_mem_erase (mem_of_mem_take later)
    · simp [length_erase_of_mem mem]
      omega

theorem blocks_nodup (small : b.storage.length ≤ 0x40000000) :
    ((b.runs low).map b.blockOf).Nodup := by
  refine pairwise_map.mpr (Pairwise.imp_of_mem ?_ (b.runs_nodup low))
  intro run other mem mem' apart same
  have own := mem_runs.mp mem
  have its := mem_runs.mp mem'
  have lefts := congrArg SackBlock.leftEdge same
  have inside := Nat.lt_of_lt_of_le own.filled own.below
  have inside' := Nat.lt_of_lt_of_le its.filled its.below
  have first : run.1 = other.1 := by
    simp only [blockOf, edges] at lefts
    bv_omega
  have shared : other.1 ≤ run.1 ∧ run.1 < other.2 := ⟨Nat.le_of_eq first.symm, first ▸ its.filled⟩
  have last := (own.unique its ⟨Nat.le_refl _, own.filled⟩ shared).2
  exact apart (Prod.ext first last)

/-- The block of the octet remembered, where it is still above RCV.NXT. -/
def recentBlock (b : ReceiveBuffer) : Option SackBlock :=
  if b.recentSequencePresent then
    b.blockAt (b.receiveNext - b.readSequence).toNat (b.recentSequence - b.readSequence).toNat
  else none

theorem recentBlock_known {block : SackBlock} (found : b.recentBlock = some block) :
    block ∈ (b.runs (b.receiveNext - b.readSequence).toNat).map b.blockOf := by
  unfold recentBlock at found
  split at found
  · by_cases inside : (b.receiveNext - b.readSequence).toNat ≤
        (b.recentSequence - b.readSequence).toNat ∧
        (b.recentSequence - b.readSequence).toNat < b.storage.length ∧
        b.has (b.recentSequence - b.readSequence).toNat = true
    · obtain ⟨left, right, at', run, -, -⟩ := b.blockAt_run inside.1 inside.2.1 inside.2.2
      rw [at'] at found
      cases found
      exact mem_map.mpr ⟨(left, right), mem_runs.mpr run, rfl⟩
    · rw [blockAt_none inside] at found
      cases found
  · cases found

theorem sackBlocks_eq (valid : b.valid = true) (small : b.storage.length ≤ 0x40000000)
    {capacity : Nat} (room : 0 < capacity)
    (inside : (b.receiveNext - b.readSequence).toNat < b.storage.length) :
    b.sackBlocks capacity = b.recentBlock.toList ++
      (((b.runs (b.receiveNext - b.readSequence).toNat).map b.blockOf).filter
        fun block => !(b.recentBlock == some block)).take
          (capacity - b.recentBlock.toList.length) := by
  have guard : (!b.valid || capacity == 0 ||
      decide (b.storage.length ≤ (b.receiveNext - b.readSequence).toNat)) = false := by
    have some : (capacity == 0) = false := beq_eq_false_iff_ne.mpr (by omega)
    rw [valid, some, decide_eq_false (by omega)]
    rfl
  unfold sackBlocks
  rw [if_neg (by simp only [guard]; decide), runs, map_map]
  exact b.scanBlocks_eq small b.recentBlock capacity b.recentBlock.toList (Nat.le_refl _)
    (Nat.le_refl _)

end ReceiveBuffer

/-! ## In stream positions -/

namespace ReceiveTrace.Inv

variable {t : ReceiveTrace} {origin : BitVec 32}

variable (inv : t.Inv origin)
include inv

theorem shape : t.buffer.valid = true ∧ 0 < t.buffer.storage.length ∧
    t.buffer.storage.length ≤ 0x40000000 ∧ t.next ≤ t.edge ∧
    (t.received t.next = false ∨ t.next = t.edge) ∧
    (t.buffer.receiveNext - t.buffer.readSequence).toNat = t.next - t.outputs.length := by
  have valid : t.buffer.valid = true := inv.blank.refines.valid
  have nonempty := inv.blank.refines.nonempty
  have bounded := inv.blank.refines.bounded
  have fits := inv.blank.refines.fits
  have rests := inv.blank.rests
  rw [ReceiveHistory.blank_next] at fits rests
  rw [ReceiveHistory.blank_edge] at rests
  simp only [ReceiveHistory.blank, blank_length, zeros, length_replicate] at nonempty bounded fits
  refine ⟨valid, nonempty, bounded, fits, rests.symm, ?_⟩
  simp [ReceiveHistory.next, readableOctets, valid]

theorem has {offset : Nat} (inside : offset < t.buffer.storage.length) :
    t.buffer.has offset = t.received (t.outputs.length + offset) := by
  obtain ⟨-, -, small, -⟩ := inv.shape
  have bits := inv.blank.refines.bits offset (by simpa [ReceiveHistory.blank] using inside)
  have value : (BitVec.ofNat 32 offset).toNat = offset := by simp; omega
  simp only [ReceiveHistory.blank, ReceiveBuffer.blank_length, ReceiveBuffer.zeros,
    length_replicate] at bits
  rw [ReceiveBuffer.has, ReceiveBuffer.physical, value]
  exact bits

/-- The runs of the window are the runs of the stream above RCV.NXT. -/
theorem run_iff {left right : Nat} :
    Run t.buffer.has (t.buffer.receiveNext - t.buffer.readSequence).toNat t.buffer.storage.length
        left right ↔
      Run t.received t.next t.edge (t.outputs.length + left) (t.outputs.length + right) := by
  obtain ⟨-, -, -, -, -, span⟩ := inv.shape
  have above : t.outputs.length ≤ t.next := Nat.le_add_right _ _
  have shifted : Run (fun n => t.received (t.outputs.length + n)) (t.next - t.outputs.length)
      t.buffer.storage.length left right ↔ _ := Run.shift t.outputs.length
  rw [Nat.add_sub_cancel' above] at shifted
  rw [span]
  refine Iff.trans ?_ shifted
  exact ⟨fun run => run.congr fun n inside => inv.has inside,
    fun run => run.congr fun n inside => (inv.has inside).symm⟩

theorem edges (left right : Nat) : t.buffer.edges left right =
    ⟨counter origin (t.outputs.length + left), counter origin (t.outputs.length + right)⟩ := by
  have read : t.buffer.readSequence = counter origin t.outputs.length := by
    have own := inv.blank.refines.readSequence
    simp only [ReceiveHistory.blank, ReceiveBuffer.zeros, length_replicate] at own
    exact own
  rw [ReceiveBuffer.edges, read, counter_add, counter_add]

/-- The octet the buffer remembers lies above RCV.NXT with every octet of the
latest segment that does, and they are of one run. -/
theorem recentBlock {p : Nat} (latest : t.latest p = true) (above : t.next < p) :
    ∃ left right, t.buffer.recentBlock = some (t.buffer.edges left right) ∧
      Run t.received t.next t.edge (t.outputs.length + left) (t.outputs.length + right) ∧
      t.outputs.length + left ≤ p ∧ p < t.outputs.length + right := by
  obtain ⟨-, -, small, fits, rests, span⟩ := inv.shape
  have outputs : t.outputs.length ≤ t.next := Nat.le_add_right _ _
  have size : t.edge = t.outputs.length + t.buffer.storage.length := rfl
  cases present : t.buffer.recentSequencePresent with
  | false => cases (inv.unmarked present p).symm.trans latest
  | true =>
    obtain ⟨first, recent⟩ := inv.marked present
    have window (n : Nat) (got : t.received n = true) : n < t.edge := by
      have own := inv.blank.refines.window n got
      simp only [ReceiveHistory.blank, ReceiveBuffer.blank_length, ReceiveBuffer.zeros,
        length_replicate] at own
      exact own
    have got : t.received p = true :=
      recent.joined p p latest (by omega)
    have ahead : t.next < first := by
      by_cases behind : t.next < first
      · exact behind
      · have here := recent.joined p t.next latest (by omega)
        have inside := window p got
        obtain missing | atEdge := rests
        · cases here.symm.trans missing
        · omega
    have inside := window first recent.received
    have offset : (t.buffer.recentSequence - t.buffer.readSequence).toNat =
        first - t.outputs.length := by
      have read := inv.edges 0 0
      have start : t.buffer.readSequence = counter origin t.outputs.length := by
        have left := congrArg SackBlock.leftEdge read
        simpa [ReceiveBuffer.edges] using left
      rw [recent.sequence, start, counter_sub origin (by omega) (by omega)]
    have own : t.buffer.has (first - t.outputs.length) = true := by
      rw [inv.has (by omega), Nat.add_sub_cancel' (by omega)]
      exact recent.received
    have covered : (t.buffer.receiveNext - t.buffer.readSequence).toNat ≤
        first - t.outputs.length := by omega
    obtain ⟨left, right, found, run, lower, upper⟩ :=
      t.buffer.blockAt_run covered (by omega) own
    have positions := inv.run_iff.mp run
    have inside' := window p got
    have around : min first p ≤ first ∧ first < max first p + 1 := by omega
    have stretch := positions.stretch (by omega) (by omega) around
      (fun n least most => recent.joined p n latest (by omega))
    refine ⟨left, right, ?_, positions, by omega, by omega⟩
    rw [ReceiveBuffer.recentBlock, if_pos present, offset, found]

theorem runs : ∃ runs : List (Nat × Nat), runs.Nodup ∧
    (∀ first last, (first, last) ∈ runs ↔ Run t.received t.next t.edge first last) ∧
    runs.length = (t.buffer.runs (t.buffer.receiveNext - t.buffer.readSequence).toNat).length := by
  refine ⟨(t.buffer.runs (t.buffer.receiveNext - t.buffer.readSequence).toNat).map
    fun run => (t.outputs.length + run.1, t.outputs.length + run.2), ?_, fun first last => ?_,
    length_map _⟩
  · refine pairwise_map.mpr ((t.buffer.runs_nodup _).imp fun apart same => ?_)
    have firsts := congrArg Prod.fst same
    have lasts := congrArg Prod.snd same
    exact apart (Prod.ext (Nat.add_left_cancel firsts) (Nat.add_left_cancel lasts))
  · constructor
    · intro mem
      obtain ⟨run, found, same⟩ := mem_map.mp mem
      obtain ⟨rfl, rfl⟩ := Prod.mk.inj same
      exact inv.run_iff.mp (mem_runs.mp found)
    · intro run
      have outputs : t.outputs.length ≤ t.next := Nat.le_add_right _ _
      have above := run.above
      have filled := run.filled
      have first' : t.outputs.length + (first - t.outputs.length) = first := by omega
      have last' : t.outputs.length + (last - t.outputs.length) = last := by omega
      refine mem_map.mpr ⟨(first - t.outputs.length, last - t.outputs.length), ?_, ?_⟩
      · refine mem_runs.mpr (inv.run_iff.mpr ?_)
        rwa [first', last']
      · rw [first', last']

end ReceiveTrace.Inv

/-- The SACK report of a reached repository: distinct blocks, each a maximal run
above RCV.NXT, the one with the latest segment first, and as many as there are
runs or as fit. -/
theorem sack_blocks_report {t : ReceiveTrace} {origin : BitVec 32}
    (reached : ReceiveReached origin t) (capacity : Nat) :
    t.buffer.receiveNext = counter origin t.next ∧
      (t.buffer.sackBlocks capacity).Nodup ∧
      (∀ block ∈ t.buffer.sackBlocks capacity, ∃ first last, t.next < first ∧
        Run t.received t.next t.edge first last ∧
        block = ⟨counter origin first, counter origin last⟩) ∧
      (∀ p, t.latest p = true → t.next < p → 0 < capacity → ∃ first last rest,
        t.buffer.sackBlocks capacity = ⟨counter origin first, counter origin last⟩ :: rest ∧
        first ≤ p ∧ p < last) ∧
      ∃ runs : List (Nat × Nat), runs.Nodup ∧
        (∀ first last, (first, last) ∈ runs ↔ Run t.received t.next t.edge first last) ∧
        (t.buffer.sackBlocks capacity).length = min capacity runs.length := by
  have inv := reached.inv
  have receiveNext : t.buffer.receiveNext = counter origin t.next := by
    have own := inv.blank.refines.receiveNext
    rwa [ReceiveHistory.blank_next] at own
  refine ⟨receiveNext, ?_⟩
  obtain ⟨valid, -, small, fits, rests, span⟩ := inv.shape
  obtain ⟨runs, distinct, complete, count⟩ := inv.runs
  have outputs : t.outputs.length ≤ t.next := Nat.le_add_right _ _
  have size : t.edge = t.outputs.length + t.buffer.storage.length := rfl
  by_cases room : 0 < capacity ∧ t.next < t.edge
  · have report := t.buffer.sackBlocks_eq valid small room.1 (by omega)
    have front := front_spec (t.buffer.blocks_nodup small) t.buffer.recentBlock
      (fun block found => recentBlock_known found) room.1
    rw [← report, length_map] at front
    refine ⟨front.1, fun block mem => ?_, fun p latest above _ => ?_, runs, distinct, complete,
      count ▸ front.2.2⟩
    · obtain ⟨run, found, rfl⟩ := mem_map.mp (front.2.1 block mem)
      have own := inv.run_iff.mp (mem_runs.mp found)
      refine ⟨_, _, ?_, own, inv.edges run.1 run.2⟩
      have missing := rests.resolve_right (Nat.ne_of_lt room.2)
      have lower := own.above
      by_cases bottom : t.next = t.outputs.length + run.1
      · have here := own.all t.next (Nat.le_of_eq bottom.symm) (bottom ▸ own.filled)
        cases here.symm.trans missing
      · omega
    · obtain ⟨left, right, recent, -, lower, upper⟩ := inv.recentBlock latest above
      rw [report, recent, inv.edges]
      exact ⟨_, _, _, rfl, lower, upper⟩
  · have empty : t.buffer.sackBlocks capacity = [] := by
      unfold sackBlocks
      rw [if_pos]
      simp only [asserted]
      omega
    rw [empty]
    refine ⟨nodup_nil, fun block mem => absurd mem not_mem_nil,
      fun p latest above some => ?_, runs, distinct, complete, ?_⟩
    · obtain ⟨left, right, -, run, lower, upper⟩ := inv.recentBlock latest above
      have below := run.below
      omega
    · by_cases none : capacity = 0
      · simp [none]
      · have nothing : runs = [] := by
          refine eq_nil_iff_forall_not_mem.mpr fun run mem => ?_
          obtain ⟨lower, filled, upper, -⟩ := (complete run.1 run.2).mp mem
          omega
        simp [nothing]

/-- Three runs above a missing octet, the middle one stored last. -/
def threeRuns : ReceiveTrace :=
  let empty : ReceiveTrace :=
    { toReceiveHistory := ReceiveHistory.start (List.replicate 10 0#8) [0#8, 0#8] 0xfffffffe#32 }
  ((empty.step (.accept 7#32 [8#8])).step (.accept 0xffffffff#32 [1#8, 2#8])).step
    (.accept 3#32 [4#8, 5#8])

theorem threeRuns_reached : ReceiveReached 0xfffffffe#32 threeRuns :=
  .step _ (.step _ (.step _ (.start _ _ _ (by decide))))

theorem threeRuns_report :
    (threeRuns.buffer.sackBlocks 2).Nodup ∧
      threeRuns.buffer.sackBlocks 2 = [⟨3#32, 5#32⟩, ⟨7#32, 8#32⟩] :=
  ⟨(sack_blocks_report threeRuns_reached 2).2.1, by decide⟩

end RouterSim.Tcp
