/-! Compaction of an array in place: a write cursor that follows the read cursor. Rows are
read from the array that is being written, so the results say that what is still to be read
is never disturbed. -/
namespace Compaction

open List

variable {α : Type} [Inhabited α]

def row (rows : List α) (i : Nat) : α := rows.getD i default

section Rows

variable {rows rows' : List α} {i j n : Nat} {a : α}

theorem row_of_drop (h : rows.drop n = rows'.drop n) (at_least : n ≤ i) :
    row rows i = row rows' i := by
  have same : (rows.drop n)[i - n]? = (rows'.drop n)[i - n]? := by rw [h]
  have index : n + (i - n) = i := by omega
  simp only [List.getElem?_drop, index] at same
  simp [row, same]

theorem drop_eq_row (h : i < rows.length) : rows.drop i = row rows i :: rows.drop (i + 1) := by
  simp [row, h]

theorem row_set (h : i < rows.length) : row (rows.set i a) j = if i = j then a else row rows j := by
  by_cases eq : i = j
  · subst eq
    simp [row, h]
  · simp [row, eq]

omit [Inhabited α] in
theorem take_set (h : n < rows.length) : (rows.set n a).take (n + 1) = rows.take n ++ [a] := by
  have inside : n < (rows.set n a).length := by simpa using h
  rw [take_succ_eq_append_getElem inside, take_set_of_le (Nat.le_refl n)]
  simp

end Rows

section Filter

/-- The rows that pass, moved to the front, and how many they are. -/
def filterFrom (keeps : α → Bool) (count : Nat) : Nat → List α → Nat → Nat → List α × Nat
  | 0, rows, _, kept => (rows, kept)
  | steps + 1, rows, index, kept =>
    if index < count then
      let candidate := row rows index
      if keeps candidate then
        filterFrom keeps count steps (rows.set kept candidate) (index + 1) (kept + 1)
      else filterFrom keeps count steps rows (index + 1) kept
    else (rows, kept)

def filterInPlace (keeps : α → Bool) (rows : List α) (count : Nat) : List α × Nat :=
  filterFrom keeps count count rows 0 0

variable {keeps : α → Bool} {rows : List α} {count steps index kept : Nat}

/-- What has been kept, and what of the rest passes, over the rows beyond. -/
theorem filterFrom_eq (keeps : α → Bool) (fits : count ≤ rows.length) (behind : kept ≤ index)
    (inside : index ≤ count) (enough : count - index ≤ steps) :
    let passed := ((rows.take count).drop index).filter keeps
    filterFrom keeps count steps rows index kept =
      (rows.take kept ++ passed ++ rows.drop (kept + passed.length), kept + passed.length) := by
  induction steps generalizing rows index kept with
  | zero =>
    obtain rfl : index = count := by omega
    simp [filterFrom]
  | succ steps ih =>
    unfold filterFrom
    by_cases more : index < count
    · have first : (rows.take count).drop index =
          row rows index :: (rows.take count).drop (index + 1) := by
        rw [drop_eq_row (by simp; omega)]
        simp [row, more]
      rw [if_pos more]
      by_cases pass : keeps (row rows index) = true
      · have written : (rows.set kept (row rows index)).take (kept + 1) =
            rows.take kept ++ [row rows index] := take_set (by omega)
        have unread : ((rows.set kept (row rows index)).take count).drop (index + 1) =
            (rows.take count).drop (index + 1) := by
          rw [drop_take, drop_take, drop_set_of_lt (by omega)]
        have beyond : ∀ n, (rows.set kept (row rows index)).drop (kept + 1 + n) =
            rows.drop (kept + 1 + n) := fun n => drop_set_of_lt (by omega)
        simp only [pass]
        rw [ih (by simpa using fits) (by omega) (by omega) (by omega), unread, first,
          filter_cons_of_pos pass, written, beyond]
        simp [Nat.add_assoc, Nat.add_comm 1]
      · simp only [pass, Bool.false_eq_true, if_false]
        rw [ih fits (by omega) (by omega) (by omega), first, filter_cons_of_neg pass]
    · obtain rfl : index = count := by omega
      simp

theorem filterInPlace_eq (keeps : α → Bool) (fits : count ≤ rows.length) :
    let passed := (rows.take count).filter keeps
    filterInPlace keeps rows count = (passed ++ rows.drop passed.length, passed.length) := by
  have := filterFrom_eq keeps fits (Nat.le_refl 0) (Nat.zero_le count) (Nat.le_refl count)
  simpa [filterInPlace] using this

end Filter

section Groups

variable (grouped same : α → α → Bool) (limit : Nat)

/-- The first row past the group that begins at `start`. -/
def groupEnd (rows : List α) (count start : Nat) : Nat → Nat → Nat
  | 0, stop => stop
  | steps + 1, stop =>
    if stop < count ∧ grouped (row rows stop) (row rows start) = true then
      groupEnd rows count start steps (stop + 1)
    else stop

/-- The rows of a group that are like its first, up to the limit, written from `kept` on. The
first row is read anew for each of them. -/
def keepGroup (start stop : Nat) : Nat → List α → Nat → Nat → Nat → List α × Nat
  | 0, rows, _, kept, _ => (rows, kept)
  | steps + 1, rows, index, kept, paths =>
    if index < stop ∧ paths < limit then
      let candidate := row rows index
      if same candidate (row rows start) then
        keepGroup start stop steps (rows.set kept candidate) (index + 1) (kept + 1) (paths + 1)
      else (rows, kept)
    else (rows, kept)

def compactFrom (count : Nat) : Nat → List α → Nat → Nat → List α × Nat
  | 0, rows, _, kept => (rows, kept)
  | steps + 1, rows, start, kept =>
    if start < count then
      let stop := groupEnd grouped rows count start (count - start) (start + 1)
      let group := keepGroup same limit start stop (stop - start) rows start kept 0
      compactFrom count steps group.1 stop group.2
    else (rows, kept)

/-- Group after group, in the array itself. -/
def compact (rows : List α) (count : Nat) : List α × Nat :=
  compactFrom grouped same limit count count rows 0 0

/-- The same on lists: of each run of grouped rows, those like its first, up to the limit. -/
def select (l : List α) : List α :=
  match l with
  | [] => []
  | first :: rest =>
    ((first :: rest.takeWhile (grouped · first)).takeWhile (same · first)).take limit ++
      select (rest.dropWhile (grouped · first))
termination_by l.length
decreasing_by
  have := (List.dropWhile_suffix (l := rest) (grouped · first)).length_le
  simp
  omega

variable {grouped same limit} {rows : List α} {count start stop steps index kept paths : Nat}

theorem groupEnd_eq (fits : count ≤ rows.length) (inside : stop ≤ count)
    (enough : count - stop ≤ steps) :
    groupEnd grouped rows count start steps stop =
      stop + (((rows.take count).drop stop).takeWhile (grouped · (row rows start))).length := by
  induction steps generalizing stop with
  | zero =>
    obtain rfl : stop = count := by omega
    simp [groupEnd]
  | succ steps ih =>
    unfold groupEnd
    by_cases more : stop < count
    · have first : (rows.take count).drop stop =
          row rows stop :: (rows.take count).drop (stop + 1) := by
        rw [drop_eq_row (by simp; omega)]
        simp [row, more]
      by_cases member : grouped (row rows stop) (row rows start) = true
      · rw [if_pos ⟨more, member⟩, ih (by omega) (by omega), first, takeWhile_cons,
          if_pos member, length_cons]
        omega
      · rw [if_neg (fun both => member both.2), first, takeWhile_cons, if_neg member]
        simp
    · obtain rfl : stop = count := by omega
      simp

/-- The rows like `winner`, from the read cursor on. The first row of the group may be
overwritten on the way, but only by a row that is like it. -/
theorem keepGroup_spec {original : List α} {winner : α} (limit start paths : Nat)
    (likeness : ∀ a b x, same a b = true → same x a = same x b)
    (length : rows.length = original.length) (fits : stop ≤ rows.length)
    (unread : rows.drop index = original.drop index) (behind : kept ≤ index)
    (first : ∀ x, same x (row rows start) = same x winner) (enough : stop - index ≤ steps) :
    let taken := ((((original.take stop).drop index).takeWhile (same · winner)).take
      (limit - paths))
    let result := keepGroup same limit start stop steps rows index kept paths
    result.1.length = original.length ∧ result.1.drop (max index stop) =
        original.drop (max index stop) ∧
      result.2 = kept + taken.length ∧ result.1.take result.2 = rows.take kept ++ taken := by
  induction steps generalizing rows index kept paths with
  | zero =>
    have beyond : stop ≤ index := by omega
    have none : (original.take stop).drop index = [] := by
      simp
      omega
    simp [keepGroup, none, length, Nat.max_eq_left beyond, unread]
  | succ steps ih =>
    unfold keepGroup
    by_cases more : index < stop ∧ paths < limit
    · have here : row rows index = row original index := row_of_drop unread (Nat.le_refl _)
      have next : (original.take stop).drop index =
          row original index :: (original.take stop).drop (index + 1) := by
        rw [drop_eq_row (by simp; omega)]
        simp [row, more.1]
      have room : limit - paths = limit - (paths + 1) + 1 := by omega
      rw [if_pos more]
      by_cases alike : same (row rows index) (row rows start) = true
      · have winner_alike : same (row original index) winner = true := by
          rw [← here, ← first]
          exact alike
        have written : (rows.set kept (row original index)).take (kept + 1) =
            rows.take kept ++ [row original index] := take_set (by omega)
        have rest : (rows.set kept (row rows index)).drop (index + 1) =
            original.drop (index + 1) := by
          rw [drop_set_of_lt (by omega), ← drop_drop, unread, drop_drop]
        have still : ∀ x, same x (row (rows.set kept (row rows index)) start) = same x winner := by
          intro x
          rw [row_set (by omega)]
          split
          · rw [likeness _ _ x alike, first]
          · exact first x
        have after : kept + 1 ≤ index + 1 := by omega
        have result := ih (paths + 1) (by simpa using length) (by simpa using fits) rest after
          still (by omega)
        have largest : max (index + 1) stop = max index stop := by omega
        simp only [alike, if_true]
        rw [next, takeWhile_cons, if_pos winner_alike, room, take_succ_cons]
        simp only [largest, here] at result ⊢
        refine ⟨result.1, result.2.1, ?_, ?_⟩
        · rw [result.2.2.1, length_cons]
          omega
        · rw [result.2.2.2, written]
          simp
      · have winner_other : ¬ same (row original index) winner = true := by
          rw [← here, ← first]
          exact alike
        have largest : max index stop = index + (max index stop - index) := by omega
        simp only [alike, Bool.false_eq_true, if_false]
        rw [next, takeWhile_cons, if_neg winner_other]
        refine ⟨length, ?_, by simp, by simp⟩
        rw [largest, ← drop_drop, unread, drop_drop]
    · rw [if_neg more]
      have largest : max index stop = index + (max index stop - index) := by omega
      have taken : (((original.take stop).drop index).takeWhile (same · winner)).take
          (limit - paths) = [] := by
        by_cases full : paths < limit
        · have none : (original.take stop).drop index = [] := by
            simp
            omega
          simp [none]
        · have none : limit - paths = 0 := by omega
          simp [none]
      simp only [taken]
      refine ⟨length, ?_, by simp, by simp⟩
      rw [largest, ← drop_drop, unread, drop_drop]

/-- The rows the write cursor has passed, then the groups that are left. -/
theorem compactFrom_spec (likeness : ∀ a b x, same a b = true → same x a = same x b)
    (fits : count ≤ rows.length) (inside : start ≤ count) (behind : kept ≤ start)
    (enough : count - start ≤ steps) :
    let result := compactFrom grouped same limit count steps rows start kept
    let selected := select grouped same limit ((rows.take count).drop start)
    result.1.take result.2 = rows.take kept ++ selected ∧ result.2 = kept + selected.length := by
  induction steps generalizing rows start kept with
  | zero =>
    obtain rfl : start = count := by omega
    simp [compactFrom, select]
  | succ steps ih =>
    unfold compactFrom
    by_cases more : start < count
    · have head : (rows.take count).drop start =
          row rows start :: (rows.take count).drop (start + 1) := by
        rw [drop_eq_row (by simp; omega)]
        simp [row, more]
      let group := ((rows.take count).drop (start + 1)).takeWhile (grouped · (row rows start))
      let others := ((rows.take count).drop (start + 1)).dropWhile (grouped · (row rows start))
      have parts : (rows.take count).drop (start + 1) = group ++ others :=
        takeWhile_append_dropWhile.symm
      have after : start + 1 ≤ count := by omega
      have stop : groupEnd grouped rows count start (count - start) (start + 1) =
          start + 1 + group.length := groupEnd_eq fits after (by omega)
      have within : start + 1 + group.length ≤ count := by
        have lengths := congrArg List.length parts
        simp only [length_drop, length_take, length_append] at lengths
        omega
      have members : (rows.take (start + 1 + group.length)).drop start =
          row rows start :: group := by
        have shorter : rows.take (start + 1 + group.length) =
            (rows.take count).take (start + 1 + group.length) := by
          rw [take_take, Nat.min_eq_left within]
        have size : start + 1 + group.length - start = group.length + 1 := by omega
        rw [shorter, drop_take, size, head, parts]
        simp
      have room : start + 1 + group.length ≤ rows.length := by omega
      obtain ⟨length, unread, cursor, written⟩ := keepGroup_spec limit start 0 likeness rfl room
        rfl behind (fun _ => rfl) (Nat.le_refl _)
      have largest : max start (start + 1 + group.length) = start + 1 + group.length := by omega
      have small : ((((row rows start :: group).takeWhile (same · (row rows start))).take
          limit)).length ≤ group.length + 1 := by
        have taken := length_take_le' limit
          ((row rows start :: group).takeWhile (same · (row rows start)))
        have prefixed := (List.takeWhile_prefix (l := row rows start :: group)
          (same · (row rows start))).length_le
        simp only [length_cons] at prefixed
        omega
      rw [members, Nat.sub_zero] at cursor written
      rw [largest] at unread
      have rest : ∀ rows' : List α, rows'.drop (start + 1 + group.length) =
          rows.drop (start + 1 + group.length) →
          (rows'.take count).drop (start + 1 + group.length) = others := by
        intro rows' same_rest
        rw [drop_take, same_rest, ← drop_take, ← drop_drop, parts]
        simp
      rw [if_pos more, head, select]
      simp only [stop]
      generalize keepGroup same limit start (start + 1 + group.length)
        (start + 1 + group.length - start) rows start kept 0 = result at *
      have stillFits : count ≤ result.1.length := by omega
      have stillBehind : result.2 ≤ start + 1 + group.length := by omega
      obtain ⟨taken, total⟩ := ih stillFits within stillBehind (by omega)
      rw [rest _ unread] at taken total
      refine ⟨?_, ?_⟩
      · rw [taken, written]
        simp [group, others]
      · rw [total, cursor, length_append]
        simp only [group, others]
        omega
    · obtain rfl : start = count := by omega
      simp [select]

theorem compact_spec (grouped : α → α → Bool) (limit : Nat)
    (likeness : ∀ a b x, same a b = true → same x a = same x b) (fits : count ≤ rows.length) :
    (compact grouped same limit rows count).1.take (compact grouped same limit rows count).2 =
        select grouped same limit (rows.take count) ∧
      (compact grouped same limit rows count).2 =
        (select grouped same limit (rows.take count)).length := by
  obtain ⟨taken, total⟩ : (compactFrom grouped same limit count count rows 0 0).1.take
      (compactFrom grouped same limit count count rows 0 0).2 =
        rows.take 0 ++ select grouped same limit ((rows.take count).drop 0) ∧
      (compactFrom grouped same limit count count rows 0 0).2 =
        0 + (select grouped same limit ((rows.take count).drop 0)).length :=
    compactFrom_spec likeness fits (Nat.zero_le count) (Nat.le_refl 0) (Nat.le_refl count)
  refine ⟨?_, ?_⟩
  · simpa [compact] using taken
  · simpa [compact] using total

omit [Inhabited α] in
theorem mem_of_mem_select {l : List α} {a : α} (h : a ∈ select grouped same limit l) : a ∈ l := by
  fun_induction select grouped same limit l with
  | case1 => exact h
  | case2 first rest ih =>
    obtain kept | later := mem_append.mp h
    · have member := (List.takeWhile_prefix _).subset (mem_of_mem_take kept)
      obtain rfl | member := mem_cons.mp member
      · exact mem_cons_self
      · exact mem_cons_of_mem _ ((List.takeWhile_prefix _).subset member)
    · exact mem_cons_of_mem _ ((dropWhile_suffix _).subset (ih later))

end Groups

section Order

omit [Inhabited α]

variable {key group rank : α → List Nat} {first : α} {rest l : List α} {limit : Nat}

/-- In order of a key, the rows with the first one's key come first. -/
theorem takeWhile_eq_filter (h : (first :: rest).Pairwise fun a b => ¬ key b < key a) :
    rest.takeWhile (key · == key first) = rest.filter (key · == key first) ∧
      rest.dropWhile (key · == key first) = rest.filter (key · != key first) := by
  induction rest with
  | nil => exact ⟨rfl, rfl⟩
  | cons b rest ih =>
    obtain ⟨least, others⟩ := List.pairwise_cons.mp h
    obtain ⟨above, later⟩ := List.pairwise_cons.mp others
    by_cases same : key b = key first
    · obtain ⟨taken, dropped⟩ := ih
        (List.pairwise_cons.mpr ⟨fun c mem => least c (List.mem_cons_of_mem _ mem), later⟩)
      simp [same, taken, dropped]
    · have never : ∀ c ∈ rest, key c ≠ key first := by
        intro c mem eq
        apply same
        apply List.le_antisymm
        · rw [← eq]
          exact above c mem
        · exact least b List.mem_cons_self
      have none : rest.filter (key · == key first) = [] := by
        simpa using never
      have all : rest.filter (key · != key first) = rest := by
        simpa using never
      simp [same, none, all]

/-- The rows of one group that no row of it is ranked below. -/
def least (group rank : α → List Nat) (g : List Nat) (l : List α) : List α :=
  (l.filter (group · == g)).filter fun a =>
    (l.filter (group · == g)).all fun b => decide (¬ rank b < rank a)

theorem least_sublist {g : List Nat} : (least group rank g l).Sublist l :=
  filter_sublist.trans filter_sublist

theorem least_perm {l' : List α} {g : List Nat} (perm : l.Perm l') :
    (least group rank g l).Perm (least group rank g l') := by
  have members := perm.filter fun a => group a == g
  have same : ∀ a, ((l.filter (group · == g)).all fun b => decide (¬ rank b < rank a)) =
      (l'.filter (group · == g)).all fun b => decide (¬ rank b < rank a) := by
    intro a
    rw [Bool.eq_iff_iff, all_eq_true, all_eq_true]
    constructor
    · intro all b mem
      exact all b (members.mem_iff.mpr mem)
    · intro all b mem
      exact all b (members.mem_iff.mp mem)
  unfold least
  rw [filter_congr fun a _ => same a]
  exact members.filter _

theorem least_alike {g : List Nat} {a b : α} (memA : a ∈ least group rank g l)
    (memB : b ∈ least group rank g l) : group a = group b ∧ rank a = rank b := by
  obtain ⟨inA, lowA⟩ := mem_filter.mp memA
  obtain ⟨inB, lowB⟩ := mem_filter.mp memB
  have groupA : group a = g := by simpa using (mem_filter.mp inA).2
  have groupB : group b = g := by simpa using (mem_filter.mp inB).2
  have below : ¬ rank b < rank a := by simpa using all_eq_true.mp lowA b inB
  have above : ¬ rank a < rank b := by simpa using all_eq_true.mp lowB a inA
  exact ⟨groupA.trans groupB.symm, List.le_antisymm below above⟩

/-- Of rows in order of group and, within a group, of rank, the selection keeps the first of
the least rank in each group. -/
theorem select_filter (byGroup : l.Pairwise fun a b => ¬ group b < group a)
    (byRank : l.Pairwise fun a b => group a = group b → ¬ rank b < rank a) (g : List Nat) :
    (select (fun a b => group a == group b) (fun a b => rank a == rank b) limit l).filter
        (group · == g) = (least group rank g l).take limit := by
  fun_induction select (fun a b => group a == group b) (fun a b => rank a == rank b) limit l with
  | case1 => simp [least]
  | case2 first rest ih =>
    obtain ⟨-, laterGroups⟩ := pairwise_cons.mp byGroup
    obtain ⟨firstRank, laterRanks⟩ := pairwise_cons.mp byRank
    obtain ⟨taken, dropped⟩ := takeWhile_eq_filter byGroup
    have suffix := dropWhile_suffix (l := rest) fun x => group x == group first
    have others := ih (laterGroups.sublist suffix.sublist) (laterRanks.sublist suffix.sublist)
    rw [filter_append, others, taken, dropped]
    by_cases same : group first = g
    · subst same
      have members : ∀ a ∈ first :: rest.filter (group · == group first),
          group a = group first := by
        intro a mem
        obtain rfl | mem := mem_cons.mp mem
        · rfl
        · simpa using (mem_filter.mp mem).2
      have none : least group rank (group first) (rest.filter (group · != group first)) = [] := by
        simp [least]
      have whole : (first :: rest).filter (group · == group first) =
          first :: rest.filter (group · == group first) := by
        simp
      have ranked : (first :: rest.filter (group · == group first)).Pairwise
          fun a b => ¬ rank b < rank a := by
        refine pairwise_cons.mpr ⟨?_, ?_⟩
        · intro a mem
          obtain ⟨mem, eq⟩ := mem_filter.mp mem
          exact firstRank a mem (Eq.symm (by simpa using eq))
        · have sub := laterRanks.sublist (filter_sublist (p := (group · == group first)))
          refine sub.imp_of_mem ?_
          intro a b memA memB le
          apply le
          rw [members a (mem_cons_of_mem _ memA), members b (mem_cons_of_mem _ memB)]
      have alike : (first :: rest.filter (group · == group first)).takeWhile
          (rank · == rank first) =
          (first :: rest.filter (group · == group first)).filter (rank · == rank first) := by
        rw [takeWhile_cons, filter_cons, (takeWhile_eq_filter ranked).1]
        simp
      have lowest : least group rank (group first) (first :: rest) =
          (first :: rest.filter (group · == group first)).filter (rank · == rank first) := by
        rw [least, whole]
        apply filter_congr
        intro a mem
        have above : ¬ rank a < rank first := by
          obtain rfl | mem := mem_cons.mp mem
          · exact List.lt_irrefl _
          · exact (pairwise_cons.mp ranked).1 a mem
        rw [Bool.eq_iff_iff, all_eq_true, beq_iff_eq]
        constructor
        · intro all
          have below : ¬ rank first < rank a := by simpa using all first mem_cons_self
          exact List.le_antisymm below above
        · intro eq b memB
          rw [eq, decide_eq_true_eq]
          obtain rfl | memB := mem_cons.mp memB
          · exact List.lt_irrefl _
          · exact (pairwise_cons.mp ranked).1 b memB
      have inside : ∀ a ∈ ((first :: rest.filter (group · == group first)).filter
          (rank · == rank first)).take limit, (group a == group first) = true := by
        intro a mem
        rw [beq_iff_eq]
        exact members a (mem_filter.mp (mem_of_mem_take mem)).1
      rw [none, alike, lowest, filter_eq_self.mpr inside]
      simp
    · have outside : ∀ a ∈ ((first :: rest.filter (group · == group first)).takeWhile
          (rank · == rank first)).take limit, ¬ (group a == g) = true := by
        intro a mem
        have mem := (List.takeWhile_prefix _).subset (mem_of_mem_take mem)
        rw [beq_iff_eq]
        obtain rfl | mem := mem_cons.mp mem
        · exact same
        · have eq : group a = group first := by simpa using (mem_filter.mp mem).2
          rw [eq]
          exact same
      have rows : (rest.filter (group · != group first)).filter (group · == g) =
          (first :: rest).filter (group · == g) := by
        rw [filter_filter, filter_cons_of_neg (by simpa using same)]
        apply filter_congr
        intro a _
        by_cases eq : group a = g
        · have other : g ≠ group first := fun h => same h.symm
          simp [eq, other]
        · simp [eq]
      rw [filter_eq_nil_iff.mpr outside, nil_append, least, rows]
      rfl

theorem map_select {β : Type} (key : α → β) (grouped same : β → β → Bool) :
    (select (fun a b => grouped (key a) (key b)) (fun a b => same (key a) (key b)) limit l).map
      key = select grouped same limit (l.map key) := by
  fun_induction select (fun a b => grouped (key a) (key b)) (fun a b => same (key a) (key b))
    limit l with
  | case1 => simp [select]
  | case2 first rest ih =>
    rw [map_append, ih, map_cons, select, map_take, takeWhile_map, dropWhile_map]
    congr 2
    rw [← map_cons, takeWhile_map]
    rfl

/-- Rows in order of a key have the keys of any other such arrangement. -/
theorem map_key_unique {l' : List α} (perm : (l.map key).Perm (l'.map key))
    (h : l.Pairwise fun a b => ¬ key b < key a) (h' : l'.Pairwise fun a b => ¬ key b < key a) :
    l.map key = l'.map key := by
  have sorted : ∀ l : List α, (l.Pairwise fun a b => ¬ key b < key a) →
      (l.map key).Pairwise fun x y => ¬ y < x := fun l h => pairwise_map.mpr h
  apply perm.eq_of_pairwise _ (sorted l h) (sorted l' h')
  intro a b _ _ le ge
  exact List.le_antisymm le ge

theorem append_lt {x x' y y' : List Nat} (h : x.length = x'.length) :
    x ++ y < x' ++ y' ↔ x < x' ∨ x = x' ∧ y < y' := by
  induction x generalizing x' with
  | nil =>
    obtain rfl : x' = [] := eq_nil_of_length_eq_zero h.symm
    simp
  | cons n x ih =>
    cases x' with
    | nil => simp at h
    | cons n' x' =>
      rw [cons_append, cons_append, cons_lt_cons_iff, cons_lt_cons_iff,
        ih (by simpa using h), List.cons.injEq]
      grind

end Order

end Compaction
