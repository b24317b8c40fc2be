/-! Tables of records: a list whose rows are changed in place, added or dropped, and a
relation that holds between any two of its rows. -/
namespace Table

open List Option

variable {α : Type} {R : α → α → Prop} {l : List α}

/-- Any two rows are related. -/
def Each (R : α → α → Prop) (l : List α) : Prop :=
  ∀ (i j : Nat) (a b : α), i ≠ j → l[i]? = some a → l[j]? = some b → R a b

theorem Each.nil : Each R [] := by
  intro i j a b _ ha
  cases ha

variable {i : Nat} {β : Type}

theorem modify_row {j : Nat} {f : α → α} {a : α} (h : (l.modify i f)[j]? = some a) :
    (i = j ∧ ∃ x, l[i]? = some x ∧ a = f x) ∨ (i ≠ j ∧ l[j]? = some a) := by
  rw [List.getElem?_modify] at h
  obtain ⟨x, hx, hf⟩ := map_eq_some_iff.mp h
  by_cases hij : i = j
  · subst hij
    exact .inl ⟨rfl, x, hx, by simpa using hf.symm⟩
  · simp [hij] at hf
    exact .inr ⟨hij, hf ▸ hx⟩

theorem map_modify {column : α → β} {f : α → α}
    (keeps : ∀ row, l[i]? = some row → column (f row) = column row) :
    (l.modify i f).map column = l.map column := by
  apply ext_getElem?
  intro j
  rw [List.getElem?_map, List.getElem?_map, List.getElem?_modify]
  cases at_j : l[j]? with
  | none => rfl
  | some row =>
    simp only [Option.map_eq_map, map_some, some.injEq]
    split
    next same => exact keeps row (same ▸ at_j)
    next => rfl

section

variable (symm : ∀ a b, R a b → R b a)
include symm

theorem Each.modify (h : Each R l) {f : α → α}
    (changed : ∀ (j : Nat) (a b : α), j ≠ i → l[i]? = some a → l[j]? = some b → R (f a) b) :
    Each R (l.modify i f) := by
  intro j k a b hne ha hb
  obtain ⟨rfl, x, hx, rfl⟩ | ⟨hij, ha⟩ := modify_row ha
  · obtain ⟨rfl, _⟩ | ⟨hik, hb⟩ := modify_row hb
    · exact absurd rfl hne
    · exact changed k x b (Ne.symm hik) hx hb
  · obtain ⟨rfl, x, hx, rfl⟩ | ⟨_, hb⟩ := modify_row hb
    · exact symm _ _ (changed j x a (Ne.symm hij) hx ha)
    · exact h j k a b hne ha hb

omit symm in
theorem set_row {j : Nat} {x a : α} (h : (l.set i x)[j]? = some a) :
    (i = j ∧ a = x) ∨ (i ≠ j ∧ l[j]? = some a) := by
  rw [List.getElem?_set] at h
  split at h
  next hij =>
    split at h
    next => exact .inl ⟨hij, (some.inj h).symm⟩
    next => cases h
  next hij => exact .inr ⟨hij, h⟩

theorem Each.set (h : Each R l) {x : α}
    (replaced : ∀ (j : Nat) (b : α), j ≠ i → l[j]? = some b → R x b) : Each R (l.set i x) := by
  intro j k a b hne ha hb
  obtain ⟨rfl, rfl⟩ | ⟨hij, ra⟩ := set_row ha
  · obtain ⟨rfl, _⟩ | ⟨hik, rb⟩ := set_row hb
    · exact absurd rfl hne
    · exact replaced k b (Ne.symm hik) rb
  · obtain ⟨rfl, rfl⟩ | ⟨_, rb⟩ := set_row hb
    · exact symm _ _ (replaced j a (Ne.symm hij) ra)
    · exact h j k a b hne ra rb

theorem Each.append (h : Each R l) {x : α} (added : ∀ a ∈ l, R x a) : Each R (l ++ [x]) := by
  have last : ∀ (i : Nat) (a : α), (l ++ [x])[i]? = some a →
      l[i]? = some a ∨ i = l.length ∧ a = x := by
    intro i a ha
    by_cases hi : i < l.length
    · rw [List.getElem?_append_left hi] at ha
      exact .inl ha
    · rw [List.getElem?_append_right (by omega)] at ha
      obtain ⟨hlt, hx⟩ := List.getElem?_eq_some_iff.mp ha
      rw [length_singleton] at hlt
      rw [getElem_singleton] at hx
      exact .inr ⟨by omega, hx.symm⟩
  intro i j a b hne ha hb
  obtain ra | ⟨hi, rfl⟩ := last i a ha
  · obtain rb | ⟨_, rfl⟩ := last j b hb
    · exact h i j a b hne ra rb
    · exact symm _ _ (added a (mem_of_getElem? ra))
  · obtain rb | ⟨hj, _⟩ := last j b hb
    · exact added b (mem_of_getElem? rb)
    · omega

omit symm in
theorem Each.pointwise {R' Q : α → α → Prop} {l' : List α} (h : Each R l)
    (rows : ∀ (i : Nat) (a' : α), l'[i]? = some a' → ∃ a, l[i]? = some a ∧ Q a a')
    (carries : ∀ a a' b b', Q a a' → Q b b' → R a b → R' a' b') : Each R' l' := by
  intro i j a' b' hne ha hb
  obtain ⟨a, hi, qa⟩ := rows i a' ha
  obtain ⟨b, hj, qb⟩ := rows j b' hb
  exact carries a a' b b' qa qb (h i j a b hne hi hj)

theorem each_iff_pairwise : Each R l ↔ l.Pairwise R := by
  rw [pairwise_iff_getElem]
  constructor
  · intro h i j hi hj hlt
    exact h i j _ _ (by omega) (List.getElem?_eq_getElem hi) (List.getElem?_eq_getElem hj)
  · intro h i j a b hne ha hb
    obtain ⟨hi, rfl⟩ := List.getElem?_eq_some_iff.mp ha
    obtain ⟨hj, rfl⟩ := List.getElem?_eq_some_iff.mp hb
    by_cases hlt : i < j
    · exact h i j hi hj hlt
    · exact symm _ _ (h j i hj hi (by omega))

theorem Each.filter (h : Each R l) (p : α → Bool) : Each R (l.filter p) := by
  rw [each_iff_pairwise symm] at h ⊢
  exact h.filter p

end

theorem row_of_findIdx? {rows : List α} {p : α → Bool} (h : rows.findIdx? p = some i) :
    ∃ row, rows[i]? = some row ∧ p row = true := by
  obtain ⟨hlt, hp, _⟩ := List.findIdx?_eq_some_iff_getElem.mp h
  exact ⟨rows[i], List.getElem?_eq_getElem hlt, hp⟩

/-- Rows made one by one are what the rows they are made of come to, in their order. -/
theorem mapM_iff {f : α → Option β} {out : List β} :
    l.mapM f = some out ↔ l.map f = out.map some := by
  induction l generalizing out with
  | nil => exact ⟨fun h => by cases h; rfl, fun h => by rw [map_eq_nil_iff.mp h.symm]; rfl⟩
  | cons first rest ih =>
    cases out with
    | nil => simp [bind_eq_some_iff]
    | cons b out => simp [bind_eq_some_iff, ih]

theorem row_of_mapM {f : α → Option β} {out : List β} (h : l.mapM f = some out)
    {a : α} (at_i : l[i]? = some a) : ∃ b, out[i]? = some b ∧ f a = some b := by
  have rows := congrArg (·[i]?) (mapM_iff.mp h)
  simp only [List.getElem?_map, at_i] at rows
  obtain ⟨b, row, made⟩ := map_eq_some_iff.mp rows.symm
  exact ⟨b, row, made.symm⟩

theorem mem_of_mapM {f : α → Option β} {out : List β} (h : l.mapM f = some out) {b : β}
    (mem : b ∈ out) : ∃ a ∈ l, f a = some b :=
  mem_map.mp (mapM_iff.mp h ▸ mem_map_of_mem mem)

section Keys

variable {κ : Type} [DecidableEq κ] {key : α → κ} {k k' : κ} {f : α → α}

/-- The first row under a key. -/
def lookup (key : α → κ) (k : κ) (l : List α) : Option α := l.find? fun row => key row == k

/-- Change the first row under a key. -/
def update (key : α → κ) (k : κ) (f : α → α) : List α → List α
  | [] => []
  | row :: rows => if key row = k then f row :: rows else row :: update key k f rows

/-- Drop the first row under a key. -/
def drop (key : α → κ) (k : κ) (l : List α) : List α := l.eraseP fun row => key row == k

theorem key_of_lookup {row : α} (h : lookup key k l = some row) : key row = k := by
  simpa using List.find?_some h

theorem mem_of_lookup {row : α} (h : lookup key k l = some row) : row ∈ l :=
  mem_of_find?_eq_some h

theorem lookup_none : lookup key k l = none ↔ k ∉ l.map key := by
  simp [lookup]

theorem lookup_isSome : (lookup key k l).isSome ↔ k ∈ l.map key := by
  simp [lookup]

@[simp] theorem lookup_nil : lookup key k ([] : List α) = none := rfl

theorem lookup_cons {row : α} :
    lookup key k (row :: l) = if key row = k then some row else lookup key k l := by
  by_cases here : key row = k <;> simp [lookup, here]

theorem lookup_append {more : List α} :
    lookup key k (l ++ more) = (lookup key k l).or (lookup key k more) := by
  simp [lookup]

theorem lookup_of_mem (nodup : (l.map key).Nodup) {row : α} (h : row ∈ l) :
    lookup key (key row) l = some row := by
  induction l with
  | nil => cases h
  | cons a l ih =>
    rw [map_cons, nodup_cons] at nodup
    obtain rfl | h := mem_cons.mp h
    · simp [lookup]
    · have ne : key a ≠ key row := fun eq => nodup.1 (eq ▸ mem_map_of_mem h)
      have rest := ih nodup.2 h
      simp only [lookup] at rest ⊢
      simp [ne, rest]

theorem keys_update (keeps : ∀ row, key row = k → key (f row) = k) :
    (update key k f l).map key = l.map key := by
  induction l with
  | nil => rfl
  | cons a l ih =>
    by_cases h : key a = k
    · simp [update, h, keeps a h]
    · simp [update, h, ih]

@[simp] theorem length_update : (update key k f l).length = l.length := by
  induction l with
  | nil => rfl
  | cons a l ih => by_cases h : key a = k <;> simp [update, h, ih]

theorem update_id : update key k (fun row => row) l = l := by
  induction l with
  | nil => rfl
  | cons a l ih => by_cases h : key a = k <;> simp [update, h, ih]

theorem lookup_update_same (keeps : ∀ row, key row = k → key (f row) = k) :
    lookup key k (update key k f l) = (lookup key k l).map f := by
  induction l with
  | nil => rfl
  | cons a l ih =>
    simp only [lookup] at ih ⊢
    by_cases h : key a = k
    · simp [update, h, keeps a h]
    · simp [update, h, ih]

theorem lookup_update_other (keeps : ∀ row, key row = k → key (f row) = k) (ne : k' ≠ k) :
    lookup key k' (update key k f l) = lookup key k' l := by
  induction l with
  | nil => rfl
  | cons a l ih =>
    simp only [lookup] at ih ⊢
    by_cases h : key a = k
    · simp [update, h, keeps a h, Ne.symm ne]
    · rw [update, if_neg h, List.find?_cons, List.find?_cons, ih]

/-- A row after the change is a row of before, or the changed one. -/
theorem mem_update {row : α} (h : row ∈ update key k f l) :
    row ∈ l ∨ ∃ old ∈ l, key old = k ∧ row = f old := by
  induction l with
  | nil => cases h
  | cons a l ih =>
    simp only [update] at h
    split at h
    next hk =>
      obtain rfl | h := mem_cons.mp h
      · exact .inr ⟨a, mem_cons_self, hk, rfl⟩
      · exact .inl (mem_cons_of_mem _ h)
    next =>
      obtain rfl | h := mem_cons.mp h
      · exact .inl mem_cons_self
      · obtain h | ⟨old, hold, hk, eq⟩ := ih h
        · exact .inl (mem_cons_of_mem _ h)
        · exact .inr ⟨old, mem_cons_of_mem _ hold, hk, eq⟩

theorem mem_update_lookup {row' : α} (h : row' ∈ update key k f l) :
    (∃ row, lookup key k l = some row ∧ f row = row') ∨ row' ∈ l := by
  induction l with
  | nil => cases h
  | cons a l ih =>
    rw [update] at h
    rw [lookup_cons]
    split at h
    next here =>
      obtain rfl | h := mem_cons.mp h
      · exact .inl ⟨a, if_pos here, rfl⟩
      · exact .inr (mem_cons_of_mem _ h)
    next other =>
      rw [if_neg other]
      obtain rfl | h := mem_cons.mp h
      · exact .inr mem_cons_self
      · exact (ih h).imp_right (mem_cons_of_mem _)

theorem mem_update_nodup (nodup : (l.map key).Nodup) {row' : α} (h : row' ∈ update key k f l) :
    (∃ row, lookup key k l = some row ∧ f row = row') ∨ row' ∈ l ∧ key row' ≠ k := by
  induction l with
  | nil => cases h
  | cons a l ih =>
    rw [map_cons, nodup_cons] at nodup
    rw [update] at h
    rw [lookup_cons]
    split at h
    next here =>
      obtain rfl | h := mem_cons.mp h
      · exact .inl ⟨a, if_pos here, rfl⟩
      · refine .inr ⟨mem_cons_of_mem _ h, fun same => nodup.1 ?_⟩
        rw [here, ← same]
        exact mem_map_of_mem h
    next other =>
      rw [if_neg other]
      obtain rfl | h := mem_cons.mp h
      · exact .inr ⟨mem_cons_self, other⟩
      · exact (ih nodup.2 h).imp_right fun old => ⟨mem_cons_of_mem _ old.1, old.2⟩

theorem drop_of_lookup {row : α} (h : lookup key k l = some row) :
    ∃ before after, l = before ++ row :: after ∧ drop key k l = before ++ after := by
  obtain ⟨same, before, after, rfl, fresh⟩ := List.find?_eq_some_iff_append.mp h
  refine ⟨before, after, rfl, ?_⟩
  rw [drop, eraseP_append_right _ fun other mem => by simpa using fresh other mem,
    eraseP_cons, same]
  rfl

theorem map_update {column : α → β} (keeps : ∀ row, column (f row) = column row) :
    (update key k f l).map column = l.map column := by
  induction l with
  | nil => rfl
  | cons row rows ih =>
    rw [update]
    split
    · rw [map_cons, map_cons, keeps]
    · rw [map_cons, map_cons, ih]

omit [DecidableEq κ] in
theorem mem_set_of_nodup {l : List α} (nodup : (l.map key).Nodup) {row : α}
    (at_i : l[i]? = some row) (x e : α) : e ∈ l.set i x ↔ e = x ∨ (e ∈ l ∧ key e ≠ key row) := by
  constructor
  · intro mem
    obtain ⟨j, at_j⟩ := mem_iff_getElem?.mp mem
    obtain ⟨-, rfl⟩ | ⟨other, at_j⟩ := set_row at_j
    · exact .inl rfl
    · refine .inr ⟨mem_iff_getElem?.mpr ⟨j, at_j⟩, fun same => other ?_⟩
      have left : (l.map key)[j]? = some (key e) := by simp [at_j]
      have right : (l.map key)[i]? = some (key e) := by simp [at_i, same]
      obtain ⟨inside, -⟩ := List.getElem?_eq_some_iff.mp right
      exact (List.getElem?_inj inside nodup).mp (right.trans left.symm)
  · rintro (rfl | ⟨mem, other⟩)
    · obtain ⟨inside, -⟩ := List.getElem?_eq_some_iff.mp at_i
      exact mem_set inside e
    · obtain ⟨j, at_j⟩ := mem_iff_getElem?.mp mem
      have apart : i ≠ j := by
        rintro rfl
        rw [at_i] at at_j
        exact other (congrArg key (some.inj at_j).symm)
      exact mem_iff_getElem?.mpr ⟨j, by rw [List.getElem?_set_ne apart, at_j]⟩

omit [DecidableEq κ] in
theorem keys_set {l : List α} {row x : α} (at_i : l[i]? = some row)
    (same : key x = key row) : (l.set i x).map key = l.map key := by
  rw [map_set, same]
  apply ext_getElem?
  intro j
  rw [List.getElem?_set]
  split
  · next eq =>
    subst eq
    obtain ⟨inside, rfl⟩ := List.getElem?_eq_some_iff.mp at_i
    simp [inside]
  · rfl

theorem keys_drop : (drop key k l).map key = (l.map key).erase k := by
  induction l with
  | nil => rfl
  | cons a l ih =>
    simp only [drop] at ih ⊢
    by_cases h : key a = k
    · simp [h]
    · simp [h, ih]

theorem lookup_drop_other (ne : k' ≠ k) : lookup key k' (drop key k l) = lookup key k' l := by
  induction l with
  | nil => rfl
  | cons a l ih =>
    simp only [lookup, drop] at ih ⊢
    by_cases h : key a = k
    · simp [h, Ne.symm ne]
    · rw [eraseP_cons_of_neg (by simpa using h), List.find?_cons, List.find?_cons, ih]

theorem lookup_map (keeps : ∀ row, key (f row) = key row) :
    lookup key k (l.map f) = (lookup key k l).map f := by
  simp only [lookup, List.find?_map]
  congr 1
  apply congrArg (fun p => List.find? p l)
  funext row
  simp [keeps]

/-- With no key twice, dropping rows drops what a key finds. -/
theorem lookup_filter (nodup : (l.map key).Nodup) (p : α → Bool) :
    lookup key k (l.filter p) = (lookup key k l).filter p := by
  induction l with
  | nil => rfl
  | cons a l ih =>
    rw [map_cons, nodup_cons] at nodup
    by_cases here : key a = k
    · rw [lookup_cons, if_pos here]
      cases kept : p a with
      | true => simp [kept, lookup_cons, here, Option.filter]
      | false =>
        have absent : lookup key k l = none := lookup_none.mpr (here ▸ nodup.1)
        have rest := ih nodup.2
        rw [absent] at rest
        simpa [kept, Option.filter] using rest
    · rw [lookup_cons, if_neg here, ← ih nodup.2, filter_cons]
      split
      · rw [lookup_cons, if_neg here]
      · rfl

theorem lookup_drop_same (nodup : (l.map key).Nodup) : lookup key k (drop key k l) = none := by
  rw [lookup_none, keys_drop]
  exact nodup.not_mem_erase

/-- Change the rows in order, up to the first whose change fails. -/
def sweep (f : α → Bool × α) : List α → Bool × List α
  | [] => (true, [])
  | row :: rows =>
    if (f row).1 then ((sweep f rows).1, (f row).2 :: (sweep f rows).2)
    else (false, (f row).2 :: rows)

omit [DecidableEq κ] in
theorem keys_sweep {f : α → Bool × α} (keeps : ∀ row, key (f row).2 = key row) :
    (sweep f l).2.map key = l.map key := by
  induction l with
  | nil => rfl
  | cons a l ih =>
    rw [sweep]
    split
    · simp [keeps, ih]
    · simp [keeps]

/-- A row after the sweep is the row of before or the changed one. -/
theorem lookup_sweep {f : α → Bool × α} (keeps : ∀ row, key (f row).2 = key row) {row' : α}
    (h : lookup key k (sweep f l).2 = some row') :
    ∃ row, lookup key k l = some row ∧ (row' = row ∨ row' = (f row).2) := by
  induction l with
  | nil => cases h
  | cons a l ih =>
    rw [sweep] at h
    simp only [lookup] at ih h ⊢
    by_cases hk : key a = k
    · have found : (f a).2 = row' := by
        split at h <;> simpa [keeps, hk] using h
      exact ⟨a, by simp [hk], .inr found.symm⟩
    · simp [hk]
      split at h
      · exact ih (by simpa [keeps, hk] using h)
      · exact ⟨row', by simpa [keeps, hk] using h, .inl rfl⟩

omit [DecidableEq κ] in
theorem mem_sweep {f : α → Bool × α} {row' : α} (h : row' ∈ (sweep f l).2) :
    ∃ row ∈ l, row' = row ∨ row' = (f row).2 := by
  induction l with
  | nil => cases h
  | cons a l ih =>
    rw [sweep] at h
    split at h
    · obtain rfl | h := mem_cons.mp h
      · exact ⟨a, mem_cons_self, .inr rfl⟩
      · obtain ⟨row, mem, same⟩ := ih h
        exact ⟨row, mem_cons_of_mem _ mem, same⟩
    · obtain rfl | h := mem_cons.mp h
      · exact ⟨a, mem_cons_self, .inr rfl⟩
      · exact ⟨row', mem_cons_of_mem _ h, .inl rfl⟩

omit [DecidableEq κ] in
theorem sweep_all {f : α → Bool × α} (succeeds : ∀ row ∈ l, (f row).1 = true) :
    sweep f l = (true, l.map fun row => (f row).2) := by
  induction l with
  | nil => rfl
  | cons a l ih =>
    have rest := ih fun row mem => succeeds row (mem_cons_of_mem _ mem)
    rw [sweep, if_pos (succeeds a mem_cons_self), rest]
    rfl

end Keys

end Table
