import RouterSim.Lib.Paths

/-! Domain names: their labels, their wire form, and comparison without regard to the case of
letters. -/
namespace RouterSim.Dns

open List

def maximumNameOctets : Nat := 255
def maximumLabelOctets : Nat := 63

/-- The wire form: each label after its length, and the root's zero. -/
def encodeLabels : List (List (BitVec 8)) → List (BitVec 8)
  | [] => [0#8]
  | label :: rest => BitVec.ofNat 8 label.length :: label ++ encodeLabels rest

/-- An expanded name. It never holds a compression pointer. -/
structure Name where
  labels : List (List (BitVec 8))
  sizes : ∀ label ∈ labels, 0 < label.length ∧ label.length ≤ maximumLabelOctets
  fits : (encodeLabels labels).length ≤ maximumNameOctets
  deriving DecidableEq

/-- `tolower` of the C locale. -/
def fold (octet : BitVec 8) : BitVec 8 :=
  if 65#8 ≤ octet ∧ octet ≤ 90#8 then octet + 32#8 else octet

theorem length_encodeLabels_cons {label : List (BitVec 8)} {rest : List (List (BitVec 8))} :
    (encodeLabels (label :: rest)).length = label.length + 1 + (encodeLabels rest).length := by
  simp [encodeLabels]
  omega

theorem encodeLabels_drop_length (labels : List (List (BitVec 8))) (n : Nat) :
    (encodeLabels (labels.drop n)).length ≤ (encodeLabels labels).length := by
  induction labels generalizing n with
  | nil => simp
  | cons label rest ih =>
    cases n with
    | zero => simp
    | succ n =>
      have := ih n
      rw [drop_succ_cons, length_encodeLabels_cons]
      omega

namespace Name

variable {name left right : Name} {n : Nat}

def root : Name where
  labels := []
  sizes := nofun
  fits := by decide

def wire (name : Name) : List (BitVec 8) := encodeLabels name.labels

def octets (name : Name) : Nat := name.wire.length

/-- The name of these labels, if they make one. -/
def ofLabels (labels : List (List (BitVec 8))) : Option Name :=
  if h : (∀ label ∈ labels, 0 < label.length ∧ label.length ≤ maximumLabelOctets) ∧
      (encodeLabels labels).length ≤ maximumNameOctets then
    some ⟨labels, h.1, h.2⟩
  else none

/-- The name without its first labels. -/
def suffix (name : Name) (n : Nat) : Name where
  labels := name.labels.drop n
  sizes := fun label mem => name.sizes label (List.mem_of_mem_drop mem)
  fits := Nat.le_trans (encodeLabels_drop_length _ _) name.fits

/-- The name and the names above it, the root last. -/
def suffixes (name : Name) : List Name := (List.range (name.labels.length + 1)).map name.suffix

/-- The labels as comparison sees them. -/
def key (name : Name) : List (List (BitVec 8)) := name.labels.map (·.map fold)

end Name

def equalCaseInsensitive (left right : Name) : Bool :=
  left.octets == right.octets &&
    (left.wire.zip right.wire).all fun pair => pair.1 == pair.2 || fold pair.1 == fold pair.2

def isSubdomain (name ancestor : Name) : Bool := name.suffixes.any (equalCaseInsensitive · ancestor)

section Keys

variable {name left right ancestor : Name}

theorem fold_length {n : Nat} (h : n ≤ maximumLabelOctets) :
    fold (BitVec.ofNat 8 n) = BitVec.ofNat 8 n := by
  have : ¬ 65#8 ≤ BitVec.ofNat 8 n := by
    unfold maximumLabelOctets at h
    simp
    omega
  simp [fold, this]

theorem fold_small {octet : BitVec 8} (h : (fold octet).toNat ≤ maximumLabelOctets) :
    fold octet = octet := by
  unfold fold at h ⊢
  split at h
  next upper =>
    have low : 65 ≤ octet.toNat := upper.1
    have high : octet.toNat ≤ 90 := upper.2
    have sum : (octet.toNat + 32) % 256 ≤ 63 := h
    omega
  next plain => exact if_neg plain

theorem fold_fold (octet : BitVec 8) : fold (fold octet) = fold octet := by
  have all : ∀ k : Fin 256, fold (fold (BitVec.ofFin k)) = fold (BitVec.ofFin k) := by
    decide +kernel
  exact all octet.toFin

theorem map_fold_encodeLabels {labels : List (List (BitVec 8))}
    (sizes : ∀ label ∈ labels, 0 < label.length ∧ label.length ≤ maximumLabelOctets) :
    (encodeLabels labels).map fold = encodeLabels (labels.map (·.map fold)) := by
  induction labels with
  | nil => rfl
  | cons label rest ih =>
    have size := (sizes label mem_cons_self).2
    simp [encodeLabels, fold_length size, ih fun l h => sizes l (mem_cons_of_mem _ h)]

theorem encodeLabels_inj {labels labels' : List (List (BitVec 8))}
    (sizes : ∀ label ∈ labels, 0 < label.length ∧ label.length ≤ maximumLabelOctets)
    (sizes' : ∀ label ∈ labels', 0 < label.length ∧ label.length ≤ maximumLabelOctets)
    (h : encodeLabels labels = encodeLabels labels') : labels = labels' := by
  have small : ∀ n, n ≤ maximumLabelOctets → (BitVec.ofNat 8 n).toNat = n := by
    intro n hn
    exact Nat.mod_eq_of_lt (by unfold maximumLabelOctets at hn; omega)
  induction labels generalizing labels' with
  | nil =>
    cases labels' with
    | nil => rfl
    | cons label rest =>
      have size := sizes' label mem_cons_self
      have first := congrArg BitVec.toNat (List.cons.inj h).1
      rw [small _ size.2] at first
      have zero : 0 = label.length := first
      omega
  | cons label rest ih =>
    have size := sizes label mem_cons_self
    cases labels' with
    | nil =>
      have first := congrArg BitVec.toNat (List.cons.inj h).1
      rw [small _ size.2] at first
      have zero : label.length = 0 := first
      omega
    | cons label' rest' =>
      have size' := sizes' label' mem_cons_self
      obtain ⟨first, others⟩ := List.cons.inj h
      have lengths := congrArg BitVec.toNat first
      rw [small _ size.2, small _ size'.2] at lengths
      obtain ⟨rfl, tails⟩ := append_inj others lengths
      rw [ih (fun l m => sizes l (mem_cons_of_mem _ m))
        (fun l m => sizes' l (mem_cons_of_mem _ m)) tails]

theorem zip_all_fold {xs ys : List (BitVec 8)} (h : xs.length = ys.length) :
    ((xs.zip ys).all fun pair => pair.1 == pair.2 || fold pair.1 == fold pair.2) = true ↔
      xs.map fold = ys.map fold := by
  induction xs generalizing ys with
  | nil =>
    cases ys with
    | nil => simp
    | cons y ys => simp at h
  | cons x xs ih =>
    cases ys with
    | nil => simp at h
    | cons y ys =>
      have folds : (x == y || fold x == fold y) = true ↔ fold x = fold y := by
        simp only [asserted]
        constructor
        · rintro (rfl | same)
          · rfl
          · exact same
        · exact .inr
      simp [folds, ih (Nat.succ.inj h)]

theorem Name.wire_key (name : Name) : name.wire.map fold = encodeLabels name.key :=
  map_fold_encodeLabels name.sizes

theorem Name.key_sizes (name : Name) :
    ∀ label ∈ name.key, 0 < label.length ∧ label.length ≤ maximumLabelOctets := by
  intro label mem
  obtain ⟨before, hb, rfl⟩ := mem_map.mp mem
  simpa using name.sizes before hb

/-- Two names are equal without regard to case when their keys are. -/
theorem equal_iff : equalCaseInsensitive left right = true ↔ left.key = right.key := by
  have wires : left.wire.map fold = right.wire.map fold ↔ left.key = right.key := by
    rw [Name.wire_key, Name.wire_key]
    constructor
    · exact encodeLabels_inj left.key_sizes right.key_sizes
    · exact congrArg encodeLabels
  simp only [equalCaseInsensitive, asserted]
  constructor
  · rintro ⟨lengths, all⟩
    exact wires.mp ((zip_all_fold lengths).mp all)
  · intro keys
    have same := wires.mpr keys
    have lengths : left.wire.length = right.wire.length := by
      simpa using congrArg List.length same
    exact ⟨lengths, (zip_all_fold lengths).mpr same⟩

theorem equal_congr (same : left.key = right.key) :
    equalCaseInsensitive name left = equalCaseInsensitive name right ∧
      equalCaseInsensitive left name = equalCaseInsensitive right name := by
  constructor
  · rw [Bool.eq_iff_iff, equal_iff, equal_iff, same]
  · rw [Bool.eq_iff_iff, equal_iff, equal_iff, same]

@[simp] theorem Name.key_suffix (name : Name) (n : Nat) : (name.suffix n).key = name.key.drop n :=
  map_drop

theorem Name.octets_key (name : Name) : name.octets = (encodeLabels name.key).length := by
  rw [← name.wire_key, length_map]
  rfl

/-- A name is at or below another when that one's key is a suffix of its own. -/
theorem isSubdomain_iff : isSubdomain name ancestor = true ↔ ancestor.key <:+ name.key := by
  have lengths : name.key.length = name.labels.length := length_map ..
  simp only [isSubdomain, Name.suffixes, any_map, any_eq_true, mem_range,
    Function.comp, equal_iff, Name.key_suffix]
  constructor
  · rintro ⟨n, _, same⟩
    exact same ▸ drop_suffix n name.key
  · intro suffix
    refine ⟨name.key.length - ancestor.key.length, by omega, ?_⟩
    exact (suffix_iff_eq_drop.mp suffix).symm

end Keys

end RouterSim.Dns
