import RouterSim.Lib.Octets
import RouterSim.Lib.Bitmap
import RouterSim.Lib.Sorting

/-! The bitmap of the types at a name: one block for each window of 256 types. -/
namespace RouterSim.Dns

open List

def typeHigh (type : BitVec 16) : BitVec 8 := (type >>> 8).setWidth 8

def typeLow (type : BitVec 16) : BitVec 8 := type.setWidth 8

/-- The runs of types of one window, with the low octets of each. -/
def windows : List (BitVec 16) → List (BitVec 8 × List (BitVec 8))
  | [] => []
  | type :: rest =>
    match windows rest with
    | [] => [(typeHigh type, [typeLow type])]
    | run :: more =>
      if typeHigh type = run.1 then (run.1, typeLow type :: run.2) :: more
      else (typeHigh type, [typeLow type]) :: run :: more

/-- The first type of an octet is its highest bit. -/
def typeBit (i : Nat) : BitVec 8 := 0x80#8 >>> (i % 8)

def setType (octets : List (BitVec 8)) (low : BitVec 8) : List (BitVec 8) :=
  octets.modify (low.toNat / 8) (· ||| typeBit low.toNat)

/-- The octets of a run: as many as its last type needs. -/
def windowOctets (lows : List (BitVec 8)) : List (BitVec 8) :=
  lows.foldl setType (List.replicate ((lows.getLastD 0#8).toNat / 8 + 1) 0#8)

def encodeWindow (run : BitVec 8 × List (BitVec 8)) : List (BitVec 8) :=
  run.1 :: BitVec.ofNat 8 (windowOctets run.2).length :: windowOctets run.2

def repeats : List (BitVec 16) → Bool
  | first :: second :: rest => first == second || repeats (second :: rest)
  | _ => false

def encodeTypeBitmap (types : List (BitVec 16)) (allowEmpty : Bool) : Option (List (BitVec 8)) :=
  if types.isEmpty then if allowEmpty then some [] else none
  else
    let ordered := Sorting.sort (fun left right => decide (left < right)) types
    if repeats ordered then none else some ((windows ordered).flatMap encodeWindow)

def hasType (octets : List (BitVec 8)) (i : Nat) : Bool :=
  Octets.get octets (i / 8) &&& typeBit i != 0#8

/-- The types of a block, octet by octet and bit by bit. -/
def windowTypes (window : BitVec 8) (octets : List (BitVec 8)) : List (BitVec 16) :=
  ((List.range (8 * octets.length)).filter (hasType octets)).map fun i => window ++ BitVec.ofNat 8 i

/-- The blocks from here on. Each takes at least three octets. -/
def decodeWindows : Nat → Option (BitVec 8) → List (BitVec 8) → Option (List (BitVec 16))
  | _, _, [] => some []
  | _, _, [_] => none
  | 0, _, _ :: _ :: _ => none
  | steps + 1, previous, window :: length :: rest =>
    if length = 0#8 ∨ 32 < length.toNat ∨ rest.length < length.toNat ∨
        previous.any (fun earlier => decide (window ≤ earlier)) ∨
        Octets.get rest (length.toNat - 1) = 0#8 then none
    else
      (decodeWindows steps (some window) (rest.drop length.toNat)).map
        (windowTypes window (rest.take length.toNat) ++ ·)

theorem decodeWindows_steps {steps more : Nat} {previous : Option (BitVec 8)}
    {input : List (BitVec 8)} (h : input.length ≤ steps) :
    decodeWindows steps previous input = decodeWindows (steps + more) previous input := by
  induction steps generalizing previous input with
  | zero =>
    obtain rfl := eq_nil_of_length_eq_zero (Nat.le_zero.mp h)
    cases more <;> rfl
  | succ steps ih =>
    rw [Nat.succ_add]
    match input with
    | [] => rfl
    | [_] => rfl
    | window :: length :: rest =>
      simp only [decodeWindows]
      rw [ih]
      simp only [length_drop, length_cons] at h ⊢
      omega

def decodeTypeBitmap (input : List (BitVec 8)) (allowEmpty : Bool) : Option (List (BitVec 16)) :=
  match decodeWindows input.length none input with
  | none => none
  | some types => if types.isEmpty && !allowEmpty then none else some types

section Bits

variable {octets : List (BitVec 8)} {i : Nat}

theorem typeBit_eq (i : Nat) : typeBit i = 1#8 <<< (7 - i % 8) := by
  have all : ∀ k : Fin 8, 0x80#8 >>> k.val = 1#8 <<< (7 - k.val) := by decide
  exact all ⟨i % 8, Nat.mod_lt _ (by decide)⟩

theorem hasType_iff : hasType octets i = (Octets.get octets (i / 8)).getLsbD (7 - i % 8) := by
  rw [hasType, typeBit_eq, Bitmap.and_bit_ne_zero _ (by omega)]

@[simp] theorem length_setType {low : BitVec 8} : (setType octets low).length = octets.length := by
  simp [setType]

theorem hasType_setType {low : BitVec 8} (h : i / 8 < octets.length) :
    hasType (setType octets low) i = (hasType octets i || decide (low.toNat = i)) := by
  have entry : Octets.get (setType octets low) (i / 8) =
      if low.toNat / 8 = i / 8 then Octets.get octets (i / 8) ||| typeBit low.toNat
      else Octets.get octets (i / 8) := by
    simp only [Octets.get, setType, getD_eq_getElem?_getD, List.getElem?_modify]
    split <;> simp [List.getElem?_eq_getElem h]
  rw [hasType_iff, hasType_iff, entry]
  split
  next same =>
    have bit : (1#8 <<< (7 - low.toNat % 8)).getLsbD (7 - i % 8) = decide (low.toNat = i) := by
      have : (low.toNat = i) ↔ low.toNat % 8 = i % 8 := by omega
      simp only [this]
      by_cases eq : low.toNat % 8 = i % 8
      · simp [eq]
        omega
      · simp [eq]
        omega
    rw [typeBit_eq, BitVec.getLsbD_or, bit]
  next other =>
    have : low.toNat ≠ i := fun eq => other (eq ▸ rfl)
    simp [this]

theorem hasType_setAll {lows : List (BitVec 8)} (h : i / 8 < octets.length) :
    hasType (lows.foldl setType octets) i =
      (hasType octets i || lows.any fun low => decide (low.toNat = i)) := by
  induction lows generalizing octets with
  | nil => simp
  | cons low lows ih =>
    rw [foldl_cons, ih (by simpa using h), hasType_setType h, any_cons, Bool.or_assoc]

theorem length_setAll {lows : List (BitVec 8)} :
    (lows.foldl setType octets).length = octets.length := by
  induction lows generalizing octets with
  | nil => rfl
  | cons low lows ih => rw [foldl_cons, ih, length_setType]

theorem length_windowOctets {lows : List (BitVec 8)} :
    (windowOctets lows).length = (lows.getLastD 0#8).toNat / 8 + 1 := by
  rw [windowOctets, length_setAll, length_replicate]

theorem hasType_windowOctets {lows : List (BitVec 8)} (h : i / 8 < (windowOctets lows).length) :
    hasType (windowOctets lows) i = lows.any fun low => decide (low.toNat = i) := by
  rw [length_windowOctets] at h
  rw [windowOctets, hasType_setAll (by simpa using h)]
  have clear : hasType (List.replicate ((lows.getLastD 0#8).toNat / 8 + 1) 0#8) i = false := by
    have zero : Octets.get (List.replicate ((lows.getLastD 0#8).toNat / 8 + 1) 0#8) (i / 8) =
        0#8 := by
      rw [Octets.get, getD_eq_getElem?_getD, List.getElem?_replicate, if_pos h]
      rfl
    rw [hasType, zero, BitVec.zero_and]
    rfl
  rw [clear, Bool.false_or]

end Bits

section RoundTrip

/-- The types of a run. -/
def runTypes (run : BitVec 8 × List (BitVec 8)) : List (BitVec 16) := run.2.map (run.1 ++ ·)

theorem le_getLastD {lows : List (BitVec 8)} (sorted : lows.Pairwise (· < ·)) {low : BitVec 8}
    (mem : low ∈ lows) : low.toNat ≤ (lows.getLastD 0#8).toNat := by
  obtain ⟨front, last, rfl⟩ : ∃ front last, lows = front ++ [last] := by
    obtain rfl | ⟨front, last, eq⟩ := eq_nil_or_concat lows
    · cases mem
    · exact ⟨front, last, eq.trans concat_eq_append⟩
  rw [getLastD_concat]
  obtain mem | mem := mem_append.mp mem
  · exact Nat.le_of_lt ((pairwise_append.mp sorted).2.2 low mem last (by simp))
  · obtain rfl := mem_singleton.mp mem
    exact Nat.le_refl _

theorem windowTypes_windowOctets {run : BitVec 8 × List (BitVec 8)}
    (sorted : run.2.Pairwise (· < ·)) : windowTypes run.1 (windowOctets run.2) = runTypes run := by
  have asymm : ∀ a b : Nat, a < b → ¬ b < a := fun _ _ => Nat.lt_asymm
  have length : (windowOctets run.2).length = (run.2.getLastD 0#8).toNat / 8 + 1 :=
    length_windowOctets
  have lows : (List.range (8 * (windowOctets run.2).length)).filter
      (hasType (windowOctets run.2)) = run.2.map (·.toNat) := by
    apply Sorting.eq_of_mem_iff asymm
    · exact List.Pairwise.filter _ pairwise_lt_range
    · exact pairwise_map.mpr sorted
    · intro i
      simp only [mem_filter, mem_range, mem_map]
      constructor
      · rintro ⟨lt, set⟩
        rw [hasType_windowOctets (by omega)] at set
        simpa using set
      · rintro ⟨low, mem, rfl⟩
        have le := le_getLastD sorted mem
        refine ⟨by omega, ?_⟩
        rw [hasType_windowOctets (by omega)]
        simpa using ⟨low, mem, rfl⟩
  rw [windowTypes, lows, map_map, runTypes]
  apply map_congr_left
  intro low _
  simp

theorem toNat_append (high low : BitVec 8) : (high ++ low).toNat = high.toNat * 256 + low.toNat := by
  rw [BitVec.toNat_append, ← Nat.shiftLeft_add_eq_or_of_lt low.isLt, Nat.shiftLeft_eq]

theorem high_append_low (type : BitVec 16) : typeHigh type ++ typeLow type = type := by
  apply BitVec.eq_of_toNat_eq
  rw [toNat_append]
  simp [typeHigh, typeLow]
  omega

/-- Runs in order of windows, each in order of types. -/
structure Windowed (types : List (BitVec 16)) (runs : List (BitVec 8 × List (BitVec 8))) :
    Prop where
  types : runs.flatMap runTypes = types
  some : ∀ run ∈ runs, run.2 ≠ []
  lows : ∀ run ∈ runs, run.2.Pairwise (· < ·)
  order : runs.Pairwise fun run next => run.1 < next.1

theorem windows_spec {types : List (BitVec 16)} (sorted : types.Pairwise (· < ·)) :
    Windowed types (windows types) := by
  induction types with
  | nil => exact ⟨rfl, nofun, nofun, .nil⟩
  | cons type rest ih =>
    obtain ⟨least, others⟩ := pairwise_cons.mp sorted
    have ih := ih others
    have single : runTypes (typeHigh type, [typeLow type]) = [type] := by
      simp [runTypes, high_append_low]
    rw [windows]
    cases runs : windows rest with
    | nil =>
      rw [runs] at ih
      obtain rfl : [] = rest := ih.types
      exact ⟨by simp [single], by simp, by simp, by simp⟩
    | cons run more =>
      rw [runs] at ih
      obtain ⟨window, lows⟩ := run
      cases lows with
      | nil => exact absurd rfl (ih.some _ mem_cons_self)
      | cons low lows =>
        have whole := ih.types
        simp only [flatMap_cons, runTypes, map_cons, cons_append] at whole
        have lt : type < window ++ low := least _ (by rw [← whole]; simp)
        have sizes := congrArg BitVec.toNat (high_append_low type)
        rw [toNat_append] at sizes
        have below : type.toNat < (window ++ low).toNat := lt
        rw [toNat_append] at below
        dsimp only
        split
        next same =>
          have smaller : typeLow type < low := by
            rw [BitVec.lt_def]
            rw [same] at sizes
            omega
          obtain ⟨first, between⟩ := pairwise_cons.mp (ih.lows _ mem_cons_self)
          refine ⟨?_, ?_, ?_, ?_⟩
          · simp only [flatMap_cons, runTypes, map_cons, cons_append]
            rw [whole, ← same, high_append_low]
          · intro run mem
            obtain rfl | mem := mem_cons.mp mem
            · simp
            · exact ih.some run (mem_cons_of_mem _ mem)
          · intro run mem
            obtain rfl | mem := mem_cons.mp mem
            · refine pairwise_cons.mpr ⟨fun other mem => ?_, ih.lows _ mem_cons_self⟩
              obtain rfl | mem := mem_cons.mp mem
              · exact smaller
              · exact BitVec.lt_trans smaller (first other mem)
            · exact ih.lows run (mem_cons_of_mem _ mem)
          · exact pairwise_cons.mpr (pairwise_cons.mp ih.order)
        next other =>
          have smaller : typeHigh type < window := by
            rw [BitVec.lt_def]
            have : (typeHigh type).toNat ≠ window.toNat := fun eq => other (BitVec.eq_of_toNat_eq eq)
            omega
          refine ⟨?_, ?_, ?_, ?_⟩
          · rw [flatMap_cons, single, ih.types]
            rfl
          · intro run mem
            obtain rfl | mem := mem_cons.mp mem
            · simp
            · exact ih.some run mem
          · intro run mem
            obtain rfl | mem := mem_cons.mp mem
            · simp
            · exact ih.lows run mem
          · refine pairwise_cons.mpr ⟨fun next mem => ?_, ih.order⟩
            obtain rfl | mem := mem_cons.mp mem
            · exact smaller
            · exact BitVec.lt_trans smaller ((pairwise_cons.mp ih.order).1 next mem)

theorem windowOctets_last {lows : List (BitVec 8)} (some : lows ≠ []) :
    Octets.get (windowOctets lows) ((windowOctets lows).length - 1) ≠ 0#8 := by
  have last : lows.getLastD 0#8 ∈ lows := by
    rw [getLastD_eq_getLast?, List.getLast?_eq_some_getLast some]
    exact getLast_mem some
  have length : (windowOctets lows).length = (lows.getLastD 0#8).toNat / 8 + 1 :=
    length_windowOctets
  have set : hasType (windowOctets lows) (lows.getLastD 0#8).toNat = true := by
    rw [hasType_windowOctets (by omega)]
    exact any_eq_true.mpr ⟨_, last, by simp⟩
  have index : (windowOctets lows).length - 1 = (lows.getLastD 0#8).toNat / 8 := by omega
  rw [index]
  intro zero
  rw [hasType, zero, BitVec.zero_and] at set
  cases set

/-- The blocks of runs in order read back as their types. -/
theorem decodeWindows_encode {runs : List (BitVec 8 × List (BitVec 8))} {types : List (BitVec 16)}
    {steps : Nat} {previous : Option (BitVec 8)} (h : Windowed types runs)
    (after : ∀ run ∈ runs, ∀ earlier ∈ previous, earlier < run.1)
    (enough : (runs.flatMap encodeWindow).length ≤ steps) :
    decodeWindows steps previous (runs.flatMap encodeWindow) = some types := by
  induction runs generalizing types steps previous with
  | nil =>
    rw [← h.types]
    cases steps <;> rfl
  | cons run more ih =>
    have length : (windowOctets run.2).length = (run.2.getLastD 0#8).toNat / 8 + 1 :=
      length_windowOctets
    have size : (BitVec.ofNat 8 (windowOctets run.2).length).toNat =
        (windowOctets run.2).length := by
      exact Nat.mod_eq_of_lt (by omega)
    have last := windowOctets_last (h.some run mem_cons_self)
    obtain ⟨first, order⟩ := pairwise_cons.mp h.order
    have rest : Windowed (more.flatMap runTypes) more :=
      ⟨rfl, fun r m => h.some r (mem_cons_of_mem _ m),
        fun r m => h.lows r (mem_cons_of_mem _ m), order⟩
    have input : (run :: more).flatMap encodeWindow =
        run.1 :: BitVec.ofNat 8 (windowOctets run.2).length ::
          (windowOctets run.2 ++ more.flatMap encodeWindow) := by
      simp [encodeWindow]
    rw [input] at enough ⊢
    obtain ⟨steps, rfl⟩ : ∃ n, steps = n + 1 := ⟨steps - 1, by simp at enough; omega⟩
    rw [decodeWindows, size, if_neg, drop_left, take_left,
      windowTypes_windowOctets (h.lows run mem_cons_self), ih rest, ← h.types]
    · simp
    · rintro next mem earlier ⟨⟩
      exact first next mem
    · simp only [length_cons, length_append] at enough
      omega
    · have nonzero : BitVec.ofNat 8 (windowOctets run.2).length ≠ 0#8 := by
        intro zero
        rw [zero] at size
        simp at size
        omega
      have later : previous.any (fun earlier => decide (run.1 ≤ earlier)) = false := by
        cases previous with
        | none => rfl
        | some earlier =>
          have lt := after run mem_cons_self earlier rfl
          have : ¬ run.1 ≤ earlier := by
            rw [BitVec.le_def]
            rw [BitVec.lt_def] at lt
            omega
          simpa using this
      have tail : Octets.get (windowOctets run.2 ++ more.flatMap encodeWindow)
          ((windowOctets run.2).length - 1) ≠ 0#8 := by
        rw [Octets.get_append_left (by omega)]
        exact last
      simp only [nonzero, later, tail, length_append, settled]
      omega

/-- No more than 256 windows, each of two octets and no more than 32. -/
theorem length_encodeWindows {runs : List (BitVec 8 × List (BitVec 8))} (least : Nat)
    (order : runs.Pairwise fun run next => run.1 < next.1)
    (above : ∀ run ∈ runs, least ≤ run.1.toNat) (small : least ≤ 256) :
    (runs.flatMap encodeWindow).length ≤ 34 * (256 - least) := by
  induction runs generalizing least with
  | nil => exact Nat.zero_le _
  | cons run more ih =>
    obtain ⟨first, others⟩ := pairwise_cons.mp order
    have start := above run mem_cons_self
    have size : (windowOctets run.2).length = (run.2.getLastD 0#8).toNat / 8 + 1 :=
      length_windowOctets
    have rest := ih (run.1.toNat + 1) others (fun next mem => first next mem) (by omega)
    simp only [flatMap_cons, length_append, encodeWindow, length_cons]
    omega

theorem repeats_sorted {types : List (BitVec 16)} (sorted : types.Pairwise (· < ·)) :
    repeats types = false := by
  induction types with
  | nil => rfl
  | cons first rest ih =>
    obtain ⟨least, others⟩ := pairwise_cons.mp sorted
    cases rest with
    | nil => rfl
    | cons second rest =>
      have ne : first ≠ second := BitVec.ne_of_lt (least second mem_cons_self)
      simp [repeats, ne, ih others]

theorem encodeTypeBitmap_sorted {types : List (BitVec 16)} (sorted : types.Pairwise (· < ·))
    (some : types ≠ []) (allowEmpty : Bool) :
    encodeTypeBitmap types allowEmpty = Option.some ((windows types).flatMap encodeWindow) := by
  have ordered : Sorting.Sorted (fun left right => decide (left < right)) types := by
    apply sorted.imp
    intro left right lt
    have : ¬ right < left := by
      rw [BitVec.lt_def] at lt ⊢
      omega
    simpa using this
  simp [encodeTypeBitmap, some, Sorting.sort_of_sorted ordered, repeats_sorted sorted]

theorem decodeTypeBitmap_encode {types : List (BitVec 16)} {allowEmpty : Bool}
    {output : List (BitVec 8)} (sorted : types.Pairwise (· < ·))
    (h : encodeTypeBitmap types allowEmpty = some output) :
    decodeTypeBitmap output allowEmpty = some types := by
  by_cases empty : types = []
  · subst empty
    cases allowEmpty with
    | false => cases h
    | true =>
      obtain rfl := Option.some.inj h
      rfl
  · rw [encodeTypeBitmap_sorted sorted empty] at h
    obtain rfl := Option.some.inj h
    have read : decodeWindows ((windows types).flatMap encodeWindow).length none
        ((windows types).flatMap encodeWindow) = some types :=
      decodeWindows_encode (windows_spec sorted) (by simp) (Nat.le_refl _)
    rw [decodeTypeBitmap, read]
    simp [empty]

end RoundTrip

section Canonical

variable {window : BitVec 8} {octets : List (BitVec 8)}

theorem getLsbD_eq_hasType {j : Nat} (h : j < 8) (k : Nat) :
    (Octets.get octets k).getLsbD j = hasType octets (8 * k + (7 - j)) := by
  have octet : (8 * k + (7 - j)) / 8 = k := by omega
  have bit : 7 - (8 * k + (7 - j)) % 8 = j := by omega
  rw [hasType_iff, octet, bit]

/-- The run of types that a block stands for. -/
def blockRun (window : BitVec 8) (octets : List (BitVec 8)) : BitVec 8 × List (BitVec 8) :=
  (window, ((List.range (8 * octets.length)).filter (hasType octets)).map (BitVec.ofNat 8))

theorem runTypes_blockRun : runTypes (blockRun window octets) = windowTypes window octets := by
  simp [runTypes, blockRun, windowTypes]

section Block

variable (small : octets.length ≤ 32)
include small

theorem mem_blockRun {low : BitVec 8} : low ∈ (blockRun window octets).2 ↔
    low.toNat < 8 * octets.length ∧ hasType octets low.toNat = true := by
  simp only [blockRun, mem_map, mem_filter, mem_range]
  constructor
  · rintro ⟨i, ⟨lt, set⟩, rfl⟩
    rw [BitVec.toNat_ofNat, Nat.mod_eq_of_lt (by omega)]
    exact ⟨lt, set⟩
  · exact fun h => ⟨_, h, by simp⟩

theorem blockRun_sorted : (blockRun window octets).2.Pairwise (· < ·) := by
  refine pairwise_map.mpr ((pairwise_lt_range.filter _).imp_of_mem ?_)
  intro i j hi hj lt
  have := mem_range.mp (mem_filter.mp hj).1
  rw [BitVec.lt_def, BitVec.toNat_ofNat, BitVec.toNat_ofNat, Nat.mod_eq_of_lt (by omega),
    Nat.mod_eq_of_lt (by omega)]
  exact lt

/-- A block whose last octet has a type is written again as it is. -/
theorem windowOctets_blockRun (last : Octets.get octets (octets.length - 1) ≠ 0#8) :
    (blockRun window octets).2 ≠ [] ∧ windowOctets (blockRun window octets).2 = octets := by
  have sorted := @blockRun_sorted window octets small
  have mem := @mem_blockRun window octets small
  generalize (blockRun window octets).2 = lows at sorted mem
  have filled : 0 < octets.length := by
    apply Nat.pos_of_ne_zero
    intro none
    exact last (Octets.get_of_length_le (by omega))
  obtain ⟨j, small_j, set⟩ : ∃ j < 8, hasType octets (8 * (octets.length - 1) + (7 - j)) = true := by
    apply Decidable.by_contra
    intro none
    refine last (BitVec.eq_of_getLsbD_eq fun j hj => ?_)
    rw [getLsbD_eq_hasType hj, BitVec.getLsbD_zero, ← Bool.not_eq_true]
    exact fun set => none ⟨j, hj, set⟩
  have top : BitVec.ofNat 8 (8 * (octets.length - 1) + (7 - j)) ∈ lows := by
    rw [mem, BitVec.toNat_ofNat, Nat.mod_eq_of_lt (by omega)]
    exact ⟨by omega, set⟩
  have some : lows ≠ [] := ne_nil_of_mem top
  have low := le_getLastD sorted top
  rw [BitVec.toNat_ofNat, Nat.mod_eq_of_lt (by omega)] at low
  have high : (lows.getLastD 0#8).toNat < 8 * octets.length := by
    rw [getLastD_eq_getLast?, List.getLast?_eq_some_getLast some]
    exact (mem.mp (getLast_mem some)).1
  have length : (windowOctets lows).length = octets.length := by
    rw [length_windowOctets]
    omega
  refine ⟨some, Octets.ext length fun k hk => BitVec.eq_of_getLsbD_eq fun j hj => ?_⟩
  rw [getLsbD_eq_hasType hj, getLsbD_eq_hasType hj, hasType_windowOctets (by omega),
    Bool.eq_iff_iff, any_eq_true]
  constructor
  · rintro ⟨low, inside, same⟩
    exact of_decide_eq_true same ▸ (mem.mp inside).2
  · intro set
    have small : (BitVec.ofNat 8 (8 * k + (7 - j))).toNat = 8 * k + (7 - j) := by
      rw [BitVec.toNat_ofNat, Nat.mod_eq_of_lt (by omega)]
    exact ⟨_, mem.mpr (small.symm ▸ ⟨by omega, set⟩), decide_eq_true small⟩

end Block

theorem typeHigh_append (high low : BitVec 8) : typeHigh (high ++ low) = high := by
  apply BitVec.eq_of_toNat_eq
  simp [typeHigh, toNat_append]
  omega

theorem typeLow_append (high low : BitVec 8) : typeLow (high ++ low) = low := by
  apply BitVec.eq_of_toNat_eq
  simp [typeLow, toNat_append]
  omega

theorem Windowed.windows_eq {types : List (BitVec 16)} {runs : List (BitVec 8 × List (BitVec 8))}
    (h : Windowed types runs) : windows types = runs := by
  obtain ⟨rfl, some, -, order⟩ := h
  induction runs with
  | nil => rfl
  | cons run more ih =>
    obtain ⟨window, lows⟩ := run
    obtain ⟨first, others⟩ := pairwise_cons.mp order
    have rest := ih (fun run mem => some run (mem_cons_of_mem _ mem)) others
    have filled := some _ mem_cons_self
    have apart : ∀ next ∈ more, window ≠ next.1 := fun next mem => BitVec.ne_of_lt (first next mem)
    clear ih some order first
    simp only [flatMap_cons, runTypes]
    induction lows with
    | nil => exact absurd rfl filled
    | cons low lows ih =>
      rw [map_cons, cons_append, windows, typeHigh_append, typeLow_append]
      cases lows with
      | nil =>
        rw [map_nil, nil_append, rest]
        cases more with
        | nil => rfl
        | cons next more => exact if_neg (apart next mem_cons_self)
      | cons next lows =>
        rw [ih (cons_ne_nil _ _)]
        exact if_pos rfl

theorem Windowed.sorted {types : List (BitVec 16)} {runs : List (BitVec 8 × List (BitVec 8))}
    (h : Windowed types runs) : types.Pairwise (· < ·) := by
  obtain ⟨rfl, -, lows, order⟩ := h
  refine pairwise_flatMap.mpr ⟨fun run mem => ?_, order.imp fun lt => ?_⟩
  · refine pairwise_map.mpr ((lows run mem).imp fun lt => ?_)
    rw [BitVec.lt_def] at lt ⊢
    rw [toNat_append, toNat_append]
    omega
  · intro type mem next mem'
    obtain ⟨low, -, rfl⟩ := mem_map.mp mem
    obtain ⟨low', -, rfl⟩ := mem_map.mp mem'
    rw [BitVec.lt_def] at lt ⊢
    rw [toNat_append, toNat_append]
    omega

theorem decodeWindows_runs {steps : Nat} {previous : Option (BitVec 8)} {input : List (BitVec 8)}
    {types : List (BitVec 16)} (h : decodeWindows steps previous input = some types) :
    ∃ runs, Windowed types runs ∧ (∀ run ∈ runs, ∀ earlier ∈ previous, earlier < run.1) ∧
      runs.flatMap encodeWindow = input := by
  fun_induction decodeWindows steps previous input generalizing types with
  | case1 =>
    cases h
    exact ⟨[], ⟨rfl, by simp, by simp, .nil⟩, by simp, rfl⟩
  | case2 | case3 | case4 => cases h
  | case5 steps previous window length rest guards ih =>
    simp only [not_or] at guards
    obtain ⟨nonzero, few, room, after, last⟩ := guards
    have nonzero : length.toNat ≠ 0 := fun zero => nonzero (BitVec.eq_of_toNat_eq zero)
    obtain ⟨others, read, rfl⟩ := Option.map_eq_some_iff.mp h
    obtain ⟨runs, windowed, later, written⟩ := ih read
    have size : (rest.take length.toNat).length = length.toNat := by
      rw [length_take]
      omega
    have small : (rest.take length.toNat).length ≤ 32 := by omega
    have filled : Octets.get (rest.take length.toNat) ((rest.take length.toNat).length - 1) ≠
        0#8 := by
      rw [size, Octets.get_take (by omega)]
      exact last
    obtain ⟨some, same⟩ := @windowOctets_blockRun window _ small filled
    have above : ∀ earlier ∈ previous, earlier < window := by
      rintro earlier rfl
      simpa using after
    refine ⟨blockRun window (rest.take length.toNat) :: runs, ⟨?_, ?_, ?_, ?_⟩, ?_, ?_⟩
    · rw [flatMap_cons, runTypes_blockRun, windowed.types]
    · exact forall_mem_cons.mpr ⟨some, windowed.some⟩
    · exact forall_mem_cons.mpr ⟨blockRun_sorted small, windowed.lows⟩
    · exact pairwise_cons.mpr ⟨fun run mem => later run mem window rfl, windowed.order⟩
    · exact forall_mem_cons.mpr ⟨above, fun run mem earlier known =>
        BitVec.lt_trans (above earlier known) (later run mem window rfl)⟩
    · rw [flatMap_cons, encodeWindow, same, size, BitVec.ofNat_toNat, BitVec.setWidth_eq, written]
      simp [blockRun]

/-- A bitmap that is read is the one bitmap of its types. -/
theorem encodeTypeBitmap_decode {input : List (BitVec 8)} {types : List (BitVec 16)}
    {allowEmpty : Bool} (h : decodeTypeBitmap input allowEmpty = some types) :
    types.Pairwise (· < ·) ∧ encodeTypeBitmap types allowEmpty = some input := by
  rw [decodeTypeBitmap] at h
  split at h
  · cases h
  rename_i types read
  split at h
  · cases h
  rename_i given
  obtain rfl := Option.some.inj h
  obtain ⟨runs, windowed, -, rfl⟩ := decodeWindows_runs read
  refine ⟨windowed.sorted, ?_⟩
  rw [← windowed.windows_eq]
  cases types with
  | nil => simpa [encodeTypeBitmap, windows] using given
  | cons type rest => exact encodeTypeBitmap_sorted windowed.sorted (cons_ne_nil _ _) _

end Canonical

end RouterSim.Dns
