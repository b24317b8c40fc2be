import RouterSim.Lib.Octets
import RouterSim.Tcp.Options

/-! The two walks over an option string, of the validator and of the iterator,
against the strings the protocol describes. -/
namespace RouterSim.Tcp

open List

/-- The options of an option string, in order. The end of the list stands before
zeros only and counts as one option. -/
inductive OptionString : List OptionView → List Octet → Prop
  | done : OptionString [] []
  | endOfList (padding : Nat) : OptionString [⟨0#8, [0#8]⟩] (0#8 :: List.replicate padding 0#8)
  | noOperation {views : List OptionView} {rest : List Octet} (tail : OptionString views rest) :
      OptionString (⟨1#8, [1#8]⟩ :: views) (1#8 :: rest)
  | option {kind length : BitVec 8} {data rest : List Octet} {views : List OptionView}
      (hend : kind ≠ 0#8) (hnop : kind ≠ 1#8) (valid : standardLengthIsValid kind length = true)
      (hlen : data.length + 2 = length.toNat) (tail : OptionString views rest) :
      OptionString (⟨kind, kind :: length :: data⟩ :: views) (kind :: length :: (data ++ rest))

/-- The options that the iterator returns until it returns none, with the octets it
has not visited by then. -/
def visitOptions : Nat → List Octet → List OptionView × List Octet
  | 0, remaining => ([], remaining)
  | rounds + 1, remaining =>
    match nextOption remaining with
    | none => ([], remaining)
    | some (option, after) =>
      let visited := visitOptions rounds after
      (option :: visited.1, visited.2)

theorem nextOption_option {kind length : BitVec 8} {data rest : List Octet} (hend : kind ≠ 0#8)
    (hnop : kind ≠ 1#8) (valid : standardLengthIsValid kind length = true)
    (hlen : data.length + 2 = length.toNat) :
    nextOption (kind :: length :: (data ++ rest)) =
      some (⟨kind, kind :: length :: data⟩, rest) := by
  have room : decide ((length :: (data ++ rest)).length + 1 < length.toNat) = false := by
    simp only [length_cons, length_append, refuted]
    omega
  have guard : (!standardLengthIsValid kind length ||
      decide ((length :: (data ++ rest)).length + 1 < length.toNat)) = false := by
    rw [valid, room]
    rfl
  simp only [nextOption, beq_eq_false_iff_ne.mpr hend, beq_eq_false_iff_ne.mpr hnop, guard]
  rw [← hlen]
  simp

theorem standardLength_least {kind length : BitVec 8}
    (valid : standardLengthIsValid kind length = true) : 2 ≤ length.toNat := by
  unfold standardLengthIsValid at valid
  repeat' split at valid
  all_goals simp only [asserted] at valid
  all_goals bv_omega

/-- An option other than the two of one octet, as the iterator finds it. -/
theorem nextOption_some {kind : BitVec 8} {rest after : List Octet} {option : OptionView}
    (hend : kind ≠ 0#8) (hnop : kind ≠ 1#8) (h : nextOption (kind :: rest) = some (option, after)) :
    ∃ length data, rest = length :: (data ++ after) ∧
      standardLengthIsValid kind length = true ∧ data.length + 2 = length.toNat ∧
      option = ⟨kind, kind :: length :: data⟩ := by
  simp only [nextOption, beq_eq_false_iff_ne.mpr hend, beq_eq_false_iff_ne.mpr hnop, settled,
    ↓reduceIte] at h
  cases rest with
  | nil => cases h
  | cons length tail =>
    simp only at h
    split at h
    · cases h
    rename_i guard
    simp only [asserted, not_or, refuted, length_cons] at guard
    obtain ⟨valid, room⟩ := guard
    have least := standardLength_least valid
    obtain ⟨n, hn⟩ : ∃ n, length.toNat = n + 2 := ⟨length.toNat - 2, by omega⟩
    cases h
    refine ⟨length, tail.take n, ?_, valid, ?_, ?_⟩
    · rw [hn, drop_succ_cons, drop_succ_cons, take_append_drop]
    · rw [length_take, hn]
      omega
    · rw [hn, take_succ_cons, take_succ_cons]

/-! ## The walks on an option string -/

namespace OptionString

variable {views more : List OptionView} {options rest : List Octet}

theorem visit (h : OptionString views options) {rounds : Nat} (hrounds : options.length ≤ rounds) :
    visitOptions rounds options = (views, []) := by
  induction h generalizing rounds with
  | done => cases rounds <;> rfl
  | endOfList padding =>
    cases rounds with
    | zero => simp at hrounds
    | succ rounds => cases rounds <;> rfl
  | noOperation _ ih =>
    cases rounds with
    | zero => simp at hrounds
    | succ rounds =>
      simp only [visitOptions, nextOption]
      simp [ih (Nat.le_of_succ_le_succ hrounds)]
  | option hend hnop valid hlen _ ih =>
    cases rounds with
    | zero => simp at hrounds
    | succ rounds =>
      simp only [length_cons, length_append] at hrounds
      have visited := @ih rounds (by omega)
      simp [visitOptions, nextOption_option hend hnop valid hlen, visited]

theorem validate (h : OptionString views options) {rounds : Nat}
    (hrounds : options.length ≤ rounds) : validateOptionsLoop rounds options = true := by
  induction h generalizing rounds with
  | done => cases rounds <;> rfl
  | endOfList padding =>
    cases rounds with
    | zero => simp at hrounds
    | succ rounds => simp [validateOptionsLoop]
  | noOperation _ ih =>
    cases rounds with
    | zero => simp at hrounds
    | succ rounds =>
      rw [length_cons] at hrounds
      exact ih (by omega)
  | option hend hnop valid hlen _ ih =>
    cases rounds with
    | zero => simp at hrounds
    | succ rounds =>
      simp only [length_cons, length_append] at hrounds
      simp only [validateOptionsLoop, nextOption_option hend hnop valid hlen]
      rw [if_neg (by simpa using hend)]
      exact ih (by omega)

theorem of_validate {rounds : Nat} (h : validateOptionsLoop rounds options = true) :
    ∃ views, OptionString views options := by
  induction rounds generalizing options with
  | zero =>
    obtain rfl := List.isEmpty_iff.mp h
    exact ⟨[], .done⟩
  | succ rounds ih =>
    cases options with
    | nil => exact ⟨[], .done⟩
    | cons kind rest =>
      simp only [validateOptionsLoop] at h
      by_cases hend : kind = 0#8
      · rw [if_pos (by simp [hend])] at h
        have zeros : rest = List.replicate rest.length 0#8 := by
          apply eq_replicate_of_mem
          intro octet hmem
          simpa using all_eq_true.mp h octet hmem
        rw [hend, zeros]
        exact ⟨_, .endOfList rest.length⟩
      · rw [if_neg (by simpa using hend)] at h
        cases hnext : nextOption (kind :: rest) with
        | none => simp [hnext] at h
        | some found =>
          simp only [hnext] at h
          obtain ⟨views, tail⟩ := ih h
          by_cases hnop : kind = 1#8
          · subst hnop
            cases hnext
            exact ⟨_, .noOperation tail⟩
          · obtain ⟨length, data, hrest, valid, hlen, _⟩ := nextOption_some hend hnop hnext
            rw [hrest]
            exact ⟨_, .option hend hnop valid hlen tail⟩

/-- Option strings without an end of the list may be put together. -/
theorem append (h : OptionString views options) (unended : ∀ view ∈ views, view.kind ≠ 0#8)
    (g : OptionString more rest) : OptionString (views ++ more) (options ++ rest) := by
  induction h with
  | done => exact g
  | endOfList padding => exact absurd rfl (unended _ mem_cons_self)
  | noOperation _ ih =>
    exact .noOperation (ih fun view hmem => unended view (mem_cons_of_mem _ hmem))
  | option hend hnop valid hlen _ ih =>
    have joined := OptionString.option hend hnop valid hlen
      (ih fun view hmem => unended view (mem_cons_of_mem _ hmem))
    simpa only [cons_append, append_assoc] using joined

theorem zeros (padding : Nat) :
    ∃ more, (∀ view ∈ more, view = ⟨0#8, [0#8]⟩) ∧
      OptionString more (List.replicate padding 0#8) := by
  cases padding with
  | zero => exact ⟨[], by simp, .done⟩
  | succ padding => exact ⟨_, by simp, .endOfList padding⟩

theorem pad (h : OptionString views options) (padding : Nat) :
    ∃ more, (∀ view ∈ more, view = ⟨0#8, [0#8]⟩) ∧
      OptionString (views ++ more) (options ++ List.replicate padding 0#8) := by
  induction h with
  | done => exact zeros padding
  | endOfList already =>
    refine ⟨[], by simp, ?_⟩
    rw [append_nil, cons_append, replicate_append_replicate]
    exact .endOfList (already + padding)
  | noOperation _ ih =>
    obtain ⟨more, hmore, padded⟩ := ih
    exact ⟨more, hmore, .noOperation padded⟩
  | option hend hnop valid hlen _ ih =>
    obtain ⟨more, hmore, padded⟩ := ih
    refine ⟨more, hmore, ?_⟩
    have joined := OptionString.option hend hnop valid hlen padded
    simpa only [cons_append, append_assoc] using joined

end OptionString

theorem validateOptions_iff {options : List Octet} :
    validateOptions options = true ↔ ∃ views, OptionString views options :=
  ⟨OptionString.of_validate, fun ⟨_, h⟩ => h.validate (Nat.le_refl _)⟩

theorem validateOptions_pad {options : List Octet} (h : validateOptions options = true)
    (padding : Nat) : validateOptions (options ++ List.replicate padding 0#8) = true := by
  obtain ⟨views, string⟩ := validateOptions_iff.mp h
  obtain ⟨more, _, padded⟩ := string.pad padding
  exact validateOptions_iff.mpr ⟨_, padded⟩

end RouterSim.Tcp
