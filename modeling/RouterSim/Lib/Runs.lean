import RouterSim.Lib.Checks

/-! Runs of a machine given by a step function: the state after a list of
operations, and the rule that carries an invariant along one. -/
namespace Runs

variable {State Op : Type}

def run (step : State → Op → State) (s : State) (ops : List Op) : State := ops.foldl step s

/-- Every operation of the run meets `ok` in the state it is applied to. -/
def Along (step : State → Op → State) (ok : State → Op → Prop) : State → List Op → Prop
  | _, [] => True
  | s, op :: ops => ok s op ∧ Along step ok (step s op) ops

instance decidableAlong {step : State → Op → State} {ok : State → Op → Prop}
    [∀ s op, Decidable (ok s op)] : ∀ (s : State) (ops : List Op), Decidable (Along step ok s ops)
  | _, [] => isTrue trivial
  | s, op :: ops =>
    have : Decidable (Along step ok (step s op) ops) := decidableAlong (step s op) ops
    inferInstanceAs (Decidable (ok s op ∧ Along step ok (step s op) ops))

@[simp] theorem run_nil (step : State → Op → State) (s : State) : run step s [] = s := rfl

@[simp] theorem run_cons (step : State → Op → State) (s : State) (op : Op) (ops : List Op) :
    run step s (op :: ops) = run step (step s op) ops := rfl

theorem run_append (step : State → Op → State) (s : State) (first second : List Op) :
    run step s (first ++ second) = run step (run step s first) second :=
  List.foldl_append

theorem invariant_along {step : State → Op → State} {ok : State → Op → Prop}
    {P : State → Prop} (hstep : ∀ s op, P s → ok s op → P (step s op))
    {s : State} {ops : List Op} (hs : P s) (hops : Along step ok s ops) : P (run step s ops) := by
  induction ops generalizing s with
  | nil => exact hs
  | cons op ops ih => exact ih (hstep s op hs hops.1) hops.2

theorem Along.and {step : State → Op → State} {ok ok' : State → Op → Prop} {s : State}
    {ops : List Op} (h : Along step ok s ops) (h' : Along step ok' s ops) :
    Along step (fun s op => ok s op ∧ ok' s op) s ops := by
  induction ops generalizing s with
  | nil => trivial
  | cons op ops ih => exact ⟨⟨h.1, h'.1⟩, ih h.2 h'.2⟩

theorem along_append {step : State → Op → State} {ok : State → Op → Prop} {s : State}
    {first second : List Op} : Along step ok s (first ++ second) ↔
      Along step ok s first ∧ Along step ok (run step s first) second := by
  induction first generalizing s with
  | nil => exact (and_iff_right trivial).symm
  | cons op ops ih => exact (and_congr_right fun _ => ih).trans and_assoc.symm

theorem along_of_forall {step : State → Op → State} {ok : Op → Prop} {s : State}
    {ops : List Op} (h : ∀ op ∈ ops, ok op) : Along step (fun _ op => ok op) s ops := by
  induction ops generalizing s with
  | nil => trivial
  | cons op ops ih =>
    exact ⟨h op List.mem_cons_self, ih fun op' h' => h op' (List.mem_cons_of_mem _ h')⟩

/-- A step that may fail keeps what it keeps along a run that does not. -/
theorem foldlM_invariant {step : State → Op → Option State} {P : State → Prop}
    {ops : List Op} (keeps : ∀ s, ∀ op ∈ ops, ∀ s', step s op = some s' → P s → P s') {s s' : State}
    (made : ops.foldlM step s = some s') (h : P s) : P s' := by
  induction ops generalizing s with
  | nil =>
    cases made
    exact h
  | cons op ops ih =>
    obtain ⟨next, here, made⟩ := Option.bind_eq_some_iff.mp made
    exact ih (fun s op mem => keeps s op (List.mem_cons_of_mem _ mem)) made
      (keeps s op List.mem_cons_self next here h)

theorem invariant {step : State → Op → State} {P : State → Prop}
    (hstep : ∀ s op, P s → P (step s op)) {s : State} (ops : List Op) (hs : P s) :
    P (run step s ops) := by
  induction ops generalizing s with
  | nil => exact hs
  | cons op ops ih => exact ih (hstep s op hs)

/-- The same when the condition is on the operations alone. -/
theorem invariant_of_forall {step : State → Op → State} {ok : Op → Prop} {P : State → Prop}
    (hstep : ∀ s op, P s → ok op → P (step s op)) {s : State} {ops : List Op} (hs : P s)
    (hops : ∀ op ∈ ops, ok op) : P (run step s ops) := by
  induction ops generalizing s with
  | nil => exact hs
  | cons op ops ih =>
    exact ih (hstep s op hs (hops op List.mem_cons_self))
      fun op' h => hops op' (List.mem_cons_of_mem _ h)

end Runs
