/-! Machines that answer each input, and inputs that no answer to another one depends on. -/
namespace Unobserved

variable {State Input Output View : Type}

/-- The answers to a list of inputs, each beside its input. -/
def answers (step : State → Input → State × Output) : State → List Input → List (Input × Output)
  | _, [] => []
  | s, input :: rest => (input, (step s input).2) :: answers step (step s input).1 rest

/-- What the answers depend on of a state, kept in step by every input and left alone by the
extra ones. -/
structure Hides (step : State → Input → State × Output) (view : State → View)
    (extra : Input → Prop) : Prop where
  answer : ∀ s s' input, view s = view s' → (step s input).2 = (step s' input).2
  follows : ∀ s s' input, view s = view s' → view (step s input).1 = view (step s' input).1
  unmoved : ∀ s input, extra input → view (step s input).1 = view s

variable {step : State → Input → State × Output} {view : State → View} {extra : Input → Prop}

theorem Hides.answers_eq (hides : Hides step view extra) {s s' : State} (same : view s = view s')
    (inputs : List Input) : answers step s inputs = answers step s' inputs := by
  induction inputs generalizing s s' with
  | nil => rfl
  | cons input rest ih =>
    rw [answers, answers, hides.answer s s' input same, ih (hides.follows s s' input same)]

/-- Leaving out extra inputs leaves the other answers as they are. -/
theorem Hides.answers_filter (hides : Hides step view extra) (keep : Input → Bool) (s : State)
    {inputs : List Input} (dropped : ∀ input ∈ inputs, keep input = false → extra input) :
    (answers step s inputs).filter (keep ·.1) = answers step s (inputs.filter keep) := by
  induction inputs generalizing s with
  | nil => rfl
  | cons input rest ih =>
    have tail := ih (step s input).1 fun other mem => dropped other (List.mem_cons_of_mem _ mem)
    cases kept : keep input with
    | true => simp [answers, kept, tail]
    | false =>
      have same := hides.unmoved s input (dropped input List.mem_cons_self kept)
      simpa [answers, kept, tail] using hides.answers_eq same (rest.filter keep)

end Unobserved
