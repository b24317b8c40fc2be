/-! Checks: what it says of a computed truth value that it came out true, and that it came out
false, as one set of rewriting rules each. -/

theorem asserted :
    (∀ a b : Bool, ((a && b) = true) = (a = true ∧ b = true)) ∧
    (∀ a b : Bool, ((a || b) = true) = (a = true ∨ b = true)) ∧
    (∀ a : Bool, ((!a) = true) = (a = false)) ∧
    (∀ (p : Prop) [Decidable p], (decide p = true) = p) ∧
    (∀ {α : Type} [BEq α] [LawfulBEq α] (a b : α), a == b ↔ a = b) ∧
    ∀ {α : Type} [BEq α] [LawfulBEq α] (a b : α), a != b ↔ a ≠ b := by
  refine ⟨?_, ?_, ?_, ?_, fun _ _ => beq_iff_eq, fun _ _ => bne_iff_ne⟩ <;> simp

theorem refuted :
    (∀ a b : Bool, ((a && b) = false) = (a = false ∨ b = false)) ∧
    (∀ a b : Bool, ((a || b) = false) = (a = false ∧ b = false)) ∧
    (∀ a : Bool, ((!a) = false) = (a = true)) ∧
    (∀ a : Bool, (¬a = true) = (a = false)) ∧ (∀ a : Bool, (¬a = false) = (a = true)) ∧
    (∀ (p : Prop) [Decidable p], (decide p = false) = ¬p) ∧
    (∀ {α : Type} [BEq α] [LawfulBEq α] (a b : α), (a == b) = false ↔ a ≠ b) ∧
    ∀ {α : Type} [BEq α] [LawfulBEq α] (a b : α), (a != b) = false ↔ a = b := by
  refine ⟨?_, ?_, ?_, ?_, ?_, ?_, fun _ _ => beq_eq_false_iff_ne, fun _ _ => bne_eq_false_iff_eq⟩ <;>
    simp


theorem settled :
    ((false = true) = False ∧ (¬True) = False ∧ (¬False) = True ∧ (!true) = false ∧
      (!false) = true) ∧
    (∀ a : Bool, (true && a) = a ∧ (a && true) = a ∧ (false && a) = false ∧ (a && false) = false ∧
      (true || a) = true ∧ (a || true) = true ∧ (false || a) = a ∧ (a || false) = a) ∧
    (∀ p : Prop, (True ∧ p) = p ∧ (p ∧ True) = p ∧ (False ∧ p) = False ∧ (p ∧ False) = False ∧
      (True ∨ p) = True ∧ (p ∨ True) = True ∧ (False ∨ p) = p ∧ (p ∨ False) = p) ∧
    (∀ {α : Type} [Decidable True] (a b : α), (if True then a else b) = a) ∧
    ∀ {α : Type} [Decidable False] (a b : α), (if False then a else b) = b := by
  simp
