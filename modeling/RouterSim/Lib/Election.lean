import RouterSim.Lib.Checks

/-! An election of a leader and a backup from what each candidate said of itself.
Candidates are ranked by natural numbers; `S` are the candidates, `D` those that call
themselves leader and `B` those that call themselves backup. A candidate whose role
comes out different from what it said runs the election again as if it had said so. -/
namespace Election

/-- The greatest number with a property, if any has it. -/
def Greatest (P : Nat → Prop) : Option Nat → Prop
  | none => ∀ x, ¬ P x
  | some x => P x ∧ ∀ y, P y → y ≤ x

theorem Greatest.unique {P : Nat → Prop} {a b : Option Nat} (ha : Greatest P a)
    (hb : Greatest P b) : a = b := by
  cases a with
  | none =>
    cases b with
    | none => rfl
    | some y => exact absurd hb.1 (ha y)
  | some x =>
    cases b with
    | none => exact absurd ha.1 (hb x)
    | some y =>
      have := ha.2 y hb.1
      have := hb.2 x ha.1
      exact congrArg some (by omega)

theorem Greatest.congr {P Q : Nat → Prop} {a : Option Nat} (h : Greatest P a)
    (hpq : ∀ x, P x ↔ Q x) : Greatest Q a := by
  have : P = Q := funext fun x => propext (hpq x)
  rwa [← this]

/-- One pass: the greatest that calls itself backup and not leader, else the greatest
that does not call itself leader; the greatest that calls itself leader, else the
backup. -/
def Elects (S D B : Nat → Prop) (r : Option Nat × Option Nat) : Prop :=
  ∃ declared fallback leader, Greatest (fun x => S x ∧ ¬ D x ∧ B x) declared ∧
    Greatest (fun x => S x ∧ ¬ D x) fallback ∧ Greatest (fun x => S x ∧ D x) leader ∧
    r = (leader.or (declared.or fallback), declared.or fallback)

/-- The role a candidate has in a result. -/
inductive Role
  | leader | backup | other
  deriving DecidableEq

def Role.of (r : Option Nat × Option Nat) (x : Nat) : Role :=
  if r.1 = some x then .leader else if r.2 = some x then .backup else .other

/-- The role a candidate said it has. -/
inductive Says (D B : Nat → Prop) (x : Nat) : Role → Prop where
  | leader : D x → Says D B x .leader
  | backup : ¬ D x → B x → Says D B x .backup
  | other : ¬ D x → ¬ B x → Says D B x .other

/-- `P` with its value at `x` replaced. -/
def put (P : Nat → Prop) (x : Nat) (q : Prop) : Nat → Prop := fun y => (y = x ∧ q) ∨ (y ≠ x ∧ P y)

/-- The election as run by `x`. -/
def ElectsAt (S D B : Nat → Prop) (x : Nat) (r : Option Nat × Option Nat) : Prop :=
  ∃ first role, Elects S D B first ∧ Says D B x role ∧
    ((¬ S x ∨ Role.of first x = role) ∧ r = first ∨
      S x ∧ Role.of first x ≠ role ∧
        Elects S (put D x (Role.of first x = .leader)) (put B x (Role.of first x = .backup)) r)

variable {S D B : Nat → Prop} {r : Option Nat × Option Nat} {x : Nat}

variable {r' : Option Nat × Option Nat} {X : Nat}

theorem elects_unique (h : Elects S D B r) (h' : Elects S D B r') : r = r' := by
  obtain ⟨d, f, l, hd, hf, hl, rfl⟩ := h
  obtain ⟨d', f', l', hd', hf', hl', rfl⟩ := h'
  rw [hd.unique hd', hf.unique hf', hl.unique hl']

theorem put_self (P : Nat → Prop) (x : Nat) (q : Prop) : put P x q x ↔ q := by simp [put]

theorem put_other (P : Nat → Prop) {x y : Nat} (q : Prop) (h : y ≠ x) : put P x q y ↔ P y := by
  simp [put, h]

/-! ## A single declared leader -/

/-- Exactly one candidate calls itself leader. -/
def Sole (S D : Nat → Prop) (X : Nat) : Prop := ∀ x, S x ∧ D x ↔ x = X

theorem Sole.greatest (h : Sole S D X) : Greatest (fun x => S x ∧ D x) (some X) :=
  ⟨(h X).mpr rfl, fun y hy => Nat.le_of_eq ((h y).mp hy)⟩

theorem Sole.elects_leader (h : Sole S D X) (he : Elects S D B r) : r.1 = some X := by
  obtain ⟨_, _, l, _, _, hl, rfl⟩ := he
  rw [hl.unique h.greatest]
  rfl

/-- A candidate other than the leader that corrects what it said gets the same
backup. -/
theorem Sole.elects_put (h : Sole S D X) (hx : x ≠ X) (hs : S x) (he : Elects S D B r)
    (he' : Elects S (put D x False) (put B x (r.2 = some x)) r')
    (changed : ¬ (B x ↔ r.2 = some x)) : r' = r := by
  have hD : ∀ y, S y → (put D x False y ↔ D y) := by
    intro y hy
    by_cases hyx : y = x
    · subst hyx
      rw [put_self]
      constructor
      · exact False.elim
      · intro hd
        exact hx ((h y).mp ⟨hy, hd⟩)
    · exact put_other D _ hyx
  have hDx : ¬ D x := fun hd => hx ((h x).mp ⟨hs, hd⟩)
  obtain ⟨d, f, l, hd, hf, hl, rfl⟩ := he
  obtain ⟨d', f', l', hd', hf', hl', rfl⟩ := he'
  have samel : l' = l := by
    apply hl'.unique
    apply hl.congr
    intro y
    exact and_congr_right fun hy => (hD y hy).symm
  have sameb : d'.or f' = d.or f := by
    cases d with
    | none =>
      -- Nobody else said it is the backup, so `x` was the fallback.
      have hB : ¬ B x := fun hb => hd x ⟨hs, hDx, hb⟩
      have chosen : f = some x := by
        apply Classical.byContradiction
        intro hne
        exact changed ⟨fun hb => absurd hb hB, fun heq => absurd heq hne⟩
      have now : d' = some x := by
        apply hd'.unique
        refine ⟨⟨hs, fun hp => hDx ((hD x hs).mp hp), (put_self B x _).mpr chosen⟩, ?_⟩
        rintro y ⟨hy, hnd, hb⟩
        by_cases hyx : y = x
        · exact Nat.le_of_eq hyx
        · have hby := (put_other B _ hyx).mp hb
          exact absurd ⟨hy, fun hdy => hnd ((hD y hy).mpr hdy), hby⟩ (hd y)
      rw [now, chosen]
      rfl
    | some z =>
      -- `x` takes back what it said in favour of a better one.
      have hzx : z ≠ x := by
        rintro rfl
        exact changed ⟨fun _ => rfl, fun _ => hd.1.2.2⟩
      have now : d' = some z := by
        apply hd'.unique
        refine ⟨⟨hd.1.1, fun hp => hd.1.2.1 ((hD z hd.1.1).mp hp),
          (put_other B _ hzx).mpr hd.1.2.2⟩, ?_⟩
        rintro y ⟨hy, hnd, hb⟩
        by_cases hyx : y = x
        · subst hyx
          rw [put_self] at hb
          simp only [Option.some_or, Option.some.injEq] at hb
          omega
        · exact hd.2 y ⟨hy, fun hdy => hnd ((hD y hy).mpr hdy), (put_other B _ hyx).mp hb⟩
      rw [now]
      rfl
  rw [samel, sameb]

theorem Says.unique {a b : Role} (ha : Says D B x a) (hb : Says D B x b) : a = b := by
  cases ha <;> cases hb <;> first | rfl | contradiction

/-- With one declared leader everybody comes to the result of the first pass. -/
theorem Sole.agrees (h : Sole S D X) {first : Option Nat × Option Nat}
    (hf : Elects S D B first) (he : ElectsAt S D B x r) : r = first := by
  obtain ⟨first', role, hf', said, ⟨_, rfl⟩ | ⟨hs, changed, second⟩⟩ := he
  · exact elects_unique hf' hf
  · rw [elects_unique hf' hf] at changed second
    have leads := h.elects_leader hf
    by_cases hx : x = X
    · subst hx
      have hd := ((h x).mpr rfl).2
      rw [said.unique (.leader hd), Role.of, if_pos leads] at changed
      exact absurd rfl changed
    · have hDx : ¬ D x := fun hd => hx ((h x).mp ⟨hs, hd⟩)
      have notLeader : first.1 ≠ some x := by
        rw [leads]
        simpa using Ne.symm hx
      have roleLeader : (Role.of first x = .leader) = False := by
        unfold Role.of
        rw [if_neg notLeader]
        split <;> simp
      have roleBackup : (Role.of first x = .backup) = (first.2 = some x) := by
        unfold Role.of
        split <;> simp_all
      rw [roleLeader, roleBackup] at second
      apply h.elects_put hx hs hf second
      intro same
      apply changed
      unfold Role.of
      rw [if_neg notLeader]
      by_cases hb : B x
      · rw [if_pos (same.mp hb), said.unique (.backup hDx hb)]
      · rw [if_neg (fun heq => hb (same.mpr heq)), said.unique (.other hDx hb)]

/-! ## Any declarations -/

/-- Whatever was declared, all come to the same leader, and there is one as soon as
there is a candidate. -/
theorem leader_agrees {first : Option Nat × Option Nat} (hf : Elects S D B first) {c : Nat}
    (hc : S c) : ∃ X, S X ∧ first.1 = some X ∧ ∀ x r, ElectsAt S D B x r → r.1 = some X := by
  have whole := hf
  obtain ⟨d, f, l, hd, hfall, hl, rfl⟩ := hf
  cases l with
  | some X =>
    refine ⟨X, hl.1.1, rfl, ?_⟩
    rintro x r ⟨first', role, hf', said, ⟨_, rfl⟩ | ⟨hs, changed, second⟩⟩
    · rw [elects_unique hf' whole]
      rfl
    · rw [elects_unique hf' whole] at changed second
      -- The greatest declared leader keeps saying so, whoever else takes it back.
      have stays : put D x (Role.of (some X, d.or f) x = .leader) X := by
        by_cases hx : X = x
        · subst hx
          rw [put_self]
          simp [Role.of]
        · exact (put_other D _ hx).mpr hl.1.2
      obtain ⟨_, _, l', _, _, hl', rfl⟩ := second
      have : l' = some X := by
        apply hl'.unique
        refine ⟨⟨hl.1.1, stays⟩, ?_⟩
        rintro y ⟨hy, hput⟩
        by_cases hyx : y = x
        · subst hyx
          rw [put_self] at hput
          simp only [Option.some_or, Role.of, Option.some.injEq] at hput
          by_cases hXy : X = y
          · exact Nat.le_of_eq hXy.symm
          · rw [if_neg hXy] at hput
            split at hput <;> cases hput
        · exact hl.2 y ⟨hy, (put_other D _ hyx).mp hput⟩
      rw [this]
      rfl
  | none =>
    -- Without a declared leader the backup of the first pass leads.
    have noLeader : ∀ y, S y → ¬ D y := fun y hy hdy => hl y ⟨hy, hdy⟩
    obtain ⟨Y, hY⟩ : ∃ Y, d.or f = some Y := by
      cases d with
      | some z => exact ⟨z, rfl⟩
      | none =>
        cases f with
        | some z => exact ⟨z, rfl⟩
        | none => exact absurd ⟨hc, noLeader c hc⟩ (hfall c)
    have hSY : S Y := by
      cases d with
      | some z =>
        cases hY
        exact hd.1.1
      | none =>
        rw [Option.none_or] at hY
        rw [hY] at hfall
        exact hfall.1.1
    refine ⟨Y, hSY, hY, ?_⟩
    rintro x r ⟨first', role, hf', said, ⟨_, rfl⟩ | ⟨hs, changed, second⟩⟩
    · rw [elects_unique hf' whole]
      exact hY
    · rw [elects_unique hf' whole] at changed second
      simp only [Option.none_or, hY] at changed second
      by_cases hx : x = Y
      · -- The new leader now said so, alone.
        subst hx
        have sole : Sole S (put D x (Role.of (some x, some x) x = .leader)) x := by
          intro y
          constructor
          · rintro ⟨hy, hput⟩
            apply Classical.byContradiction
            intro hyx
            exact noLeader y hy ((put_other D _ hyx).mp hput)
          · rintro rfl
            refine ⟨hs, (put_self D y _).mpr ?_⟩
            simp [Role.of]
        exact sole.elects_leader second
      · have hof : Role.of (some Y, some Y) x = .other := by
          have : ¬ Y = x := fun h => hx h.symm
          simp [Role.of, this]
        rw [hof] at changed second
        have hDx := noLeader x hs
        -- A change means that it called itself backup, next to a better one.
        have hBx : B x := by
          apply Classical.byContradiction
          intro hb
          exact changed ((Says.other hDx hb).unique said)
        obtain ⟨z, rfl⟩ : ∃ z, d = some z := by
          cases d with
          | some z => exact ⟨z, rfl⟩
          | none => exact absurd ⟨hs, hDx, hBx⟩ (hd x)
        cases hY
        obtain ⟨d', f', l', hd', hf', hl', rfl⟩ := second
        have noLeader' : ∀ y, S y → ¬ put D x (Role.other = .leader) y := by
          intro y hy hput
          by_cases hyx : y = x
          · subst hyx
            rw [put_self] at hput
            cases hput
          · exact noLeader y hy ((put_other D _ hyx).mp hput)
        have hl'' : l' = none := hl'.unique fun y hy => noLeader' y hy.1 hy.2
        have hd'' : d' = some Y := by
          apply hd'.unique
          refine ⟨⟨hSY, noLeader' Y hSY, (put_other B _ (Ne.symm hx)).mpr hd.1.2.2⟩, ?_⟩
          rintro y ⟨hy, _, hput⟩
          by_cases hyx : y = x
          · subst hyx
            rw [put_self] at hput
            cases hput
          · exact hd.2 y ⟨hy, noLeader y hy, (put_other B _ hyx).mp hput⟩
        rw [hl'', hd'']
        rfl

theorem no_candidate (hS : ∀ x, ¬ S x) (he : ElectsAt S D B x r) : r = (none, none) := by
  have empty : ∀ D B, Elects S D B r → r = (none, none) := by
    rintro D B ⟨d, f, l, hd, hf, hl, rfl⟩
    have hd' : d = none := hd.unique fun y hy => hS y hy.1
    have hf' : f = none := hf.unique fun y hy => hS y hy.1
    have hl' : l = none := hl.unique fun y hy => hS y hy.1
    rw [hd', hf', hl']
    rfl
  obtain ⟨first, _, hfirst, _, ⟨_, rfl⟩ | ⟨hs, _, _⟩⟩ := he
  · exact empty D B hfirst
  · exact absurd hs (hS x)

theorem ElectsAt.candidates (he : ElectsAt S D B x r) :
    (∀ y, r.1 = some y → S y) ∧ ∀ y, r.2 = some y → S y := by
  have pass : ∀ D B, Elects S D B r → (∀ y, r.1 = some y → S y) ∧ ∀ y, r.2 = some y → S y := by
    rintro D B ⟨d, f, l, hd, hf, hl, rfl⟩
    have hb : ∀ y, d.or f = some y → S y := by
      intro y hy
      cases d with
      | some z =>
        cases hy
        exact hd.1.1
      | none =>
        have hy' : f = some y := hy
        rw [hy'] at hf
        exact hf.1.1
    constructor
    · intro y hy
      cases l with
      | some z =>
        cases hy
        exact hl.1.1
      | none => exact hb y hy
    · exact hb
  obtain ⟨first, _, hfirst, _, ⟨_, rfl⟩ | ⟨_, _, second⟩⟩ := he
  · exact pass D B hfirst
  · exact pass _ _ second

/-! ## From one round to the next -/

/-- The backup beside a sole leader is another candidate, if there is one. -/
theorem Sole.backup (h : Sole S D X) (he : Elects S D B r) :
    (∀ z, r.2 = some z → S z ∧ z ≠ X) ∧ (r.2 = none → ∀ y, S y → y = X) := by
  obtain ⟨d, f, l, hd, hf, _, rfl⟩ := he
  have apart : ∀ y, S y → ¬ D y → y ≠ X := by
    rintro y hy hnd rfl
    exact hnd ((h y).mpr rfl).2
  constructor
  · intro z hz
    cases d with
    | some w =>
      cases hz
      exact ⟨hd.1.1, apart _ hd.1.1 hd.1.2.1⟩
    | none =>
      have hz' : f = some z := hz
      rw [hz'] at hf
      exact ⟨hf.1.1, apart _ hf.1.1 hf.1.2⟩
  · intro hz y hy
    have : f = none := by
      cases d with
      | some w => cases hz
      | none => exact hz
    rw [this] at hf
    apply Classical.byContradiction
    intro hne
    exact hf y ⟨hy, fun hdy => hne ((h y).mp ⟨hy, hdy⟩)⟩

/-- Once all have declared one leader, that leader alone declares itself. -/
theorem sole_of_declared {D' : Nat → Prop} (hX : S X)
    (hD : ∀ x, S x → (D' x ↔ X = x)) : Sole S D' X := by
  intro x
  constructor
  · rintro ⟨hs, hd⟩
    exact ((hD x hs).mp hd).symm
  · rintro rfl
    exact ⟨hX, (hD x hX).mpr rfl⟩

/-- A declared result is elected again, also among more candidates that declare
nothing. -/
theorem elects_declared {D' B' S' : Nat → Prop} (h : Sole S D X) (he : Elects S D B r)
    (hsub : ∀ x, S x → S' x) (hD : ∀ x, S' x → (D' x ↔ X = x))
    (hB : ∀ x, S' x → (B' x ↔ r.2 = some x)) (he' : Elects S' D' B' r') :
    r'.1 = some X ∧ (∀ z, r.2 = some z → r'.2 = some z) ∧ ((∀ x, S' x → S x) → r' = r) := by
  have hX := ((h X).mpr rfl).1
  have sole := sole_of_declared (hsub X hX) hD
  have leads := sole.elects_leader he'
  obtain ⟨backup, alone⟩ := h.backup he
  have kept : ∀ z, r.2 = some z → r'.2 = some z := by
    intro z hz
    obtain ⟨hs, hne⟩ := backup z hz
    obtain ⟨d, f, l, hd, _, _, rfl⟩ := he'
    have : d = some z := by
      apply hd.unique
      refine ⟨⟨hsub z hs, fun hdz => hne ((hD z (hsub z hs)).mp hdz).symm,
        (hB z (hsub z hs)).mpr hz⟩, ?_⟩
      rintro y ⟨hy, _, hby⟩
      have := (hB y hy).mp hby
      rw [hz] at this
      cases this
      exact Nat.le_refl _
    rw [this]
    rfl
  refine ⟨leads, kept, fun back => ?_⟩
  apply Prod.ext
  · rw [leads, h.elects_leader he]
  · cases hz : r.2 with
    | some z => exact kept z hz
    | none =>
      cases hz' : r'.2 with
      | none => rfl
      | some z =>
        obtain ⟨hs, hne⟩ := (sole.backup he').1 z hz'
        exact absurd (alone hz z (back z hs)) hne

end Election
