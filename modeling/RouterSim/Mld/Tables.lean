import RouterSim.Mld.Router

/-! What a router keeps of a group's listeners, over any type of addresses, and the tables by which
a record changes it. Sources are sets here: those whose timers run, with the times these end, and
those whose timers are zero. -/
namespace RouterSim.Mld

open Option

variable {α : Type}

abbrev Timers (α : Type) := α → Option Int

namespace Timers

/-- `A+B` with `(B)=deadline`. -/
def plus (timers : Timers α) (listed : α → Bool) (deadline : Int) : Timers α :=
  fun a => if listed a then some deadline else timers a

/-- `A*B`. -/
def times (timers : Timers α) (listed : α → Bool) : Timers α :=
  fun a => if listed a then timers a else none

/-- `A-Y` with `(A-X-Y)=deadline`. -/
def requesting (timers : Timers α) (listed excluded : α → Bool) (deadline : Int) : Timers α :=
  fun a => if listed a && !excluded a then some ((timers a).getD deadline) else none

/-- `X+(A-Y)` with `(A-X-Y)=deadline`. -/
def joining (timers : Timers α) (listed excluded : α → Bool) (deadline : Int) : Timers α :=
  fun a => (timers a).or (if listed a && !excluded a then some deadline else none)

def lower (timers : Timers α) (queried : α → Bool) (deadline : Int) : Timers α :=
  fun a => if queried a then (timers a).map (min · deadline) else timers a

def running (timers : Timers α) (now : Int) : Timers α :=
  fun a => (timers a).filter fun deadline => decide (now < deadline)

/-- No timer is due. -/
def Live (timers : Timers α) (now : Int) : Prop :=
  ∀ a deadline, timers a = some deadline → now < deadline

end Timers

inductive FilterState (α : Type)
  | includes (requested : Timers α)
  | excludes (requested : Timers α) (excluded : α → Bool) (filter : Int)

/-- A query to the listeners, for some sources or for the whole group. -/
inductive Inquiry (α : Type)
  | sources (queried : α → Bool)
  | group

namespace FilterState

/-- The next state. -/
def table (type : RecordType) (listed : α → Bool) (mali : Int) : FilterState α → FilterState α
  | includes requested =>
    match type with
    | .modeIsInclude | .allowNewSources | .changeToInclude => includes (requested.plus listed mali)
    | .modeIsExclude | .changeToExclude =>
      excludes (requested.times listed) (fun a => listed a && (requested a).isNone) mali
    | .blockOldSources => includes requested
  | excludes requested excluded filter =>
    match type with
    | .modeIsInclude | .allowNewSources | .changeToInclude =>
      excludes (requested.plus listed mali) (fun a => excluded a && !listed a) filter
    | .modeIsExclude =>
      excludes (requested.requesting listed excluded mali) (fun a => excluded a && listed a) mali
    | .changeToExclude =>
      excludes (requested.requesting listed excluded filter) (fun a => excluded a && listed a) mali
    | .blockOldSources => excludes (requested.joining listed excluded filter) excluded filter

/-- The queries that go with it. -/
def inquiries (type : RecordType) (listed : α → Bool) : FilterState α → List (Inquiry α)
  | includes requested =>
    match type with
    | .blockOldSources | .changeToExclude => [.sources fun a => (requested a).isSome && listed a]
    | .changeToInclude => [.sources fun a => (requested a).isSome && !listed a]
    | _ => []
  | excludes requested excluded _ =>
    match type with
    | .blockOldSources | .changeToExclude => [.sources fun a => listed a && !excluded a]
    | .changeToInclude => [.sources fun a => (requested a).isSome && !listed a, .group]
    | _ => []

/-- A querier lowers the timers of what it asks about. -/
def inquire (lowerTo : Int) : FilterState α → Inquiry α → FilterState α
  | includes requested, .sources queried => includes (requested.lower queried lowerTo)
  | excludes requested excluded filter, .sources queried =>
    excludes (requested.lower queried lowerTo) excluded filter
  | includes requested, .group => includes requested
  | excludes requested excluded filter, .group => excludes requested excluded (min filter lowerTo)

def respond (querier : Bool) (type : RecordType) (listed : α → Bool) (mali lowerTo : Int)
    (state : FilterState α) : FilterState α :=
  if querier then
    (state.inquiries type listed).foldl (inquire lowerTo) (state.table type listed mali)
  else state.table type listed mali

/-- Every timer that is due runs out. -/
def expire (now : Int) : FilterState α → FilterState α
  | includes requested => includes (requested.running now)
  | excludes requested excluded filter =>
    if filter ≤ now then includes (requested.running now)
    else
      excludes (requested.running now)
        (fun a => excluded a || (requested a).any fun deadline => decide (deadline ≤ now)) filter

/-- Whether to forward from the source. -/
def accepts (a : α) (now : Int) : FilterState α → Bool
  | includes requested => (requested a).any fun deadline => decide (now < deadline)
  | excludes _ excluded _ => !excluded a

/-- The timers of a state. -/
def timers : FilterState α → Timers α
  | includes requested => requested
  | excludes requested _ _ => requested

/-- A state without its deadlines. -/
def shape : FilterState α → Bool × (α → Bool) × (α → Bool)
  | includes requested => (true, fun a => (requested a).isSome, fun _ => false)
  | excludes requested excluded _ => (false, fun a => (requested a).isSome, excluded)

def Settled (now : Int) : FilterState α → Prop
  | includes requested => requested.Live now
  | excludes requested _ filter => requested.Live now ∧ now < filter

end FilterState

section Settling

variable {timers : Timers α} {listed excluded queried : α → Bool} {now deadline : Int}

theorem Timers.running_live : (timers.running now).Live now := by
  intro a deadline running
  obtain ⟨-, later⟩ := filter_eq_some_iff.mp running
  exact of_decide_eq_true later

section

variable (live : timers.Live now)
include live

theorem Timers.Live.running : timers.running now = timers := by
  funext a
  cases timer : timers a with
  | none => simp [Timers.running, timer]
  | some deadline => simp [Timers.running, timer, live a deadline timer]

variable (later : now < deadline)
include later

theorem Timers.Live.plus : (timers.plus listed deadline).Live now := by
  intro a d timer
  unfold Timers.plus at timer
  split at timer
  · cases timer
    exact later
  · exact live a d timer

omit later in
theorem Timers.Live.times : (timers.times listed).Live now := by
  intro a d timer
  unfold Timers.times at timer
  split at timer
  · exact live a d timer
  · cases timer

theorem Timers.Live.requesting : (timers.requesting listed excluded deadline).Live now := by
  intro a d timer
  unfold Timers.requesting at timer
  split at timer
  · cases own : timers a with
    | none =>
      simp only [own, Option.some.injEq] at timer
      exact timer ▸ later
    | some kept =>
      simp only [own, Option.some.injEq] at timer
      exact timer ▸ live a kept own
  · cases timer

theorem Timers.Live.joining : (timers.joining listed excluded deadline).Live now := by
  intro a d timer
  unfold Timers.joining at timer
  cases own : timers a with
  | none =>
    simp only [own, none_or, ite_none_right_eq_some, Option.some.injEq] at timer
    exact timer.2 ▸ later
  | some kept =>
    simp only [own, some_or, Option.some.injEq] at timer
    exact timer ▸ live a kept own

theorem Timers.Live.lower : (timers.lower queried deadline).Live now := by
  intro a d timer
  unfold Timers.lower at timer
  split at timer
  · obtain ⟨kept, own, rfl⟩ := map_eq_some_iff.mp timer
    have before := live a kept own
    omega
  · exact live a d timer

end

namespace FilterState

variable {state : FilterState α} {mali lowerTo : Int} {type : RecordType} {querier : Bool}

theorem expire_settled : (state.expire now).Settled now := by
  cases state with
  | includes requested => exact Timers.running_live
  | excludes requested excluded filter =>
    by_cases due : filter ≤ now
    · rw [FilterState.expire, if_pos due]
      exact Timers.running_live
    · rw [FilterState.expire, if_neg due]
      exact ⟨Timers.running_live, by omega⟩

variable (settled : state.Settled now)
include settled

theorem Settled.expire : state.expire now = state := by
  cases state with
  | includes requested => rw [FilterState.expire, Timers.Live.running settled]
  | excludes requested excluded filter =>
    obtain ⟨live, later⟩ := settled
    rw [FilterState.expire, if_neg (by omega), live.running]
    congr
    funext a
    cases timer : requested a with
    | none => simp
    | some deadline =>
      have := live a deadline timer
      simp only [any_some, Bool.or_eq_left_iff_imp, asserted]
      omega

theorem Settled.table (later : now < mali) : (state.table type listed mali).Settled now := by
  cases state with
  | includes requested =>
    have live : requested.Live now := settled
    cases type with
    | modeIsInclude | allowNewSources | changeToInclude => exact live.plus later
    | modeIsExclude | changeToExclude => exact ⟨live.times, later⟩
    | blockOldSources => exact live
  | excludes requested excluded filter =>
    obtain ⟨live, before⟩ := settled
    cases type with
    | modeIsInclude | allowNewSources | changeToInclude => exact ⟨live.plus later, before⟩
    | modeIsExclude => exact ⟨live.requesting later, later⟩
    | changeToExclude => exact ⟨live.requesting before, later⟩
    | blockOldSources => exact ⟨live.joining before, before⟩

theorem Settled.inquire (later : now < lowerTo) (inquiry : Inquiry α) :
    (state.inquire lowerTo inquiry).Settled now := by
  cases state with
  | includes requested =>
    cases inquiry with
    | sources queried => exact Timers.Live.lower settled later
    | group => exact settled
  | excludes requested excluded filter =>
    obtain ⟨live, before⟩ := settled
    cases inquiry with
    | sources queried => exact ⟨live.lower later, before⟩
    | group => exact ⟨live, by omega⟩

/-- Nothing is due after a record when nothing was before. -/
theorem Settled.respond (later : now < mali) (lower : now < lowerTo) :
    (state.respond querier type listed mali lowerTo).Settled now := by
  have keeps : ∀ (inquiries : List (Inquiry α)) {next : FilterState α}, next.Settled now →
      (inquiries.foldl (FilterState.inquire lowerTo) next).Settled now := by
    intro inquiries
    induction inquiries with
    | nil => exact id
    | cons inquiry rest ih => exact fun next => ih (next.inquire lower inquiry)
  unfold FilterState.respond
  split
  · exact keeps _ (settled.table later)
  · exact settled.table later

end FilterState

end Settling

section Lowering

variable {timers : Timers α} {more fewer : α → Bool} {lowerTo : Int} {state : FilterState α}

/-- To ask about more sources makes a difference to those whose timers run for longer. -/
theorem Timers.lower_eq_iff (sub : ∀ a, fewer a = true → more a = true) :
    timers.lower more lowerTo = timers.lower fewer lowerTo ↔
      ∀ a, more a = true → fewer a = false → ∀ deadline, timers a = some deadline →
        deadline ≤ lowerTo := by
  constructor
  · intro same a asked left deadline timer
    have same := congrFun same a
    simp only [Timers.lower, asked, left, timer, settled, map_some, Option.some.injEq] at same
    omega
  · intro short
    funext a
    unfold Timers.lower
    cases asked : more a with
    | false =>
      have left : fewer a = false := by
        apply Bool.eq_false_iff.mpr
        intro other
        rw [sub a other] at asked
        cases asked
      simp [left]
    | true =>
      cases left : fewer a with
      | true => rfl
      | false =>
        cases timer : timers a with
        | none => simp
        | some deadline =>
          have := short a asked left deadline timer
          have low : min deadline lowerTo = deadline := by omega
          simp [low]

namespace FilterState

@[simp] theorem timers_inquire_sources (queried : α → Bool) :
    (state.inquire lowerTo (.sources queried)).timers = state.timers.lower queried lowerTo := by
  cases state <;> rfl

@[simp] theorem timers_inquire_group : (state.inquire lowerTo .group).timers = state.timers := by
  cases state <;> rfl

theorem inquire_sources_congr
    (same : state.timers.lower more lowerTo = state.timers.lower fewer lowerTo) :
    state.inquire lowerTo (.sources more) = state.inquire lowerTo (.sources fewer) := by
  cases state with
  | includes requested => exact congrArg includes same
  | excludes requested excluded filter =>
    exact congrArg (fun timers => excludes timers excluded filter) same

@[simp] theorem shape_inquire (inquiry : Inquiry α) :
    (state.inquire lowerTo inquiry).shape = state.shape := by
  have keeps : ∀ (queried : α → Bool) (timers : Timers α),
      (fun a => (timers.lower queried lowerTo a).isSome) = fun a => (timers a).isSome := by
    intro queried timers
    funext a
    unfold Timers.lower
    split <;> simp
  cases state <;> cases inquiry <;> simp [inquire, shape, keeps]

@[simp] theorem shape_foldl (inquiries : List (Inquiry α)) :
    (inquiries.foldl (inquire lowerTo) state).shape = state.shape := by
  induction inquiries generalizing state with
  | nil => rfl
  | cons inquiry rest ih => exact ih.trans (shape_inquire inquiry)

theorem timers_foldl_group {inquiries : List (Inquiry α)}
    (group : ∀ inquiry ∈ inquiries, inquiry = .group) :
    (inquiries.foldl (inquire lowerTo) state).timers = state.timers := by
  induction inquiries generalizing state with
  | nil => rfl
  | cons inquiry rest ih =>
    obtain ⟨rfl, others⟩ := List.forall_mem_cons.mp group
    exact (ih others).trans timers_inquire_group

theorem shape_respond {querier : Bool} {type : RecordType} {listed : α → Bool} {mali : Int} :
    (state.respond querier type listed mali lowerTo).shape =
      (state.table type listed mali).shape := by
  unfold respond
  split
  · exact shape_foldl _
  · rfl

end FilterState

end Lowering

end RouterSim.Mld
