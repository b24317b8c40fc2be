import RouterSim.Mld.Transition

/-! The queries that go with a record. They lower the timers of the sources they ask about, and
with them the timers of the sources that a query under way still asks about. -/
namespace RouterSim.Mld

open Ip (Ipv6)
open List Table FilterState

section Slots

variable {queries : List PendingQuery} {kind : Bool}

def PendingQuery.active (query : PendingQuery) : Bool := query.transmissionsRemaining != 0#8

/-- The sources that a query of this kind under way asks about. -/
def pendingOf (queries : List PendingQuery) (kind : Bool) : List Ipv6 :=
  ((queries.find? fun query => query.active && query.multicastAddressQuery == kind).map
    (·.sources)).getD []

theorem pendingWell_pair {first second : PendingQuery} :
    PendingWell [first, second] ↔ (first.active = false → first.sources = []) ∧
      (second.active = false → second.sources = []) ∧
        (first.active = true → second.active = true →
          first.multicastAddressQuery ≠ second.multicastAddressQuery) := by
  constructor
  · rintro ⟨-, idle, kinds⟩
    simp only [pairwise_cons] at kinds
    refine ⟨fun idleFirst => idle first (by simp) (by simpa [PendingQuery.active] using idleFirst),
      fun idleSecond => idle second (by simp) (by simpa [PendingQuery.active] using idleSecond), ?_⟩
    simpa [PendingQuery.active] using kinds.1
  · rintro ⟨idleFirst, idleSecond, apart⟩
    refine ⟨rfl, ?_, by simpa [PendingQuery.active] using apart⟩
    simp only [mem_cons, not_mem_nil, settled, forall_eq_or_imp, forall_eq]
    exact ⟨fun idle => idleFirst (by simpa [PendingQuery.active] using idle),
      fun idle => idleSecond (by simpa [PendingQuery.active] using idle)⟩

theorem slotFor_pair (first second : PendingQuery) : slotFor [first, second] kind =
    if first.active = true ∧ first.multicastAddressQuery = kind then some 0
    else if second.active = true ∧ second.multicastAddressQuery = kind then some 1
    else if first.active = false then some 0
    else if second.active = false then some 1 else none := by
  have idle : ∀ query : PendingQuery, (query.transmissionsRemaining == 0#8) = !query.active := by
    intro query
    simp [PendingQuery.active, bne]
  simp only [slotFor, List.findIdx?_cons, show ∀ query : PendingQuery,
    (query.transmissionsRemaining != 0#8) = query.active from fun _ => rfl]
  grind

theorem pendingOf_pair (first second : PendingQuery) : pendingOf [first, second] kind =
    if first.active = true ∧ first.multicastAddressQuery = kind then first.sources
    else if second.active = true ∧ second.multicastAddressQuery = kind then second.sources
    else [] := by
  simp only [pendingOf, List.find?_cons]
  grind

/-- There is a place for every query, and it holds what is under way. -/
theorem slotFor_spec (well : PendingWell queries) (kind : Bool) :
    ∃ slot query, slotFor queries kind = some slot ∧ queries[slot]? = some query ∧
      query.sources = pendingOf queries kind ∧
        ∀ next : PendingQuery, next.multicastAddressQuery = kind → next.active = true →
          PendingWell (queries.set slot next) := by
  match queries, well.two with
  | [first, second], _ =>
    obtain ⟨idleFirst, idleSecond, apart⟩ := pendingWell_pair.mp well
    rw [slotFor_pair, pendingOf_pair]
    split
    · next same =>
      refine ⟨0, first, rfl, rfl, rfl, fun next kinds active => ?_⟩
      exact pendingWell_pair.mpr ⟨by simp [active], idleSecond, by grind⟩
    · next noneFirst =>
      split
      · next same =>
        refine ⟨1, second, rfl, rfl, rfl, fun next kinds active => ?_⟩
        exact pendingWell_pair.mpr ⟨idleFirst, by simp [active], by grind⟩
      · next noneSecond =>
        cases firstActive : first.active with
        | false =>
          refine ⟨0, first, rfl, rfl, idleFirst firstActive, fun next kinds active => ?_⟩
          exact pendingWell_pair.mpr ⟨by simp [active], idleSecond, by grind⟩
        | true =>
          cases secondActive : second.active with
          | false =>
            refine ⟨1, second, rfl, rfl, idleSecond secondActive, fun next kinds active => ?_⟩
            exact pendingWell_pair.mpr ⟨idleFirst, by simp [active], by grind⟩
          | true =>
            have one : first.multicastAddressQuery = !kind := by
              cases kind <;> simpa [firstActive] using noneFirst
            have two : second.multicastAddressQuery = !kind := by
              cases kind <;> simpa [secondActive] using noneSecond
            exact absurd (one.trans two.symm) (apart firstActive secondActive)

end Slots

section Scheduling

variable {sources queued : List Ipv6} {group : Group} {configuration : Configuration} {now : Int}

theorem length_foldl_pushNew (sources queued : List Ipv6) :
    queued.length ≤ (sources.foldl pushNew queued).length := by
  induction sources generalizing queued with
  | nil => exact Nat.le_refl _
  | cons first rest ih =>
    refine Nat.le_trans ?_ (ih _)
    unfold pushNew
    split <;> simp

theorem foldl_queue (fits : (setUnionBounded queued sources).length ≤ mldSourcesPerGroup) :
    sources.foldl queue queued = setUnionBounded queued sources := by
  unfold setUnionBounded at fits ⊢
  induction sources generalizing queued with
  | nil => rfl
  | cons first rest ih =>
    rw [foldl_cons] at fits ⊢
    have same : queue queued first = pushNew queued first := by
      unfold queue pushNew
      by_cases there : first ∈ queued
      · simp [there]
      · have grown := length_foldl_pushNew rest (pushNew queued first)
        simp only [pushNew, there, settled, length_append, length_singleton] at grown fits
        have room : queued.length < mldSourcesPerGroup := by omega
        simp [room]
    rw [same]
    exact ih fits

section

variable (deadline : Int)

@[simp] theorem Source.lower_keeps (source : Source) :
    (source.lower queued deadline).address = source.address ∧
      (source.lower queued deadline).timerRunning = source.timerRunning := by
  unfold Source.lower
  split <;> exact ⟨rfl, rfl⟩

theorem lower_timers :
    (fun a => (lookup Source.address a
      (group.sources.map (Source.lower queued deadline))).bind fun source =>
        if source.timerRunning then some source.expires else none) =
      group.timers.lower queued.contains deadline := by
  funext a
  rw [lookup_map fun source => (Source.lower_keeps deadline source).1, Timers.lower, Group.timers]
  cases found : lookup Source.address a group.sources with
  | none => simp
  | some source =>
    obtain rfl := key_of_lookup found
    cases running : source.timerRunning <;> grind [Source.lower]

theorem lower_zeros :
    (fun a => (lookup Source.address a
      (group.sources.map (Source.lower queued deadline))).any fun source =>
        !source.timerRunning) = group.zeros := by
  funext a
  rw [lookup_map fun source => (Source.lower_keeps deadline source).1, Group.zeros]
  cases lookup Source.address a group.sources with
  | none => rfl
  | some source =>
    simp only [Option.map_some, Source.lower]
    split <;> rfl

@[simp] theorem lowerFilter_keeps :
    (group.lowerFilter deadline).pendingQueries = group.pendingQueries ∧
      (group.lowerFilter deadline).mode = group.mode ∧
      (group.lowerFilter deadline).sources = group.sources ∧
      (group.lowerFilter deadline).filterTimerRunning = group.filterTimerRunning := by
  unfold Group.lowerFilter
  split <;> exact ⟨rfl, rfl, rfl, rfl⟩

/-- A query changes nothing of the group but its deadlines. -/
theorem scheduleQuery_keeps (configuration : Configuration) (querier : Bool) (group : Group)
    (kind : Bool) (sources : List Ipv6) (now : Int) :
    let asked := scheduleQuery configuration querier group kind sources now
    asked.multicastAddress = group.multicastAddress ∧ asked.mode = group.mode ∧
      asked.filterTimerRunning = group.filterTimerRunning ∧
        asked.sources.map Source.address = group.sources.map Source.address ∧
          asked.sources.map Source.timerRunning = group.sources.map Source.timerRunning := by
  intro asked
  have made : asked = scheduleQuery configuration querier group kind sources now := rfl
  unfold scheduleQuery at made
  split at made
  · exact made ▸ ⟨rfl, rfl, rfl, rfl, rfl⟩
  split at made
  · exact made ▸ ⟨rfl, rfl, rfl, rfl, rfl⟩
  cases kind with
  | true =>
    simp only [if_true] at made
    rw [made]
    refine ⟨?_, by simp, by simp, by simp, by simp⟩
    unfold Group.lowerFilter
    split <;> rfl
  | false =>
    rw [made]
    simp

theorem scheduleQuery_pending (well : PendingWell group.pendingQueries)
    (robust : configuration.robustnessVariable ≠ 0#8) (querier kind : Bool) (sources : List Ipv6) :
    PendingWell (scheduleQuery configuration querier group kind sources now).pendingQueries := by
  obtain ⟨slot, query, place, -, -, keeps⟩ := slotFor_spec well kind
  unfold scheduleQuery
  split
  · exact well
  rw [place]
  have active : (configuration.robustnessVariable != 0#8) = true := by simpa using robust
  cases kind with
  | true =>
    simp only [if_true, lowerFilter_keeps]
    exact keeps _ rfl active
  | false =>
    exact keeps _ rfl active

theorem scheduleQuery_well (well : GroupWell group)
    (robust : configuration.robustnessVariable ≠ 0#8) (querier kind : Bool)
    (sources : List Ipv6) (now : Int) :
    GroupWell (scheduleQuery configuration querier group kind sources now) := by
  obtain ⟨-, mode, filtered, addresses, -⟩ :=
    scheduleQuery_keeps configuration querier group kind sources now
  refine ⟨?_, scheduleQuery_pending well.pending robust querier kind sources, ?_⟩
  · rw [addresses]
    exact well.distinct
  · rw [mode, filtered]
    exact well.filtered

/-- A query for sources lowers the timers of those it asks about, and of those it was asking
about before. -/
theorem scheduleQuery_sources (configuration : Configuration) (now : Int)
    (well : PendingWell group.pendingQueries) (short : sources.length ≤ mldSourcesPerGroup)
    (fits : (setUnionBounded (pendingOf group.pendingQueries false) sources).length ≤
      mldSourcesPerGroup) :
    (scheduleQuery configuration true group false sources now).view =
      group.view.inquire (now + configuration.lastListenerQueryTime)
        (.sources (setUnionBounded (pendingOf group.pendingQueries false) sources).contains) := by
  obtain ⟨slot, query, place, there, queued, -⟩ := slotFor_spec well false
  have gathered : sources.foldl queue (group.pendingQueries.getD slot {}).sources =
      setUnionBounded (pendingOf group.pendingQueries false) sources := by
    rw [getD_eq_getElem?_getD, there, Option.getD_some, queued]
    exact foldl_queue fits
  rw [scheduleQuery, if_neg (by simp; omega), place]
  simp only [settled, gathered]
  cases mode : group.mode with
  | includeMode =>
    simp only [Group.view, mode, inquire, includes.injEq]
    exact lower_timers _
  | excludeMode =>
    simp only [Group.view, mode, inquire, excludes.injEq, settled]
    exact ⟨lower_timers _, lower_zeros _⟩

theorem lowerFilter_view (filtered : group.mode = .excludeMode → group.filterTimerRunning = true) :
    (group.lowerFilter deadline).view = group.view.inquire deadline .group := by
  cases mode : group.mode with
  | includeMode =>
    unfold Group.lowerFilter
    split
    · simp [Group.view, mode]
      rfl
    · simp [Group.view, mode, inquire]
  | excludeMode =>
    unfold Group.lowerFilter
    split
    · next lowered =>
      have low : min group.filterDeadline deadline = deadline := by omega
      simp only [Group.view, mode, inquire, low]
      rfl
    · next kept =>
      have high : min group.filterDeadline deadline = group.filterDeadline := by
        have := filtered mode
        grind
      simp [Group.view, mode, inquire, high]

end

theorem scheduleQuery_group (well : GroupWell group) :
    (scheduleQuery configuration true group true [] now).view =
      group.view.inquire (now + configuration.lastListenerQueryTime) .group := by
  obtain ⟨slot, query, place, -⟩ := slotFor_spec well.pending true
  rw [scheduleQuery, if_neg (by simp), place]
  simp only [if_true]
  rw [lowerFilter_view]
  · rfl
  · exact well.filtered

end Scheduling

end RouterSim.Mld
