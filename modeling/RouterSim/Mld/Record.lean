import RouterSim.Mld.Inquiries

/-! A record changes its group as the tables say exactly when it overlooks no timer that is due
and no query under way disturbs a source that it does not ask about. -/
namespace RouterSim.Mld

open Ip (Ipv6)
open List FilterState

/-- Records that make a querier ask the listeners. -/
def asks : RecordType → Bool
  | .blockOldSources | .changeToExclude | .changeToInclude => true
  | .modeIsInclude | .modeIsExclude | .allowNewSources => false

/-- To include is to have a running timer for every source that is stored. -/
def AllRunning (group : Group) : Prop :=
  group.mode = .includeMode → ∀ source ∈ group.sources, source.timerRunning = true

/-- The sources a record asks about. -/
def recordQuery (type : RecordType) (incoming : List Ipv6) (now : Int) (group : Group) :
    List Ipv6 :=
  querySources type group.mode (requestedSources group now) (excludedSources group now) incoming

/-- A query has room for them beside those of the query under way. -/
def QueryFits (querier : Bool) (type : RecordType) (incoming : List Ipv6) (now : Int)
    (group : Group) : Prop :=
  asks type = true → querier = true →
    (recordQuery type incoming now group).length ≤ mldSourcesPerGroup ∧
      (setUnionBounded (pendingOf group.pendingQueries false)
        (recordQuery type incoming now group)).length ≤ mldSourcesPerGroup

/-- No other source that a query under way asks about has a timer that this one would lower. -/
def Undisturbed (configuration : Configuration) (querier : Bool) (type : RecordType)
    (incoming : List Ipv6) (now : Int) (group : Group) : Prop :=
  asks type = true → querier = true → ∀ a ∈ pendingOf group.pendingQueries false,
    a ∉ recordQuery type incoming now group → ∀ deadline,
      ((group.view.expire now).table type incoming.contains
        (now + configuration.multicastAddressListeningInterval)).timers a = some deadline →
          deadline ≤ now + configuration.lastListenerQueryTime

variable {configuration : Configuration} {querier : Bool} {type : RecordType}
  {incoming : List Ipv6} {now : Int} {group : Group}

section Changed

variable {active blocked : List Ipv6} {mali deadline : Int}

@[simp] theorem isInclude_pendingQueries :
    (isInclude group active blocked incoming mali).pendingQueries = group.pendingQueries := by
  unfold isInclude
  split <;> rfl

@[simp] theorem isExclude_pendingQueries :
    (isExclude group active blocked incoming deadline mali).pendingQueries =
      group.pendingQueries := by
  unfold isExclude
  split <;> rfl

theorem changed_pendingQueries :
    (changed configuration type incoming now group).pendingQueries = group.pendingQueries := by
  cases type <;> simp only [changed, isInclude_pendingQueries, isExclude_pendingQueries] <;>
    first | rfl | (split <;> rfl)

theorem setState_distinct (mode : FilterMode) {refresh : List Ipv6}
    (distinctActive : active.Nodup) (distinctBlocked : blocked.Nodup) :
    ((setState group mode active blocked refresh deadline).sources.map Source.address).Nodup := by
  have addresses : (setState group mode active blocked refresh deadline).sources.map
      Source.address = active ++ blocked.filter (· ∉ active) := by
    simp [setState, activeSource, Function.comp_def]
  rw [addresses, nodup_append]
  refine ⟨distinctActive, distinctBlocked.filter _, ?_⟩
  rintro a mem b other rfl
  simpa [mem] using (mem_filter.mp other).2

theorem requestedSources_nodup (now : Int) (well : GroupWell group) :
    (requestedSources group now).Nodup :=
  (filter_sublist.map Source.address).nodup well.distinct

theorem excludedSources_nodup (well : GroupWell group) : (excludedSources group now).Nodup :=
  (filter_sublist.map Source.address).nodup well.distinct

theorem isInclude_well (well : GroupWell group) :
    GroupWell (isInclude group (requestedSources group now) (excludedSources group now) incoming
      mali) := by
  have active := setUnionBounded_nodup incoming (requestedSources_nodup now well)
  unfold isInclude
  cases mode : group.mode with
  | includeMode => exact ⟨setState_distinct _ active .nil, well.pending, nofun⟩
  | excludeMode =>
    exact ⟨setState_distinct _ active selectSources_nodup, well.pending,
      fun _ => well.filtered mode⟩

theorem isExclude_well (well : GroupWell group) :
    GroupWell (isExclude group (requestedSources group now) (excludedSources group now) incoming
      deadline mali) := by
  unfold isExclude
  cases group.mode <;>
    exact ⟨setState_distinct .excludeMode selectSources_nodup selectSources_nodup, well.pending,
      fun _ => rfl⟩

theorem changed_well (configuration : Configuration) (type : RecordType) (incoming : List Ipv6)
    (now : Int) (well : GroupWell group) :
    GroupWell (changed configuration type incoming now group) := by
  have active := setUnionBounded_nodup incoming (requestedSources_nodup now well)
  cases type with
  | modeIsInclude | changeToInclude => exact isInclude_well well
  | modeIsExclude | changeToExclude => exact isExclude_well well
  | allowNewSources =>
    exact ⟨setState_distinct _ active selectSources_nodup, well.pending, well.filtered⟩
  | blockOldSources =>
    unfold changed
    cases mode : group.mode with
    | includeMode => exact well
    | excludeMode =>
      exact ⟨setState_distinct _ (setUnionBounded_nodup _ (requestedSources_nodup _ well))
        (excludedSources_nodup well), well.pending, fun _ => well.filtered mode⟩

theorem setState_running {mode : FilterMode} {refresh : List Ipv6} :
    (∀ source ∈ (setState group mode active blocked refresh deadline).sources,
      source.timerRunning = true) ↔ ∀ a ∈ blocked, a ∈ active := by
  simp only [setState, mem_append, mem_map, mem_filter, asserted]
  constructor
  · intro running a mem
    apply Decidable.of_not_not
    intro absent
    have := running _ (.inr ⟨a, ⟨mem, absent⟩, rfl⟩)
    cases this
  · rintro sub source (⟨a, mem, rfl⟩ | ⟨a, ⟨mem, absent⟩, rfl⟩)
    · rfl
    · exact absurd (sub a mem) absent

theorem timely_running (timely : Timely type incoming now group) :
    AllRunning (changed configuration type incoming now group) := by
  unfold Timely at timely
  intro including
  cases mode : group.mode with
  | includeMode =>
    simp only [mode] at timely
    cases type with
    | modeIsInclude | changeToInclude =>
      simp only [changed, isInclude, mode]
      exact setState_running.mpr (by simp)
    | modeIsExclude | changeToExclude =>
      simp only [changed, isExclude, mode] at including
      cases including
    | allowNewSources =>
      apply setState_running.mpr
      intro a mem
      obtain ⟨excluded, absent⟩ := mem_setDifference.mp mem
      obtain ⟨source, idle, rfl⟩ := mem_map.mp excluded
      obtain ⟨stored, idle⟩ := mem_filter.mp idle
      obtain live | listed := timely source stored
      · simp [live] at idle
      · exact absurd listed absent
    | blockOldSources =>
      simp only [changed, mode]
      intro source stored
      have live := timely source stored
      exact (Bool.and_eq_true_iff.mp live).1
  | excludeMode =>
    cases type <;> simp [changed, isInclude, isExclude, mode] at including

theorem known_of_requesting (well : GroupWell group)
    (same : (fun a => ((group.timers.running now).requesting incoming.contains
      (excludedSources group now).contains deadline a).isSome) =
        fun a => ((group.timers.running now).times incoming.contains a).isSome) :
    ∀ a ∈ incoming, a ∈ group.sources.map Source.address := by
  intro a listed
  by_cases requested : a ∈ requestedSources group now
  · exact (filter_sublist.map Source.address).subset requested
  · have excluded : a ∈ excludedSources group now := by
      simpa [Timers.requesting, Timers.times, listed, running_none well requested] using
        congrFun same a
    exact (filter_sublist.map Source.address).subset excluded

/-- An untimely record shows, whatever the deadlines are. -/
theorem timely_of_shape (well : GroupWell group)
    (shape : (changed configuration type incoming now group).view.shape =
      ((group.view.expire now).table type incoming.contains
        (now + configuration.multicastAddressListeningInterval)).shape)
    (running : AllRunning (changed configuration type incoming now group)) :
    Timely type incoming now group := by
  unfold Timely
  cases mode : group.mode with
  | includeMode =>
    cases type with
    | modeIsInclude | changeToInclude | modeIsExclude | changeToExclude => trivial
    | allowNewSources =>
      intro source stored
      have sub := setState_running.mp (running mode)
      by_cases live : source.requested now = true
      · exact .inl live
      · by_cases listed : source.address ∈ incoming
        · exact .inr listed
        · have idle : source.address ∈ excludedSources group now :=
            mem_map.mpr ⟨source, mem_filter.mpr ⟨stored, by simpa using live⟩, rfl⟩
          have active := sub _ (mem_setDifference.mpr ⟨idle, listed⟩)
          obtain active | active := mem_setUnionBounded.mp active
          · exact absurd idle (excluded_apart well active)
          · exact absurd active listed
    | blockOldSources =>
      intro source stored
      simp only [changed, mode] at running shape
      have timer := running mode source stored
      rw [view_expire_include mode] at shape
      simp only [Group.view, mode, FilterState.shape, FilterState.table, Prod.mk.injEq,
        settled] at shape
      have same := congrFun shape source.address
      have found := Table.lookup_of_mem well.distinct stored
      simpa [Group.timers, Timers.running, found, timer, Source.requested] using same
  | excludeMode =>
    by_cases later : now < group.filterDeadline
    · exact .inl later
    · right
      rw [view_expire_due mode (by omega)] at shape
      cases type with
      | modeIsInclude | changeToInclude | allowNewSources | blockOldSources =>
        simp [changed, isInclude, mode, Group.view, FilterState.shape, FilterState.table] at shape
      | modeIsExclude | changeToExclude =>
        refine ⟨by simp, ?_⟩
        simp only [changed, isExclude, mode, Group.view, setState_mode, FilterState.shape,
          FilterState.table, Prod.mk.injEq, settled] at shape
        apply known_of_requesting well
        refine Eq.trans ?_ shape.1
        funext a
        exact congrArg Option.isSome (congrFun (requesting_timers well).symm a)

theorem changed_iff (well : GroupWell group) :
    (changed configuration type incoming now group).view =
          (group.view.expire now).table type incoming.contains
            (now + configuration.multicastAddressListeningInterval) ∧
        AllRunning (changed configuration type incoming now group) ↔
      Timely type incoming now group :=
  ⟨fun h => timely_of_shape well (congrArg FilterState.shape h.1) h.2,
    fun timely => ⟨changed_view well timely, timely_running timely⟩⟩

end Changed

section Asking

/-- The queries of a record, once its state is set. -/
def askGroup (configuration : Configuration) (querier : Bool) (type : RecordType)
    (incoming : List Ipv6) (now : Int) (group next : Group) : Group :=
  let asked :=
    scheduleQuery configuration querier next false (recordQuery type incoming now group) now
  if type = .changeToInclude ∧ group.mode = .excludeMode then
    scheduleQuery configuration querier asked true [] now
  else asked

theorem transition_plain (plain : asks type = false) :
    transition configuration querier type incoming now group =
      changed configuration type incoming now group := by
  cases type <;> first | rfl | cases plain

theorem transition_asks (asking : asks type = true) (young : group.olderHostPresent = false) :
    transition configuration querier type incoming now group =
      askGroup configuration querier type incoming now group
        (changed configuration type incoming now group) := by
  cases type with
  | modeIsInclude | modeIsExclude | allowNewSources => cases asking
  | blockOldSources | changeToExclude | changeToInclude =>
    cases mode : group.mode <;> simp [transition, askGroup, changed, recordQuery, young, mode]

variable {next : Group}

theorem askGroup_quiet : askGroup configuration false type incoming now group next = next := by
  simp [askGroup, scheduleQuery]

theorem inquiries_plain (plain : asks type = false) {state : FilterState Ipv6}
    {listed : Ipv6 → Bool} : state.inquiries type listed = [] := by
  cases state <;> cases type <;> first | rfl | cases plain

theorem requested_isSome (now : Int) (well : GroupWell group) (a : Ipv6) :
    (group.timers.running now a).isSome = (requestedSources group now).contains a := by
  rw [Bool.eq_iff_iff, contains_iff_mem, mem_requestedSources _ _ well]

/-- What a timely record asks is what the tables say it asks. -/
theorem inquiries_asks (well : GroupWell group) (asking : asks type = true)
    (timely : Timely type incoming now group) :
    (group.view.expire now).inquiries type incoming.contains =
      .sources (recordQuery type incoming now group).contains ::
        if type = .changeToInclude ∧ group.mode = .excludeMode then [.group] else [] := by
  have requested := requested_isSome now well
  have both : (fun a => (requestedSources group now).contains a && incoming.contains a) =
      (setIntersection (requestedSources group now) incoming).contains := by
    funext a
    simp
  have left : ∀ l r : List Ipv6, (fun a => l.contains a && !r.contains a) =
      (setDifference l r).contains := by
    intro l r
    funext a
    simp
  unfold Timely at timely
  unfold recordQuery
  cases mode : group.mode with
  | includeMode =>
    rw [view_expire_include mode]
    cases type with
    | modeIsInclude | modeIsExclude | allowNewSources => cases asking
    | blockOldSources | changeToExclude =>
      simp only [inquiries, querySources, requested, both, reduceCtorEq, settled]
    | changeToInclude =>
      simp only [inquiries, querySources, requested, left, reduceCtorEq, settled]
  | excludeMode =>
    simp only [mode] at timely
    by_cases later : now < group.filterDeadline
    · rw [view_expire_exclude well mode later]
      cases type with
      | modeIsInclude | modeIsExclude | allowNewSources => cases asking
      | blockOldSources | changeToExclude =>
        simp only [inquiries, querySources, left, reduceCtorEq, settled]
      | changeToInclude =>
        simp only [inquiries, querySources, requested, left, and_self, if_true]
    · obtain ⟨kind, known⟩ := timely.resolve_left later
      rw [view_expire_due mode (by omega)]
      obtain rfl | rfl := kind
      · cases asking
      · have same : (setIntersection (requestedSources group now) incoming).contains =
            (setDifference incoming (excludedSources group now)).contains := by
          funext a
          have excluded := mem_excludedSources now a well
          rw [Bool.eq_iff_iff, contains_iff_mem, contains_iff_mem]
          simp only [mem_setIntersection, mem_setDifference]
          constructor
          · rintro ⟨live, listed⟩
            exact ⟨listed, excluded_apart well live⟩
          · rintro ⟨listed, apart⟩
            refine ⟨Decidable.of_not_not fun idle => ?_, listed⟩
            exact apart (excluded.mpr ⟨known a listed, idle⟩)
        simp only [inquiries, querySources, requested, both, same, reduceCtorEq, settled]

theorem scheduleQuery_running (kind : Bool) (sources : List Ipv6) :
    AllRunning (scheduleQuery configuration querier group kind sources now) ↔ AllRunning group := by
  obtain ⟨-, mode, -, -, running⟩ :=
    scheduleQuery_keeps configuration querier group kind sources now
  have each : ∀ l : List Source, (∀ source ∈ l, source.timerRunning = true) ↔
      ∀ running ∈ l.map Source.timerRunning, running = true := by simp
  rw [AllRunning, AllRunning, mode, each, each, running]

theorem askGroup_keeps (querier : Bool) (type : RecordType) (incoming : List Ipv6) (now : Int)
    (group : Group) (well : GroupWell next) (robust : configuration.robustnessVariable ≠ 0#8) :
    GroupWell (askGroup configuration querier type incoming now group next) ∧
      (AllRunning (askGroup configuration querier type incoming now group next) ↔
        AllRunning next) := by
  unfold askGroup
  have asked := scheduleQuery_well well robust querier false
    (recordQuery type incoming now group) now
  split
  · exact ⟨scheduleQuery_well asked robust querier true [] now,
      (scheduleQuery_running _ _).trans (scheduleQuery_running _ _)⟩
  · exact ⟨asked, scheduleQuery_running _ _⟩

/-- A querier asks about the sources of the record and of the query under way. -/
theorem askGroup_view (type : RecordType) (incoming : List Ipv6) (now : Int) (group : Group)
    (well : GroupWell next) (robust : configuration.robustnessVariable ≠ 0#8)
    (short : (recordQuery type incoming now group).length ≤ mldSourcesPerGroup)
    (fits : (setUnionBounded (pendingOf next.pendingQueries false)
      (recordQuery type incoming now group)).length ≤ mldSourcesPerGroup) :
    (askGroup configuration true type incoming now group next).view =
      (if type = .changeToInclude ∧ group.mode = .excludeMode then [Inquiry.group] else []).foldl
        (inquire (now + configuration.lastListenerQueryTime))
        (next.view.inquire (now + configuration.lastListenerQueryTime)
          (.sources (setUnionBounded (pendingOf next.pendingQueries false)
            (recordQuery type incoming now group)).contains)) := by
  have asked := scheduleQuery_sources configuration now well.pending short fits
  have keeps := scheduleQuery_well well robust true false (recordQuery type incoming now group) now
  unfold askGroup
  split
  · rw [foldl_cons, foldl_nil, ← asked]
    exact scheduleQuery_group keeps
  · exact asked

/-- A record changes its group as the tables say, and leaves no idle source behind, exactly when
it is timely and undisturbed. -/
theorem transition_follows_iff (well : GroupWell group)
    (robust : configuration.robustnessVariable ≠ 0#8)
    (young : asks type = true → group.olderHostPresent = false)
    (fits : QueryFits querier type incoming now group) :
    (transition configuration querier type incoming now group).view =
          (group.view.expire now).respond querier type incoming.contains
            (now + configuration.multicastAddressListeningInterval)
            (now + configuration.lastListenerQueryTime) ∧
        AllRunning (transition configuration querier type incoming now group) ↔
      Timely type incoming now group ∧
        Undisturbed configuration querier type incoming now group := by
  cases asking : asks type with
  | false =>
    rw [transition_plain asking, respond, inquiries_plain asking, foldl_nil,
      ite_self, changed_iff well]
    simp [Undisturbed, asking]
  | true =>
    rw [transition_asks asking (young asking)]
    cases querier with
    | false =>
      rw [askGroup_quiet, respond, if_neg Bool.false_ne_true, changed_iff well]
      simp [Undisturbed]
    | true =>
      obtain ⟨short, room⟩ := fits asking rfl
      have next := changed_well configuration type incoming now well
      have view := askGroup_view type incoming now group next robust short
        (by rwa [changed_pendingQueries])
      rw [changed_pendingQueries] at view
      have running := (askGroup_keeps true type incoming now group next robust).2
      rw [view, running]
      generalize filters : (if type = .changeToInclude ∧ group.mode = .excludeMode then
        [Inquiry.group] else []) = group' at view
      have onlyGroup : ∀ inquiry ∈ group', inquiry = Inquiry.group := by
        rw [← filters]
        split <;> simp
      have more : ∀ a, (recordQuery type incoming now group).contains a = true →
          (setUnionBounded (pendingOf group.pendingQueries false)
            (recordQuery type incoming now group)).contains a = true := by
        intro a asked
        simpa using .inr (by simpa using asked)
      constructor
      · rintro ⟨same, running⟩
        have timely : Timely type incoming now group := by
          apply timely_of_shape well _ running
          have shape := congrArg FilterState.shape same
          rwa [shape_foldl, shape_inquire, shape_respond] at shape
        refine ⟨timely, fun _ _ a pending other deadline timer => ?_⟩
        rw [changed_view well timely, respond, if_pos rfl,
          inquiries_asks well asking timely, foldl_cons, filters] at same
        have timers := congrArg timers same
        rw [timers_foldl_group onlyGroup, timers_foldl_group onlyGroup,
          timers_inquire_sources, timers_inquire_sources] at timers
        exact (Timers.lower_eq_iff more).mp timers a (by simp [pending]) (by simpa using other)
          deadline timer
      · rintro ⟨timely, undisturbed⟩
        refine ⟨?_, timely_running timely⟩
        rw [changed_view well timely, respond, if_pos rfl,
          inquiries_asks well asking timely, foldl_cons, filters]
        apply congrArg (List.foldl _ · group')
        apply inquire_sources_congr
        refine (Timers.lower_eq_iff more).mpr fun a asked left deadline timer => ?_
        have other : a ∉ recordQuery type incoming now group := by simpa using left
        have pending : a ∈ pendingOf group.pendingQueries false := by
          simpa [other] using asked
        exact undisturbed asking rfl a pending other deadline timer

end Asking

end RouterSim.Mld
