import RouterSim.Mld.GroupView

/-! When the store of a group changes as the tables say. The store partitions the sources by the
timers that are due, but it goes by the mode that is stored, and it does not erase what it leaves
out of a transition. -/
namespace RouterSim.Mld

open Ip (Ipv6)
open Table Timers FilterState

section States

variable {group : Group} {mode : FilterMode} {active blocked refresh : List Ipv6}
  {deadline now : Int} {a : Ipv6}

theorem lookup_setState :
    lookup Source.address a (setState group mode active blocked refresh deadline).sources =
      if a ∈ active then some (activeSource group.sources refresh deadline a)
      else if a ∈ blocked then some { address := a } else none := by
  have own : ∀ (l : List Ipv6) (f : Ipv6 → Source), (∀ b, (f b).address = b) →
      lookup Source.address a (l.map f) = if a ∈ l then some (f a) else none := by
    intro l f keeps
    induction l with
    | nil => simp
    | cons first rest ih =>
      rw [List.map_cons, lookup_cons, keeps, ih]
      by_cases here : first = a
      · simp [here]
      · simp [here, Ne.symm here]
  simp only [setState, lookup_append]
  rw [own active _ fun _ => rfl, own _ _ fun _ => rfl]
  by_cases mem : a ∈ active
  · simp [mem]
  · simp [mem]

/-- Active sources keep the timers they have, unless they are refreshed. -/
theorem setState_timers (now : Int) (well : GroupWell group)
    (known : ∀ b ∈ active, b ∈ refresh ∨ b ∈ requestedSources group now) :
    (setState group mode active blocked refresh deadline).timers = fun a =>
      if a ∈ active then
        if a ∈ refresh then some deadline else group.timers.running now a
      else none := by
  funext a
  rw [Group.timers, lookup_setState]
  by_cases mem : a ∈ active
  · rw [if_pos mem, if_pos mem]
    by_cases fresh : a ∈ refresh
    · simp [activeSource, fresh]
    · have live := (mem_requestedSources _ _ well).mp ((known a mem).resolve_left fresh)
      simp only [running, Group.timers] at live ⊢
      cases found : lookup Source.address a group.sources with
      | none => simp [found] at live
      | some source => grind [activeSource]
  · rw [if_neg mem, if_neg mem]
    split <;> rfl

theorem setState_zeros : (setState group mode active blocked refresh deadline).zeros =
    fun a => decide (a ∉ active ∧ a ∈ blocked) := by
  funext a
  rw [Group.zeros, lookup_setState]
  by_cases mem : a ∈ active
  · simp [mem, activeSource]
  · by_cases there : a ∈ blocked <;> simp [mem, there]

@[simp] theorem setState_mode :
    (setState group mode active blocked refresh deadline).mode = mode := rfl

@[simp] theorem setState_filterDeadline :
    (setState group mode active blocked refresh deadline).filterDeadline =
      group.filterDeadline := rfl

end States

section Timeliness

/-- The record finds no timer due that it would overlook. To include, only the sources that stay
behind matter. To exclude, the mode is stale once the filter timer is due, and a record that sets
it again still takes a new source for one to request. -/
def Timely (type : RecordType) (incoming : List Ipv6) (now : Int) (group : Group) : Prop :=
  match group.mode with
  | .includeMode =>
    match type with
    | .allowNewSources =>
      ∀ source ∈ group.sources, source.requested now = true ∨ source.address ∈ incoming
    | .blockOldSources => ∀ source ∈ group.sources, source.requested now = true
    | _ => True
  | .excludeMode =>
    now < group.filterDeadline ∨
      (type = .modeIsExclude ∨ type = .changeToExclude) ∧
        ∀ a ∈ incoming, a ∈ group.sources.map Source.address

/-- The state that a record sets before anyone is asked. -/
def changed (configuration : Configuration) (type : RecordType) (incoming : List Ipv6) (now : Int)
    (group : Group) : Group :=
  let active := requestedSources group now
  let blocked := excludedSources group now
  let mali := now + configuration.multicastAddressListeningInterval
  match type with
  | .modeIsInclude | .changeToInclude => isInclude group active blocked incoming mali
  | .modeIsExclude => isExclude group active blocked incoming mali mali
  | .allowNewSources =>
    setState group group.mode (setUnionBounded active incoming) (setDifference blocked incoming)
      incoming mali
  | .blockOldSources =>
    match group.mode with
    | .includeMode => group
    | .excludeMode =>
      setState group .excludeMode (setUnionBounded active (setDifference incoming blocked)) blocked
        (setDifference (setDifference incoming active) blocked) group.filterDeadline
  | .changeToExclude =>
    isExclude group active blocked incoming
      (if group.filterTimerRunning then group.filterDeadline else mali) mali

variable {configuration : Configuration} {type : RecordType} {incoming : List Ipv6} {now : Int}
  {group : Group}

section

variable (well : GroupWell group)
include well

/-- A source is requested, excluded or neither, once what is due has expired. -/
theorem expired_excluded :
    (fun a => group.zeros a || (group.timers a).any fun deadline => decide (deadline ≤ now)) =
      (excludedSources group now).contains := by
  funext a
  have excluded := mem_excludedSources now a well
  have requested := mem_requestedSources now a well
  rw [← lookup_isSome] at excluded
  simp only [running, Group.timers, Group.zeros] at requested ⊢
  rw [Bool.eq_iff_iff, List.contains_iff_mem, excluded, requested]
  cases lookup Source.address a group.sources with
  | none => simp
  | some source => cases running : source.timerRunning <;> simp [running, Option.filter]

theorem running_none {a : Ipv6} (absent : a ∉ requestedSources group now) :
    group.timers.running now a = none := by
  rw [mem_requestedSources _ _ well] at absent
  simpa using absent

omit well in
theorem view_expire_include (mode : group.mode = .includeMode) :
    group.view.expire now = .includes (group.timers.running now) := by
  simp [Group.view, mode, expire]

theorem view_expire_exclude (mode : group.mode = .excludeMode) (later : now < group.filterDeadline) :
    group.view.expire now = .excludes (group.timers.running now)
      (excludedSources group now).contains group.filterDeadline := by
  simp only [Group.view, mode, expire]
  rw [if_neg (by omega), expired_excluded well]

omit well in
theorem view_expire_due (mode : group.mode = .excludeMode) (due : group.filterDeadline ≤ now) :
    group.view.expire now = .includes (group.timers.running now) := by
  simp [Group.view, mode, expire, due]

/-- Requested sources and those of the record, which are refreshed. -/
theorem refreshed_timers {mode : FilterMode} {blocked : List Ipv6} {mali : Int} :
    (setState group mode (setUnionBounded (requestedSources group now) incoming) blocked incoming
        mali).timers = (group.timers.running now).plus incoming.contains mali := by
  rw [setState_timers now well fun b mem => (mem_setUnionBounded.mp mem).symm]
  funext a
  by_cases listed : a ∈ incoming
  · simp [plus, listed]
  · by_cases requested : a ∈ requestedSources group now
    · simp [plus, requested]
    · simp [plus, running_none well requested]

theorem excluded_apart {a : Ipv6} (requested : a ∈ requestedSources group now) :
    a ∉ excludedSources group now :=
  fun excluded => ((mem_excludedSources _ _ well).mp excluded).2 requested

theorem refreshed_zeros {mode : FilterMode} {mali : Int} :
    (setState group mode (setUnionBounded (requestedSources group now) incoming)
        (setDifference (excludedSources group now) incoming) incoming mali).zeros =
      fun a => (excludedSources group now).contains a && !incoming.contains a := by
  rw [setState_zeros]
  funext a
  by_cases requested : a ∈ requestedSources group now
  · simp [excluded_apart well requested]
  · by_cases listed : a ∈ incoming <;> simp [requested, listed]

/-- Requested sources that a record lists again, without their timers. -/
theorem excluding_timers {blocked : List Ipv6} {deadline : Int} :
    (setState group .excludeMode (setIntersection (requestedSources group now) incoming) blocked []
        deadline).timers = (group.timers.running now).times incoming.contains := by
  rw [setState_timers now well fun b mem => .inr (mem_setIntersection.mp mem).1]
  funext a
  by_cases requested : a ∈ requestedSources group now
  · simp [times, requested]
  · simp [times, running_none well requested]

theorem excluding_zeros {deadline : Int} :
    (setState group .excludeMode (setIntersection (requestedSources group now) incoming)
        (setDifference incoming (requestedSources group now)) [] deadline).zeros =
      fun a => incoming.contains a && (group.timers.running now a).isNone := by
  rw [setState_zeros]
  funext a
  have requested := mem_requestedSources now a well
  cases timer : group.timers.running now a <;> simp [timer] at requested <;> simp [requested]

/-- Sources of the record that are not excluded, those that are new with a deadline. -/
theorem requesting_timers {blocked : List Ipv6} {deadline : Int} :
    (setState group .excludeMode (setDifference incoming (excludedSources group now)) blocked
        (setDifference (setDifference incoming (requestedSources group now))
          (excludedSources group now)) deadline).timers =
      (group.timers.running now).requesting incoming.contains
        (excludedSources group now).contains deadline := by
  rw [setState_timers now well fun b mem => by
    have := mem_setDifference.mp mem
    by_cases requested : b ∈ requestedSources group now <;> simp [requested, this]]
  funext a
  have requested := mem_requestedSources now a well
  by_cases listed : a ∈ incoming <;> by_cases excluded : a ∈ excludedSources group now <;>
    cases timer : group.timers.running now a <;> simp [timer] at requested <;>
      simp [requesting, excluded, requested, timer]

omit well in
theorem requesting_zeros {refresh : List Ipv6} {deadline : Int} :
    (setState group .excludeMode (setDifference incoming (excludedSources group now))
        (setIntersection (excludedSources group now) incoming) refresh deadline).zeros =
      fun a => (excludedSources group now).contains a && incoming.contains a := by
  rw [setState_zeros]
  funext a
  by_cases listed : a ∈ incoming <;> by_cases excluded : a ∈ excludedSources group now <;>
    simp [listed, excluded]

theorem joining_timers {blocked : List Ipv6} {deadline : Int} :
    (setState group .excludeMode
        (setUnionBounded (requestedSources group now)
          (setDifference incoming (excludedSources group now))) blocked
        (setDifference (setDifference incoming (requestedSources group now))
          (excludedSources group now)) deadline).timers =
      (group.timers.running now).joining incoming.contains
        (excludedSources group now).contains deadline := by
  rw [setState_timers now well fun b mem => by
    by_cases requested : b ∈ requestedSources group now
    · exact .inr requested
    · simpa [requested] using mem]
  funext a
  have requested := mem_requestedSources now a well
  by_cases listed : a ∈ incoming <;> by_cases excluded : a ∈ excludedSources group now <;>
    cases timer : group.timers.running now a <;> simp [timer] at requested <;>
      simp [joining, excluded, requested, timer]

theorem joining_zeros {refresh : List Ipv6} {deadline : Int} :
    (setState group .excludeMode
        (setUnionBounded (requestedSources group now)
          (setDifference incoming (excludedSources group now))) (excludedSources group now)
        refresh deadline).zeros = (excludedSources group now).contains := by
  rw [setState_zeros]
  funext a
  by_cases requested : a ∈ requestedSources group now
  · simp [excluded_apart well requested]
  · by_cases excluded : a ∈ excludedSources group now <;> simp [requested, excluded]

end

theorem timers_live
    (live : ∀ source ∈ group.sources, source.requested now = true) : group.timers.Live now := by
  intro a deadline timer
  obtain ⟨source, found, running⟩ := Option.bind_eq_some_iff.mp timer
  have requested := live source (mem_of_lookup found)
  simp only [Source.requested, asserted] at requested
  rw [if_pos requested.1, Option.some.injEq] at running
  exact running ▸ requested.2

theorem requesting_known (deadline : Int) (well : GroupWell group)
    (known : ∀ a ∈ incoming, a ∈ group.sources.map Source.address) :
    (group.timers.running now).requesting incoming.contains (excludedSources group now).contains
          deadline = (group.timers.running now).times incoming.contains ∧
      (fun a => (excludedSources group now).contains a && incoming.contains a) =
        fun a => incoming.contains a && (group.timers.running now a).isNone := by
  refine ⟨?_, ?_⟩ <;> funext a
  all_goals
    have requested := mem_requestedSources now a well
    have excluded := mem_excludedSources now a well
    by_cases listed : a ∈ incoming
    · simp [known a listed] at excluded
      cases timer : group.timers.running now a <;> simp [timer] at requested <;>
        simp [requesting, times, excluded, requested, timer]
    · simp [requesting, times, listed]

theorem changed_view (well : GroupWell group) (timely : Timely type incoming now group) :
    (changed configuration type incoming now group).view =
      (group.view.expire now).table type incoming.contains
        (now + configuration.multicastAddressListeningInterval) := by
  unfold Timely at timely
  cases mode : group.mode with
  | includeMode =>
    rw [view_expire_include mode]
    simp only [mode] at timely
    cases type with
    | modeIsInclude | changeToInclude | allowNewSources =>
      simp [changed, isInclude, mode, Group.view, table, refreshed_timers well]
    | modeIsExclude | changeToExclude =>
      simp only [changed, isExclude, mode, Group.view, setState_mode, table, excludes.injEq,
        settled]
      exact ⟨excluding_timers well, excluding_zeros well⟩
    | blockOldSources =>
      have live := timers_live timely
      simp [changed, mode, Group.view, table, live.running]
  | excludeMode =>
    simp only [mode] at timely
    by_cases later : now < group.filterDeadline
    · rw [view_expire_exclude well mode later]
      cases type with
      | modeIsInclude | changeToInclude | allowNewSources =>
        simp [changed, isInclude, mode, Group.view, table, refreshed_timers well,
          refreshed_zeros well]
      | modeIsExclude =>
        simp only [changed, isExclude, mode, Group.view, setState_mode, table, excludes.injEq,
          settled]
        exact ⟨requesting_timers well, requesting_zeros⟩
      | changeToExclude =>
        simp only [changed, isExclude, mode, Group.view, setState_mode, table, excludes.injEq,
          settled, well.filtered mode]
        exact ⟨requesting_timers well, requesting_zeros⟩
      | blockOldSources =>
        simp [changed, mode, Group.view, table, joining_timers well, joining_zeros well]
    · obtain ⟨kind, known⟩ := timely.resolve_left later
      rw [view_expire_due mode (by omega)]
      obtain rfl | rfl := kind
      all_goals
        simp only [changed, isExclude, mode, Group.view, setState_mode, table, excludes.injEq,
          settled]
        refine ⟨(requesting_timers well).trans (requesting_known _ well known).1,
          requesting_zeros.trans (requesting_known 0 well known).2⟩

end Timeliness

end RouterSim.Mld
