import RouterSim.Mld.Interface
import RouterSim.Mld.Tables

/-! What the stored state of a group says about its listeners, and what each change of the store
makes of it. -/
namespace RouterSim.Mld

open Ip (Ipv6)
open List Table FilterState

section Sets

variable {left right : List Ipv6} {a : Ipv6}

theorem mem_foldl_pushNew : a ∈ right.foldl pushNew left ↔ a ∈ left ∨ a ∈ right := by
  induction right generalizing left with
  | nil => simp
  | cons first rest ih =>
    rw [foldl_cons, ih, pushNew]
    split <;> grind

theorem foldl_pushNew_nodup (distinct : left.Nodup) : (right.foldl pushNew left).Nodup := by
  induction right generalizing left with
  | nil => exact distinct
  | cons first rest ih =>
    apply ih
    unfold pushNew
    split
    · exact distinct
    next absent =>
    rw [nodup_append]
    refine ⟨distinct, by simp, ?_⟩
    rintro b mem c last rfl
    exact absent (mem_singleton.mp last ▸ mem)

@[simp] theorem mem_setUnionBounded : a ∈ setUnionBounded left right ↔ a ∈ left ∨ a ∈ right :=
  mem_foldl_pushNew

@[simp] theorem mem_setIntersection : a ∈ setIntersection left right ↔ a ∈ left ∧ a ∈ right := by
  simp [setIntersection, selectSources, mem_foldl_pushNew]

@[simp] theorem mem_setDifference : a ∈ setDifference left right ↔ a ∈ left ∧ a ∉ right := by
  simp [setDifference, selectSources, mem_foldl_pushNew]

theorem setUnionBounded_nodup (right : List Ipv6) (distinct : left.Nodup) :
    (setUnionBounded left right).Nodup :=
  foldl_pushNew_nodup distinct

theorem selectSources_nodup {predicate : Bool → Bool} :
    (selectSources predicate left right).Nodup :=
  foldl_pushNew_nodup .nil

end Sets

/-- The timers that run. -/
def Group.timers (group : Group) : Timers Ipv6 := fun a =>
  (lookup Source.address a group.sources).bind fun source =>
    if source.timerRunning then some source.expires else none

/-- The sources whose timers are zero. -/
def Group.zeros (group : Group) : Ipv6 → Bool := fun a =>
  (lookup Source.address a group.sources).any fun source => !source.timerRunning

def Group.view (group : Group) : FilterState Ipv6 :=
  match group.mode with
  | .includeMode => .includes group.timers
  | .excludeMode => .excludes group.timers group.zeros group.filterDeadline

/-- A place for either kind of query, and no query of a kind twice. -/
structure PendingWell (queries : List PendingQuery) : Prop where
  two : queries.length = 2
  idle : ∀ query ∈ queries, query.transmissionsRemaining = 0#8 → query.sources = []
  kinds : queries.Pairwise fun a b => a.transmissionsRemaining ≠ 0#8 →
    b.transmissionsRemaining ≠ 0#8 → a.multicastAddressQuery ≠ b.multicastAddressQuery

/-- What every group of an interface keeps to. -/
structure GroupWell (group : Group) : Prop where
  distinct : (group.sources.map Source.address).Nodup
  pending : PendingWell group.pendingQueries
  filtered : group.mode = .excludeMode → group.filterTimerRunning = true

section Expiry

variable {group : Group} {now : Int} {a : Ipv6}

theorem mem_requestedSources (now : Int) (a : Ipv6) (well : GroupWell group) :
    a ∈ requestedSources group now ↔ (group.timers.running now a).isSome = true := by
  simp only [requestedSources, mem_map, mem_filter, Timers.running, Group.timers]
  constructor
  · rintro ⟨source, ⟨mem, live⟩, rfl⟩
    rw [lookup_of_mem well.distinct mem]
    simp only [Source.requested, asserted] at live
    simp [live.1, live.2]
  · intro live
    cases found : lookup Source.address a group.sources with
    | none => simp [found] at live
    | some source =>
      refine ⟨source, ⟨mem_of_lookup found, ?_⟩, key_of_lookup found⟩
      simp only [found, Option.bind_some] at live
      split at live
      · next running => simpa [Source.requested, running] using live
      · cases live

theorem mem_excludedSources (now : Int) (a : Ipv6) (well : GroupWell group) :
    a ∈ excludedSources group now ↔
      a ∈ group.sources.map Source.address ∧ a ∉ requestedSources group now := by
  simp only [excludedSources, requestedSources, mem_map, mem_filter]
  constructor
  · rintro ⟨source, ⟨mem, idle⟩, rfl⟩
    refine ⟨⟨source, mem, rfl⟩, ?_⟩
    rintro ⟨other, ⟨there, live⟩, same⟩
    have first := lookup_of_mem well.distinct mem
    have second := lookup_of_mem well.distinct there
    rw [same, first] at second
    cases second
    simp [live] at idle
  · rintro ⟨⟨source, mem, rfl⟩, absent⟩
    refine ⟨source, ⟨mem, ?_⟩, rfl⟩
    cases live : source.requested now with
    | true => exact absurd ⟨source, ⟨mem, live⟩, rfl⟩ absent
    | false => rfl

@[simp] theorem expireOlderHost_keeps :
    (expireOlderHost now group).sources = group.sources ∧
      (expireOlderHost now group).mode = group.mode ∧
      (expireOlderHost now group).filterDeadline = group.filterDeadline ∧
      (expireOlderHost now group).filterTimerRunning = group.filterTimerRunning ∧
      (expireOlderHost now group).pendingQueries = group.pendingQueries := by
  unfold expireOlderHost
  split <;> exact ⟨rfl, rfl, rfl, rfl, rfl⟩

@[simp] theorem Source.expire_address (source : Source) :
    (source.expire now).address = source.address := by
  unfold Source.expire
  split <;> rfl

/-- What is left of the sources that are due, in either mode. -/
theorem expire_timers (now : Int) (well : GroupWell group) :
    (fun a => (lookup Source.address a (group.sources.filter (!·.due now))).bind
      fun source => if source.timerRunning then some source.expires else none) =
        group.timers.running now ∧
    (fun a => (lookup Source.address a (group.sources.map (Source.expire now))).bind
      fun source => if source.timerRunning then some source.expires else none) =
        group.timers.running now ∧
    (fun a => (lookup Source.address a
      ((group.sources.map (Source.expire now)).filter (·.timerRunning))).bind
        fun source => if source.timerRunning then some source.expires else none) =
          group.timers.running now := by
  have keys : ((group.sources.map (Source.expire now)).map Source.address) =
      group.sources.map Source.address := by simp [map_map, Function.comp_def]
  refine ⟨?_, ?_, ?_⟩ <;> funext a
  · rw [lookup_filter well.distinct, Timers.running, Group.timers]
    cases lookup Source.address a group.sources with
    | none => rfl
    | some source => cases running : source.timerRunning <;> grind [Source.due]
  · rw [lookup_map fun source => Source.expire_address source, Timers.running, Group.timers]
    cases lookup Source.address a group.sources with
    | none => rfl
    | some source => cases running : source.timerRunning <;> grind [Source.expire, Source.due]
  · rw [lookup_filter (by rw [keys]; exact well.distinct),
      lookup_map fun source => Source.expire_address source, Timers.running, Group.timers]
    cases lookup Source.address a group.sources with
    | none => rfl
    | some source => cases running : source.timerRunning <;> grind [Source.expire, Source.due]

theorem expire_zeros :
    (fun a => (lookup Source.address a (group.sources.map (Source.expire now))).any
      fun source => !source.timerRunning) =
        fun a => group.zeros a || (group.timers a).any fun deadline => decide (deadline ≤ now) := by
  funext a
  rw [lookup_map fun source => Source.expire_address source, Group.zeros, Group.timers]
  cases lookup Source.address a group.sources with
  | none => rfl
  | some source => cases running : source.timerRunning <;> grind [Source.expire, Source.due]

theorem expireGroup_view (well : GroupWell group) :
    (expireGroup now group).view = group.view.expire now := by
  obtain ⟨erased, expired, left⟩ := expire_timers now well
  unfold expireGroup expireFilter
  simp only [expireOlderHost_keeps]
  cases mode : group.mode with
  | includeMode =>
    simp only [Group.view, mode, expire, includes.injEq]
    exact erased
  | excludeMode =>
    have running := well.filtered mode
    simp only [running]
    by_cases due : group.filterDeadline ≤ now
    · simp [due, Group.view, mode, expire]
      exact left
    · simp [due, Group.view, mode, expire]
      exact ⟨expired, expire_zeros⟩

end Expiry

end RouterSim.Mld
