import RouterSim.Mld.Checkpoint

/-! Records and the polls that come between them. What a record does must not depend on when the
interface was last polled. -/
namespace RouterSim.Mld

open Ip (Ipv6)
open Table FilterState

namespace MldRouterInterface

variable {group : Group}

section States

variable (r : MldRouterInterface)

/-- The group, as it would be made for its first record. -/
def groupOf (address : Ipv6) : Group := (r.find address).getD { multicastAddress := address }

/-- What the interface says about the listeners of a group. -/
def listeners (address : Ipv6) : FilterState Ipv6 := (r.groupOf address).view

/-- The sources of a record that no limit keeps out. -/
def incoming (record : RecordView) (sources : List Ipv6) : List Ipv6 :=
  (r.admitSources (r.groupOf record.multicastAddress) (groupSourceCount r.groups) sources).incoming

variable {r} {now : Int} {address : Ipv6}

theorem groupOf_valid (address : Ipv6) (valid : Valid r) : GroupValid (r.groupOf address) := by
  unfold groupOf
  cases found : r.find address with
  | none => exact groupValid_new address
  | some group => exact valid.groups.each group (mem_of_lookup found)

theorem groupOf_multicastAddress : (r.groupOf address).multicastAddress = address := by
  unfold groupOf
  cases found : r.find address with
  | none => rfl
  | some group => exact key_of_lookup found

theorem find_expire (valid : Valid r) : (r.expire now).find address =
    ((r.find address).map (expireGroup now)).filter (!forgotten ·) := by
  rw [find, expire_groups, lookup_filter, lookup_map fun _ => expireGroup_multicastAddress]
  · rfl
  · exact (valid.groups.map (fun _ => expireGroup_multicastAddress)
      fun _ => expireGroup_valid).distinct

theorem forgotten_view (gone : forgotten group = true) :
    group.view = .includes (fun _ => none) := by
  simp only [forgotten, asserted, List.isEmpty_iff] at gone
  obtain ⟨⟨⟨mode, sources⟩, -⟩, -⟩ := gone
  simp only [Group.view, mode, includes.injEq]
  funext a
  simp [Group.timers, sources]

theorem listeners_expire (valid : Valid r) :
    (r.expire now).listeners address = (r.listeners address).expire now := by
  have own := groupOf_valid address valid
  rw [listeners, listeners, ← expireGroup_view own.1, groupOf, find_expire valid]
  unfold groupOf
  cases found : r.find address with
  | none => rfl
  | some group =>
    simp only [Option.map_some, Option.getD_some]
    cases gone : forgotten (expireGroup now group) with
    | false => simp [Option.filter, gone]
    | true =>
      simp only [Option.filter, gone]
      rw [forgotten_view gone]
      rfl

end States

section Records

/-- The record is taken whole: no limit keeps out the group, a source or a queried source. -/
structure Unlimited (r : MldRouterInterface) (record : RecordView) (sources : List Ipv6)
    (now : Int) : Prop where
  accepted : (r.observeRecord record sources now).1 = true
  admitted : ∀ a ∈ sources, a ∈ r.incoming record sources
  asked : QueryFits r.querier record.type (r.incoming record sources) now
    (r.groupOf record.multicastAddress)

/-- No older host is known, unless its time has passed. -/
def NoOlderHost (r : MldRouterInterface) (record : RecordView) (now : Int) : Prop :=
  (r.groupOf record.multicastAddress).olderHostPresent = true →
    (r.groupOf record.multicastAddress).olderHostDeadline ≤ now

/-- A record that asks finds the older host and the other querier that are gone polled away. -/
def Polled (r : MldRouterInterface) (record : RecordView) (now : Int) : Prop :=
  asks record.type = true →
    ¬ (r.otherQuerierTimerRunning = true ∧ r.otherQuerierDeadline ≤ now) ∧
      ¬ ((r.groupOf record.multicastAddress).olderHostPresent = true ∧
        (r.groupOf record.multicastAddress).olderHostDeadline ≤ now)

/-- The record has the effect that the tables give it once everything due has expired, and no
source is included without a timer. -/
def Follows (r : MldRouterInterface) (record : RecordView) (sources : List Ipv6) (now : Int) :
    Prop :=
  (r.observeRecord record sources now).2.listeners record.multicastAddress =
      ((r.expire now).listeners record.multicastAddress).respond (r.expire now).querier record.type
        sources.contains (now + r.configuration.multicastAddressListeningInterval)
        (now + r.configuration.lastListenerQueryTime) ∧
    AllRunning ((r.observeRecord record sources now).2.groupOf record.multicastAddress)

/-- To poll before the record or after it leads to the same forwarding from then on. -/
def AcceptsAlike (r : MldRouterInterface) (record : RecordView) (sources : List Ipv6) (now : Int) :
    Prop :=
  ∀ source later, now ≤ later →
    ((r.expire now).observeRecord record sources now).2.listenerAccepts record.multicastAddress
        source later =
      ((r.observeRecord record sources now).2.expire now).listenerAccepts record.multicastAddress
        source later

variable {r : MldRouterInterface} {record : RecordView} {sources : List Ipv6} {now : Int}

theorem mem_admitSources {existing : Nat} {a : Ipv6}
    (admitted : a ∈ (r.admitSources group existing sources).incoming) : a ∈ sources := by
  have each : ∀ (l : List Ipv6) (admission : Admission),
      a ∈ (l.foldl (r.admitSource group existing) admission).incoming →
        a ∈ admission.incoming ∨ a ∈ l := by
    intro l
    induction l with
    | nil => exact fun _ mem => .inl mem
    | cons first rest ih =>
      intro admission mem
      obtain mem | mem := ih _ mem
      · unfold admitSource at mem
        grind
      · exact .inr (List.mem_cons_of_mem _ mem)
  exact (each sources {} admitted).resolve_left (by simp)

theorem Unlimited.contains (unlimited : Unlimited r record sources now) :
    (r.incoming record sources).contains = sources.contains := by
  funext a
  rw [Bool.eq_iff_iff, List.contains_iff_mem, List.contains_iff_mem]
  exact ⟨mem_admitSources, unlimited.admitted a⟩

theorem groupSourceCount_append (groups : List Group) (address : Ipv6) :
    groupSourceCount (groups ++ [{ multicastAddress := address }]) = groupSourceCount groups := by
  simp [groupSourceCount]

theorem ensure_groupOf {address : Ipv6} {groups : List Group}
    (found : r.ensure address = some (group, groups)) :
    group = r.groupOf address ∧ groupSourceCount groups = groupSourceCount r.groups := by
  obtain ⟨-, own, rfl | ⟨-, rfl⟩⟩ := ensure_spec found
  · exact ⟨own, rfl⟩
  · exact ⟨own, groupSourceCount_append _ _⟩

theorem record_valid (valid : Valid r) (timely : Timely record.type (r.incoming record sources) now
    (r.groupOf record.multicastAddress)) : Valid (r.observeRecord record sources now).2 := by
  refine observeRecord_valid valid record sources now fun allow group groups found _ => ?_
  obtain ⟨same, counts⟩ := ensure_groupOf found
  have taken : r.taken record sources group groups = r.incoming record sources := by
    unfold MldRouterInterface.taken incoming
    rw [counts, same, if_neg]
    rintro ⟨-, exclude⟩
    rw [allow] at exclude
    cases exclude
  rw [taken, same]
  exact timely

variable {type : RecordType}

theorem transition_multicastAddress {configuration : Configuration} {querier : Bool}
    {incoming : List Ipv6} :
    (transition configuration querier type incoming now group).multicastAddress =
      group.multicastAddress := by
  have changes : (changed configuration type incoming now group).multicastAddress =
      group.multicastAddress := by
    cases type <;> cases mode : group.mode <;> simp [changed, isInclude, isExclude, setState, mode]
  have asked : ∀ next, (askGroup configuration querier type incoming now group
      next).multicastAddress = next.multicastAddress := by
    intro next
    unfold askGroup
    split <;> simp [(scheduleQuery_keeps configuration querier _ _ _ now).1]
  obtain same | same | same := transition_cases configuration querier type incoming now group <;>
    simp [same, asked, changes]

/-- An accepted record makes its transition of the group. -/
theorem observeRecord_groupOf (accepted : (r.observeRecord record sources now).1 = true)
    (young : asks record.type = true →
      (r.groupOf record.multicastAddress).olderHostPresent = false) :
    r.configuration.enabled = true ∧
      (r.observeRecord record sources now).2.groupOf record.multicastAddress =
        transition r.configuration r.querier record.type (r.incoming record sources) now
          (r.groupOf record.multicastAddress) := by
  obtain refused | ⟨enabled, group, groups, found, made⟩ := observeRecord_cases r record sources now
  · rw [refused] at accepted
    cases accepted
  · refine ⟨enabled, ?_⟩
    have there := (ensure_spec found).1
    obtain ⟨same, counts⟩ := ensure_groupOf found
    have taken : r.taken record sources group groups = r.incoming record sources := by
      unfold MldRouterInterface.taken incoming
      rw [counts, same, if_neg]
      rintro ⟨older, exclude⟩
      rw [young (by rw [exclude]; rfl)] at older
      cases older
    rw [made, taken, same]
    generalize next : transition r.configuration r.querier record.type
      (r.incoming record sources) now (r.groupOf record.multicastAddress) = group'
    have address : group'.multicastAddress = record.multicastAddress := by
      rw [← next, transition_multicastAddress, groupOf_multicastAddress]
    have placed : lookup Group.multicastAddress record.multicastAddress
        (update Group.multicastAddress record.multicastAddress (fun _ => group') groups) =
          (lookup Group.multicastAddress record.multicastAddress groups).map fun _ => group' :=
      lookup_update_same fun _ _ => address
    rw [groupOf, find, withGroup, address]
    simp [placed, there]

theorem expire_querier
    (settled : ¬ (r.otherQuerierTimerRunning = true ∧ r.otherQuerierDeadline ≤ now)) :
    (r.expire now).querier = r.querier := by
  unfold expire
  grind

theorem expire_otherQuerier :
    ¬ ((r.expire now).otherQuerierTimerRunning = true ∧
      (r.expire now).otherQuerierDeadline ≤ now) := by
  unfold expire
  grind

theorem respond_plain (plain : asks type = false) (querier querier' : Bool)
    {state : FilterState Ipv6} {listed : Ipv6 → Bool} {mali lowerTo : Int} :
    state.respond querier type listed mali lowerTo =
      state.respond querier' type listed mali lowerTo := by
  simp [respond, inquiries_plain plain]

/-- Polled as it must be, a record has the right effect exactly when it is timely and
undisturbed. -/
theorem follows_iff (valid : Valid r) (unlimited : Unlimited r record sources now)
    (alone : NoOlderHost r record now) (polled : Polled r record now) :
    Follows r record sources now ↔
      Timely record.type (r.incoming record sources) now (r.groupOf record.multicastAddress) ∧
        Undisturbed r.configuration r.querier record.type (r.incoming record sources) now
          (r.groupOf record.multicastAddress) := by
  have young : asks record.type = true →
      (r.groupOf record.multicastAddress).olderHostPresent = false := by
    intro asking
    apply Bool.eq_false_iff.mpr
    exact fun older => (polled asking).2 ⟨older, alone older⟩
  obtain ⟨enabled, after⟩ := observeRecord_groupOf unlimited.accepted young
  have robust := validConfiguration_robust (valid.configured enabled)
  have iff := transition_follows_iff (groupOf_valid _ valid).1 robust young unlimited.asked
  have querier : ∀ state : FilterState Ipv6, ∀ mali lowerTo,
      state.respond (r.expire now).querier record.type sources.contains mali lowerTo =
        state.respond r.querier record.type sources.contains mali lowerTo := by
    intro state mali lowerTo
    cases asking : asks record.type with
    | false => exact respond_plain asking _ _
    | true => rw [expire_querier (polled asking).1]
  rw [Follows, querier, listeners_expire valid, listeners, listeners, after, ← iff,
    unlimited.contains]

theorem timely_of_settled (valid : GroupValid group)
    (settled : group.view.Settled now) {incoming : List Ipv6} : Timely type incoming now group := by
  obtain ⟨well, running⟩ := valid
  unfold Timely
  cases mode : group.mode with
  | includeMode =>
    have live : ∀ source ∈ group.sources, source.requested now = true := by
      intro source stored
      have timer : group.timers source.address = some source.expires := by
        simp [Group.timers, lookup_of_mem well.distinct stored, running mode source stored]
      simp only [Group.view, mode] at settled
      simp [Source.requested, running mode source stored, settled _ _ timer]
    cases type with
    | allowNewSources => exact fun source stored => .inl (live source stored)
    | blockOldSources => exact live
    | modeIsInclude | modeIsExclude | changeToInclude | changeToExclude => trivial
  | excludeMode =>
    simp only [Group.view, mode] at settled
    exact .inl settled.2

/-- The answers depend on what is known of the listeners. -/
theorem listenerAccepts_eq (r : MldRouterInterface) (group source : Ipv6) (later : Int) :
    r.listenerAccepts group source later =
      (r.configuration.enabled && ((r.findStatic group).any (fun configured =>
        configured.starg || configured.sources.contains source) ||
          (r.listeners group).accepts source later)) := by
  unfold listenerAccepts
  cases r.configuration.enabled with
  | false => rfl
  | true =>
    cases (r.findStatic group).any fun configured =>
      configured.starg || configured.sources.contains source with
    | true => rfl
    | false =>
      unfold listeners groupOf
      cases r.find group with
      | none => rfl
      | some known =>
        simp only [Option.getD_some, Group.view]
        cases known.mode with
        | includeMode =>
          simp only [accepts, Group.timers]
          cases lookup Source.address source known.sources with
          | none => rfl
          | some entry => cases running : entry.timerRunning <;> simp [running]
        | excludeMode =>
          simp only [accepts, Group.zeros]
          cases lookup Source.address source known.sources with
          | none => rfl
          | some entry => simp

theorem observeRecord_keeps (r : MldRouterInterface) (record : RecordView) (sources : List Ipv6)
    (now : Int) : (r.observeRecord record sources now).2.configuration = r.configuration ∧
    (r.observeRecord record sources now).2.staticGroups = r.staticGroups := by
  obtain refused | ⟨-, group, groups, -, made⟩ := observeRecord_cases r record sources now
  · rw [refused]
    exact ⟨rfl, rfl⟩
  · rw [made]
    exact ⟨rfl, rfl⟩

/-- The group after a poll has the queries under way that it had. -/
theorem pendingOf_expire (valid : Valid r) {address a : Ipv6}
    (pending : a ∈ pendingOf ((r.expire now).groupOf address).pendingQueries false) :
    a ∈ pendingOf (r.groupOf address).pendingQueries false := by
  unfold groupOf at pending ⊢
  rw [find_expire valid] at pending
  have nothing : a ∉ pendingOf ({ multicastAddress := address } : Group).pendingQueries false := by
    simp [pendingOf, PendingQuery.active]
  cases found : r.find address with
  | none => simp [found, nothing] at pending
  | some group =>
    have queries : (expireGroup now group).pendingQueries = group.pendingQueries := by
      unfold expireGroup expireFilter
      split
      · simp
      · dsimp only
        split <;> simp
    cases gone : forgotten (expireGroup now group) with
    | true => simp [found, gone, Option.filter, nothing] at pending
    | false =>
      simp only [found, Option.map_some, Option.filter, gone, settled, Option.getD_some,
        queries] at pending
      exact pending

theorem olderHost_expire (valid : Valid r) (alone : NoOlderHost r record now) :
    ((r.expire now).groupOf record.multicastAddress).olderHostPresent = false := by
  unfold NoOlderHost at alone
  unfold groupOf at alone ⊢
  rw [find_expire valid]
  cases found : r.find record.multicastAddress with
  | none => rfl
  | some group =>
    have young : (expireGroup now group).olderHostPresent = false := by
      unfold expireGroup expireFilter expireOlderHost
      grind
    cases gone : forgotten (expireGroup now group) with
    | true => simp [Option.filter, gone]
    | false => simp [Option.filter, gone, young]

/-- What the record does after a poll is what it does before one. -/
theorem accepts_alike (valid : Valid r) (unlimited : Unlimited r record sources now)
    (unlimitedLater : Unlimited (r.expire now) record sources now)
    (alone : NoOlderHost r record now) (polled : Polled r record now)
    (timely : Timely record.type (r.incoming record sources) now
      (r.groupOf record.multicastAddress))
    (undisturbed : Undisturbed r.configuration r.querier record.type (r.incoming record sources)
      now (r.groupOf record.multicastAddress)) : AcceptsAlike r record sources now := by
  have expired := expire_valid now valid
  have settled : ((r.expire now).listeners record.multicastAddress).Settled now := by
    rw [listeners_expire valid]
    exact expire_settled
  have aloneLater : NoOlderHost (r.expire now) record now := by
    intro older
    rw [olderHost_expire valid alone] at older
    cases older
  have polledLater : Polled (r.expire now) record now := by
    refine fun _ => ⟨expire_otherQuerier, fun older => ?_⟩
    rw [olderHost_expire valid alone] at older
    cases older.1
  have timelyLater : Timely record.type ((r.expire now).incoming record sources) now
      ((r.expire now).groupOf record.multicastAddress) :=
    timely_of_settled (groupOf_valid _ expired) settled
  -- Both states have the same listeners, once everything due has expired.
  have view : ((r.expire now).groupOf record.multicastAddress).view.expire now =
      (r.groupOf record.multicastAddress).view.expire now :=
    (FilterState.Settled.expire settled).trans (listeners_expire valid)
  have undisturbedLater : Undisturbed (r.expire now).configuration (r.expire now).querier
      record.type ((r.expire now).incoming record sources) now
      ((r.expire now).groupOf record.multicastAddress) := by
    intro asking querier a pending other deadline timer
    rw [expire_querier (polled asking).1] at querier
    rw [view, unlimitedLater.contains, ← unlimited.contains, expire_configuration] at timer
    have before := inquiries_asks (groupOf_valid _ valid).1 asking timely
    have after := inquiries_asks (groupOf_valid _ expired).1 asking timelyLater
    rw [view, unlimitedLater.contains, ← unlimited.contains, before] at after
    have same := (Inquiry.sources.inj (List.cons.inj after).1)
    have absent : a ∉ recordQuery record.type (r.incoming record sources) now
        (r.groupOf record.multicastAddress) := by
      rw [← List.contains_iff_mem, same, List.contains_iff_mem]
      exact other
    rw [expire_configuration]
    exact undisturbed asking querier a (pendingOf_expire valid pending) absent deadline timer
  have follows := (follows_iff valid unlimited alone polled).mpr ⟨timely, undisturbed⟩
  have followsLater := (follows_iff expired unlimitedLater aloneLater polledLater).mpr
    ⟨timelyLater, undisturbedLater⟩
  obtain ⟨after, -⟩ := follows
  obtain ⟨afterLater, -⟩ := followsLater
  rw [expire_querier expire_otherQuerier, listeners_expire expired, settled.expire,
    expire_configuration] at afterLater
  obtain ⟨interval, last⟩ := validConfiguration_intervals (valid.configured (by
    obtain refused | ⟨enabled, -⟩ := observeRecord_cases r record sources now
    · have accepted := unlimited.accepted
      rw [refused] at accepted
      cases accepted
    · exact enabled))
  have still : ((r.observeRecord record sources now).2.listeners
      record.multicastAddress).Settled now := by
    rw [after]
    exact settled.respond (by omega) (by omega)
  have same : ((r.expire now).observeRecord record sources now).2.listeners
        record.multicastAddress =
      ((r.observeRecord record sources now).2.expire now).listeners record.multicastAddress := by
    rw [listeners_expire (record_valid valid timely), still.expire, after, afterLater]
  intro source later _
  obtain ⟨configuration, statics⟩ := observeRecord_keeps r record sources now
  obtain ⟨configurationLater, staticsLater⟩ := observeRecord_keeps (r.expire now) record sources now
  rw [listenerAccepts_eq, listenerAccepts_eq, same, findStatic, findStatic, expire_configuration,
    expire_staticGroups, configuration, statics, configurationLater, staticsLater,
    expire_configuration, expire_staticGroups]

end Records

end MldRouterInterface

end RouterSim.Mld
