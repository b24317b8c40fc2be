import RouterSim.Mld.Validity

/-! Images of an interface, with the times that its timers still have to run. -/
namespace RouterSim.Mld

open Ip (Ipv6)
open List

section Images

structure SourceCheckpoint where
  address : Ipv6
  remainingNanoseconds : Int := 0
  timerRunning : Bool := false

structure PendingQueryCheckpoint where
  sources : List Ipv6 := []
  remainingNanoseconds : Int := 0
  transmissionsRemaining : BitVec 8 := 0#8
  multicastAddressQuery : Bool := false

structure GroupCheckpoint where
  multicastAddress : Ipv6
  sources : List SourceCheckpoint := []
  pendingQueries : List PendingQueryCheckpoint := [{}, {}]
  filterRemainingNanoseconds : Int := 0
  olderHostRemainingNanoseconds : Int := 0
  mode : FilterMode := .includeMode
  filterTimerRunning : Bool := false
  olderHostPresent : Bool := false

structure Checkpoint where
  configuration : Configuration := {}
  groups : List GroupCheckpoint := []
  staticGroups : List StaticGroup := []
  querierAddress : Ipv6 := 0#128
  generalQueryRemainingNanoseconds : Int := 0
  otherQuerierRemainingNanoseconds : Int := 0
  olderQuerierRemainingNanoseconds : Int := 0
  startupQueriesRemaining : BitVec 8 := 0#8
  querier : Bool := false
  otherQuerierTimerRunning : Bool := false
  olderQuerierPresent : Bool := false

/-- What a deadline leaves. One that has passed leaves nothing. -/
def relative (deadline now : Int) : Int :=
  if deadline = noDeadline then 0 else if now < deadline then deadline - now else 0

/-- What a timer leaves while it runs. -/
def remaining (running : Bool) (deadline now : Int) : Int :=
  if running then relative deadline now else 0

/-- The deadline of a timer that has so long to run. -/
def resumed (running : Bool) (remainingNanoseconds now : Int) : Int :=
  if running then now + remainingNanoseconds else noDeadline

def Source.checkpoint (now : Int) (source : Source) : SourceCheckpoint where
  address := source.address
  remainingNanoseconds := remaining source.timerRunning source.expires now
  timerRunning := source.timerRunning

def PendingQuery.checkpoint (now : Int) (query : PendingQuery) : PendingQueryCheckpoint where
  sources := query.sources
  remainingNanoseconds := remaining (query.transmissionsRemaining != 0#8) query.deadline now
  transmissionsRemaining := query.transmissionsRemaining
  multicastAddressQuery := query.multicastAddressQuery

def Group.checkpoint (now : Int) (group : Group) : GroupCheckpoint where
  multicastAddress := group.multicastAddress
  sources := group.sources.map (Source.checkpoint now)
  pendingQueries := group.pendingQueries.map (PendingQuery.checkpoint now)
  filterRemainingNanoseconds := remaining group.filterTimerRunning group.filterDeadline now
  olderHostRemainingNanoseconds := remaining group.olderHostPresent group.olderHostDeadline now
  mode := group.mode
  filterTimerRunning := group.filterTimerRunning
  olderHostPresent := group.olderHostPresent

def SourceCheckpoint.restore (now : Int) (image : SourceCheckpoint) : Source where
  address := image.address
  expires := resumed image.timerRunning image.remainingNanoseconds now
  timerRunning := image.timerRunning

def PendingQueryCheckpoint.restore (now : Int) (image : PendingQueryCheckpoint) : PendingQuery where
  sources := image.sources
  deadline := resumed (image.transmissionsRemaining != 0#8) image.remainingNanoseconds now
  transmissionsRemaining := image.transmissionsRemaining
  multicastAddressQuery := image.multicastAddressQuery

def GroupCheckpoint.restore (now : Int) (image : GroupCheckpoint) : Group where
  multicastAddress := image.multicastAddress
  sources := image.sources.map (SourceCheckpoint.restore now)
  pendingQueries := image.pendingQueries.map (PendingQueryCheckpoint.restore now)
  filterDeadline := resumed image.filterTimerRunning image.filterRemainingNanoseconds now
  olderHostDeadline := resumed image.olderHostPresent image.olderHostRemainingNanoseconds now
  mode := image.mode
  filterTimerRunning := image.filterTimerRunning
  olderHostPresent := image.olderHostPresent

end Images

section Validation

/-- No row comes twice. -/
def distinct {α : Type} [DecidableEq α] : List α → Bool
  | [] => true
  | row :: rest => !rest.contains row && distinct rest

def StaticGroup.validImage (group : StaticGroup) : Bool :=
  isMulticast group.multicastAddress && decide (group.sources.length ≤ mldRouterSourcesPerGroup) &&
    !(group.starg && !group.sources.isEmpty) && group.sources.all validSource &&
    distinct group.sources

def SourceCheckpoint.valid (source : SourceCheckpoint) : Bool :=
  validSource source.address && decide (0 ≤ source.remainingNanoseconds) &&
    (source.timerRunning || source.remainingNanoseconds == 0)

def PendingQueryCheckpoint.valid (robustness : BitVec 8) (query : PendingQueryCheckpoint) : Bool :=
  decide (query.sources.length ≤ mldSourcesPerGroup) && decide (0 ≤ query.remainingNanoseconds) &&
    decide (query.transmissionsRemaining ≤ robustness) &&
    (query.transmissionsRemaining != 0#8 ||
      (query.sources.isEmpty && query.remainingNanoseconds == 0)) && query.sources.all validSource

def GroupCheckpoint.valid (robustness : BitVec 8) (group : GroupCheckpoint) : Bool :=
  isMulticast group.multicastAddress && decide (group.sources.length ≤ mldRouterSourcesPerGroup) &&
    decide (0 ≤ group.filterRemainingNanoseconds) &&
    decide (0 ≤ group.olderHostRemainingNanoseconds) &&
    (group.filterTimerRunning || group.filterRemainingNanoseconds == 0) &&
    (group.olderHostPresent || group.olderHostRemainingNanoseconds == 0) &&
    group.sources.all SourceCheckpoint.valid && distinct (group.sources.map (·.address)) &&
    group.pendingQueries.all (PendingQueryCheckpoint.valid robustness)

def Checkpoint.validateCheckpoint (state : Checkpoint) : Bool :=
  validConfiguration state.configuration &&
    decide (state.groups.length ≤ mldRouterGroupsPerInterface) &&
    decide (state.staticGroups.length ≤ mldRouterGroupsPerInterface) &&
    decide (0 ≤ state.generalQueryRemainingNanoseconds) &&
    decide (0 ≤ state.otherQuerierRemainingNanoseconds) &&
    decide (0 ≤ state.olderQuerierRemainingNanoseconds) &&
    decide (state.startupQueriesRemaining ≤ state.configuration.robustnessVariable) &&
    (state.querier || state.generalQueryRemainingNanoseconds == 0) &&
    (state.otherQuerierTimerRunning || state.otherQuerierRemainingNanoseconds == 0) &&
    (state.olderQuerierPresent || state.olderQuerierRemainingNanoseconds == 0) &&
    (!state.configuration.enabled || isLinkLocal state.querierAddress) &&
    (state.configuration.enabled || isUnspecified state.querierAddress) &&
    !(state.querier && state.otherQuerierTimerRunning) &&
    state.staticGroups.all StaticGroup.validImage &&
    distinct (state.staticGroups.map (·.multicastAddress)) &&
    state.groups.all (GroupCheckpoint.valid state.configuration.robustnessVariable) &&
    distinct (state.groups.map (·.multicastAddress)) &&
    decide (state.groups.foldl (fun count group => count + group.sources.length) 0 ≤
      mldRouterGroupSourcesPerInterface)

end Validation

namespace MldRouterInterface

variable (r : MldRouterInterface)

def checkpoint (now : Int) : Checkpoint where
  configuration := r.configuration
  groups := r.groups.map (Group.checkpoint now)
  staticGroups := r.staticGroups
  querierAddress := r.querierAddress
  generalQueryRemainingNanoseconds := remaining r.querier r.generalQueryDeadline now
  otherQuerierRemainingNanoseconds :=
    remaining r.otherQuerierTimerRunning r.otherQuerierDeadline now
  olderQuerierRemainingNanoseconds := remaining r.olderQuerierPresent r.olderQuerierDeadline now
  startupQueriesRemaining := r.startupQueriesRemaining
  querier := r.querier
  otherQuerierTimerRunning := r.otherQuerierTimerRunning
  olderQuerierPresent := r.olderQuerierPresent

/-- An image replaces the whole interface, or nothing of it. -/
def restore (state : Checkpoint) (now : Int) : Bool × MldRouterInterface :=
  if !state.validateCheckpoint then (false, r)
  else
    (true,
      { configuration := state.configuration
        groups := state.groups.map (GroupCheckpoint.restore now), staticGroups := state.staticGroups
        generalQueryDeadline := resumed state.querier state.generalQueryRemainingNanoseconds now
        otherQuerierDeadline :=
          resumed state.otherQuerierTimerRunning state.otherQuerierRemainingNanoseconds now
        olderQuerierDeadline :=
          resumed state.olderQuerierPresent state.olderQuerierRemainingNanoseconds now
        querierAddress := state.querierAddress
        startupQueriesRemaining := state.startupQueriesRemaining, querier := state.querier,
        otherQuerierTimerRunning := state.otherQuerierTimerRunning
        olderQuerierPresent := state.olderQuerierPresent })

variable {r}

/-- A group comes back from its image with the same sources, running as they were. -/
theorem restoreGroup_valid {group : Group} (valid : GroupValid group) (taken now : Int) :
    GroupValid ((group.checkpoint taken).restore now) := by
  obtain ⟨⟨distinct, pending, filtered⟩, running⟩ := valid
  refine ⟨⟨?_, ?_, filtered⟩, ?_⟩
  · simpa [GroupCheckpoint.restore, Group.checkpoint, Function.comp_def, SourceCheckpoint.restore,
    Source.checkpoint] using distinct
  · match same : group.pendingQueries, pending.two with
    | [first, second], _ =>
      rw [same] at pending
      obtain ⟨idleFirst, idleSecond, apart⟩ := pendingWell_pair.mp pending
      simp only [Group.checkpoint, same]
      exact pendingWell_pair.mpr ⟨idleFirst, idleSecond, apart⟩
  · intro including source mem
    obtain ⟨image, imaged, rfl⟩ := mem_map.mp mem
    obtain ⟨old, stored, rfl⟩ := mem_map.mp imaged
    exact running including old stored

theorem restore_valid {s : MldRouterInterface} (valid : Valid r) (validImage : Valid s)
    (taken now : Int) : Valid (r.restore (s.checkpoint taken) now).2 := by
  unfold restore
  split
  · exact valid
  refine ⟨⟨?_, ?_⟩, validImage.configured⟩
  · simpa [checkpoint, GroupCheckpoint.restore, Group.checkpoint, Function.comp_def] using validImage.groups.distinct
  · intro group mem
    obtain ⟨image, imaged, rfl⟩ := mem_map.mp mem
    obtain ⟨old, stored, rfl⟩ := mem_map.mp imaged
    exact restoreGroup_valid (validImage.groups.each old stored) taken now

end MldRouterInterface

end RouterSim.Mld
