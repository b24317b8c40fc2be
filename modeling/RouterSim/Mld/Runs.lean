import RouterSim.Mld.Polling

/-! Interfaces as they can be reached. In a run whose records are timely no source is included
without a timer, and each further record follows the tables. -/
namespace RouterSim.Mld

open Ip (Ipv6)
open MldRouterInterface

/-- What can happen to an interface, besides taking over an image. -/
inductive Operation
  | configure (configuration : Configuration) (now : Int)
  | configureStaticGroup (group : Ipv6)
  | configureStaticStarg (group : Ipv6)
  | configureStaticSource (group source : Ipv6)
  | removeStaticGroup (group : Ipv6)
  | removeStaticStarg (group : Ipv6)
  | removeStaticSource (group source : Ipv6)
  | observeQuery (query : QueryView) (sources : List Ipv6) (now : Int)
  | observeVersionOne (message : VersionOneView) (now : Int)
  | observeTranslatedVersionOneReport (message : VersionOneView) (sources : List Ipv6) (now : Int)
  | observeRecord (record : RecordView) (sources : List Ipv6) (now : Int)
  | poll (now : Int) (room : Nat)
  | expire (now : Int)
  | clearDatabase (group : Option Ipv6)
  | clearOlderHostCompatibility

namespace Operation

def apply (r : MldRouterInterface) : Operation → MldRouterInterface
  | configure configuration now => (r.configure configuration now).2
  | configureStaticGroup group => (r.configureStaticGroup group).2
  | configureStaticStarg group => (r.configureStaticStarg group).2
  | configureStaticSource group source => (r.configureStaticSource group source).2
  | removeStaticGroup group => (r.removeStaticGroup group).2
  | removeStaticStarg group => (r.removeStaticStarg group).2
  | removeStaticSource group source => (r.removeStaticSource group source).2
  | observeQuery query sources now => r.observeQuery query sources now
  | observeVersionOne message now => (r.observeVersionOne message now).2
  | observeTranslatedVersionOneReport message sources now =>
    (r.observeTranslatedVersionOneReport message sources now).2
  | observeRecord record sources now => (r.observeRecord record sources now).2
  | poll now room => (r.poll now room).2
  | expire now => r.expire now
  | clearDatabase group => r.clearDatabase group
  | clearOlderHostCompatibility => r.clearOlderHostCompatibility

/-- A record overlooks no timer that is due. -/
def OnTime (r : MldRouterInterface) : Operation → Prop
  | observeRecord record sources now =>
    Timely record.type (r.incoming record sources) now (r.groupOf record.multicastAddress)
  | _ => True

end Operation

/-- The interfaces of runs whose records are timely. -/
inductive Reached : MldRouterInterface → Prop
  | start : Reached {}
  | step {r : MldRouterInterface} (op : Operation) (reached : Reached r) (timely : op.OnTime r) :
    Reached (op.apply r)
  | restore {r s : MldRouterInterface} (taken now : Int) (reached : Reached r) (other : Reached s) :
    Reached (r.restore (s.checkpoint taken) now).2

section Statics

variable {r : MldRouterInterface}

theorem static_keeps (r : MldRouterInterface) (group source : Ipv6) :
    ∀ next ∈ [(r.configureStaticGroup group).2, (r.configureStaticStarg group).2,
      (r.configureStaticSource group source).2, (r.removeStaticGroup group).2,
      (r.removeStaticStarg group).2, (r.removeStaticSource group source).2],
      next.groups = r.groups ∧ next.configuration = r.configuration := by
  simp only [List.forall_mem_cons]
  refine ⟨?_, ?_, ?_, ⟨rfl, rfl⟩, ?_, ?_⟩
  · unfold MldRouterInterface.configureStaticGroup
    grind
  · unfold MldRouterInterface.configureStaticStarg MldRouterInterface.withStatic
    grind
  · unfold MldRouterInterface.configureStaticSource MldRouterInterface.withStatic
    grind
  · unfold MldRouterInterface.removeStaticStarg MldRouterInterface.withStatic
    grind
  · unfold MldRouterInterface.removeStaticSource MldRouterInterface.withStatic
    grind

theorem static_valid (valid : Valid r) (group source : Ipv6) {next : MldRouterInterface}
    (mem : next ∈ [(r.configureStaticGroup group).2, (r.configureStaticStarg group).2,
      (r.configureStaticSource group source).2, (r.removeStaticGroup group).2,
      (r.removeStaticStarg group).2, (r.removeStaticSource group source).2]) : Valid next := by
  obtain ⟨groups, configuration⟩ := static_keeps r group source next mem
  exact valid_of_groups valid (groups ▸ valid.groups) configuration

end Statics

/-- Every operation keeps an interface valid, if it is on time. -/
theorem Operation.apply_valid {r : MldRouterInterface} (valid : Valid r) (op : Operation)
    (timely : op.OnTime r) : Valid (op.apply r) := by
  cases op with
  | configure configuration now => exact configure_valid valid configuration
  | configureStaticGroup group => exact static_valid valid group group (by simp [apply])
  | configureStaticStarg group => exact static_valid valid group group (by simp [apply])
  | configureStaticSource group source => exact static_valid valid group source (by simp [apply])
  | removeStaticGroup group => exact static_valid valid group group (by simp [apply])
  | removeStaticStarg group => exact static_valid valid group group (by simp [apply])
  | removeStaticSource group source => exact static_valid valid group source (by simp [apply])
  | observeQuery query sources now => exact observeQuery_valid valid query sources
  | observeVersionOne message now => exact observeVersionOne_valid valid message
  | observeTranslatedVersionOneReport message sources now =>
    exact observeTranslatedVersionOneReport_valid valid message sources
  | observeRecord record sources now => exact record_valid valid timely
  | poll now room => exact poll_valid valid room
  | expire now => exact expire_valid now valid
  | clearDatabase group => exact clearDatabase_valid valid group
  | clearOlderHostCompatibility => exact clearOlderHostCompatibility_valid valid

theorem Reached.valid {r : MldRouterInterface} (reached : Reached r) : Valid r := by
  induction reached with
  | start => exact ⟨⟨.nil, nofun⟩, nofun⟩
  | step op _ timely ih => exact op.apply_valid ih timely
  | restore taken now _ _ ih other => exact restore_valid ih other taken now

/-- An interface that listens on port 1. -/
def listening : Configuration where
  linkLocalAddress := 0xfe800000000000000000000000000001#128
  portOrdinal := 1#16
  enabled := true

/-- Someone listens to all sources of a group from the start. -/
def subscribed : MldRouterInterface :=
  ((({} : MldRouterInterface).configure listening 0).2.observeRecord
    { multicastAddress := 0xff0e0000000000000000000000000001#128, type := .modeIsExclude } [] 0).2

theorem subscribed_reached : Reached subscribed := by
  have configured := Reached.start.step (.configure listening 0) trivial
  refine configured.step
    (.observeRecord ⟨0xff0e0000000000000000000000000001#128, .modeIsExclude⟩ [] 0) ?_
  exact trivial

/-- Groups and the sources of a group are apart. A group has a place for a query of either kind,
with sources only while it is to be sent, and the timers of its mode run. -/
theorem reached_groups_apart {r : MldRouterInterface} (reached : Reached r) :
    (r.groups.map Group.multicastAddress).Nodup ∧ ∀ group ∈ r.groups,
      (group.sources.map Source.address).Nodup ∧ group.pendingQueries.length = 2 ∧
      (∀ query ∈ group.pendingQueries, query.transmissionsRemaining = 0#8 → query.sources = []) ∧
      (group.mode = .excludeMode → group.filterTimerRunning = true) ∧ AllRunning group := by
  obtain ⟨distinct, each⟩ := reached.valid.groups
  refine ⟨distinct, fun group mem => ?_⟩
  obtain ⟨well, running⟩ := each group mem
  exact ⟨well.distinct, well.pending.two, well.pending.idle, well.filtered, running⟩

theorem subscribed_groups_apart : (subscribed.groups.map Group.multicastAddress).Nodup :=
  (reached_groups_apart subscribed_reached).1

/-- One excludes a source. -/
def excluding : RecordView where
  multicastAddress := 0xff0e0000000000000000000000000001#128
  type := .modeIsExclude

def excludedSource : Ipv6 := 0x20010db8000000000000000000000001#128

/-- The record is taken whole, in time and when the group has run out. -/
theorem excluding_unlimited {r : MldRouterInterface} {now : Int}
    (accepted : (r.observeRecord excluding [excludedSource] now).1 = true)
    (admitted : r.incoming excluding [excludedSource] = [excludedSource]) :
    Unlimited r excluding [excludedSource] now where
  accepted
  admitted := by
    rw [admitted]
    exact fun _ mem => mem
  asked := nofun

theorem subscribed_unlimited : Unlimited subscribed excluding [excludedSource] 10000000000 :=
  excluding_unlimited (by decide +kernel) (by decide +kernel)

theorem subscribed_alone (now : Int) : NoOlderHost subscribed excluding now := by
  intro older
  cases older

theorem subscribed_timely : Timely excluding.type (subscribed.incoming excluding [excludedSource])
    10000000000 (subscribed.groupOf excluding.multicastAddress) := by
  have running : (subscribed.groupOf excluding.multicastAddress).filterDeadline =
      260000000000 := by decide +kernel
  have mode : (subscribed.groupOf excluding.multicastAddress).mode = .excludeMode := by
    decide +kernel
  simp only [Timely, mode]
  omega

end RouterSim.Mld
