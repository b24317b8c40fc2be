import RouterSim.Ip.Address
import RouterSim.Lib.Table

/-! The owner of one interface's multicast listeners. It merges their reports, elects a querier
and emits bounded queries. Times are nanoseconds, and nothing expires until it is polled. -/
namespace RouterSim.Mld

open Ip (Ipv6)

section Data

/-- The end of time. -/
def noDeadline : Int := 9223372036854775807

def seconds (count : Int) : Int := count * 1000000000

def milliseconds (count : Int) : Int := count * 1000000

def mldSourcesPerGroup : Nat := 64
def mldRouterGroupsPerInterface : Nat := 16000
def mldRouterSourcesPerGroup : Nat := 1000
def mldRouterGroupSourcesPerInterface : Nat := 32000

inductive RecordType
  | modeIsInclude | modeIsExclude | changeToInclude | changeToExclude
  | allowNewSources | blockOldSources
  deriving DecidableEq

inductive FilterMode
  | includeMode | excludeMode
  deriving DecidableEq

/-- Zero means that an operator's limit is absent. Intervals are in the units of their leaves. -/
structure Configuration where
  linkLocalAddress : Ipv6 := 0#128
  queryIntervalSeconds : Int := 125
  queryResponseIntervalMilliseconds : Int := 10000
  lastListenerQueryIntervalMilliseconds : Int := 1000
  portOrdinal : BitVec 16 := 0#16
  robustnessVariable : BitVec 8 := 2#8
  version : BitVec 8 := 2#8
  maximumNumberGroups : BitVec 32 := 0#32
  maximumNumberGroupSources : BitVec 32 := 0#32
  maximumNumberSources : BitVec 32 := 0#32
  enabled : Bool := false

structure Source where
  address : Ipv6
  expires : Int := noDeadline
  timerRunning : Bool := false

structure PendingQuery where
  sources : List Ipv6 := []
  deadline : Int := noDeadline
  transmissionsRemaining : BitVec 8 := 0#8
  multicastAddressQuery : Bool := false

structure Group where
  multicastAddress : Ipv6
  sources : List Source := []
  pendingQueries : List PendingQuery := [{}, {}]
  filterDeadline : Int := noDeadline
  olderHostDeadline : Int := noDeadline
  mode : FilterMode := .includeMode
  filterTimerRunning : Bool := false
  olderHostPresent : Bool := false

structure StaticGroup where
  multicastAddress : Ipv6
  sources : List Ipv6 := []
  starg : Bool := false

structure MldRouterInterface where
  configuration : Configuration := {}
  groups : List Group := []
  staticGroups : List StaticGroup := []
  generalQueryDeadline : Int := noDeadline
  otherQuerierDeadline : Int := noDeadline
  olderQuerierDeadline : Int := noDeadline
  querierAddress : Ipv6 := 0#128
  startupQueriesRemaining : BitVec 8 := 0#8
  querier : Bool := false
  otherQuerierTimerRunning : Bool := false
  olderQuerierPresent : Bool := false

structure QueryView where
  source : Ipv6
  multicastAddress : Ipv6 := 0#128
  maximumResponseDelayMilliseconds : Int := 0
  queryIntervalSeconds : Int := 0
  sourceCount : BitVec 16 := 0#16
  robustnessVariable : BitVec 8 := 0#8
  suppressRouterProcessing : Bool := false
  versionTwo : Bool := false

structure VersionOneView where
  source : Ipv6
  multicastAddress : Ipv6
  type : BitVec 8

structure RecordView where
  multicastAddress : Ipv6
  type : RecordType := .modeIsInclude

inductive QueryKind
  | general | multicastAddress | multicastAddressAndSources

structure Action where
  sources : List Ipv6 := []
  multicastAddress : Ipv6 := 0#128
  maximumResponseDelayMilliseconds : Int := 0
  queryIntervalSeconds : Int := 0
  kind : QueryKind := .general
  robustnessVariable : BitVec 8 := 0#8
  suppressRouterProcessing : Bool := false
  versionOne : Bool := false

end Data

section Addresses

def isUnspecified (address : Ipv6) : Bool := address == 0#128

def isMulticast (address : Ipv6) : Bool := address.extractLsb' 120 8 == 0xff#8

/-- `fe80::/10`. -/
def isLinkLocal (address : Ipv6) : Bool := address.extractLsb' 118 10 == 0x3fa#10

def validSource (value : Ipv6) : Bool := !isUnspecified value && !isMulticast value

/-- The last 64 bits decide. -/
def lowerQuerier (candidate own : Ipv6) : Bool := decide (candidate.setWidth 64 < own.setWidth 64)

def validConfiguration (value : Configuration) : Bool :=
  (!value.enabled || isLinkLocal value.linkLocalAddress) &&
    decide (2 ≤ value.queryIntervalSeconds) && decide (value.queryIntervalSeconds ≤ 1024) &&
    decide (1000 ≤ value.queryResponseIntervalMilliseconds) &&
    decide (value.queryResponseIntervalMilliseconds ≤ 1023000) &&
    decide (value.queryResponseIntervalMilliseconds < value.queryIntervalSeconds * 1000) &&
    decide (1000 ≤ value.lastListenerQueryIntervalMilliseconds) &&
    decide (value.lastListenerQueryIntervalMilliseconds ≤ 1023000) &&
    decide (2#8 ≤ value.robustnessVariable) && decide (value.robustnessVariable ≤ 10#8) &&
    decide (1#8 ≤ value.version) && decide (value.version ≤ 2#8) &&
    decide (value.maximumNumberGroups ≤ 16000#32) &&
    decide (value.maximumNumberGroupSources ≤ 32000#32) &&
    decide (value.maximumNumberSources ≤ 1000#32)

def Configuration.multicastAddressListeningInterval (c : Configuration) : Int :=
  seconds (c.queryIntervalSeconds * c.robustnessVariable.toNat) +
    milliseconds c.queryResponseIntervalMilliseconds

def Configuration.lastListenerQueryTime (c : Configuration) : Int :=
  milliseconds (c.lastListenerQueryIntervalMilliseconds * c.robustnessVariable.toNat)

end Addresses

section Sources

/-- Append an address that is not there. -/
def pushNew (result : List Ipv6) (address : Ipv6) : List Ipv6 :=
  if address ∈ result then result else result ++ [address]

def selectSources (predicate : Bool → Bool) (left right : List Ipv6) : List Ipv6 :=
  (left.filter fun address => predicate (right.contains address)).foldl pushNew []

def setUnionBounded (left right : List Ipv6) : List Ipv6 := right.foldl pushNew left

def setIntersection : List Ipv6 → List Ipv6 → List Ipv6 := selectSources fun present => present

def setDifference : List Ipv6 → List Ipv6 → List Ipv6 := selectSources fun present => !present

end Sources

section Queries

variable (configuration : Configuration) (querier : Bool)

/-- The place for a query of this kind: that of one under way, or a free one. -/
def slotFor (queries : List PendingQuery) (multicastAddressQuery : Bool) : Option Nat :=
  (queries.findIdx? fun entry => entry.transmissionsRemaining != 0#8 &&
      entry.multicastAddressQuery == multicastAddressQuery).or
    (queries.findIdx? fun entry => entry.transmissionsRemaining == 0#8)

/-- Sources join a query while a packet has room for them. -/
def queue (queued : List Ipv6) (source : Ipv6) : List Ipv6 :=
  if source ∈ queued ∨ ¬ queued.length < mldSourcesPerGroup then queued else queued ++ [source]

def Source.lower (queried : List Ipv6) (deadline : Int) (state : Source) : Source :=
  if state.address ∈ queried ∧ state.timerRunning = true ∧ deadline < state.expires then
    { state with expires := deadline }
  else state

def Group.lowerFilter (group : Group) (deadline : Int) : Group :=
  if group.filterTimerRunning = true ∧ deadline < group.filterDeadline then
    { group with filterDeadline := deadline }
  else group

def scheduleQuery (group : Group) (multicastAddressQuery : Bool) (sources : List Ipv6)
    (now : Int) : Group :=
  if !querier ∨ mldSourcesPerGroup < sources.length then group
  else
    match slotFor group.pendingQueries multicastAddressQuery with
    | none => group
    | some slot =>
      let queued :=
        if multicastAddressQuery then []
        else sources.foldl queue (group.pendingQueries.getD slot {}).sources
      let scheduled :=
        { group with
          pendingQueries := group.pendingQueries.set slot
            { sources := queued, deadline := now,
              transmissionsRemaining := configuration.robustnessVariable, multicastAddressQuery } }
      let lowerTo := now + configuration.lastListenerQueryTime
      if multicastAddressQuery then scheduled.lowerFilter lowerTo
      else { scheduled with sources := group.sources.map (Source.lower queued lowerTo) }

end Queries

section Record

variable (configuration : Configuration) (querier : Bool)

/-- The timer of an active source: the one it had, unless it is refreshed. -/
def activeSource (previous : List Source) (refresh : List Ipv6) (refreshDeadline : Int)
    (address : Ipv6) : Source where
  address
  expires :=
    if address ∈ refresh then refreshDeadline
    else
      match Table.lookup Source.address address previous with
      | some source => if source.timerRunning then source.expires else refreshDeadline
      | none => refreshDeadline
  timerRunning := true

def setState (group : Group) (mode : FilterMode) (active blocked refresh : List Ipv6)
    (refreshDeadline : Int) : Group :=
  { group with
    mode, sources := active.map (activeSource group.sources refresh refreshDeadline) ++
      (blocked.filter (· ∉ active)).map ({ address := · }) }

def Source.requested (now : Int) (source : Source) : Bool :=
  source.timerRunning && decide (now < source.expires)

def requestedSources (group : Group) (now : Int) : List Ipv6 :=
  (group.sources.filter (·.requested now)).map Source.address

def excludedSources (group : Group) (now : Int) : List Ipv6 :=
  (group.sources.filter fun source => !source.requested now).map Source.address

/-- The sources that a change of state asks the listeners about. -/
def querySources (type : RecordType) (mode : FilterMode) (active blocked incoming : List Ipv6) :
    List Ipv6 :=
  match type, mode with
  | .changeToInclude, _ => setDifference active incoming
  | _, .includeMode => setIntersection active incoming
  | _, .excludeMode => setDifference incoming blocked

def isInclude (group : Group) (active blocked incoming : List Ipv6) (mali : Int) : Group :=
  match group.mode with
  | .includeMode => setState group .includeMode (setUnionBounded active incoming) [] incoming mali
  | .excludeMode =>
    setState group .excludeMode (setUnionBounded active incoming) (setDifference blocked incoming)
      incoming mali

/-- To exclude, with this deadline for the sources that are new. -/
def isExclude (group : Group) (active blocked incoming : List Ipv6) (deadline mali : Int) : Group :=
  let next :=
    match group.mode with
    | .includeMode =>
      setState group .excludeMode (setIntersection active incoming)
        (setDifference incoming active) [] deadline
    | .excludeMode =>
      setState group .excludeMode (setDifference incoming blocked)
        (setIntersection blocked incoming)
        (setDifference (setDifference incoming active) blocked) deadline
  { next with filterTimerRunning := true, filterDeadline := mali }

/-- What a record makes of its group. -/
def transition (type : RecordType) (incoming : List Ipv6) (now : Int) (group : Group) : Group :=
  let active := requestedSources group now
  let blocked := excludedSources group now
  let mali := now + configuration.multicastAddressListeningInterval
  let query := querySources type group.mode active blocked incoming
  match type with
  | .modeIsInclude => isInclude group active blocked incoming mali
  | .modeIsExclude => isExclude group active blocked incoming mali mali
  | .allowNewSources =>
    setState group group.mode (setUnionBounded active incoming) (setDifference blocked incoming)
      incoming mali
  | .blockOldSources =>
    if group.olderHostPresent then group
    else
      match group.mode with
      | .includeMode => scheduleQuery configuration querier group false query now
      | .excludeMode =>
        scheduleQuery configuration querier
          (setState group .excludeMode
            (setUnionBounded active (setDifference incoming blocked)) blocked
            (setDifference (setDifference incoming active) blocked) group.filterDeadline)
          false query now
  | .changeToExclude =>
    let next := isExclude group active blocked incoming
      (if group.filterTimerRunning then group.filterDeadline else mali) mali
    if group.olderHostPresent then next
    else scheduleQuery configuration querier next false query now
  | .changeToInclude =>
    let next := isInclude group active blocked incoming mali
    if group.olderHostPresent then next
    else
      let asked := scheduleQuery configuration querier next false query now
      match group.mode with
      | .includeMode => asked
      | .excludeMode => scheduleQuery configuration querier asked true [] now

end Record

section Expiry

def Source.due (now : Int) (source : Source) : Bool :=
  source.timerRunning && decide (source.expires ≤ now)

def Source.expire (now : Int) (source : Source) : Source :=
  if source.due now then { source with timerRunning := false, expires := noDeadline } else source

def expireOlderHost (now : Int) (group : Group) : Group :=
  if group.olderHostPresent ∧ group.olderHostDeadline ≤ now then
    { group with olderHostPresent := false, olderHostDeadline := noDeadline }
  else group

/-- Sources are erased in one mode and excluded in the other, until its filter timer is due. -/
def expireFilter (now : Int) (group : Group) : Group :=
  match group.mode with
  | .includeMode => { group with sources := group.sources.filter (!·.due now) }
  | .excludeMode =>
    let sources := group.sources.map (Source.expire now)
    if group.filterTimerRunning ∧ group.filterDeadline ≤ now then
      { group with
        mode := .includeMode, filterTimerRunning := false, filterDeadline := noDeadline,
        sources := sources.filter (·.timerRunning) }
    else { group with sources }

def expireGroup (now : Int) (group : Group) : Group := expireFilter now (expireOlderHost now group)

/-- Nothing is left to know about the group. -/
def forgotten (group : Group) : Bool :=
  group.mode == .includeMode && group.sources.isEmpty && !group.olderHostPresent &&
    !group.pendingQueries.any (·.transmissionsRemaining != 0#8)

end Expiry

end RouterSim.Mld
