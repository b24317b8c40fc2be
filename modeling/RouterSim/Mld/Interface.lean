import RouterSim.Mld.Router

/-! What the owner of an interface does: with configuration, with messages of listeners and of
other queriers, when it is polled, and for the routing owner that asks what to forward. -/
namespace RouterSim.Mld

open Ip (Ipv6)

namespace MldRouterInterface

variable (r : MldRouterInterface)

section Groups

def find (group : Ipv6) : Option Group := Table.lookup Group.multicastAddress group r.groups

def findStatic (group : Ipv6) : Option StaticGroup :=
  Table.lookup StaticGroup.multicastAddress group r.staticGroups

/-- The group, and the groups it is among, for one that is not there behind the others. -/
def ensure (group : Ipv6) : Option (Group × List Group) :=
  match r.find group with
  | some entry => some (entry, r.groups)
  | none =>
    if !isMulticast group ∨
        (r.configuration.maximumNumberGroups ≠ 0#32 ∧
          r.configuration.maximumNumberGroups.toNat ≤ r.groups.length) ∨
        r.groups.length = mldRouterGroupsPerInterface then none
    else some ({ multicastAddress := group }, r.groups ++ [{ multicastAddress := group }])

def groupSourceCount (groups : List Group) : Nat :=
  groups.foldl (fun count group => count + group.sources.length) 0

/-- Put a group in the place of the one with its address. -/
def withGroup (groups : List Group) (group : Group) : MldRouterInterface :=
  { r with
    groups := Table.update Group.multicastAddress group.multicastAddress (fun _ => group) groups }

end Groups

section Configure

def configure (configuration : Configuration) (now : Int) : Bool × MldRouterInterface :=
  if !validConfiguration configuration then (false, r)
  else if !configuration.enabled then
    (true, { configuration, staticGroups := r.staticGroups })
  else if !r.configuration.enabled ∨ r.configuration.portOrdinal ≠ configuration.portOrdinal ∨
      r.configuration.linkLocalAddress ≠ configuration.linkLocalAddress then
    (true,
      { configuration, staticGroups := r.staticGroups, generalQueryDeadline := now,
        querierAddress := configuration.linkLocalAddress
        startupQueriesRemaining := configuration.robustnessVariable, querier := true })
  else (true, { r with configuration })

def configureStaticGroup (group : Ipv6) : Bool × MldRouterInterface :=
  if !isMulticast group then (false, r)
  else if (r.findStatic group).isSome then (true, r)
  else if r.staticGroups.length = mldRouterGroupsPerInterface then (false, r)
  else (true, { r with staticGroups := r.staticGroups ++ [{ multicastAddress := group }] })

def withStatic (entry : StaticGroup) : MldRouterInterface :=
  { r with
    staticGroups := Table.update StaticGroup.multicastAddress entry.multicastAddress
      (fun _ => entry) r.staticGroups }

def configureStaticStarg (group : Ipv6) : Bool × MldRouterInterface :=
  match r.findStatic group with
  | none => (false, r)
  | some entry =>
    if !entry.sources.isEmpty then (false, r)
    else (true, r.withStatic { entry with starg := true })

def configureStaticSource (group source : Ipv6) : Bool × MldRouterInterface :=
  match r.findStatic group with
  | none => (false, r)
  | some entry =>
    if entry.starg || !validSource source then (false, r)
    else if entry.sources.contains source then (true, r)
    else if entry.sources.length = mldRouterSourcesPerGroup then (false, r)
    else (true, r.withStatic { entry with sources := entry.sources ++ [source] })

def removeStaticGroup (group : Ipv6) : Bool × MldRouterInterface :=
  let kept := r.staticGroups.filter (·.multicastAddress != group)
  (kept.length != r.staticGroups.length, { r with staticGroups := kept })

def removeStaticStarg (group : Ipv6) : Bool × MldRouterInterface :=
  match r.findStatic group with
  | none => (false, r)
  | some entry =>
    if !entry.starg then (false, r) else (true, r.withStatic { entry with starg := false })

def removeStaticSource (group source : Ipv6) : Bool × MldRouterInterface :=
  match r.findStatic group with
  | none => (false, r)
  | some entry =>
    let kept := entry.sources.filter (· != source)
    (kept.length != entry.sources.length, r.withStatic { entry with sources := kept })

def clearDatabase (group : Option Ipv6) : MldRouterInterface :=
  match group with
  | some group => { r with groups := r.groups.filter (·.multicastAddress != group) }
  | none => { r with groups := [] }

def clearOlderHostCompatibility : MldRouterInterface :=
  { r with
    groups := r.groups.map fun group =>
      { group with olderHostPresent := false, olderHostDeadline := noDeadline }
    olderQuerierPresent := false, olderQuerierDeadline := noDeadline }

end Configure

section Observe

/-- The timers of its sources that a query of another router lowers. -/
def lowerQueried (query : QueryView) (sources : List Ipv6) (lowered : Int) (group : Group) :
    Group :=
  if query.sourceCount = 0#16 then group.lowerFilter lowered
  else if sources.length ≠ query.sourceCount.toNat ∨ mldSourcesPerGroup < sources.length then group
  else { group with sources := group.sources.map (Source.lower sources lowered) }

def observeQuery (query : QueryView) (sources : List Ipv6) (now : Int) : MldRouterInterface :=
  if !r.configuration.enabled then r
  else
    let robustness :=
      if query.robustnessVariable ≠ 0#8 then query.robustnessVariable
      else r.configuration.robustnessVariable
    let heard :=
      if query.versionTwo then r
      else
        { r with
          olderQuerierPresent := true, olderQuerierDeadline := now +
            seconds (query.queryIntervalSeconds * robustness.toNat) +
              milliseconds query.maximumResponseDelayMilliseconds }
    let interval := if query.queryIntervalSeconds ≠ 0 then query.queryIntervalSeconds else 125
    let elected :=
      if lowerQuerier query.source r.configuration.linkLocalAddress then
        { heard with
          querier := false, otherQuerierTimerRunning := true,
          otherQuerierDeadline := now + seconds (interval * robustness.toNat) +
            milliseconds (query.maximumResponseDelayMilliseconds.tdiv 2)
          querierAddress := query.source }
      else heard
    if query.suppressRouterProcessing || isUnspecified query.multicastAddress then elected
    else
      { elected with
        groups := Table.update Group.multicastAddress query.multicastAddress
          (lowerQueried query sources (now + r.configuration.lastListenerQueryTime))
          elected.groups }

def versionOneReportType : BitVec 8 := 131#8

def observeVersionOne (message : VersionOneView) (now : Int) : Bool × MldRouterInterface :=
  if !r.configuration.enabled ∨ isUnspecified message.source then (false, r)
  else
    match r.ensure message.multicastAddress with
    | none => (false, r)
    | some (group, groups) =>
      let deadline := now + r.configuration.multicastAddressListeningInterval
      let heard := { group with olderHostPresent := true, olderHostDeadline := deadline }
      (true, r.withGroup groups
        (if message.type = versionOneReportType then
          { heard with
            mode := .excludeMode, sources := [], filterTimerRunning := true,
            filterDeadline := deadline }
        else scheduleQuery r.configuration r.querier heard true [] now))

structure Admission where
  incoming : List Ipv6 := []
  acceptedNewSources : Nat := 0

/-- A source that an operator's limit keeps out is left out of the record. -/
def admitSource (group : Group) (existing : Nat) (admission : Admission) (source : Ipv6) :
    Admission :=
  let alreadyAccepted := (group.sources.map Source.address).contains source
  let groupLimit := r.configuration.maximumNumberSources
  let interfaceLimit := r.configuration.maximumNumberGroupSources
  if admission.incoming.contains source then admission
  else if !alreadyAccepted ∧
      (groupLimit ≠ 0#32 ∧ groupLimit.toNat ≤ group.sources.length + admission.acceptedNewSources ∨
        interfaceLimit ≠ 0#32 ∧
          interfaceLimit.toNat ≤ existing + admission.acceptedNewSources) then admission
  else
    { incoming := admission.incoming ++ [source]
      acceptedNewSources := admission.acceptedNewSources + if alreadyAccepted then 0 else 1 }

def admitSources (group : Group) (existing : Nat) (sources : List Ipv6) : Admission :=
  sources.foldl (r.admitSource group existing) {}

/-- A refused record leaves no group behind. -/
def observeRecord (record : RecordView) (sources : List Ipv6) (now : Int) :
    Bool × MldRouterInterface :=
  if !r.configuration.enabled ∨ mldRouterSourcesPerGroup < sources.length ∨
      sources.any (!validSource ·) then (false, r)
  else
    match r.ensure record.multicastAddress with
    | none => (false, r)
    | some (group, groups) =>
      let existing := groupSourceCount groups
      let admission := r.admitSources group existing sources
      if mldRouterGroupSourcesPerInterface < existing + admission.acceptedNewSources then (false, r)
      else
        let incoming :=
          if group.olderHostPresent ∧ record.type = .changeToExclude then []
          else admission.incoming
        if mldRouterSourcesPerGroup <
            (setUnionBounded (setUnionBounded (requestedSources group now)
              (excludedSources group now)) incoming).length then (false, r)
        else
          (true, r.withGroup groups
            (transition r.configuration r.querier record.type incoming now group))

def observeTranslatedVersionOneReport (message : VersionOneView) (translatedSources : List Ipv6)
    (now : Int) : Bool × MldRouterInterface :=
  if message.type ≠ versionOneReportType ∨ translatedSources.isEmpty then (false, r)
  else
    let observed := r.observeRecord
      { multicastAddress := message.multicastAddress, type := .modeIsInclude } translatedSources now
    if !observed.1 then (false, observed.2)
    else
      match observed.2.find message.multicastAddress with
      | none => (false, observed.2)
      | some group =>
        (true, observed.2.withGroup observed.2.groups
          { group with
            olderHostPresent := true
            olderHostDeadline := now + r.configuration.multicastAddressListeningInterval })

end Observe

section Poll

def expire (now : Int) : MldRouterInterface :=
  let elected :=
    if r.otherQuerierTimerRunning ∧ r.otherQuerierDeadline ≤ now then
      { r with
        otherQuerierTimerRunning := false, otherQuerierDeadline := noDeadline, querier := true,
        querierAddress := r.configuration.linkLocalAddress
        startupQueriesRemaining := r.configuration.robustnessVariable, generalQueryDeadline := now }
    else r
  let upgraded :=
    if elected.olderQuerierPresent ∧ elected.olderQuerierDeadline ≤ now then
      { elected with olderQuerierPresent := false, olderQuerierDeadline := noDeadline }
    else elected
  { upgraded with groups := (r.groups.map (expireGroup now)).filter (!forgotten ·) }

def operationalVersion : BitVec 8 :=
  if r.configuration.version = 1#8 ∨ r.olderQuerierPresent then 1#8 else 2#8

/-- The general query that is due, while there is room for it. -/
def pollGeneral (now : Int) (room : Nat) : List Action × MldRouterInterface :=
  if r.querier ∧ r.generalQueryDeadline ≤ now ∧ 0 < room then
    let remaining :=
      if r.startupQueriesRemaining = 0#8 then 0#8 else r.startupQueriesRemaining - 1#8
    ([{ maximumResponseDelayMilliseconds := r.configuration.queryResponseIntervalMilliseconds
        queryIntervalSeconds := r.configuration.queryIntervalSeconds
        robustnessVariable := r.configuration.robustnessVariable
        versionOne := r.operationalVersion == 1#8 }],
      { r with
        startupQueriesRemaining := remaining, generalQueryDeadline := now + seconds
          (if remaining ≠ 0#8 then r.configuration.queryIntervalSeconds.tdiv 4
          else r.configuration.queryIntervalSeconds) })
  else ([], r)

/-- A pending query of a group that is due. Its timers were lowered when it was scheduled. -/
def pollQuery (now : Int) (room : Nat) (group : Ipv6) (actions : List Action)
    (query : PendingQuery) : List Action × PendingQuery :=
  if actions.length = room ∨ query.transmissionsRemaining = 0#8 ∨ now < query.deadline then
    (actions, query)
  else
    let remaining := query.transmissionsRemaining - 1#8
    (actions ++
      [{ sources := query.sources, multicastAddress := group,
         maximumResponseDelayMilliseconds := r.configuration.lastListenerQueryIntervalMilliseconds
         queryIntervalSeconds := r.configuration.queryIntervalSeconds
         kind :=
           if query.multicastAddressQuery then .multicastAddress else .multicastAddressAndSources
         robustnessVariable := r.configuration.robustnessVariable
         suppressRouterProcessing :=
           decide (query.transmissionsRemaining < r.configuration.robustnessVariable)
         versionOne := r.operationalVersion == 1#8 }],
      { query with
        transmissionsRemaining := remaining
        deadline :=
          if remaining ≠ 0#8 then
            now + milliseconds r.configuration.lastListenerQueryIntervalMilliseconds
          else noDeadline
        sources := if remaining = 0#8 then [] else query.sources })

def pollQueries (now : Int) (room : Nat) (group : Ipv6) :
    List PendingQuery → List Action → List Action × List PendingQuery
  | [], actions => (actions, [])
  | query :: rest, actions =>
    let polled := r.pollQuery now room group actions query
    let others := pollQueries now room group rest polled.1
    (others.1, polled.2 :: others.2)

def pollGroups (now : Int) (room : Nat) : List Group → List Action → List Action × List Group
  | [], actions => (actions, [])
  | group :: rest, actions =>
    let polled := r.pollQueries now room group.multicastAddress group.pendingQueries actions
    let others := pollGroups now room rest polled.1
    (others.1, { group with pendingQueries := polled.2 } :: others.2)

/-- Everything that is due expires first. -/
def poll (now : Int) (room : Nat) : List Action × MldRouterInterface :=
  if !r.configuration.enabled then ([], r)
  else
    let general := (r.expire now).pollGeneral now room
    let polled := general.2.pollGroups now room general.2.groups general.1
    (polled.1, { general.2 with groups := polled.2 })

/-- Whether to forward from the source. -/
def listenerAccepts (groupAddress sourceAddress : Ipv6) (now : Int) : Bool :=
  if !r.configuration.enabled then false
  else if (r.findStatic groupAddress).any fun configured =>
      configured.starg || configured.sources.contains sourceAddress then true
  else
    match r.find groupAddress with
    | none => false
    | some group =>
      let source := Table.lookup Source.address sourceAddress group.sources
      match group.mode with
      | .includeMode => source.any fun entry => entry.timerRunning && decide (now < entry.expires)
      | .excludeMode => source.all (·.timerRunning)

end Poll

end MldRouterInterface

end RouterSim.Mld
