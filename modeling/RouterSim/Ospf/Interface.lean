import RouterSim.Ospf.Neighbor
import RouterSim.Ospf.DatabaseExchange

/-! One interface of an instance: Hello compatibility, the table of its neighbors, their
deadlines and the election of the designated router. -/
namespace RouterSim.Ospf

structure InterfaceConfiguration where
  routerId : BitVec 32
  areaId : BitVec 32
  interfaceId : BitVec 32
  networkMask : BitVec 32 := 0#32
  localElectionIdentity : BitVec 32 := 0#32
  options : BitVec 32 := 0#32
  helloIntervalSeconds : BitVec 16
  deadIntervalSeconds : BitVec 16
  interfaceMtu : BitVec 16
  routerPriority : BitVec 8 := 0#8
  version : Version
  instanceId : BitVec 8 := 0#8
  networkType : NetworkType := .broadcast
  passive : Bool := false
  enabled : Bool := false
  deriving DecidableEq

/-- What happened to a neighbor's exchange, kept for the proofs: it left Exchange, Loading
or Full, or a sequence number was drawn for it. -/
inductive Happening
  | left
  | drew (sequence : BitVec 32)
  deriving DecidableEq

structure NeighborRuntime where
  routerId : BitVec 32
  electionIdentity : BitVec 32 := 0#32
  interfaceId : BitVec 32 := 0#32
  designatedRouter : BitVec 32 := 0#32
  backupDesignatedRouter : BitVec 32 := 0#32
  options : BitVec 32 := 0#32
  inactivityDeadline : Time := 0
  state : NeighborState := .down
  priority : BitVec 8 := 0#8
  /-- Latest first. Read by no operation. -/
  history : List Happening := []

structure HelloView where
  networkMask : BitVec 32 := 0#32
  interfaceId : BitVec 32 := 0#32
  designatedRouter : BitVec 32 := 0#32
  backupDesignatedRouter : BitVec 32 := 0#32
  neighbors : List (BitVec 32)
  deadIntervalSeconds : BitVec 32
  options : BitVec 32 := 0#32
  helloIntervalSeconds : BitVec 16
  routerPriority : BitVec 8 := 0#8

/-- The body of a packet. A body that does not parse is absent. -/
inductive PacketBody
  | hello (view : Option HelloView)
  | databaseDescription (view : Option DatabaseDescriptionView)
  /-- An entry is absent when its type does not fit the version. -/
  | linkStateRequest (entries : Option (List (Option LinkStateRequestEntry)))
  | linkStateUpdate (advertisements : Option (List (List (BitVec 8))))
  | linkStateAcknowledgment (headers : Option (List LsaHeaderView))

structure PacketView where
  routerId : BitVec 32
  areaId : BitVec 32
  instanceId : BitVec 8 := 0#8
  version : Version
  body : PacketBody

inductive HelloDisposition
  | accepted | malformed | interfaceDown | self | areaMismatch | instanceMismatch
  | timerMismatch | networkMaskMismatch | optionsMismatch | neighborCapacityExhausted
  deriving DecidableEq

structure HelloResult where
  disposition : HelloDisposition
  state : NeighborState := .down
  actions : NeighborActions := {}
  neighborRouterId : BitVec 32 := 0#32
  backupSeen : Bool := false

/-- The actions one neighbor's transition asks its owner to apply. -/
structure NeighborReconciliation where
  routerId : BitVec 32
  actions : NeighborActions

def optionExternalRoutingCapability : BitVec 32 := 0x02#32
def optionAddressFamily : BitVec 32 := 0x100#32

def recordNeighborEvent (neighbor : NeighborRuntime) (transition : NeighborTransition) :
    NeighborRuntime :=
  { neighbor with
    state := transition.state
    history :=
      if neighbor.state.atLeast .exchange && !transition.state.atLeast .exchange then
        .left :: neighbor.history else neighbor.history }

/-- One neighbor after an event of its state machine. -/
def NeighborRuntime.react (neighbor : NeighborRuntime) (event : NeighborEvent)
    (adjacencyRequired requestsPending : Bool) : NeighborRuntime × NeighborTransition :=
  let transition := neighborTransition neighbor.state event adjacencyRequired requestsPending
  let recorded := recordNeighborEvent neighbor transition
  (if transition.actions.stopInactivityTimer then { recorded with inactivityDeadline := 0 }
    else recorded, transition)

structure InterfaceRuntime where
  configuration : InterfaceConfiguration
  neighbors : List NeighborRuntime := []
  maximumNeighbors : Nat
  helloDeadline : Time := 0
  waitDeadline : Time := 0
  state : InterfaceState := .down
  designatedRouter : BitVec 32 := 0#32
  backupDesignatedRouter : BitVec 32 := 0#32

def validateConfiguration (configuration : InterfaceConfiguration) : Bool :=
  configuration.routerId != 0#32 && configuration.helloIntervalSeconds != 0#16 &&
    configuration.deadIntervalSeconds != 0#16 &&
    decide (configuration.helloIntervalSeconds < configuration.deadIntervalSeconds) &&
    configuration.interfaceMtu != 0#16 &&
    (configuration.version == .three || configuration.instanceId == 0#8)

namespace InterfaceRuntime

variable {runtime : InterfaceRuntime} {now : Time} {id other : BitVec 32}

def create (configuration : InterfaceConfiguration) (maximumNeighbors : Nat) (now : Time) :
    InterfaceRuntime :=
  if !validateConfiguration configuration || !configuration.enabled then
    { configuration, maximumNeighbors }
  else
    let transition := interfaceTransition .down .interfaceUp configuration.networkType
      configuration.routerPriority
    { configuration, maximumNeighbors, state := transition.state
      helloDeadline :=
        if !configuration.passive && configuration.networkType != .nonBroadcast then now else 0
      waitDeadline :=
        if transition.actions.startWaitTimer then
          now + seconds configuration.deadIntervalSeconds.toNat else 0 }

def adjacencyRequired (runtime : InterfaceRuntime) (neighbor : NeighborRuntime) : Bool :=
  let type := runtime.configuration.networkType
  if type = .pointToPoint ∨ type = .pointToMultipoint ∨ type = .virtualLink then true
  else
    runtime.state == .designated || runtime.state == .backup ||
      neighbor.electionIdentity == runtime.designatedRouter ||
      neighbor.electionIdentity == runtime.backupDesignatedRouter

def neighbor? (runtime : InterfaceRuntime) (id : BitVec 32) : Option NeighborRuntime :=
  Table.lookup NeighborRuntime.routerId id runtime.neighbors

def changeNeighbor (runtime : InterfaceRuntime) (id : BitVec 32)
    (f : NeighborRuntime → NeighborRuntime) : InterfaceRuntime :=
  { runtime with neighbors := Table.update NeighborRuntime.routerId id f runtime.neighbors }

/-- The checks a Hello passes before its sender is looked up. -/
def helloDisposition (runtime : InterfaceRuntime) (packet : PacketView)
    (electionIdentity : BitVec 32) (view : Option HelloView) : HelloDisposition ⊕ HelloView :=
  let configuration := runtime.configuration
  if !configuration.enabled || configuration.passive || runtime.state == .down ||
      runtime.state == .loopback then .inl .interfaceDown
  else if packet.routerId = configuration.routerId ∨ electionIdentity = 0#32 then .inl .self
  else if packet.areaId ≠ configuration.areaId then .inl .areaMismatch
  else if packet.version ≠ configuration.version ∨
      packet.version = .three ∧ packet.instanceId ≠ configuration.instanceId then
    .inl .instanceMismatch
  else
    match view with
    | none => .inl .malformed
    | some hello =>
      if hello.helloIntervalSeconds ≠ configuration.helloIntervalSeconds ∨
          hello.deadIntervalSeconds ≠ configuration.deadIntervalSeconds.setWidth 32 then
        .inl .timerMismatch
      else if packet.version = .two ∧ hello.networkMask ≠ configuration.networkMask ∧
          configuration.networkType ≠ .pointToPoint ∧ configuration.networkType ≠ .virtualLink then
        .inl .networkMaskMismatch
      else if hello.options &&& optionExternalRoutingCapability ≠
          configuration.options &&& optionExternalRoutingCapability then .inl .optionsMismatch
      else if packet.version = .three ∧ configuration.instanceId ≠ 0#8 ∧
          configuration.options &&& optionAddressFamily ≠ 0#32 ∧
          hello.options &&& optionAddressFamily = 0#32 then .inl .optionsMismatch
      else .inr hello

/-- The neighbor with what the Hello says of it. -/
def learn (runtime : InterfaceRuntime) (version : Version) (electionIdentity : BitVec 32)
    (hello : HelloView) (now : Time) (neighbor : NeighborRuntime) : NeighborRuntime :=
  { neighbor with
    interfaceId := if version = .three then hello.interfaceId else neighbor.interfaceId
    electionIdentity, priority := hello.routerPriority, designatedRouter := hello.designatedRouter,
    backupDesignatedRouter := hello.backupDesignatedRouter, options := hello.options,
    inactivityDeadline := now + seconds runtime.configuration.deadIntervalSeconds.toNat }

/-- The two events of an accepted Hello and the actions they ask for. -/
def greet (runtime : InterfaceRuntime) (hello : HelloView) (neighbor : NeighborRuntime) :
    NeighborRuntime × NeighborActions :=
  let required := runtime.adjacencyRequired neighbor
  let received := neighborTransition neighbor.state .helloReceived required false
  let way : NeighborEvent :=
    if runtime.configuration.routerId ∈ hello.neighbors then .twoWayReceived else .oneWayReceived
  let transition := neighborTransition received.state way required false
  (recordNeighborEvent (recordNeighborEvent neighbor received) transition,
    received.actions.union transition.actions)

def backupSeen (runtime : InterfaceRuntime) (electionIdentity : BitVec 32) (hello : HelloView) :
    Bool :=
  runtime.state == .waiting &&
    (hello.backupDesignatedRouter == electionIdentity ||
      hello.designatedRouter == electionIdentity && hello.backupDesignatedRouter == 0#32)

/-- Whether the Hello changed what an election reads of a neighbor known before. -/
def declarationsChanged (before after : NeighborRuntime) : Bool :=
  before.state != .down &&
    (before.priority != after.priority || before.designatedRouter != after.designatedRouter ||
      before.backupDesignatedRouter != after.backupDesignatedRouter)

/-- The row of the sender, added when it is not known yet. -/
def withNeighbor (runtime : InterfaceRuntime) (id : BitVec 32) : Option InterfaceRuntime :=
  match runtime.neighbor? id with
  | some _ => some runtime
  | none =>
    if runtime.neighbors.length = runtime.maximumNeighbors then none
    else some { runtime with neighbors := runtime.neighbors ++ [{ routerId := id }] }

def receiveHello (runtime : InterfaceRuntime) (packet : PacketView)
    (electionIdentity : BitVec 32) (view : Option HelloView) (now : Time) :
    HelloResult × InterfaceRuntime :=
  match runtime.helloDisposition packet electionIdentity view with
  | .inl disposition => ({ disposition }, runtime)
  | .inr hello =>
    match runtime.withNeighbor packet.routerId with
    | none => ({ disposition := .neighborCapacityExhausted }, runtime)
    | some known =>
      match known.neighbor? packet.routerId with
      | none => ({ disposition := .neighborCapacityExhausted }, runtime)
      | some before =>
        let learned := known.learn packet.version electionIdentity hello now before
        let greeted := known.greet hello learned
        let notify := declarationsChanged before learned
        ({ disposition := .accepted, state := greeted.1.state,
           actions := greeted.2.union { notifyInterface := notify }
           neighborRouterId := packet.routerId
           backupSeen := known.backupSeen electionIdentity hello },
          known.changeNeighbor packet.routerId fun _ => greeted.1)

/-- One neighbor whose inactivity deadline has passed. -/
def expire (runtime : InterfaceRuntime) (neighbor : NeighborRuntime) :
    NeighborRuntime × NeighborReconciliation :=
  let transition := neighborTransition neighbor.state .inactivityTimer
    (runtime.adjacencyRequired neighbor) false
  ({ recordNeighborEvent neighbor transition with inactivityDeadline := 0 },
    { routerId := neighbor.routerId, actions := transition.actions })

/-- The rows after the deadlines, the neighbors that expired, and whether the budget was
enough. -/
def expireAll (runtime : InterfaceRuntime) (now : Time) :
    Nat → List NeighborRuntime → List NeighborRuntime × List NeighborReconciliation × Bool
  | _, [] => ([], [], true)
  | budget, neighbor :: rest =>
    if neighbor.state = .down ∨ now < neighbor.inactivityDeadline then
      let done := expireAll runtime now budget rest
      (neighbor :: done.1, done.2)
    else
      match budget with
      | 0 => (neighbor :: rest, [], false)
      | budget + 1 =>
        let expired := runtime.expire neighbor
        let done := expireAll runtime now budget rest
        (expired.1 :: done.1, expired.2 :: done.2.1, done.2.2)

def processDeadlines (runtime : InterfaceRuntime) (now : Time) (budget : Nat) :
    InterfaceRuntime × List NeighborReconciliation × Bool :=
  let done := runtime.expireAll now budget runtime.neighbors
  ({ runtime with neighbors := done.1 }, done.2)

def deferInactivity (runtime : InterfaceRuntime) (id : BitVec 32) (deadline : Time) :
    InterfaceRuntime :=
  runtime.changeNeighbor id fun neighbor =>
    if neighbor.state = .down ∨ deadline = 0 then neighbor
    else if neighbor.inactivityDeadline < deadline then
      { neighbor with inactivityDeadline := deadline }
    else neighbor

def candidates (runtime : InterfaceRuntime) : List ElectionRouter :=
  let own : ElectionRouter :=
    { electionIdentity :=
        if runtime.configuration.version = .two then runtime.configuration.localElectionIdentity
        else runtime.configuration.routerId
      routerId := runtime.configuration.routerId, declaredDr := runtime.designatedRouter,
      declaredBdr := runtime.backupDesignatedRouter
      priority := runtime.configuration.routerPriority, twoWayOrGreater := true, isLocal := true }
  own :: runtime.neighbors.map fun neighbor =>
    { electionIdentity := neighbor.electionIdentity, routerId := neighbor.routerId,
      declaredDr := neighbor.designatedRouter, declaredBdr := neighbor.backupDesignatedRouter,
      priority := neighbor.priority, twoWayOrGreater := neighbor.state.atLeast .twoWay }

def elect (runtime : InterfaceRuntime) : InterfaceRuntime :=
  let result := electDrBdr runtime.candidates
  { runtime with
    designatedRouter := result.designatedRouter
    backupDesignatedRouter := result.backupDesignatedRouter, state := result.localState }

def applyElection (runtime : InterfaceRuntime) (requested : InterfaceActions) :
    InterfaceActions × InterfaceRuntime :=
  if !requested.electDrBdr then (requested, runtime)
  else
    let elected := runtime.elect
    let changed := runtime.state != elected.state ||
      runtime.designatedRouter != elected.designatedRouter ||
      runtime.backupDesignatedRouter != elected.backupDesignatedRouter
    ({ requested with
        originateRouterLsa := requested.originateRouterLsa || changed
        originateNetworkLsa := requested.originateNetworkLsa ||
          changed && (runtime.state == .designated || elected.state == .designated) },
      elected)

def processInterfaceDeadline (runtime : InterfaceRuntime) (now : Time) :
    InterfaceActions × InterfaceRuntime :=
  if runtime.state ≠ .waiting ∨ runtime.waitDeadline = 0 ∨ now < runtime.waitDeadline then
    ({}, runtime)
  else
    let transition := interfaceTransition runtime.state .waitTimer
      runtime.configuration.networkType runtime.configuration.routerPriority
    applyElection { runtime with waitDeadline := 0 } transition.actions

def neighborChange (runtime : InterfaceRuntime) (backupSeen : Bool) :
    InterfaceActions × InterfaceRuntime :=
  if !isMultiAccess runtime.configuration.networkType then ({}, runtime)
  else
    let transition := interfaceTransition runtime.state
      (if backupSeen then .backupSeen else .neighborChange)
      runtime.configuration.networkType runtime.configuration.routerPriority
    applyElection
      { runtime with waitDeadline := if backupSeen then 0 else runtime.waitDeadline }
      transition.actions

/-- One neighbor after an election, with the actions its transition asks for. -/
def reconcile (runtime : InterfaceRuntime) (neighbor : NeighborRuntime) :
    NeighborRuntime × NeighborReconciliation :=
  let transition := neighborTransition neighbor.state .adjacencyOk
    (runtime.adjacencyRequired neighbor) false
  (recordNeighborEvent neighbor transition,
    { routerId := neighbor.routerId, actions := transition.actions })

/-- Every neighbor is looked at again after an election. Nothing is done when the caller
has room for fewer rows than there are neighbors. -/
def reconcileAdjacencies (runtime : InterfaceRuntime) (room : Nat) :
    Option (InterfaceRuntime × List NeighborReconciliation) :=
  if room < runtime.neighbors.length then none
  else
    let rows := runtime.neighbors.map runtime.reconcile
    some ({ runtime with neighbors := rows.map (·.1) }, (rows.map (·.2)).filter (·.actions ≠ {}))

def helloDue (runtime : InterfaceRuntime) (now : Time) : Bool :=
  runtime.configuration.enabled && !runtime.configuration.passive &&
    runtime.configuration.networkType != .nonBroadcast && runtime.state != .down &&
    runtime.state != .loopback && decide (runtime.helloDeadline ≤ now)

def helloSent (runtime : InterfaceRuntime) (now : Time) : InterfaceRuntime :=
  { runtime with
    helloDeadline := now + seconds runtime.configuration.helloIntervalSeconds.toNat }

def applyNeighborEvent (runtime : InterfaceRuntime) (id : BitVec 32) (event : NeighborEvent)
    (requestsPending : Bool) : Option NeighborTransition × InterfaceRuntime :=
  match runtime.neighbor? id with
  | none => (none, runtime)
  | some neighbor =>
    let reacted := neighbor.react event (runtime.adjacencyRequired neighbor) requestsPending
    (some reacted.2, runtime.changeNeighbor id fun _ => reacted.1)

def eraseNeighbor (runtime : InterfaceRuntime) (id : BitVec 32) : Bool × InterfaceRuntime :=
  match runtime.neighbor? id with
  | none => (false, runtime)
  | some _ =>
    (true, { runtime with neighbors := Table.drop NeighborRuntime.routerId id runtime.neighbors })

end InterfaceRuntime

end RouterSim.Ospf
