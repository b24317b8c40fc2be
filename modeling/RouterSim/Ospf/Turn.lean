import RouterSim.Ospf.Flooding
import RouterSim.Lib.Runs

/-! The operations of an instance: the packets it receives, the turns it is given, its
configuration and its resets. -/
namespace RouterSim.Ospf

inductive PacketKind
  | hello | databaseDescription | linkStateRequest | linkStateUpdate | linkStateAcknowledgment

/-- What a turn finds outside the instance. Outputs are asked for by interface, neighbor
and kind: whether there is space for one more, and whether it can be encoded. -/
structure Turn where
  now : Time
  /-- What the router originates, if that is due. -/
  originations : List LocalOrigination := []
  /-- The routes were not due, or were published. -/
  routesPublished : Bool := true
  hasSpace : BitVec 32 → BitVec 32 → PacketKind → Bool := fun _ _ _ => true
  encodes : BitVec 32 → BitVec 32 → PacketKind → Bool := fun _ _ _ => true

section Emission

/-- Send one packet of a neighbor if one is pending and there is space. -/
def emitRow (turn : Turn) (kind : PacketKind) (pending : NeighborExchange → Bool)
    (emit : Bool → NeighborExchange → Bool × NeighborExchange) (id : BitVec 32)
    (owner : InterfaceOwner) : Bool × InterfaceOwner :=
  match owner.exchange? id with
  | none => (true, owner)
  | some row =>
    if !pending row then (true, owner)
    else if !turn.hasSpace owner.interfaceId id kind then (false, owner)
    else
      let done := emit (turn.encodes owner.interfaceId id kind) row
      (done.1, owner.changeExchange id fun _ => done.2)

/-- Send a Database Description packet of a neighbor if one is pending. -/
def emitDescription (turn : Turn) (inst : Instance) (id : BitVec 32) (owner : InterfaceOwner) :
    Bool × InterfaceOwner :=
  match owner.adjacency? id with
  | none => (true, owner)
  | some adjacency =>
    if !adjacency.exchange.pendingDatabaseDescription then (true, owner)
    else if !turn.hasSpace owner.interfaceId id .databaseDescription then (false, owner)
    else
      let done := adjacency.emitDatabaseDescription (owner.view inst)
        (owner.runtime.adjacencyRequired adjacency.neighbor)
        (turn.encodes owner.interfaceId id .databaseDescription) turn.now
      (done.1.isSome, owner.setAdjacency id done.2)

/-- Go on with the next packet unless the turn has to stop. -/
def thenEmit (done : Bool × InterfaceOwner) (next : InterfaceOwner → Bool × InterfaceOwner) :
    Bool × InterfaceOwner :=
  if done.1 then next done.2 else done

/-- The pending packets of one neighbor. Acknowledgments go first. -/
def emitNeighbor (turn : Turn) (inst : Instance) (id : BitVec 32) (owner : InterfaceOwner) :
    Bool × InterfaceOwner :=
  let view := owner.view inst
  let woken := owner.changeExchange id (·.wake turn.now)
  let acknowledged := emitRow turn .linkStateAcknowledgment (·.pendingAcknowledgment)
    (fun encodes row => row.emitLinkStateAcknowledgment view encodes) id woken
  let described := thenEmit acknowledged (emitDescription turn inst id)
  let updated := thenEmit described
    (emitRow turn .linkStateUpdate (·.pendingUpdate)
      (fun encodes row => row.emitLinkStateUpdate view encodes turn.now) id)
  thenEmit updated
    (emitRow turn .linkStateRequest (·.pendingRequest)
      (fun encodes row => row.emitLinkStateRequest view encodes turn.now) id)

def emitAll (turn : Turn) (inst : Instance) :
    List (BitVec 32) → InterfaceOwner → Bool × InterfaceOwner
  | [], owner => (true, owner)
  | id :: rest, owner => thenEmit (emitNeighbor turn inst id owner) (emitAll turn inst rest)

end Emission

section Interface

/-- A neighbor that is helped stays until the helper's deadline. -/
def keepHelped (now : Time) (owner : InterfaceOwner) (id : BitVec 32) : InterfaceOwner :=
  match owner.exchange? id with
  | none => owner
  | some row =>
    if !row.helperActive then owner
    else if row.helperDeadline ≤ now then owner.changeExchange id endHelping
    else { owner with runtime := owner.runtime.deferInactivity id row.helperDeadline }

/-- The neighbors that expired, in order, up to the first whose actions fail. -/
def applyExpired (now : Time) : Instance → InterfaceOwner → List NeighborReconciliation → OwnerStep
  | inst, owner, [] => { ok := true, inst, owner }
  | inst, owner, work :: rest =>
    let done := applyAndNotify inst owner work false now
    if done.ok then applyExpired now done.inst done.owner rest else done

/-- The periodic Hello of the interface. -/
def sendHello (turn : Turn) (owner : InterfaceOwner) : Bool × InterfaceOwner :=
  if !owner.runtime.helloDue turn.now then (true, owner)
  else if !turn.hasSpace owner.interfaceId 0#32 .hello ||
      !turn.encodes owner.interfaceId 0#32 .hello then (false, owner)
  else (true, { owner with runtime := owner.runtime.helloSent turn.now })

/-- Whether a peer of a non-broadcast network is sent Hellos. -/
def qualified (inst : Instance) (owner : InterfaceOwner) (peer : NbmaPeer) : Bool :=
  let eligible := owner.configuration.protocol.routerPriority != 0#8
  let identity := match inst.version with
    | .two => peer.address.extractLsb' 96 32
    | .three => peer.routerId
  eligible && peer.priority != 0#8 || owner.runtime.state == .designated ||
    owner.runtime.state == .backup ||
    !eligible && identity != 0#32 &&
      (identity == owner.runtime.designatedRouter ||
        identity == owner.runtime.backupDesignatedRouter)

/-- The Hello to one peer of a non-broadcast network. -/
def pollPeer (turn : Turn) (inst : Instance) (owner : InterfaceOwner) (peer : NbmaPeer) :
    Bool × NbmaPeer :=
  if turn.now < peer.helloDeadline then (true, peer)
  else if qualified inst owner peer && (!turn.hasSpace owner.interfaceId peer.routerId .hello ||
      !turn.encodes owner.interfaceId peer.routerId .hello) then (false, peer)
  else
    let down := peer.routerId == 0#32 ||
      (owner.runtime.neighbor? peer.routerId).all (·.state == .down)
    let interval := if down then peer.pollIntervalSeconds
      else owner.configuration.protocol.helloIntervalSeconds
    (true, { peer with helloDeadline := turn.now + seconds interval.toNat })

def pollPeers (turn : Turn) (inst : Instance) (owner : InterfaceOwner) : Bool × InterfaceOwner :=
  if owner.networkType ≠ .nonBroadcast then (true, owner)
  else
    let done := Table.sweep (pollPeer turn inst owner) owner.nbmaPeers
    (done.1, { owner with nbmaPeers := done.2 })

/-- The packets an interface sends. -/
def emitInterface (turn : Turn) (inst : Instance) (owner : InterfaceOwner) :
    Bool × InterfaceOwner :=
  let polled := thenEmit (sendHello turn owner) (pollPeers turn inst)
  thenEmit polled (emitAll turn inst (owner.exchanges.map (·.routerId)))

/-- The part of a turn one interface has. -/
def runInterface (turn : Turn) (inst : Instance) (owner : InterfaceOwner) : OwnerStep :=
  let helped := (owner.exchanges.map (·.routerId)).foldl (keepHelped turn.now) owner
  let deadlines := helped.runtime.processDeadlines turn.now NeighborExchange.workBudgetPackets
  let expired := applyExpired turn.now inst { helped with runtime := deadlines.1 } deadlines.2.1
  if !expired.ok then expired
  else
    let waited := expired.owner.runtime.processInterfaceDeadline turn.now
    let elected := reconcileInterfaceAdjacencies expired.inst
      { expired.owner with runtime := waited.2 } waited.1 turn.now
    if !elected.ok then elected
    else
      let emitted := emitInterface turn elected.inst elected.owner
      { ok := emitted.1 && deadlines.2.2, inst := elected.inst, owner := emitted.2 }

def runInterfaces (turn : Turn) :
    Instance → List InterfaceOwner → Bool × Instance × List InterfaceOwner
  | inst, [] => (true, inst, [])
  | inst, owner :: rest =>
    let done := runInterface turn inst owner
    if !done.ok then (false, done.inst, done.owner :: rest)
    else
      let more := runInterfaces turn done.inst rest
      (more.1, more.2.1, done.owner :: more.2.2)

end Interface

namespace InstanceProcess

def runReady (process : InstanceProcess) (turn : Turn) : InstanceProcess :=
  let maintained := maintainDatabase process turn.now
  if !maintained.1 then maintained.2
  else
    let originated := originateAll turn.now turn.originations maintained.2
    if !originated.1 || !turn.routesPublished then originated.2
    else
      let done := runInterfaces turn originated.2.toInstance originated.2.interfaces
      { originated.2 with
        toInstance := done.2.1, interfaces := done.2.2 }

/-- Whether the sender of a packet may take part on the interface. -/
def admits (process : InstanceProcess) (owner : InterfaceOwner) (packet : PacketView)
    (source : PacketSource) : Bool :=
  match owner.networkType with
  | .virtualLink =>
    packet.routerId == owner.configuration.virtualNeighborRouterId &&
      owner.configuration.virtualNeighborFamily == process.version &&
      source.address process.version == owner.configuration.virtualNeighborAddress
  | .nonBroadcast => owner.nbmaPeers.any (·.address == source.address process.version)
  | _ => true

/-- A receive of one interface, written back. -/
def finish (process : InstanceProcess) (done : OwnerReceive) : ReceiveStatus × InstanceProcess :=
  (done.status, { process with toInstance := done.inst }.setInterface done.owner)

/-- A packet of a known neighbor. -/
def receiveExchange (process : InstanceProcess) (owner : InterfaceOwner) (adjacency : Adjacency)
    (packet : PacketView) (source : PacketSource) (now : Time) : ReceiveStatus × InstanceProcess :=
  let id := packet.routerId
  let exchanging := adjacency.neighbor.state.atLeast .exchange
  match packet.body with
  | .hello _ => (.accepted, process)
  | .databaseDescription view =>
    process.finish (receiveDatabaseDescription process.toInstance owner id adjacency view now)
  | .linkStateRequest entries =>
    if !exchanging then (.invalidNeighborState, process)
    else process.finish (receiveLinkStateRequest process.toInstance owner id adjacency entries now)
  | .linkStateUpdate advertisements =>
    if !exchanging then (.invalidNeighborState, process)
    else receiveLinkStateUpdate process owner.interfaceId id source advertisements now
  | .linkStateAcknowledgment headers =>
    if !exchanging then (.invalidNeighborState, process)
    else
      let done := adjacency.receiveLinkStateAcknowledgment headers
      (done.1, process.setInterface (owner.setAdjacency id done.2))

/-- An authenticated packet on an interface. -/
def receiveValidated (process : InstanceProcess) (interfaceId : BitVec 32) (packet : PacketView)
    (source : PacketSource) (now : Time) : ReceiveStatus × InstanceProcess :=
  match process.interface? interfaceId with
  | none => (.interfaceNotFound, process)
  | some owner =>
    if packet.version ≠ process.version then (.versionMismatch, process)
    else if !process.admits owner packet source then (.neighborNotFound, process)
    else
      match packet.body with
      | .hello view => process.finish (receiveHello process.toInstance owner packet view source now)
      | _ =>
        match owner.adjacency? packet.routerId with
        | none => (.neighborNotFound, process)
        | some adjacency => process.receiveExchange owner adjacency packet source now

def noPhysicalPort : BitVec 16 := 0xffff#16

/-- The configuration of a virtual link, or of any other interface, is consistent. -/
def virtualConfigurationValid (process : InstanceProcess)
    (configuration : ProcessInterfaceConfiguration) : Bool :=
  if configuration.protocol.networkType = .virtualLink then
    configuration.virtualNeighborRouterId != 0#32 &&
      configuration.virtualNeighborRouterId != process.routerId &&
      configuration.virtualNeighborFamily == process.version &&
      configuration.virtualNeighborAddress != 0#128 &&
      configuration.physicalPortOrdinal != noPhysicalPort
  else configuration.virtualNeighborRouterId == 0#32

/-- A version two interface is elected under its address. -/
def normalize (configuration : ProcessInterfaceConfiguration) : ProcessInterfaceConfiguration :=
  if configuration.protocol.version = .two then
    { configuration with
      protocol :=
        { configuration.protocol with localElectionIdentity := configuration.ipv4Source } }
  else configuration

def addInterface (process : InstanceProcess) (configuration : ProcessInterfaceConfiguration)
    (now : Time) : Bool × InstanceProcess :=
  let normalized := normalize configuration
  let protocol := normalized.protocol
  if process.interfaces.length = process.maximumInterfaces ∨ !validateConfiguration protocol ∨
      protocol.routerId ≠ process.routerId ∨ protocol.areaId ≠ process.areaId ∨
      protocol.version ≠ process.version ∨ protocol.instanceId ≠ process.instanceId ∨
      normalized.retransmitIntervalSeconds = 0#16 ∨ normalized.transmitDelaySeconds = 0#16 ∨
      (process.interface? protocol.interfaceId).isSome ∨
      !process.virtualConfigurationValid normalized then (false, process)
  else
    (true,
      { process with
        interfaces := process.interfaces ++
          [{ configuration := normalized
             runtime := .create protocol process.maximumNeighborsPerInterface now }] })

def dropInterface (process : InstanceProcess) (id : BitVec 32) : InstanceProcess :=
  { process with interfaces := Table.drop InterfaceOwner.interfaceId id process.interfaces }

def removeInterface (process : InstanceProcess) (id : BitVec 32) : Bool × InstanceProcess :=
  match process.interface? id with
  | none => (false, process)
  | some _ => (true, process.dropInterface id)

def removeVirtualInterface (process : InstanceProcess) (id : BitVec 32) : Bool × InstanceProcess :=
  match process.interface? id with
  | none => (true, process)
  | some owner =>
    if owner.networkType ≠ .virtualLink then (false, process)
    else (true, process.dropInterface id)

def replaceVirtualInterface (process : InstanceProcess)
    (configuration : ProcessInterfaceConfiguration) (now : Time) : Bool × InstanceProcess :=
  let normalized := normalize configuration
  if configuration.protocol.networkType ≠ .virtualLink then (false, process)
  else
    match process.interface? normalized.protocol.interfaceId with
    | none => process.addInterface normalized now
    | some owner =>
      if owner.configuration = normalized then (true, process)
      else if owner.networkType ≠ .virtualLink then (false, process)
      else (process.dropInterface normalized.protocol.interfaceId).addInterface normalized now

def addNbmaNeighbor (process : InstanceProcess) (interfaceId : BitVec 32)
    (address : BitVec 128) (priority : BitVec 8) (pollIntervalSeconds : BitVec 16)
    (now : Time) : Bool × InstanceProcess :=
  match process.interface? interfaceId with
  | none => (false, process)
  | some owner =>
    if owner.networkType ≠ .nonBroadcast ∨ pollIntervalSeconds = 0#16 ∨ address = 0#128 ∨
        owner.nbmaPeers.length = process.maximumNeighborsPerInterface ∨
        owner.nbmaPeers.any (·.address == address) then (false, process)
    else
      (true, process.setInterface
        { owner with
          nbmaPeers := owner.nbmaPeers ++
            [{ address, priority, pollIntervalSeconds, helloDeadline := now }] })

/-- Kill one neighbor. What follows is carried out as far as it goes. -/
def killNeighbor (now : Time) (current : Instance × InterfaceOwner) (id : BitVec 32) :
    Instance × InterfaceOwner :=
  let reacted := current.2.runtime.applyNeighborEvent id .killNeighbor false
  match reacted.1 with
  | none => current
  | some transition =>
    let done := applyAndNotify current.1 { current.2 with runtime := reacted.2 }
      { routerId := id, actions := transition.actions } false now
    (done.inst, done.owner)

/-- A filter of zero stands for every interface and every neighbor. -/
def killNeighbors (interfaceId neighborId : BitVec 32) (now : Time) :
    Instance → List InterfaceOwner → Instance × List InterfaceOwner
  | inst, [] => (inst, [])
  | inst, owner :: rest =>
    let ids := if interfaceId ≠ 0#32 ∧ owner.interfaceId ≠ interfaceId then []
      else (owner.runtime.neighbors.map (·.routerId)).filter
        (fun id => neighborId == 0#32 || id == neighborId)
    let done := ids.foldl (killNeighbor now) (inst, owner)
    let more := killNeighbors interfaceId neighborId now done.1 rest
    (more.1, done.2 :: more.2)

def resetNeighbors (process : InstanceProcess) (interfaceId neighborId : BitVec 32)
    (now : Time) : InstanceProcess :=
  let done := killNeighbors interfaceId neighborId now process.toInstance process.interfaces
  { process with
    toInstance := done.1, interfaces := done.2 }

/-- The neighbors of an interface go back to one-way, up to the first whose actions fail. -/
def regress (now : Time) : List (BitVec 32) → Instance → InterfaceOwner → OwnerStep
  | [], inst, owner => { ok := true, inst, owner }
  | id :: rest, inst, owner =>
    match owner.runtime.neighbor? id with
    | none => regress now rest inst owner
    | some neighbor =>
      if !neighbor.state.atLeast .exstart then regress now rest inst owner
      else
        let reacted := owner.runtime.applyNeighborEvent id .oneWayReceived false
        match reacted.1 with
        | none => { ok := false, inst, owner }
        | some transition =>
          let done := applyNeighborActions inst { owner with runtime := reacted.2 } id
            transition.actions now
          if done.ok then regress now rest done.inst done.owner else done

def regressAll (now : Time) : Instance → List InterfaceOwner → Bool × Instance × List InterfaceOwner
  | inst, [] => (true, inst, [])
  | inst, owner :: rest =>
    let done := regress now (owner.runtime.neighbors.map (·.routerId)) inst owner
    if !done.ok then (false, done.inst, done.owner :: rest)
    else
      let more := regressAll now done.inst rest
      (more.1, more.2.1, done.owner :: more.2.2)

def eraseReceived (routerId : BitVec 32) (database : LinkStateDatabase) : LinkStateDatabase :=
  ((database.records.map (·.key)).filter (·.advertisingRouter != routerId)).foldl
    (fun database key => (database.erase key).2) database

def resetDatabase (process : InstanceProcess) (now : Time) : InstanceProcess :=
  let inst : Instance :=
    { process.toInstance with database := eraseReceived process.routerId process.database }
  let done := regressAll now inst process.interfaces
  { process with
    toInstance := done.2.1, interfaces := done.2.2 }

def create (routerId areaId : BitVec 32) (version : Version) (instanceId : BitVec 8)
    (initialDdSequence : BitVec 32)
    (maximumInterfaces maximumNeighborsPerInterface maximumLsas : Nat) : InstanceProcess :=
  { routerId, areaId, version, instanceId, nextDdSequence := initialDdSequence,
    database := { maximumRecords := maximumLsas }, maximumNeighborsPerInterface, maximumLsas,
    maximumInterfaces }

inductive Op
  | receive (interfaceId : BitVec 32) (packet : PacketView) (source : PacketSource) (now : Time)
  | runReady (turn : Turn)
  | addInterface (configuration : ProcessInterfaceConfiguration) (now : Time)
  | removeInterface (id : BitVec 32)
  | replaceVirtualInterface (configuration : ProcessInterfaceConfiguration) (now : Time)
  | removeVirtualInterface (id : BitVec 32)
  | addNbmaNeighbor (interfaceId : BitVec 32) (address : BitVec 128) (priority : BitVec 8)
      (pollIntervalSeconds : BitVec 16) (now : Time)
  | resetNeighbors (interfaceId neighborId : BitVec 32) (now : Time)
  | resetDatabase (now : Time)
  | setGracefulRestartHelper (enabled : Bool)

def step (process : InstanceProcess) : Op → InstanceProcess
  | .receive interfaceId packet source now =>
    (process.receiveValidated interfaceId packet source now).2
  | .runReady turn => process.runReady turn
  | .addInterface configuration now => (process.addInterface configuration now).2
  | .removeInterface id => (process.removeInterface id).2
  | .replaceVirtualInterface configuration now =>
    (process.replaceVirtualInterface configuration now).2
  | .removeVirtualInterface id => (process.removeVirtualInterface id).2
  | .addNbmaNeighbor interfaceId address priority interval now =>
    (process.addNbmaNeighbor interfaceId address priority interval now).2
  | .resetNeighbors interfaceId neighborId now => process.resetNeighbors interfaceId neighborId now
  | .resetDatabase now => process.resetDatabase now
  | .setGracefulRestartHelper enabled => { process with gracefulRestartHelper := enabled }

end InstanceProcess

end RouterSim.Ospf
