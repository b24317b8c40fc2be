import RouterSim.Ospf.Adjacency

/-! One instance of the protocol: its interfaces, the database they share, and the turns
its owner gives it. Authentication is decided before a packet gets here. What it originates
itself, and whether an output can be encoded, is an input of a turn. -/
namespace RouterSim.Ospf

open Table

structure ProcessInterfaceConfiguration where
  protocol : InterfaceConfiguration
  ipv4Source : BitVec 32 := 0#32
  retransmitIntervalSeconds : BitVec 16
  transmitDelaySeconds : BitVec 16
  physicalPortOrdinal : BitVec 16 := 0#16
  virtualNeighborRouterId : BitVec 32 := 0#32
  /-- The version whose address family the address is of. -/
  virtualNeighborFamily : Version := .two
  virtualNeighborAddress : BitVec 128 := 0#128
  deriving DecidableEq

/-- An address a packet comes from. -/
structure PacketSource where
  ipv4 : BitVec 32 := 0#32
  ipv6 : BitVec 128 := 0#128

/-- The address in the one form both versions share. -/
def PacketSource.address (source : PacketSource) : Version → BitVec 128
  | .two => (source.ipv4 ++ 0#96).cast (by decide)
  | .three => source.ipv6

structure NbmaPeer where
  address : BitVec 128
  priority : BitVec 8
  pollIntervalSeconds : BitVec 16
  helloDeadline : Time
  routerId : BitVec 32 := 0#32

structure InterfaceOwner where
  configuration : ProcessInterfaceConfiguration
  runtime : InterfaceRuntime
  exchanges : List NeighborExchange := []
  nbmaPeers : List NbmaPeer := []

/-- What the interfaces of an instance share. -/
structure Instance where
  routerId : BitVec 32
  areaId : BitVec 32
  version : Version
  instanceId : BitVec 8
  nextDdSequence : BitVec 32
  database : LinkStateDatabase
  maximumNeighborsPerInterface : Nat
  maximumLsas : Nat
  /-- Received advertisements of this router that wait for an answer. -/
  pendingFightBacks : List (LsaKey × List (BitVec 8)) := []
  gracefulRestartHelper : Bool := false

structure InstanceProcess extends Instance where
  interfaces : List InterfaceOwner := []
  maximumInterfaces : Nat

namespace InterfaceOwner

def interfaceId (owner : InterfaceOwner) : BitVec 32 := owner.configuration.protocol.interfaceId

def networkType (owner : InterfaceOwner) : NetworkType := owner.configuration.protocol.networkType

def view (inst : Instance) (owner : InterfaceOwner) : LocalView where
  routerId := inst.routerId
  version := inst.version
  database := inst.database
  networkType := owner.networkType
  interfaceMtu := owner.configuration.protocol.interfaceMtu
  options := owner.configuration.protocol.options
  retransmitIntervalSeconds := owner.configuration.retransmitIntervalSeconds
  transmitDelaySeconds := owner.configuration.transmitDelaySeconds

def exchange? (owner : InterfaceOwner) (id : BitVec 32) : Option NeighborExchange :=
  lookup NeighborExchange.routerId id owner.exchanges

def changeExchange (owner : InterfaceOwner) (id : BitVec 32)
    (f : NeighborExchange → NeighborExchange) : InterfaceOwner :=
  { owner with exchanges := update NeighborExchange.routerId id f owner.exchanges }

/-- The owner with a row for the neighbor, if there is one or room for one. -/
def withExchange (inst : Instance) (owner : InterfaceOwner) (id : BitVec 32) :
    Option InterfaceOwner :=
  match owner.exchange? id with
  | some _ => some owner
  | none =>
    if owner.exchanges.length = inst.maximumNeighborsPerInterface then none
    else some { owner with exchanges := owner.exchanges ++ [.create id inst.maximumLsas] }

def adjacency? (owner : InterfaceOwner) (id : BitVec 32) : Option Adjacency :=
  match owner.exchange? id, owner.runtime.neighbor? id with
  | some exchange, some neighbor => some { neighbor, exchange }
  | _, _ => none

def setAdjacency (owner : InterfaceOwner) (id : BitVec 32) (adjacency : Adjacency) :
    InterfaceOwner :=
  { owner with
    runtime := owner.runtime.changeNeighbor id fun _ => adjacency.neighbor
    exchanges :=
      update NeighborExchange.routerId id (fun _ => adjacency.exchange) owner.exchanges }

/-- Whether the router advertises a full adjacency with the neighbor: it is full, or a
graceful restart is being helped. -/
def advertisedFull (owner : InterfaceOwner) (id : BitVec 32) (now : Time) : Bool :=
  (owner.runtime.neighbor? id).any (·.state == .full) ||
    (owner.exchange? id).any fun row => row.helperActive && decide (now < row.helperDeadline)

end InterfaceOwner

/-- What one operation on an interface leaves behind, and whether it succeeded. -/
structure OwnerStep where
  ok : Bool
  inst : Instance
  owner : InterfaceOwner

section Actions

def applyNeighborActions (inst : Instance) (owner : InterfaceOwner) (id : BitVec 32)
    (actions : NeighborActions) (now : Time) : OwnerStep :=
  match owner.withExchange inst id with
  | none => { ok := false, inst, owner }
  | some owner =>
    match owner.exchange? id with
    | none => { ok := false, inst, owner }
    | some row =>
      if actions.deleteNeighbor then
        let erased := owner.runtime.eraseNeighbor id
        { ok := erased.1, inst
          owner :=
            { owner with
              runtime := erased.2
              exchanges := drop NeighborExchange.routerId id owner.exchanges } }
      else
        let applied := row.applyActions (owner.view inst) inst.nextDdSequence actions now
        { ok := applied.ok
          inst := { inst with nextDdSequence := applied.drawn.getD inst.nextDdSequence }
          owner :=
            { owner with
              runtime := owner.runtime.changeNeighbor id (·.note applied.drawn)
              exchanges :=
                update NeighborExchange.routerId id (fun _ => applied.row)
                  owner.exchanges } }

/-- The actions of several neighbors in order, up to the first that fail. -/
def applyAll (now : Time) : Instance → InterfaceOwner → List NeighborReconciliation → OwnerStep
  | inst, owner, [] => { ok := true, inst, owner }
  | inst, owner, work :: rest =>
    let done := applyNeighborActions inst owner work.routerId work.actions now
    if done.ok then applyAll now done.inst done.owner rest else done

def reconcileInterfaceAdjacencies (inst : Instance) (owner : InterfaceOwner)
    (actions : InterfaceActions) (now : Time) : OwnerStep :=
  if !actions.electDrBdr then { ok := true, inst, owner }
  else
    match owner.runtime.reconcileAdjacencies inst.maximumNeighborsPerInterface with
    | none => { ok := false, inst, owner }
    | some (runtime, work) => applyAll now inst { owner with runtime } work

/-- A change among the neighbors of the interface. -/
def neighborChanged (inst : Instance) (owner : InterfaceOwner) (backupSeen : Bool) (now : Time) :
    OwnerStep :=
  let changed := owner.runtime.neighborChange backupSeen
  reconcileInterfaceAdjacencies inst { owner with runtime := changed.2 } changed.1 now

/-- The actions of one neighbor and, if they ask for it, the change they make among the
neighbors. -/
def applyAndNotify (inst : Instance) (owner : InterfaceOwner) (work : NeighborReconciliation)
    (backupSeen : Bool) (now : Time) : OwnerStep :=
  let done := applyNeighborActions inst owner work.routerId work.actions now
  if done.ok && work.actions.notifyInterface then
    neighborChanged done.inst done.owner backupSeen now
  else done

end Actions

/-- A receive of one interface. -/
structure OwnerReceive where
  status : ReceiveStatus
  inst : Instance
  owner : InterfaceOwner

section Receive

/-- A known peer of a non-broadcast network hears the next Hello at the ordinary interval. -/
def peerHeard (owner : InterfaceOwner) (address : BitVec 128) (id : BitVec 32) (now : Time) :
    InterfaceOwner :=
  { owner with
    nbmaPeers := update NbmaPeer.address address
      (fun peer =>
        { peer with
          routerId := id
          helloDeadline :=
            now + seconds owner.configuration.protocol.helloIntervalSeconds.toNat })
      owner.nbmaPeers }

/-- An ineligible router answers an eligible peer that is neither DR nor BDR at once. -/
def answerPeer (owner : InterfaceOwner) (address : BitVec 128) (id : BitVec 32) (now : Time) :
    InterfaceOwner :=
  match owner.runtime.neighbor? id with
  | none => owner
  | some learned =>
    if owner.configuration.protocol.routerPriority = 0#8 ∧ learned.priority ≠ 0#8 ∧
        learned.electionIdentity ≠ owner.runtime.designatedRouter ∧
        learned.electionIdentity ≠ owner.runtime.backupDesignatedRouter then
      { owner with
        nbmaPeers := update NbmaPeer.address address
          (fun peer => { peer with helloDeadline := now }) owner.nbmaPeers }
    else owner

/-- The sender of an accepted Hello: what its transitions ask for, and the answer to a
peer of a non-broadcast network. -/
def settleHello (inst : Instance) (owner : InterfaceOwner) (work : NeighborReconciliation)
    (backupSeen : Bool) (address : BitVec 128) (now : Time) : OwnerReceive :=
  let heard := if owner.networkType = .nonBroadcast then
    peerHeard owner address work.routerId now else owner
  let done := applyAndNotify inst heard work backupSeen now
  if !done.ok then { status := .resourceExhausted, inst := done.inst, owner := done.owner }
  else
    { status := .accepted, inst := done.inst
      owner := if owner.networkType = .nonBroadcast then
        answerPeer done.owner address work.routerId now else done.owner }

def receiveHello (inst : Instance) (owner : InterfaceOwner) (packet : PacketView)
    (view : Option HelloView) (source : PacketSource) (now : Time) : OwnerReceive :=
  let electionIdentity := if inst.version = .two then source.ipv4 else packet.routerId
  let received := owner.runtime.receiveHello packet electionIdentity view now
  let result := received.1
  let heard : InterfaceOwner := { owner with runtime := received.2 }
  if result.disposition ≠ .accepted then { status := .rejectedHello, inst, owner := heard }
  else
    match heard.withExchange inst result.neighborRouterId with
    | none => { status := .resourceExhausted, inst, owner := heard }
    | some known =>
      settleHello inst known { routerId := result.neighborRouterId, actions := result.actions }
        result.backupSeen (source.address inst.version) now

def receiveDatabaseDescription (inst : Instance) (owner : InterfaceOwner) (id : BitVec 32)
    (adjacency : Adjacency) (parsed : Option DatabaseDescriptionView) (now : Time) : OwnerReceive :=
  let done := adjacency.receiveDatabaseDescription (owner.view inst)
    (owner.runtime.adjacencyRequired adjacency.neighbor) inst.nextDdSequence parsed now
  { status := done.status, inst := { inst with nextDdSequence := done.nextDdSequence }
    owner := owner.setAdjacency id done.adjacency }

def receiveLinkStateRequest (inst : Instance) (owner : InterfaceOwner) (id : BitVec 32)
    (adjacency : Adjacency) (parsed : Option (List (Option LinkStateRequestEntry)))
    (now : Time) : OwnerReceive :=
  let done := adjacency.receiveLinkStateRequest (owner.view inst)
    (owner.runtime.adjacencyRequired adjacency.neighbor) parsed now
  { status := done.1, inst, owner := owner.setAdjacency id done.2 }

end Receive

end RouterSim.Ospf
