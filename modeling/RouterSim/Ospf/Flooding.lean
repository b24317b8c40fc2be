import RouterSim.Ospf.Process

/-! Advertisements on their way through an instance: received ones, those the router
originates itself, and the aging of the database. -/
namespace RouterSim.Ospf

namespace InstanceProcess

def interface? (process : InstanceProcess) (id : BitVec 32) : Option InterfaceOwner :=
  Table.lookup InterfaceOwner.interfaceId id process.interfaces

def setInterface (process : InstanceProcess) (owner : InterfaceOwner) : InstanceProcess :=
  { process with
    interfaces :=
      Table.update InterfaceOwner.interfaceId owner.interfaceId (fun _ => owner)
        process.interfaces }

end InstanceProcess

/-- Queue a record for a neighbor. -/
def queueFlood (version : Version) (record : LsaRecord) (now : Time) (row : NeighborExchange) :
    Bool × NeighborExchange :=
  match row.database.queueRetransmission record version with
  | none => (false, row)
  | some database =>
    (true,
      { row with
        database, pendingUpdate := true, updateRetransmitDeadline := now })

/-- Queue a record for the neighbors of an interface that `reaches` picks. -/
def floodRows (version : Version) (record : LsaRecord) (now : Time)
    (reaches : NeighborExchange → Bool) (owner : InterfaceOwner) : Bool × InterfaceOwner :=
  let done := Table.sweep
    (fun row => if reaches row then queueFlood version record now row else (true, row))
    owner.exchanges
  (done.1, { owner with exchanges := done.2 })

/-- AS-scoped advertisements do not cross a virtual link. -/
def crossesVirtualLink (owner : InterfaceOwner) (scope : FloodingScope) : Bool :=
  owner.networkType == .virtualLink && scope == .autonomousSystem

/-- The neighbors of an interface `flood_record` queues a record for. -/
def floodReaches (owner : InterfaceOwner) (scope : FloodingScope)
    (linkInterface : Option (BitVec 32)) (now : Time) (row : NeighborExchange) : Bool :=
  !linkInterface.any (· != owner.interfaceId) && !crossesVirtualLink owner scope &&
    (owner.runtime.neighbor? row.routerId).isSome && owner.advertisedFull row.routerId now

def floodRecord (process : InstanceProcess) (record : LsaRecord)
    (linkInterface : Option (BitVec 32)) (now : Time) : Bool × InstanceProcess :=
  let done := Table.sweep
    (fun owner =>
      floodRows process.version record now
        (floodReaches owner record.key.scope linkInterface now) owner) process.interfaces
  let flooded : InstanceProcess := { process with interfaces := done.2 }
  if !done.1 then (false, flooded)
  else if record.age now = maxAgeSeconds then
    let marked := process.database.markMaxAgeFlooded record.key
    (marked.1, { flooded with database := marked.2 })
  else (true, flooded)

section Receive

/-- Stop helping a neighbor restart. -/
def endHelping (row : NeighborExchange) : NeighborExchange :=
  if row.helperActive then
    { row with
      helperActive := false, helperDeadline := 0, helperWasDesignatedRouter := false }
  else row

def terminateGraceHelpers (process : InstanceProcess) : InstanceProcess :=
  { process with
    interfaces := process.interfaces.map fun owner =>
      { owner with exchanges := owner.exchanges.map endHelping } }

/-- Whether the router may help the neighbor restart. -/
def mayHelp (inst : Instance) (owner : InterfaceOwner) (adjacency : Adjacency)
    (source : PacketSource) (address : Option (BitVec 32)) (now : Time) : Bool :=
  let row := adjacency.exchange
  let addressRequired := inst.version == .two &&
    (isMultiAccess owner.networkType || owner.networkType == .pointToMultipoint)
  (row.helperActive && decide (now < row.helperDeadline) || adjacency.neighbor.state == .full) &&
    (!addressRequired || address == some source.ipv4) && (inst.version != .three || address.isNone)

/-- Help the neighbor until the deadline. -/
def help (inst : Instance) (owner : InterfaceOwner) (id : BitVec 32) (source : PacketSource)
    (deadline now : Time) : InterfaceOwner :=
  let electionIdentity := if inst.version = .two then source.ipv4 else id
  { owner.changeExchange id fun row =>
      { row with
        helperStartedAt :=
          if row.helperActive && decide (now < row.helperDeadline) then row.helperStartedAt
          else now
        helperActive := true, helperDeadline := deadline,
        helperWasDesignatedRouter := owner.runtime.designatedRouter == electionIdentity } with
    runtime := owner.runtime.deferInactivity id deadline }

/-- What a Grace-LSA changes. There is no answer when it is malformed. -/
def receiveGrace (inst : Instance) (owner : InterfaceOwner) (id : BitVec 32)
    (source : PacketSource) (encoded : List (BitVec 8)) (header : LsaHeaderView) (now : Time) :
    Option InterfaceOwner :=
  match parseGraceLsa encoded inst.version with
  | none => none
  | some grace =>
    if header.advertisingRouter ≠ id then none
    else if grace.1.toNat ≤ header.ageSeconds.toNat ∨ header.ageSeconds = maxAgeSeconds then
      some (owner.changeExchange id endHelping)
    else
      match owner.adjacency? id with
      | none => some owner
      | some adjacency =>
        if inst.gracefulRestartHelper && mayHelp inst owner adjacency source grace.2 now then
          some (help inst owner id source
            (now + seconds (grace.1.toNat - header.ageSeconds.toNat)) now)
        else some owner

def queueFightBack (inst : Instance) (encoded : List (BitVec 8)) (header : LsaHeaderView) :
    Option Instance :=
  match inst.pendingFightBacks.find? (·.1 == lsaKey header) with
  | some pending =>
    let newer : Bool := match lsaHeader pending.2 inst.version with
      | some queued => compareLsaHeaders header queued == .newer
      | none => true
    if newer then
      some { inst with
        pendingFightBacks := Table.update Prod.fst (lsaKey header)
          (fun pending => (pending.1, encoded)) inst.pendingFightBacks }
    else some inst
  | none =>
    if inst.pendingFightBacks.length = inst.maximumLsas then none
    else some { inst with
      pendingFightBacks := inst.pendingFightBacks ++ [(lsaKey header, encoded)] }

/-- The sender's row after its advertisement was looked at, and whether there was room for
the acknowledgment. -/
def answerSender (header : LsaHeaderView) (result : InstallResult) (row : NeighborExchange) :
    Bool × NeighborExchange :=
  let satisfied := row.database.receivedLsa header result
  let acknowledged := satisfied.acknowledge header
  if result = .identical ∧ acknowledged.1 then
    (true, Adjacency.settleUpdates { row with database := acknowledged.2 })
  else
    let database := if result = .identical then acknowledged.2 else satisfied
    match database.queueDelayedAcknowledgment header with
    | none => (false, { row with database })
    | some queued =>
      (true,
        { row with
          database := queued, pendingAcknowledgment := true })

/-- The body of an advertisement of the topology. -/
def topologyLsa (header : LsaHeaderView) (version : Version) : Bool :=
  let function := match version with
    | .two => header.type.toNat
    | .three => (header.type &&& 0x1fff#16).toNat
  !graceIdentity header version &&
    (match version with
    | .two => 1 ≤ function && function ≤ 5 || function == 7
    | .three => 1 ≤ function && function ≤ 9)

def bodyChanged (existing : Option LsaRecord) (encoded : List (BitVec 8)) : Bool :=
  match existing with
  | none => true
  | some record => record.bytes.length != encoded.length ||
      record.bytes.drop lsaHeaderOctets != encoded.drop lsaHeaderOctets

/-- The neighbors a received record is flooded to: those that exchange databases, the
sender apart. -/
def refloodReaches (interfaceId id : BitVec 32) (owner : InterfaceOwner) (scope : FloodingScope)
    (row : NeighborExchange) : Bool :=
  !(scope == .link && owner.interfaceId != interfaceId) && !crossesVirtualLink owner scope &&
    !(owner.interfaceId == interfaceId && row.routerId == id) &&
    (owner.runtime.neighbor? row.routerId).any (·.state.atLeast .exchange)

/-- Flood a record just installed. -/
def reflood (process : InstanceProcess) (interfaceId id : BitVec 32) (header : LsaHeaderView)
    (now : Time) : Option ReceiveStatus × InstanceProcess :=
  match process.database.find (lsaKey header) with
  | none => (some .malformed, process)
  | some record =>
    let done := Table.sweep
      (fun owner =>
        floodRows process.version record now
          (refloodReaches interfaceId id owner record.key.scope) owner) process.interfaces
    (if done.1 then none else some .resourceExhausted, { process with interfaces := done.2 })

/-- An advertisement that passed the checks of its interface. A status stops the packet. -/
def installAdvertisement (process : InstanceProcess) (owner : InterfaceOwner) (id : BitVec 32)
    (encoded : List (BitVec 8)) (header : LsaHeaderView) (now : Time) :
    Option ReceiveStatus × InstanceProcess :=
  let existing := process.database.find (lsaKey header)
  let installed := process.database.install encoded process.version now process.routerId true
  let result := installed.1
  let process : InstanceProcess := { process with database := installed.2 }
  if result = .malformed then (some .malformed, process)
  else if result = .capacityExhausted then (some .resourceExhausted, process)
  else if result = .ignored then (none, process)
  else
    match (if result = .fightBackRequired then queueFightBack process.toInstance encoded header
      else some process.toInstance) with
    | none => (some .resourceExhausted, process)
    | some inst =>
      let process : InstanceProcess := { process with toInstance := inst }
      match owner.exchange? id with
      | none => (some .neighborNotFound, process)
      | some row =>
        let answered := answerSender header result row
        let process := process.setInterface (owner.changeExchange id fun _ => answered.2)
        if !answered.1 then (some .resourceExhausted, process)
        else if result ≠ .installed then (none, process)
        else
          let process :=
            if topologyLsa header process.version && bodyChanged existing encoded then
              terminateGraceHelpers process else process
          reflood process owner.interfaceId id header now

def receiveAdvertisement (process : InstanceProcess) (interfaceId id : BitVec 32)
    (source : PacketSource) (encoded : List (BitVec 8)) (now : Time) :
    Option ReceiveStatus × InstanceProcess :=
  match process.interface? interfaceId with
  | none => (some .interfaceNotFound, process)
  | some owner =>
    match lsaHeader encoded process.version with
    | none => (some .malformed, process)
    | some header =>
      match (if graceIdentity header process.version then
          receiveGrace process.toInstance owner id source encoded header now
        else some owner) with
      | none => (some .malformed, process)
      | some owner =>
        let process := process.setInterface owner
        if crossesVirtualLink owner (lsaKey header).scope then (none, process)
        else installAdvertisement process owner id encoded header now

/-- The advertisements of a packet in order, up to the first that stops it. -/
def receiveAdvertisements (interfaceId id : BitVec 32) (source : PacketSource) (now : Time) :
    List (List (BitVec 8)) → InstanceProcess → Option ReceiveStatus × InstanceProcess
  | [], process => (none, process)
  | encoded :: rest, process =>
    let done := receiveAdvertisement process interfaceId id source encoded now
    match done.1 with
    | some status => (some status, done.2)
    | none => receiveAdvertisements interfaceId id source now rest done.2

/-- Loading is over once nothing is left to request. -/
def finishLoading (owner : InterfaceOwner) (id : BitVec 32) : InterfaceOwner :=
  match owner.adjacency? id with
  | none => owner
  | some adjacency =>
    if adjacency.neighbor.state = .loading ∧ adjacency.exchange.database.requests = [] then
      owner.setAdjacency id
        { neighbor := (adjacency.neighbor.react .loadingDone
            (owner.runtime.adjacencyRequired adjacency.neighbor) false).1
          exchange := { adjacency.exchange with pendingRequest := false } }
    else owner

def receiveLinkStateUpdate (process : InstanceProcess) (interfaceId id : BitVec 32)
    (source : PacketSource) (parsed : Option (List (List (BitVec 8)))) (now : Time) :
    ReceiveStatus × InstanceProcess :=
  match parsed with
  | none => (.malformed, process)
  | some advertisements =>
    let done := receiveAdvertisements interfaceId id source now advertisements process
    match done.1 with
    | some status => (status, done.2)
    | none =>
      match done.2.interface? interfaceId with
      | none => (.accepted, done.2)
      | some owner => (.accepted, done.2.setInterface (finishLoading owner id))

end Receive

/-- A change the router makes to its own part of the database. Which ones a turn makes is
decided by the origination of local advertisements. -/
inductive LocalOrigination
  /-- Install an advertisement and flood it, perhaps on one interface only. -/
  | advertise (bytes : List (BitVec 8)) (linkInterface : Option (BitVec 32))
  /-- Install an advertisement that is flushed next. -/
  | store (bytes : List (BitVec 8))
  /-- Age an advertisement prematurely and flood it. -/
  | flush (key : LsaKey)
  /-- The advertisements received of this router have been answered. -/
  | settleFightBacks

def storeLocal (process : InstanceProcess) (bytes : List (BitVec 8)) (now : Time) :
    Bool × InstanceProcess :=
  let installed := process.database.install bytes process.version now process.routerId false
  (installed.1 == .installed || installed.1 == .identical, { process with database := installed.2 })

/-- Flood the record under a key. -/
def floodKey (process : InstanceProcess) (key : LsaKey) (linkInterface : Option (BitVec 32))
    (now : Time) : Bool × InstanceProcess :=
  match process.database.find key with
  | none => (false, process)
  | some record => floodRecord process record linkInterface now

def flushKey (process : InstanceProcess) (key : LsaKey) (now : Time) : Bool × InstanceProcess :=
  let aged := process.database.prematureAge key now
  if aged.1 then floodKey { process with database := aged.2 } key none now
  else (false, process)

def originate (process : InstanceProcess) (now : Time) : LocalOrigination → Bool × InstanceProcess
  | .advertise bytes linkInterface =>
    let stored := storeLocal process bytes now
    match lsaHeader bytes process.version with
    | none => (false, stored.2)
    | some header =>
      if stored.1 then floodKey stored.2 (lsaKey header) linkInterface now else stored
  | .store bytes => storeLocal process bytes now
  | .flush key => flushKey process key now
  | .settleFightBacks => (true, { process with pendingFightBacks := [] })

def originateAll (now : Time) : List LocalOrigination → InstanceProcess → Bool × InstanceProcess
  | [], process => (true, process)
  | origination :: rest, process =>
    let done := originate process now origination
    if done.1 then originateAll now rest done.2 else done

section Maintenance

/-- No neighbor still needs the flush of the record. -/
def maxAgeRemovalSafe (process : InstanceProcess) (key : LsaKey) : Bool :=
  process.interfaces.all fun owner =>
    !owner.runtime.neighbors.any (fun neighbor =>
      neighbor.state == .exchange || neighbor.state == .loading) &&
    !owner.exchanges.any (·.database.retransmits key)

/-- The checksum of a record is verified each five minutes of its age. -/
def verifyDue (process : InstanceProcess) (sample : LsaRecord) (now : Time) :
    Bool × InstanceProcess :=
  let age := (sample.age now).toNat
  let next := (sample.lastChecksumCheckAge.toNat / 300 + 1) * 300
  if age < 3600 ∧ next ≤ 3600 ∧ next ≤ age then
    let verified := process.database.verifyChecksumAt sample.key now
    (verified.1, { process with database := verified.2 })
  else (true, process)

/-- A record that has reached its maximum age and is not flooded yet. -/
def floodDue (sample : LsaRecord) (now : Time) : Bool :=
  sample.age now == maxAgeSeconds && !sample.maxAgeFlooded

/-- One record of the maintenance: whether it succeeded, and whether the record stays. -/
def maintainRecord (process : InstanceProcess) (sample : LsaRecord) (now : Time) :
    Bool × Bool × InstanceProcess :=
  let verified := verifyDue process sample now
  if !verified.1 then (false, true, verified.2)
  else
    let flooded := if floodDue sample now then flushKey verified.2 sample.key now
      else (true, verified.2)
    if !flooded.1 then (false, true, flooded.2)
    else
      match flooded.2.database.find sample.key with
      | none => (true, true, flooded.2)
      | some current =>
        if current.age now = maxAgeSeconds ∧ current.maxAgeFlooded ∧
            maxAgeRemovalSafe flooded.2 sample.key then
          let erased := flooded.2.database.erase sample.key
          (erased.1, false, { flooded.2 with database := erased.2 })
        else (true, true, flooded.2)

/-- The records from an index on. An erased record leaves its index to the next one, so
each step has one record less before it. -/
def maintainFrom (now : Time) : Nat → Nat → InstanceProcess → Bool × InstanceProcess
  | 0, _, process => (true, process)
  | steps + 1, index, process =>
    match process.database.records[index]? with
    | none => (true, process)
    | some sample =>
      let done := maintainRecord process sample now
      if !done.1 then (false, done.2.2)
      else maintainFrom now steps (if done.2.1 then index + 1 else index) done.2.2

def maintainDatabase (process : InstanceProcess) (now : Time) : Bool × InstanceProcess :=
  maintainFrom now process.database.records.length 0 process

end Maintenance

end RouterSim.Ospf
