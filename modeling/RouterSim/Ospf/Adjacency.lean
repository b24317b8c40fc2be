import RouterSim.Ospf.Interface

/-! The database exchange with one neighbor: the row of its state machine beside the row of
its exchange, what the packets of the exchange change of both, and what is sent. -/
namespace RouterSim.Ospf

inductive ReceiveStatus
  | accepted | ignored | interfaceNotFound | malformed | versionMismatch | checksumFailure
  | authenticationFailure | rejectedHello | neighborNotFound | invalidNeighborState
  | resourceExhausted

/-- What the exchange with a neighbor reads of the instance and of its interface. -/
structure LocalView where
  routerId : BitVec 32
  version : Version
  database : LinkStateDatabase
  networkType : NetworkType
  interfaceMtu : BitVec 16
  options : BitVec 32
  retransmitIntervalSeconds : BitVec 16
  transmitDelaySeconds : BitVec 16 := 1#16

structure NeighborExchange where
  database : NeighborDatabaseExchange
  routerId : BitVec 32
  ddSequence : BitVec 32 := 0#32
  summaryCursor : Nat := 0
  requestCursor : Nat := 0
  updateCursor : Nat := 0
  ddRetransmitDeadline : Time := 0
  requestRetransmitDeadline : Time := 0
  updateRetransmitDeadline : Time := 0
  localMaster : Bool := false
  negotiationComplete : Bool := false
  pendingDatabaseDescription : Bool := false
  pendingRequest : Bool := false
  pendingUpdate : Bool := false
  pendingAcknowledgment : Bool := false
  peerMore : Bool := false
  sentMore : Bool := false
  completeAfterReply : Bool := false
  helperDeadline : Time := 0
  helperStartedAt : Time := 0
  helperActive : Bool := false
  helperWasDesignatedRouter : Bool := false

namespace NeighborExchange

def create (routerId : BitVec 32) (maximumLsas : Nat) : NeighborExchange :=
  { database := NeighborDatabaseExchange.withCapacity maximumLsas, routerId }

def clearAdjacency (row : NeighborExchange) : NeighborExchange :=
  { row with
    database := row.database.reset, pendingDatabaseDescription := false, pendingRequest := false,
    pendingUpdate := false, pendingAcknowledgment := false, ddRetransmitDeadline := 0,
    requestRetransmitDeadline := 0, updateRetransmitDeadline := 0 }

/-- The row at the start of an exchange under the sequence number drawn for it. -/
def beginExchange (view : LocalView) (row : NeighborExchange) (sequence : BitVec 32)
    (now : Time) : Option NeighborExchange :=
  (row.database.start view.database.records view.version now
    (view.networkType != .virtualLink)).map fun database =>
      { row with
        database, localMaster := decide (row.routerId < view.routerId), ddSequence := sequence,
        summaryCursor := 0, requestCursor := 0, updateCursor := 0, negotiationComplete := false,
        pendingDatabaseDescription := true, pendingRequest := false, pendingUpdate := false,
        pendingAcknowledgment := false, peerMore := true, sentMore := true,
        completeAfterReply := false, ddRetransmitDeadline := now, requestRetransmitDeadline := 0,
        updateRetransmitDeadline := 0 }

/-- A row after the actions of a transition: whether they succeeded, and the sequence
number drawn for a new exchange. -/
structure Applied where
  ok : Bool
  row : NeighborExchange
  drawn : Option (BitVec 32) := none

/-- The part of `apply_neighbor_actions` that works on the row. -/
def applyActions (view : LocalView) (row : NeighborExchange) (nextDdSequence : BitVec 32)
    (actions : NeighborActions) (now : Time) : Applied :=
  let cleared := if actions.clearAdjacency then row.clearAdjacency else row
  if !actions.beginDatabaseExchange then { ok := true, row := cleared }
  else
    match cleared.beginExchange view (nextDdSequence + 1#32) now with
    | none => { ok := false, row := cleared }
    | some begun => { ok := true, row := begun, drawn := some (nextDdSequence + 1#32) }

end NeighborExchange

/-- Note a drawn sequence number in the neighbor's history. -/
def NeighborRuntime.note (neighbor : NeighborRuntime) (drawn : Option (BitVec 32)) :
    NeighborRuntime :=
  match drawn with
  | none => neighbor
  | some sequence => { neighbor with history := .drew sequence :: neighbor.history }

/-- The two rows of one neighbor. -/
structure Adjacency where
  neighbor : NeighborRuntime
  exchange : NeighborExchange

structure Received where
  status : ReceiveStatus
  adjacency : Adjacency
  nextDdSequence : BitVec 32

namespace Adjacency

/-- An event of the neighbor's state machine and the actions that come with it. -/
def restart (view : LocalView) (required : Bool) (adjacency : Adjacency)
    (nextDdSequence : BitVec 32) (now : Time) : Received :=
  let reacted := adjacency.neighbor.react .sequenceNumberMismatch required false
  let applied := adjacency.exchange.applyActions view nextDdSequence reacted.2.actions now
  { status := if applied.ok then .accepted else .resourceExhausted
    adjacency :=
      { neighbor := reacted.1.note applied.drawn, exchange := applied.row }
    nextDdSequence := applied.drawn.getD nextDdSequence }

/-- A packet that repeats the last one of a finished exchange. -/
def repeatsLast (row : NeighborExchange) (description : DatabaseDescriptionView) : Bool :=
  !description.init && description.master == !row.localMaster &&
    description.sequenceNumber == row.ddSequence

/-- The I, M and MS packet without headers that opens a negotiation. -/
def opensNegotiation (description : DatabaseDescriptionView) : Bool :=
  description.init && description.more && description.master && description.lsaHeaders.isEmpty

/-- ExStart: the roles are agreed on, and the first headers are offered. -/
def negotiate (view : LocalView) (required remainMaster : Bool) (adjacency : Adjacency)
    (nextDdSequence : BitVec 32) (description : DatabaseDescriptionView) (now : Time) : Received :=
  let row := adjacency.exchange
  let agreed : NeighborExchange :=
    { row with
      localMaster := remainMaster
      ddSequence := if remainMaster then row.ddSequence else description.sequenceNumber
      negotiationComplete := true, peerMore := description.more }
  let reacted := adjacency.neighbor.react .negotiationDone required false
  if reacted.2.state ≠ .exchange then
    { status := .invalidNeighborState, adjacency := { neighbor := reacted.1, exchange := agreed }
      nextDdSequence }
  else
    match agreed.database.processDatabaseDescription description view.database now with
    | none =>
      { status := .resourceExhausted, adjacency := { neighbor := reacted.1, exchange := agreed }
        nextDdSequence }
    | some database =>
      { status := .accepted
        adjacency :=
          { neighbor := reacted.1
            exchange :=
              { agreed with
                database
                ddSequence :=
                  if remainMaster then agreed.ddSequence + 1#32 else agreed.ddSequence
                pendingDatabaseDescription := true, ddRetransmitDeadline := now } }
        nextDdSequence }

/-- A packet of another exchange, out of sequence or in the wrong role. -/
def mismatches (row : NeighborExchange) (description : DatabaseDescriptionView) : Bool :=
  description.init || description.master != !row.localMaster ||
    (if row.localMaster then description.sequenceNumber != row.ddSequence
      else decide (description.sequenceNumber < row.ddSequence))

/-- Exchange: a packet in sequence. -/
def advance (view : LocalView) (required : Bool) (adjacency : Adjacency)
    (nextDdSequence : BitVec 32) (description : DatabaseDescriptionView) (now : Time) : Received :=
  let row := adjacency.exchange
  match row.database.processDatabaseDescription description view.database now with
  | none => { status := .resourceExhausted, adjacency, nextDdSequence }
  | some database =>
    let offered : NeighborExchange := { row with database, peerMore := description.more }
    if row.localMaster then
      if !row.sentMore && !description.more then
        let reacted := adjacency.neighbor.react .exchangeDone required !database.requests.isEmpty
        { status := .accepted
          adjacency :=
            { neighbor := reacted.1
              exchange :=
                { offered with
                  pendingDatabaseDescription := false, pendingRequest := reacted.2.state == .loading
                  requestRetransmitDeadline := now, ddRetransmitDeadline := 0 } }
          nextDdSequence }
      else
        { status := .accepted
          adjacency :=
            { adjacency with
              exchange :=
                { offered with
                  ddSequence := row.ddSequence + 1#32, pendingDatabaseDescription := true,
                  ddRetransmitDeadline := now } }
          nextDdSequence }
    else
      { status := .accepted
        adjacency :=
          { adjacency with
            exchange :=
              { offered with
                ddSequence := description.sequenceNumber, pendingDatabaseDescription := true,
                completeAfterReply := !description.more, ddRetransmitDeadline := now } }
        nextDdSequence }

def receiveDatabaseDescription (view : LocalView) (required : Bool) (adjacency : Adjacency)
    (nextDdSequence : BitVec 32) (parsed : Option DatabaseDescriptionView) (now : Time) :
    Received :=
  let row := adjacency.exchange
  let unchanged (status : ReceiveStatus) : Received := { status, adjacency, nextDdSequence }
  if !adjacency.neighbor.state.atLeast .exstart then unchanged .ignored
  else
    match parsed with
    | none => unchanged .malformed
    | some description =>
      if view.interfaceMtu < description.interfaceMtu then unchanged .invalidNeighborState
      else if adjacency.neighbor.state = .loading ∨ adjacency.neighbor.state = .full then
        if repeatsLast row description then unchanged .accepted
        else restart view required adjacency nextDdSequence now
      else if adjacency.neighbor.state = .exstart then
        let becomeSlave := opensNegotiation description && decide (view.routerId < row.routerId)
        let remainMaster := !description.init && !description.master &&
          description.sequenceNumber == row.ddSequence && decide (row.routerId < view.routerId)
        if opensNegotiation description && decide (row.routerId < view.routerId) then
          unchanged .accepted
        else if !becomeSlave && !remainMaster then unchanged .invalidNeighborState
        else negotiate view required remainMaster adjacency nextDdSequence description now
      else if mismatches row description then restart view required adjacency nextDdSequence now
      else advance view required adjacency nextDdSequence description now

inductive RequestResult
  | served | malformed | missing | exhausted
  deriving DecidableEq

def requestedKey (version : Version) (entry : LinkStateRequestEntry) : LsaKey :=
  lsaKey
    { linkStateId := entry.linkStateId, advertisingRouter := entry.advertisingRouter,
      type := entry.linkStateType.setWidth 16, version }

/-- Queue the requested advertisements, up to the first that cannot be. -/
def serve (view : LocalView) : List (Option LinkStateRequestEntry) → NeighborDatabaseExchange →
    RequestResult × NeighborDatabaseExchange
  | [], exchange => (.served, exchange)
  | none :: _, exchange => (.malformed, exchange)
  | some entry :: rest, exchange =>
    match view.database.find (requestedKey view.version entry) with
    | none => (.missing, exchange)
    | some record =>
      match exchange.queueRetransmission record view.version with
      | none => (.exhausted, exchange)
      | some queued => serve view rest queued

def receiveLinkStateRequest (view : LocalView) (required : Bool) (adjacency : Adjacency)
    (parsed : Option (List (Option LinkStateRequestEntry))) (now : Time) :
    ReceiveStatus × Adjacency :=
  match parsed with
  | none => (.malformed, adjacency)
  | some entries =>
    let done := serve view entries adjacency.exchange.database
    let row : NeighborExchange := { adjacency.exchange with database := done.2 }
    match done.1 with
    | .malformed => (.malformed, { adjacency with exchange := row })
    | .exhausted => (.resourceExhausted, { adjacency with exchange := row })
    | .missing =>
      let reacted := adjacency.neighbor.react .badLinkStateRequest required false
      (.invalidNeighborState,
        { neighbor := reacted.1
          exchange :=
            { row with
              pendingDatabaseDescription :=
                row.pendingDatabaseDescription || reacted.2.actions.beginDatabaseExchange } })
    | .served =>
      (.accepted,
        { adjacency with
          exchange :=
            { row with
              pendingUpdate := true, updateRetransmitDeadline := now } })

/-- Stop the retransmission timer once nothing waits for an acknowledgment. -/
def settleUpdates (row : NeighborExchange) : NeighborExchange :=
  if row.database.retransmissions.isEmpty then
    { row with
      pendingUpdate := false, updateRetransmitDeadline := 0 }
  else row

def receiveLinkStateAcknowledgment (adjacency : Adjacency) (parsed : Option (List LsaHeaderView)) :
    ReceiveStatus × Adjacency :=
  match parsed with
  | none => (.malformed, adjacency)
  | some headers =>
    let database := headers.foldl (fun exchange header => (exchange.acknowledge header).2)
      adjacency.exchange.database
    (.accepted, { adjacency with exchange := settleUpdates { adjacency.exchange with database } })

/-- The octets of the IP and OSPF headers. -/
def headerOctets : Version → Nat
  | .two => 20 + 24
  | .three => 40 + 16

def ddFixedOctets : Version → Nat
  | .two => 8
  | .three => 12

/-- How many headers a Database Description packet has room for. -/
def ddHeaderCapacity (view : LocalView) : Nat :=
  (view.interfaceMtu.toNat - headerOctets view.version - ddFixedOctets view.version) /
    lsaHeaderOctets

/-- How many summaries the next Database Description packet carries. None before the roles
are agreed on. -/
def ddHeaderCount (view : LocalView) (row : NeighborExchange) : Nat :=
  if row.negotiationComplete then
    min (row.database.summaries.length - row.summaryCursor) (ddHeaderCapacity view) else 0

def ddMore (view : LocalView) (row : NeighborExchange) : Bool :=
  !row.negotiationComplete ||
    decide (row.summaryCursor + ddHeaderCount view row < row.database.summaries.length)

/-- The Database Description packet to send next. -/
def describe (view : LocalView) (row : NeighborExchange) : DatabaseDescriptionView :=
  { lsaHeaders := (row.database.summaries.drop row.summaryCursor).take (ddHeaderCount view row)
    options := view.options, sequenceNumber := row.ddSequence, interfaceMtu := view.interfaceMtu,
    init := !row.negotiationComplete, more := ddMore view row,
    master := !row.negotiationComplete || row.localMaster, version := view.version }

/-- Send the next Database Description packet, if it can be encoded. -/
def emitDatabaseDescription (view : LocalView) (required encodes : Bool) (adjacency : Adjacency)
    (now : Time) : Option DatabaseDescriptionView × Adjacency :=
  let row := adjacency.exchange
  if view.interfaceMtu.toNat ≤ headerOctets view.version + ddFixedOctets view.version ∨
      !encodes then (none, adjacency)
  else
    let sent : NeighborExchange :=
      { row with
        summaryCursor := row.summaryCursor + ddHeaderCount view row, sentMore := ddMore view row,
        pendingDatabaseDescription := false
        ddRetransmitDeadline := now + seconds view.retransmitIntervalSeconds.toNat }
    -- The slave is done once its last answer is sent.
    if row.negotiationComplete && !row.localMaster && row.completeAfterReply &&
        !ddMore view row then
      let reacted := adjacency.neighbor.react .exchangeDone required !row.database.requests.isEmpty
      let loading := reacted.2.state == .loading
      (some (describe view row),
        { neighbor := reacted.1
          exchange :=
            { sent with
              completeAfterReply := false, ddRetransmitDeadline := 0, pendingRequest := loading
              requestRetransmitDeadline :=
                if loading then now else sent.requestRetransmitDeadline } })
    else (some (describe view row), { adjacency with exchange := sent })

end Adjacency

namespace NeighborExchange

def requestCapacity (view : LocalView) : Nat :=
  (view.interfaceMtu.toNat - Adjacency.headerOctets view.version) / 12

/-- Send the next Link State Request, and whether one was sent. -/
def emitLinkStateRequest (view : LocalView) (encodes : Bool) (row : NeighborExchange)
    (now : Time) : Bool × NeighborExchange :=
  let requests := row.database.requests
  if requests.isEmpty then
    (false,
      { row with
        pendingRequest := false, requestRetransmitDeadline := 0 })
  else if view.interfaceMtu.toNat ≤ Adjacency.headerOctets view.version ∨
      requestCapacity view = 0 then (false, row)
  else
    let cursor := if requests.length ≤ row.requestCursor then 0 else row.requestCursor
    let count := min (requestCapacity view) (requests.length - cursor)
    if !encodes then (false, { row with requestCursor := cursor })
    else if cursor + count = requests.length then
      (true,
        { row with
          requestCursor := 0, pendingRequest := false,
          requestRetransmitDeadline := now + seconds view.retransmitIntervalSeconds.toNat })
    else (true, { row with requestCursor := cursor + count })

def workBudgetPackets : Nat := 64

/-- How many of the entries go into one update packet. There is no answer when a record is
missing from the database. -/
def updateCount (view : LocalView) (capacity : Nat) : Nat → Nat → List RetransmissionEntry →
    Option Nat
  | _, _, [] => some 0
  | 0, _, _ => some 0
  | budget + 1, written, entry :: rest =>
    match view.database.find entry.key with
    | none => none
    | some record =>
      if capacity - written < record.bytes.length then some 0
      else (updateCount view capacity budget (written + record.bytes.length) rest).map (· + 1)

/-- Send the next Link State Update, and whether one was sent. -/
def emitLinkStateUpdate (view : LocalView) (encodes : Bool) (row : NeighborExchange)
    (now : Time) : Bool × NeighborExchange :=
  let entries := row.database.retransmissions
  if entries.isEmpty then
    (false,
      { row with
        pendingUpdate := false, updateRetransmitDeadline := 0, updateCursor := 0 })
  else
    let cursor := if entries.length ≤ row.updateCursor then 0 else row.updateCursor
    let started : NeighborExchange := { row with updateCursor := cursor }
    if view.interfaceMtu.toNat ≤ Adjacency.headerOctets view.version + 4 then (false, started)
    else
      match updateCount view (view.interfaceMtu.toNat - Adjacency.headerOctets view.version)
          workBudgetPackets 4 (entries.drop cursor) with
      | none | some 0 => (false, started)
      | some count =>
        if !encodes then (false, started)
        else if cursor + count = entries.length then
          (true,
            { started with
              updateCursor := 0, pendingUpdate := false,
              updateRetransmitDeadline := now + seconds view.retransmitIntervalSeconds.toNat })
        else (true, { started with updateCursor := cursor + count })

/-- Send the next Link State Acknowledgment, and whether one was sent. -/
def emitLinkStateAcknowledgment (view : LocalView) (encodes : Bool) (row : NeighborExchange) :
    Bool × NeighborExchange :=
  if row.database.acknowledgments.isEmpty then (false, { row with pendingAcknowledgment := false })
  else
    let capacity := (view.interfaceMtu.toNat - Adjacency.headerOctets view.version) /
      lsaHeaderOctets
    let count := min capacity row.database.acknowledgments.length
    if view.interfaceMtu.toNat ≤ Adjacency.headerOctets view.version ∨ count = 0 ∨ !encodes then
      (false, row)
    else
      let database := row.database.consumeDelayedAcknowledgments count
      (true,
        { row with
          database, pendingAcknowledgment := !database.acknowledgments.isEmpty })

/-- Deadlines that have passed make their packets pending again. -/
def wake (row : NeighborExchange) (now : Time) : NeighborExchange :=
  { row with
    pendingDatabaseDescription := row.pendingDatabaseDescription ||
      row.ddRetransmitDeadline != 0 && decide (row.ddRetransmitDeadline ≤ now)
    pendingRequest := row.pendingRequest ||
      row.requestRetransmitDeadline != 0 && decide (row.requestRetransmitDeadline ≤ now) &&
        !row.database.requests.isEmpty
    pendingUpdate := row.pendingUpdate ||
      row.updateRetransmitDeadline != 0 && decide (row.updateRetransmitDeadline ≤ now) &&
        !row.database.retransmissions.isEmpty }

end NeighborExchange

end RouterSim.Ospf
