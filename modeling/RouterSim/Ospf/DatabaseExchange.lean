import RouterSim.Ospf.Lsdb

/-! The lists one neighbor's database exchange works on: the summary of the local database,
the advertisements still to request, those sent and not acknowledged, and the
acknowledgments that wait. -/
namespace RouterSim.Ospf

structure LinkStateRequestEntry where
  linkStateType : BitVec 32
  linkStateId : BitVec 32
  advertisingRouter : BitVec 32
  deriving DecidableEq

structure DatabaseDescriptionView where
  lsaHeaders : List LsaHeaderView
  options : BitVec 32 := 0#32
  sequenceNumber : BitVec 32
  interfaceMtu : BitVec 16
  init : Bool
  more : Bool
  master : Bool
  version : Version

structure RetransmissionEntry where
  key : LsaKey
  sequenceNumber : BitVec 32
  checksum : BitVec 16
  deriving DecidableEq

structure NeighborDatabaseExchange where
  summaries : List LsaHeaderView := []
  requests : List LinkStateRequestEntry := []
  retransmissions : List RetransmissionEntry := []
  acknowledgments : List LsaHeaderView := []
  maximumSummaries : Nat
  maximumRequests : Nat
  maximumRetransmissions : Nat
  maximumAcknowledgments : Nat
  /-- Absent until an exchange begins. -/
  version : Option Version := none
  permitAutonomousSystemScope : Bool := true

/-- The order of a summary list. -/
def summaryBefore (left right : LsaHeaderView) : Bool :=
  if left.type ≠ right.type then decide (left.type < right.type)
  else if left.linkStateId ≠ right.linkStateId then decide (left.linkStateId < right.linkStateId)
  else decide (left.advertisingRouter < right.advertisingRouter)

def insertSummary (header : LsaHeaderView) : List LsaHeaderView → List LsaHeaderView
  | [] => [header]
  | other :: rest =>
    if summaryBefore other header then other :: insertSummary header rest
    else header :: other :: rest

def sortSummaries (headers : List LsaHeaderView) : List LsaHeaderView :=
  headers.foldr insertSummary []

def sameIdentity (header : LsaHeaderView) (request : LinkStateRequestEntry) : Bool :=
  header.type.setWidth 32 == request.linkStateType && header.linkStateId == request.linkStateId &&
    header.advertisingRouter == request.advertisingRouter

def recordIdentity (record : LsaRecord) (header : LsaHeaderView) : Bool :=
  record.key.type == header.type && record.key.linkStateId == header.linkStateId &&
    record.key.advertisingRouter == header.advertisingRouter

def requestEntry (remote : LsaHeaderView) : LinkStateRequestEntry :=
  { linkStateType := remote.type.setWidth 32, linkStateId := remote.linkStateId,
    advertisingRouter := remote.advertisingRouter }

/-- Whether the local database lacks the advertisement or has an older one. There is no
answer when the local header cannot be read. -/
def wants (database : LinkStateDatabase) (version : Version) (now : Time)
    (remote : LsaHeaderView) : Option Bool :=
  match database.records.find? (recordIdentity · remote) with
  | none => some true
  | some record =>
    (lsaHeader record.bytes version).map fun header =>
      compareLsaHeaders remote { header with ageSeconds := record.age now } == .newer

namespace NeighborDatabaseExchange

variable {exchange exchange' : NeighborDatabaseExchange} {now : Time}

def withCapacity (maximumLsas : Nat) : NeighborDatabaseExchange :=
  { maximumSummaries := maximumLsas, maximumRequests := maximumLsas,
    maximumRetransmissions := maximumLsas, maximumAcknowledgments := maximumLsas }

/-- The summary built so far, extended by the records that follow. -/
def summarize (maximum : Nat) (version : Version) (now : Time) (permit : Bool) :
    List LsaRecord → List LsaHeaderView → Option (List LsaHeaderView)
  | [], next => some next
  | record :: records, next =>
    if !permit && record.key.scope == .autonomousSystem then
      summarize maximum version now permit records next
    else
      match lsaHeader record.bytes version with
      | none => none
      | some header =>
        if record.age now = maxAgeSeconds then summarize maximum version now permit records next
        else if next.length = maximum then none
        else
          summarize maximum version now permit records
            (next ++ [{ header with ageSeconds := record.age now }])

/-- `begin` of the source. -/
def start (exchange : NeighborDatabaseExchange) (records : List LsaRecord) (version : Version)
    (now : Time) (permitAutonomousSystemScope : Bool) : Option NeighborDatabaseExchange :=
  (summarize exchange.maximumSummaries version now permitAutonomousSystemScope records []).map
    fun next =>
      { exchange with
        summaries := sortSummaries next, requests := [], retransmissions := [],
        acknowledgments := [], version := some version, permitAutonomousSystemScope }

/-- The request list, extended by the headers that follow. -/
def offer (maximum : Nat) (database : LinkStateDatabase) (version : Version) (now : Time)
    (permit : Bool) : List LsaHeaderView → List LinkStateRequestEntry →
      Option (List LinkStateRequestEntry)
  | [], next => some next
  | remote :: rest, next =>
    if !permit && (lsaKey remote).scope == .autonomousSystem then
      offer maximum database version now permit rest next
    else
      match wants database version now remote with
      | none => none
      | some false => offer maximum database version now permit rest next
      | some true =>
        if requestEntry remote ∈ next then offer maximum database version now permit rest next
        else if next.length = maximum then none
        else offer maximum database version now permit rest (next ++ [requestEntry remote])

def processDatabaseDescription (exchange : NeighborDatabaseExchange)
    (description : DatabaseDescriptionView) (database : LinkStateDatabase) (now : Time) :
    Option NeighborDatabaseExchange :=
  if exchange.version ≠ some description.version then none
  else
    (offer exchange.maximumRequests database description.version now
      exchange.permitAutonomousSystemScope description.lsaHeaders exchange.requests).map
      fun next => { exchange with requests := next }

def receivedLsa (exchange : NeighborDatabaseExchange) (header : LsaHeaderView)
    (result : InstallResult) : NeighborDatabaseExchange :=
  if result = .installed ∨ result = .identical ∨ result = .fightBackRequired then
    { exchange with requests := exchange.requests.filter fun entry => !sameIdentity header entry }
  else exchange

def queueRetransmission (exchange : NeighborDatabaseExchange) (record : LsaRecord)
    (version : Version) : Option NeighborDatabaseExchange :=
  match lsaHeader record.bytes version with
  | none => none
  | some header =>
    let entry : RetransmissionEntry :=
      { key := record.key, sequenceNumber := header.sequenceNumber, checksum := header.checksum }
    if (Table.lookup RetransmissionEntry.key record.key exchange.retransmissions).isSome then
      some { exchange with
        retransmissions :=
          Table.update RetransmissionEntry.key record.key (fun _ => entry)
            exchange.retransmissions }
    else if exchange.retransmissions.length = exchange.maximumRetransmissions then none
    else some { exchange with retransmissions := exchange.retransmissions ++ [entry] }

def acknowledges (header : LsaHeaderView) (entry : RetransmissionEntry) : Bool :=
  entry.key.type == header.type && entry.key.linkStateId == header.linkStateId &&
    entry.key.advertisingRouter == header.advertisingRouter &&
    entry.sequenceNumber == header.sequenceNumber && entry.checksum == header.checksum

/-- The exchange without the entries the header acknowledges, and whether there were any. -/
def acknowledge (exchange : NeighborDatabaseExchange) (header : LsaHeaderView) :
    Bool × NeighborDatabaseExchange :=
  let left := exchange.retransmissions.filter fun entry => !acknowledges header entry
  (left.length != exchange.retransmissions.length, { exchange with retransmissions := left })

def retransmits (exchange : NeighborDatabaseExchange) (key : LsaKey) : Bool :=
  exchange.retransmissions.any (·.key == key)

def sameInstance (header entry : LsaHeaderView) : Bool :=
  entry.type == header.type && entry.linkStateId == header.linkStateId &&
    entry.advertisingRouter == header.advertisingRouter &&
    entry.sequenceNumber == header.sequenceNumber && entry.checksum == header.checksum

def queueDelayedAcknowledgment (exchange : NeighborDatabaseExchange) (header : LsaHeaderView) :
    Option NeighborDatabaseExchange :=
  if exchange.acknowledgments.any (sameInstance header) then some exchange
  else if exchange.acknowledgments.length = exchange.maximumAcknowledgments then none
  else some { exchange with acknowledgments := exchange.acknowledgments ++ [header] }

def consumeDelayedAcknowledgments (exchange : NeighborDatabaseExchange) (count : Nat) :
    NeighborDatabaseExchange :=
  { exchange with acknowledgments := exchange.acknowledgments.drop count }

def reset (exchange : NeighborDatabaseExchange) : NeighborDatabaseExchange :=
  { exchange with
    summaries := [], requests := [], retransmissions := [], acknowledgments := [], version := none }

/-- Nothing is requested, retransmitted or acknowledged. -/
def Idle (exchange : NeighborDatabaseExchange) : Prop :=
  exchange.requests = [] ∧ exchange.retransmissions = [] ∧ exchange.acknowledgments = []

theorem start_idle {records : List LsaRecord} {version : Version} {permit : Bool}
    (h : exchange.start records version now permit = some exchange') : exchange'.Idle := by
  obtain ⟨_, _, rfl⟩ := Option.map_eq_some_iff.mp h
  exact ⟨rfl, rfl, rfl⟩

/-- The summary has room for a database of its capacity. -/
theorem summarize_isSome {maximum : Nat} {version : Version} {permit : Bool}
    {records : List LsaRecord} {next : List LsaHeaderView}
    (reads : ∀ record ∈ records, (lsaHeader record.bytes version).isSome)
    (room : next.length + records.length ≤ maximum) :
    (summarize maximum version now permit records next).isSome := by
  induction records generalizing next with
  | nil => rfl
  | cons record records ih =>
    have rest := fun r h => reads r (List.mem_cons_of_mem record h)
    rw [List.length_cons] at room
    obtain ⟨header, hheader⟩ := Option.isSome_iff_exists.mp (reads record List.mem_cons_self)
    have full : next.length ≠ maximum := by omega
    simp only [summarize, hheader]
    split
    · exact ih rest (by omega)
    split
    · exact ih rest (by omega)
    apply ih rest
    rw [List.length_append, List.length_singleton]
    omega

theorem start_isSome {database : LinkStateDatabase} {version : Version} {permit : Bool}
    (h : database.WellFormed version) (room : database.maximumRecords ≤ exchange.maximumSummaries) :
    (exchange.start database.records version now permit).isSome := by
  rw [start, Option.isSome_map]
  apply summarize_isSome h.headers
  have := h.fits
  rw [List.length_nil]
  omega

end NeighborDatabaseExchange

end RouterSim.Ospf
