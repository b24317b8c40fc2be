/-! The DHCPv4 lease repository: pools, reservations, exclusions and the binding of each
client. Addresses are the host-order integers of their octets; times are nanoseconds of
one steady clock. -/
namespace RouterSim.Dhcpv4

def poolsPerServer : Nat := 16
def leasesPerServer : Nat := 2048
def failoverUpdatesInFlight : Nat := 256
def maximumClientIdentifierOctets : Nat := 255
def relayAgentInformationSize : Nat := 255
def second : Int := 1000000000
/-- The last representable time. -/
def timeMax : Int := 9223372036854775807

abbrev Ipv4 := BitVec 32

/-- A client identifier: the octets in use of the source's array, and whether they came
from option 61. -/
structure ClientKey where
  bytes : List (BitVec 8) := []
  option61 : Bool := false
  fits : bytes.length ≤ 255 := by decide
  deriving DecidableEq

instance : Inhabited ClientKey := ⟨{}⟩

def equalClientKey (left right : ClientKey) : Bool :=
  left.option61 == right.option61 && left.bytes == right.bytes

structure AllocationScope where
  serverInstance : BitVec 32 := 0#32
  routingContext : BitVec 32 := 0#32
  linkIdentity : BitVec 64 := 0#64
  deriving DecidableEq

def sameScope (left right : AllocationScope) : Bool :=
  left.serverInstance == right.serverInstance && left.routingContext == right.routingContext &&
    left.linkIdentity == right.linkIdentity

structure ClientHardwareIdentity where
  address : List (BitVec 8) := List.replicate 16 0#8
  hardwareType : BitVec 8 := 0#8
  length : BitVec 8 := 0#8

structure Pool where
  id : BitVec 16 := 0#16
  scope : AllocationScope := {}
  first : Ipv4 := 0#32
  last : Ipv4 := 0#32
  subnetMask : Ipv4 := 0#32
  router : Ipv4 := 0#32
  leaseSeconds : BitVec 32 := 0#32
  minimumLeaseSeconds : BitVec 32 := 0#32
  maximumLeaseSeconds : BitVec 32 := 0#32
  offerSeconds : BitVec 32 := 0#32
  maximumDeclined : BitVec 32 := 64#32
  renewalSeconds : BitVec 32 := 0#32
  rebindingSeconds : BitVec 32 := 0#32
  enabled : Bool := false
  deriving DecidableEq

structure Reservation where
  scope : AllocationScope := {}
  client : ClientKey := {}
  address : Ipv4 := 0#32

structure ExcludedRange where
  scope : AllocationScope := {}
  first : Ipv4 := 0#32
  last : Ipv4 := 0#32

inductive BindingState
  | pendingOffer | active | expired | released | declined | conflict | reserved
  deriving DecidableEq

namespace Failover

inductive BindingStatus
  | free | active | expired | released | abandoned | reset | backup
  deriving DecidableEq

/-- One binding of a partner's update. -/
structure BindingUpdateView where
  address : Ipv4 := 0#32
  status : BindingStatus := .free
  clientIdentifier : List (BitVec 8) := []
  clientHardwareAddress : List (BitVec 8) := []
  leaseExpirationTime : Option (BitVec 32) := none
  potentialExpirationTime : Option (BitVec 32) := none
  clientLastTransactionTime : Option (BitVec 32) := none
  startTimeOfState : Option (BitVec 32) := none
  deriving DecidableEq

end Failover

structure Lease where
  scope : AllocationScope := {}
  client : ClientKey := {}
  hardware : ClientHardwareIdentity := {}
  relayAgentInformation : List (BitVec 8) := List.replicate 255 0#8
  relayAgentInformationOctets : BitVec 16 := 0#16
  address : Ipv4 := 0#32
  transactionId : BitVec 32 := 0#32
  offeredUntil : Int := 0
  activeUntil : Int := 0
  lastClientTransaction : Int := 0
  lastStateChange : Int := 0
  leaseSeconds : BitVec 32 := 0#32
  declineSequence : BitVec 64 := 0#64
  revision : BitVec 64 := 0#64
  failoverStateStartedAbsolute : BitVec 32 := 0#32
  failoverPartnerExpirationAbsolute : BitVec 32 := 0#32
  failoverStatus : Failover.BindingStatus := .free
  state : BindingState := .expired
  sticky : Bool := false
  failoverManaged : Bool := false

structure LeaseRepository where
  pools : List Pool := []
  reservations : List Reservation := []
  exclusions : List ExcludedRange := []
  leases : List Lease := []
  offerHold : Int := 60
  declineHold : Int := 3600
  nextDeclineSequence : BitVec 64 := 1#64
  nextRevision : BitVec 64 := 1#64

/-! ## Configuration -/

def contains (pool : Pool) (value : Ipv4) : Bool :=
  decide (pool.first ≤ value) && decide (value ≤ pool.last)

def minimumLease (pool : Pool) : BitVec 32 :=
  if pool.minimumLeaseSeconds != 0#32 then pool.minimumLeaseSeconds else pool.leaseSeconds

def maximumLease (pool : Pool) : BitVec 32 :=
  if pool.maximumLeaseSeconds != 0#32 then pool.maximumLeaseSeconds else pool.leaseSeconds

def validPool (pool : Pool) : Bool :=
  let minimum := minimumLease pool
  let maximum := maximumLease pool
  if pool.id == 0#16 || decide (pool.last < pool.first) || minimum == 0#32 || maximum == 0#32 ||
      decide (maximum < minimum) then false
  else if (pool.renewalSeconds != 0#32 && decide (maximum ≤ pool.renewalSeconds)) ||
      (pool.rebindingSeconds != 0#32 && decide (maximum ≤ pool.rebindingSeconds)) ||
      (pool.renewalSeconds != 0#32 && pool.rebindingSeconds != 0#32 &&
        decide (pool.rebindingSeconds ≤ pool.renewalSeconds)) then false
  else true

def effectiveLease (pool : Pool) (requested : Option (BitVec 32)) : BitVec 32 :=
  let value := requested.getD (maximumLease pool)
  if value < minimumLease pool then minimumLease pool
  else if maximumLease pool < value then maximumLease pool
  else value

def effectiveOfferHold (pool : Pool) (fallback : Int) : Int :=
  if pool.offerSeconds != 0#32 then pool.offerSeconds.toNat else fallback

def overlaps (left right : Pool) : Bool :=
  decide (left.first ≤ right.last) && decide (right.first ≤ left.last)

/-- Each pool against those after it. -/
def acceptsPools : List Pool → Bool
  | [] => true
  | pool :: rest =>
    validPool pool && rest.all (fun other =>
      pool.id != other.id &&
        !(pool.enabled && other.enabled && sameScope pool.scope other.scope &&
          overlaps pool other)) && acceptsPools rest

def acceptsReservations (pools : List Pool) : List Reservation → Bool
  | [] => true
  | entry :: rest =>
    !entry.client.bytes.isEmpty &&
      pools.countP (fun pool => pool.enabled && sameScope pool.scope entry.scope &&
        contains pool entry.address) == 1 &&
      rest.all (fun other => !(sameScope entry.scope other.scope &&
        (entry.address == other.address || equalClientKey entry.client other.client))) &&
      acceptsReservations pools rest

def acceptsExclusions (pools : List Pool) : List ExcludedRange → Bool
  | [] => true
  | prior :: rest =>
    !decide (prior.last < prior.first) &&
      pools.countP (fun pool => pool.enabled && sameScope pool.scope prior.scope &&
        contains pool prior.first && contains pool prior.last) == 1 &&
      rest.all (fun excluded => !(sameScope prior.scope excluded.scope &&
        decide (prior.first ≤ excluded.last) && decide (excluded.first ≤ prior.last))) &&
      acceptsExclusions pools rest

namespace LeaseRepository

/-- The replacement configuration, if it is accepted. -/
def configure (r : LeaseRepository) (pools : List Pool) (reservations : List Reservation)
    (offerHold declineHold : Int) (exclusions : List ExcludedRange) : Option LeaseRepository :=
  if poolsPerServer < pools.length || leasesPerServer < reservations.length ||
      leasesPerServer < exclusions.length || decide (offerHold ≤ 0) || decide (declineHold < 0)
  then none
  else if !acceptsPools pools || !acceptsReservations pools reservations ||
      !acceptsExclusions pools exclusions then none
  else some { r with
    pools := pools, reservations := reservations, exclusions := exclusions, offerHold := offerHold,
    declineHold := declineHold }

/-! ## Lookup -/

/-- The one enabled pool of the scope that holds the address. -/
def poolFor (r : LeaseRepository) (scope : AllocationScope) (value : Ipv4) : Option Pool :=
  match r.pools.filter (fun pool => pool.enabled && sameScope pool.scope scope &&
      contains pool value) with
  | [pool] => some pool
  | _ => none

/-- The place of the client's record. -/
def binding (r : LeaseRepository) (scope : AllocationScope) (client : ClientKey) : Option Nat :=
  r.leases.findIdx? fun lease => sameScope lease.scope scope && equalClientKey lease.client client

def leaseFor (r : LeaseRepository) (scope : AllocationScope) (client : ClientKey) : Option Lease :=
  r.leases.find? fun lease => sameScope lease.scope scope && equalClientKey lease.client client

def reservation (r : LeaseRepository) (scope : AllocationScope) (client : ClientKey) :
    Option Reservation :=
  r.reservations.find? fun entry => sameScope entry.scope scope &&
    equalClientKey entry.client client

end LeaseRepository

/-! ## Changes of one record -/

def nextRevisionAfter (next : BitVec 64) : BitVec 64 :=
  if next != BitVec.allOnes 64 then next + 1#64 else next

def Lease.recordChange (lease : Lease) (next : BitVec 64) (now : Int) : Lease :=
  { lease with
    lastStateChange := now, revision := next }

/-- Whether `expire` moves the record. -/
def Lease.lapsed (lease : Lease) (now : Int) : Bool :=
  (lease.state == .pendingOffer && decide (lease.offeredUntil ≤ now)) ||
    ((lease.state == .active || lease.state == .conflict) && decide (lease.activeUntil ≤ now))

def expireLeases (now : Int) : List Lease → BitVec 64 → List Lease × BitVec 64
  | [], next => ([], next)
  | lease :: rest, next =>
    if lease.lapsed now then
      let (rest', next') := expireLeases now rest (nextRevisionAfter next)
      (Lease.recordChange { lease with state := .expired } next now :: rest', next')
    else
      let (rest', next') := expireLeases now rest next
      (lease :: rest', next')

namespace LeaseRepository

def expire (r : LeaseRepository) (now : Int) : LeaseRepository :=
  let (leases, next) := expireLeases now r.leases r.nextRevision
  { r with
    leases := leases, nextRevision := next }

/-- The record at a place, changed and stamped. -/
def change (r : LeaseRepository) (place : Nat) (f : Lease → Lease) (now : Int) : LeaseRepository :=
  { r with
    leases := r.leases.modify place fun lease => (f lease).recordChange r.nextRevision now
    nextRevision := nextRevisionAfter r.nextRevision }

/-! ## Allocation -/

end LeaseRepository

/-- Whether the record keeps its address from other clients. -/
def Lease.blocks (lease : Lease) (now : Int) : Bool :=
  (lease.state == .pendingOffer && decide (now < lease.offeredUntil)) ||
    (lease.state == .active && decide (now < lease.activeUntil)) ||
    ((lease.state == .declined || lease.state == .conflict) && decide (now < lease.activeUntil))

inductive AllocateStatus
  | offered | reused | exhausted | unknownScope | ambiguousScope | invalidRequest
  | resourceExhausted
  deriving DecidableEq

structure AllocateResult where
  status : AllocateStatus := .invalidRequest
  address : Ipv4 := 0#32
  poolId : BitVec 16 := 0#16
  leaseSeconds : BitVec 32 := 0#32

/-- What a client asks for in an offer or a commit. -/
structure Demand where
  scope : AllocationScope := {}
  client : ClientKey := {}
  transactionId : BitVec 32 := 0#32
  now : Int := 0
  requestedLeaseSeconds : Option (BitVec 32) := none
  hardware : ClientHardwareIdentity := {}
  relayAgentInformation : List (BitVec 8) := []

/-- The hardware tuple and the relay option of the latest message, as kept. -/
def Lease.hear (lease : Lease) (demand : Demand) : Lease :=
  { lease with
    hardware := if demand.hardware.length != 0#8 then demand.hardware else lease.hardware
    relayAgentInformation := demand.relayAgentInformation ++
      lease.relayAgentInformation.drop demand.relayAgentInformation.length
    relayAgentInformationOctets := BitVec.ofNat 16 demand.relayAgentInformation.length
    transactionId := demand.transactionId, lastClientTransaction := demand.now }

/-- The client's record with the selected address on offer. -/
def Lease.offerWith (demand : Demand) (selected : Ipv4 × Pool) (hold : Int) (lease : Lease) :
    Lease :=
  { lease.hear demand with
    address := selected.1, leaseSeconds := effectiveLease selected.2 demand.requestedLeaseSeconds,
    offeredUntil := demand.now + effectiveOfferHold selected.2 hold * second
    state := .pendingOffer }

/-- Whether the record may be committed at the address. -/
def Lease.mayCommit (lease : Lease) (demand : Demand) (value : Ipv4) : Bool :=
  lease.address == value && (lease.state == .active ||
    (lease.state == .pendingOffer && lease.transactionId == demand.transactionId &&
      decide (demand.now < lease.offeredUntil)))

def Lease.commitWith (demand : Demand) (pool : Pool) (lease : Lease) : Lease :=
  let seconds := if demand.requestedLeaseSeconds.isSome || lease.leaseSeconds == 0#32 then
    effectiveLease pool demand.requestedLeaseSeconds else lease.leaseSeconds
  { lease.hear demand with
    leaseSeconds := seconds, activeUntil := demand.now + seconds.toNat * second, state := .active,
    sticky := true }

namespace LeaseRepository

def addressAvailable (r : LeaseRepository) (pool : Pool) (value : Ipv4) (client : ClientKey)
    (now : Int) : Bool :=
  contains pool value &&
    r.exclusions.all (fun excluded => !(sameScope excluded.scope pool.scope &&
      decide (excluded.first ≤ value) && decide (value ≤ excluded.last))) &&
    r.reservations.all (fun entry => !(sameScope entry.scope pool.scope &&
      entry.address == value && !equalClientKey entry.client client)) &&
    r.leases.all (fun lease => !(sameScope lease.scope pool.scope && lease.address == value &&
      !equalClientKey lease.client client && lease.blocks now))

/-- The search upwards from an address. -/
def availableFrom (r : LeaseRepository) (pool : Pool) (client : ClientKey) (now : Int) :
    Nat → Ipv4 → Option Ipv4
  | 0, _ => none
  | fuel + 1, current =>
    if r.addressAvailable pool current client now then some current
    else if current == pool.last || current == BitVec.allOnes 32 then none
    else availableFrom r pool client now fuel (current + 1#32)

/-- The search ends at the last address at the latest, so the fuel suffices. -/
def firstAvailable (r : LeaseRepository) (pool : Pool) (client : ClientKey) (now : Int) :
    Option Ipv4 :=
  r.availableFrom pool client now (0x100000000 - pool.first.toNat) pool.first

def selectExisting (r : LeaseRepository) (scope : AllocationScope) (client : ClientKey)
    (now : Int) (value : Ipv4) : Option (Ipv4 × Pool) :=
  match r.poolFor scope value with
  | some pool => if r.addressAvailable pool value client now then some (value, pool) else none
  | none => none

/-- The pool of the least identifier from `nextId` on. -/
def nextPool (r : LeaseRepository) (scope : AllocationScope) (nextId : Nat) : Option Pool :=
  r.pools.foldl (fun candidate pool =>
    if !pool.enabled || !sameScope pool.scope scope || decide (pool.id.toNat < nextId) ||
        candidate.any (fun best => decide (best.id ≤ pool.id)) then candidate
    else some pool) none

/-- Every turn leaves a pool behind, so one turn more than there are pools suffices. -/
def selectFromPools (r : LeaseRepository) (scope : AllocationScope) (client : ClientKey)
    (now : Int) : Nat → Nat → Option (Ipv4 × Pool)
  | 0, _ => none
  | fuel + 1, nextId =>
    if 0xffff < nextId then none
    else match r.nextPool scope nextId with
      | none => none
      | some pool =>
        match r.firstAvailable pool client now with
        | some address => some (address, pool)
        | none => selectFromPools r scope client now fuel (pool.id.toNat + 1)

/-- Reservation, then active lease, then sticky lease, then requested address, then the
first free one. A reserved address is taken without a further look. -/
def select (r : LeaseRepository) (scope : AllocationScope) (client : ClientKey) (now : Int)
    (requestedAddress : Option Ipv4) : Option (Ipv4 × Pool) :=
  match r.reservation scope client with
  | some fixed => (r.poolFor scope fixed.address).map fun pool => (fixed.address, pool)
  | none =>
    let existing := r.leaseFor scope client
    let keep (wanted : Lease → Bool) : Option (Ipv4 × Pool) := existing.bind fun lease =>
      if wanted lease then r.selectExisting scope client now lease.address else none
    let active := keep fun lease => lease.state == .active && decide (now < lease.activeUntil)
    let sticky := keep fun lease => lease.sticky
    let requested := requestedAddress.bind (r.selectExisting scope client now)
    active.or (sticky.or (requested.or (r.selectFromPools scope client now (r.pools.length + 1) 1)))

def scopeExists (r : LeaseRepository) (scope : AllocationScope) : Bool :=
  r.pools.any fun pool => pool.enabled && sameScope pool.scope scope

def offer (start : LeaseRepository) (demand : Demand) (requestedAddress : Option Ipv4) :
    LeaseRepository × AllocateResult :=
  let r := start.expire demand.now
  if !r.scopeExists demand.scope then (r, { status := .unknownScope })
  else if demand.client.bytes.isEmpty ||
      decide (relayAgentInformationSize < demand.relayAgentInformation.length) then
    (r, { status := .invalidRequest })
  else match r.select demand.scope demand.client demand.now requestedAddress with
    | none => (r, { status := .exhausted })
    | some selected =>
      let given : AllocateResult :=
        { status := .offered, address := selected.1, poolId := selected.2.id,
          leaseSeconds := effectiveLease selected.2 demand.requestedLeaseSeconds }
      match r.binding demand.scope demand.client with
      | some place =>
        (r.change place (Lease.offerWith demand selected r.offerHold) demand.now, given)
      | none =>
        if r.leases.length == leasesPerServer then
          (r, { status := .resourceExhausted, poolId := selected.2.id })
        else
          let fresh : Lease := { scope := demand.scope, client := demand.client }
          let grown := { r with leases := r.leases ++ [fresh] }
          (grown.change r.leases.length (Lease.offerWith demand selected r.offerHold) demand.now,
            given)

def commit (start : LeaseRepository) (demand : Demand) (value : Ipv4) : LeaseRepository × Bool :=
  let r := start.expire demand.now
  if relayAgentInformationSize < demand.relayAgentInformation.length then (r, false)
  else match r.binding demand.scope demand.client, r.poolFor demand.scope value with
    | some place, some pool =>
      if r.leases[place]?.any (Lease.mayCommit · demand value) then
        (r.change place (Lease.commitWith demand pool) demand.now, true)
      else (r, false)
    | _, _ => (r, false)

def release (r : LeaseRepository) (scope : AllocationScope) (client : ClientKey) (value : Ipv4)
    (now : Int) : LeaseRepository × Bool :=
  match r.binding scope client with
  | some place =>
    if r.leases[place]?.any (fun lease => lease.address == value && lease.state == .active) then
      (r.change place (fun lease =>
        { lease with
          state := .released, activeUntil := now, lastClientTransaction := now }) now, true)
    else (r, false)
  | none => (r, false)

/-! ## Declined addresses -/

/-- How long ago a record was declined; records that are not come last. -/
def declineOrder (scope : AllocationScope) (lease : Lease) : BitVec 64 :=
  if sameScope lease.scope scope && lease.state == .declined then lease.declineSequence
  else BitVec.allOnes 64

/-- The first record that comes least in that order. -/
def oldestDeclined (r : LeaseRepository) (scope : AllocationScope) : Option Nat :=
  let least := r.leases.foldl (fun best lease =>
    if declineOrder scope lease < best then declineOrder scope lease else best) (BitVec.allOnes 64)
  r.leases.findIdx? fun lease => declineOrder scope lease == least

/-- Give back the oldest declined addresses, as many as there are too many. -/
def giveBack (scope : AllocationScope) (now : Int) : Nat → LeaseRepository → LeaseRepository
  | 0, r => r
  | excess + 1, r =>
    match r.oldestDeclined scope with
    | none => r
    | some place =>
      if r.leases[place]?.any (·.state == .declined) then
        giveBack scope now excess (r.change place (fun lease =>
          { lease with
            state := .expired, activeUntil := now, declineSequence := 0#64 }) now)
      else r

def decline (r : LeaseRepository) (scope : AllocationScope) (client : ClientKey) (value : Ipv4)
    (now : Int) : LeaseRepository × Bool :=
  match r.binding scope client, r.poolFor scope value with
  | some place, some pool =>
    if r.leases[place]?.any (·.address == value) then
      let marked := r.change place (fun lease =>
        { lease with
          state := .declined, activeUntil := timeMax, declineSequence := r.nextDeclineSequence,
          sticky := false, lastClientTransaction := now }) now
      let counted := { marked with nextDeclineSequence := r.nextDeclineSequence + 1#64 }
      let declinedCount := counted.leases.countP fun candidate =>
        sameScope candidate.scope scope && candidate.state == .declined
      (giveBack scope now (declinedCount - pool.maximumDeclined.toNat) counted, true)
    else (r, false)
  | _, _ => (r, false)

end LeaseRepository

/-! ## Operational clear -/

inductive OperationalLeaseState
  | any | offered | stable | forceRenewPending | removePending | held | internal | internalOrphan
  | internalOffered | internalHeld | sticky

structure LeaseClearFilter where
  address : Ipv4 := 0#32
  prefixLength : BitVec 8 := 32#8
  state : OperationalLeaseState := .any
  addressSpecific : Bool := false

def LeaseClearFilter.stateMatches (filter : LeaseClearFilter) (lease : Lease) : Bool :=
  match filter.state with
  | .any => true
  | .offered => lease.state == .pendingOffer
  | .stable => lease.state == .active
  | .held => lease.state == .released || lease.state == .expired || lease.state == .declined ||
      lease.state == .conflict
  | .sticky => lease.sticky
  | .forceRenewPending | .removePending | .internal | .internalOrphan | .internalOffered
  | .internalHeld => false

def LeaseClearFilter.mask (filter : LeaseClearFilter) : Ipv4 :=
  if filter.prefixLength == 0#8 then 0#32
  else BitVec.allOnes 32 <<< (32 - filter.prefixLength.toNat)

def LeaseClearFilter.selects (filter : LeaseClearFilter) (lease : Lease) : Bool :=
  (!filter.addressSpecific ||
    (lease.address &&& filter.mask) == (filter.address &&& filter.mask)) &&
    filter.stateMatches lease

def LeaseRepository.clear (start : LeaseRepository) (filter : LeaseClearFilter) (now : Int) :
    LeaseRepository × Nat :=
  let r := start.expire now
  if 32#8 < filter.prefixLength then (r, 0)
  else
    let kept := r.leases.filter fun lease => !filter.selects lease
    ({ r with leases := kept }, r.leases.length - kept.length)

end RouterSim.Dhcpv4
