import RouterSim.Ip.Address

/-! The DHCPv6 lease repository: a fixed table of slots, values chosen by a keyed hash
and linear probing. The keyed hash is a parameter. -/
namespace RouterSim.Dhcpv6
open RouterSim.Ip (Ipv6 Ipv6Prefix mask)

def addressPoolsPerServer : Nat := 8
def prefixPoolsPerServer : Nat := 8
def leasesPerServer : Nat := 1024
def failoverUpdatesInFlight : Nat := 256
def maximumDuidOctets : Nat := 130
def second : Int := 1000000000
/-- The last representable time, which stands for never. -/
def timeMax : Int := 9223372036854775807

abbrev Digest := List (BitVec 8)

inductive LeaseKind
  | nonTemporary | temporary | delegated
  deriving DecidableEq

structure LeasePool where
  aggregate : Ipv6Prefix := {}
  allocationSecret : Digest := []
  linkIdentity : Digest := []
  preferredLifetimeSeconds : BitVec 32 := 0#32
  validLifetimeSeconds : BitVec 32 := 0#32
  t1Seconds : BitVec 32 := 0#32
  t2Seconds : BitVec 32 := 0#32
  delegatedLength : BitVec 8 := 0#8
  linkScoped : Bool := false
  deriving DecidableEq

/-- A client's identity on one link; `duid` are the octets in use. -/
structure ClientIdentity where
  duid : List (BitVec 8) := []
  linkIdentity : Digest := []
  iaid : BitVec 32 := 0#32
  kind : LeaseKind := .nonTemporary
  deriving DecidableEq

inductive LeaseStatus
  | assigned | renewed | invalidClient | invalidPool | noBinding | released | declined
  | noAddressesAvailable | noPrefixesAvailable
  deriving DecidableEq

structure LeaseResult where
  status : LeaseStatus := .invalidClient
  value : Ipv6 := 0#128
  preferredLifetimeSeconds : BitVec 32 := 0#32
  validLifetimeSeconds : BitVec 32 := 0#32
  t1Seconds : BitVec 32 := 0#32
  t2Seconds : BitVec 32 := 0#32
  prefixLength : BitVec 8 := 128#8

structure Lease where
  client : ClientIdentity := {}
  value : Ipv6 := 0#128
  lastClientAddress : Ipv6 := 0#128
  preferredUntil : Int := 0
  validUntil : Int := 0
  declinedUntil : Int := 0
  lastClientTransaction : Int := 0
  poolIndex : Nat := 0
  prefixLength : BitVec 8 := 128#8
  occupied : Bool := false
  declined : Bool := false
  deriving DecidableEq

namespace Failover

inductive IdentityAssociationType
  | nonTemporary | temporary | delegatedPrefix | unassociatedPrefix
  deriving DecidableEq

inductive BindingStatus
  | reserved | active | expired | released | pendingFree | free | freeBackup | abandoned | reset
  deriving DecidableEq

structure BindingUpdateView where
  clientIdentifier : List (BitVec 8) := []
  value : Ipv6 := 0#128
  association : IdentityAssociationType := .nonTemporary
  status : BindingStatus := .reserved
  iaid : BitVec 32 := 0#32
  preferredLifetime : BitVec 32 := 0#32
  validLifetime : BitVec 32 := 0#32
  baseTime : BitVec 32 := 0#32
  startTimeOfState : BitVec 32 := 0#32
  clientLastTransactionTime : Option (BitVec 32) := none
  expirationTime : Option (BitVec 32) := none
  prefixLength : BitVec 8 := 128#8

end Failover

structure FailoverBinding where
  value : Ipv6 := 0#128
  association : Failover.IdentityAssociationType := .nonTemporary
  status : Failover.BindingStatus := .reserved
  stateStartedAbsolute : BitVec 32 := 0#32
  prefixLength : BitVec 8 := 128#8
  occupied : Bool := false

structure LeaseRepository where
  addressPools : List LeasePool := []
  prefixPools : List LeasePool := []
  leases : List Lease := []
  failoverBindings : List FailoverBinding := []
  declineHoldTime : Int := 0

/-- A repository with so many slots, all free. -/
def LeaseRepository.empty (slots : Nat) : LeaseRepository :=
  { leases := List.replicate slots {}, failoverBindings := List.replicate slots {} }

/-! ## Configuration and lookup -/

def validClient (client : ClientIdentity) : Bool :=
  decide (3 ≤ client.duid.length) && decide (client.duid.length ≤ maximumDuidOctets)

def sameClient (left right : ClientIdentity) : Bool :=
  left.iaid == right.iaid && left.kind == right.kind && left.linkIdentity == right.linkIdentity &&
    left.duid == right.duid

def validPool (pool : LeasePool) (delegating : Bool) : Bool :=
  let canonical := decide (pool.aggregate.length ≤ 128#8) &&
    mask pool.aggregate.network pool.aggregate.length.toNat == pool.aggregate.network
  let lifetimes := decide (pool.preferredLifetimeSeconds ≤ pool.validLifetimeSeconds) &&
    decide (pool.t1Seconds ≤ pool.t2Seconds) && decide (pool.t2Seconds ≤ pool.validLifetimeSeconds) &&
    pool.validLifetimeSeconds != 0#32
  let shape := if delegating then
      decide (pool.aggregate.length ≤ pool.delegatedLength) && decide (pool.delegatedLength ≤ 128#8) &&
        decide (pool.delegatedLength.toNat - pool.aggregate.length.toNat ≤ 64)
    else pool.delegatedLength == 0#8
  canonical && lifetimes && shape && pool.allocationSecret.any (· != 0#8)

namespace LeaseRepository

/-- A new configuration drops every lease. -/
def configure (r : LeaseRepository) (addressPools prefixPools : List LeasePool)
    (declineHoldTime : Int) : Option LeaseRepository :=
  if addressPoolsPerServer < addressPools.length || prefixPoolsPerServer < prefixPools.length ||
      decide (declineHoldTime < 0) then none
  else if addressPools.any (fun pool => !validPool pool false) ||
      prefixPools.any (fun pool => !validPool pool true) then none
  else some { r with
    addressPools := addressPools, prefixPools := prefixPools, declineHoldTime := declineHoldTime,
    leases := List.replicate r.leases.length {} }

/-- The pools that serve a kind of lease. -/
def poolsOf (r : LeaseRepository) (kind : LeaseKind) : List LeasePool :=
  if kind == .delegated then r.prefixPools else r.addressPools

/-- The slot of the client's binding. -/
def find (r : LeaseRepository) (client : ClientIdentity) : Option Nat :=
  r.leases.findIdx? fun lease => lease.occupied && !lease.declined && sameClient lease.client client

/-- The first free slot. -/
def available (r : LeaseRepository) : Option Nat := r.leases.findIdx? fun lease => !lease.occupied

def expire (r : LeaseRepository) (now : Int) : LeaseRepository :=
  { r with
    leases := r.leases.map fun lease =>
      if lease.occupied && ((lease.declined && decide (lease.declinedUntil ≤ now)) ||
          (!lease.declined && decide (lease.validUntil ≤ now))) then {} else lease }

end LeaseRepository

/-! ## Candidate values -/

def networkU32 (value : BitVec 32) : List (BitVec 8) :=
  [(value >>> 24).setWidth 8, (value >>> 16).setWidth 8, (value >>> 8).setWidth 8, value.setWidth 8]

/-- The last eight octets of a digest. -/
def lowerU64 (digest : Digest) : BitVec 64 :=
  (digest.drop (digest.length - 8)).foldl (fun value octet => (value <<< 8) ||| octet.setWidth 64)
    0#64

/-- An ordinal cut to so many bits. -/
def cutOrdinal (ordinal : BitVec 64) (bits : Nat) : BitVec 64 :=
  if bits < 64 then ordinal &&& ((1#64 <<< bits) - 1#64) else ordinal

/-- The host bits are set from the ordinal; a network of at most 64 bits has its lower 64
bits replaced. -/
def writeSuffix (value : Ipv6) (prefixLength : Nat) (ordinal : BitVec 64) : Ipv6 :=
  let cut := (cutOrdinal ordinal (128 - prefixLength)).setWidth 128
  if prefixLength ≤ 64 then (value &&& (BitVec.allOnes 128 <<< 64)) ||| cut else value ||| cut

/-- The bits between the aggregate and the delegated length are set from the ordinal. -/
def writeDelegatedIndex (value : Ipv6) (aggregateLength delegatedLength : Nat)
    (ordinal : BitVec 64) : Ipv6 :=
  let cut := (cutOrdinal ordinal (delegatedLength - aggregateLength)).setWidth 128
  value ||| (cut <<< (128 - delegatedLength))

def kindOctet : LeaseKind → BitVec 8
  | .nonTemporary => 0#8
  | .temporary => 1#8
  | .delegated => 2#8

/-- The value of the `attempt`-th probe. -/
def candidate (hmac : Digest → List (BitVec 8) → Digest) (pool : LeasePool)
    (client : ClientIdentity) (attempt : Nat) : Ipv6 :=
  let message := client.duid ++ client.linkIdentity ++ networkU32 client.iaid ++
    [kindOctet client.kind]
  let ordinal := lowerU64 (hmac pool.allocationSecret message) + BitVec.ofNat 64 attempt
  if client.kind == .delegated then
    writeDelegatedIndex pool.aggregate.network pool.aggregate.length.toNat
      pool.delegatedLength.toNat ordinal
  else writeSuffix pool.aggregate.network pool.aggregate.length.toNat ordinal

def isReservedInterfaceIdentifier (value : Ipv6) : Bool :=
  let identifier := value.setWidth 64
  identifier == 0#64 ||
    (decide (0x02005efffe000000#64 ≤ identifier) && decide (identifier ≤ 0x02005efffeffffff#64)) ||
    (decide (0xfdffffffffffff80#64 ≤ identifier) && decide (identifier ≤ 0xfdffffffffffffff#64))

/-- Whether a record keeps the value from a lease of this kind. -/
def Lease.uses (lease : Lease) (kind : LeaseKind) (value : Ipv6) (prefixLength : BitVec 8) : Bool :=
  if !lease.occupied then false
  else if kind == .delegated || lease.client.kind == .delegated then
    if kind != .delegated || lease.client.kind != .delegated then false
    else Ip.contains { network := value, length := prefixLength } lease.value ||
      Ip.contains { network := lease.value, length := lease.prefixLength } value
  else lease.value == value

def leaseDeadline (now : Int) (lifetime : BitVec 32) : Int :=
  if lifetime == BitVec.allOnes 32 then timeMax else now + lifetime.toNat * second

namespace LeaseRepository

def valueInUse (r : LeaseRepository) (kind : LeaseKind) (value : Ipv6) (prefixLength : BitVec 8) :
    Bool :=
  r.leases.any fun lease => lease.uses kind value prefixLength

/-- Seconds left, with all ones for a lease that never ends. -/
def remainingSeconds (deadline now : Int) : BitVec 32 :=
  if deadline == timeMax then BitVec.allOnes 32
  else if deadline ≤ now then 0#32
  else if 0xffffffff < (deadline - now) / second then BitVec.allOnes 32
  else BitVec.ofInt 32 ((deadline - now) / second)

def result (r : LeaseRepository) (lease : Lease) (now : Int) (status : LeaseStatus) : LeaseResult :=
  let pool := (r.poolsOf lease.client.kind).getD lease.poolIndex {}
  { status := status, value := lease.value,
    preferredLifetimeSeconds := remainingSeconds lease.preferredUntil now
    validLifetimeSeconds := remainingSeconds lease.validUntil now, t1Seconds := pool.t1Seconds,
    t2Seconds := pool.t2Seconds, prefixLength := lease.prefixLength }

/-- The first probe, of those that remain, whose value may be given. -/
def probe (hmac : Digest → List (BitVec 8) → Digest) (r : LeaseRepository) (pool : LeasePool)
    (client : ClientIdentity) (prefixLength : BitVec 8) : Nat → Nat → Option Ipv6
  | 0, _ => none
  | remaining + 1, attempt =>
    let value := candidate hmac pool client attempt
    if (client.kind != .delegated && isReservedInterfaceIdentifier value) ||
        r.valueInUse client.kind value prefixLength then
      probe hmac r pool client prefixLength remaining (attempt + 1)
    else some value

def assign (hmac : Digest → List (BitVec 8) → Digest) (start : LeaseRepository)
    (client : ClientIdentity) (poolIndex : Nat) (now : Int) : LeaseRepository × LeaseResult :=
  if !validClient client then (start, { status := .invalidClient })
  else
    let r := start.expire now
    let exhausted := if client.kind == .delegated then LeaseStatus.noPrefixesAvailable
      else .noAddressesAvailable
    if (r.poolsOf client.kind).length ≤ poolIndex then (r, { status := .invalidPool })
    else match r.find client with
      | some slot =>
        let existing := r.leases.getD slot {}
        let pool := (r.poolsOf client.kind).getD existing.poolIndex {}
        let renewed : Lease :=
          { existing with
            preferredUntil := leaseDeadline now pool.preferredLifetimeSeconds
            validUntil := leaseDeadline now pool.validLifetimeSeconds
            lastClientTransaction := now }
        ({ r with leases := r.leases.set slot renewed }, r.result renewed now .renewed)
      | none =>
        match r.available with
        | none => (r, { status := exhausted })
        | some slot =>
          let pool := (r.poolsOf client.kind).getD poolIndex {}
          let prefixLength := if client.kind == .delegated then pool.delegatedLength else 128#8
          match r.probe hmac pool client prefixLength (r.leases.length + 1) 0 with
          | none => (r, { status := exhausted })
          | some value =>
            let lease : Lease :=
              { client := client, value := value,
                preferredUntil := leaseDeadline now pool.preferredLifetimeSeconds
                validUntil := leaseDeadline now pool.validLifetimeSeconds
                lastClientTransaction := now, poolIndex := poolIndex, prefixLength := prefixLength,
                occupied := true }
            ({ r with leases := r.leases.set slot lease }, r.result lease now .assigned)

def renew (hmac : Digest → List (BitVec 8) → Digest) (start : LeaseRepository)
    (client : ClientIdentity) (now : Int) : LeaseRepository × LeaseResult :=
  if !validClient client then (start, { status := .invalidClient })
  else
    let r := start.expire now
    match r.find client with
    | none => (r, { status := .noBinding })
    | some slot => r.assign hmac client (r.leases.getD slot {}).poolIndex now

def release (r : LeaseRepository) (client : ClientIdentity) : LeaseRepository × LeaseStatus :=
  if !validClient client then (r, .invalidClient)
  else match r.find client with
    | none => (r, .noBinding)
    | some slot => ({ r with leases := r.leases.set slot {} }, .released)

/-- A declined value is held back, for good if no time is configured. -/
def decline (r : LeaseRepository) (client : ClientIdentity) (now : Int) :
    LeaseRepository × LeaseStatus :=
  if !validClient client then (r, .invalidClient)
  else match r.find client with
    | none => (r, .noBinding)
    | some slot =>
      ({ r with
        leases := r.leases.modify slot fun lease =>
          { lease with
            preferredUntil := 0, validUntil := 0, declined := true
            declinedUntil :=
              if r.declineHoldTime == 0 then timeMax else now + r.declineHoldTime * second
            lastClientTransaction := now } }, .declined)

end LeaseRepository
end RouterSim.Dhcpv6
