import RouterSim.Dhcpv4.Lease

/-! Checkpoints of the lease repository. Deadlines are saved as the time that remains,
past instants as the time since. -/
namespace RouterSim.Dhcpv4

structure LeaseCheckpoint where
  scope : AllocationScope
  client : ClientKey
  hardware : ClientHardwareIdentity
  relayAgentInformation : List (BitVec 8)
  relayAgentInformationOctets : BitVec 16
  address : Ipv4
  transactionId : BitVec 32
  offerRemainingNanoseconds : Int
  activeRemainingNanoseconds : Int
  lastClientTransactionElapsedNanoseconds : Int
  lastStateChangeElapsedNanoseconds : Int
  leaseSeconds : BitVec 32
  declineSequence : BitVec 64
  revision : BitVec 64
  failoverStateStartedAbsolute : BitVec 32
  failoverPartnerExpirationAbsolute : BitVec 32
  failoverStatus : Failover.BindingStatus
  state : BindingState
  sticky : Bool
  failoverManaged : Bool

structure LeaseRepositoryCheckpoint where
  pools : List Pool
  reservations : List Reservation
  exclusions : List ExcludedRange
  leases : List LeaseCheckpoint
  offerHoldNanoseconds : Int
  declineHoldNanoseconds : Int
  nextDeclineSequence : BitVec 64
  nextRevision : BitVec 64

def remainingNanoseconds (deadline now : Int) : Int := max 0 (deadline - now)

def Lease.checkpoint (lease : Lease) (now : Int) : LeaseCheckpoint :=
  { scope := lease.scope, client := lease.client, hardware := lease.hardware,
    relayAgentInformation := lease.relayAgentInformation
    relayAgentInformationOctets := lease.relayAgentInformationOctets, address := lease.address,
    transactionId := lease.transactionId
    offerRemainingNanoseconds := remainingNanoseconds lease.offeredUntil now
    activeRemainingNanoseconds :=
      if lease.state == .declined then 0 else remainingNanoseconds lease.activeUntil now
    lastClientTransactionElapsedNanoseconds := now - lease.lastClientTransaction
    lastStateChangeElapsedNanoseconds := now - lease.lastStateChange
    leaseSeconds := lease.leaseSeconds, declineSequence := lease.declineSequence,
    revision := lease.revision, failoverStateStartedAbsolute := lease.failoverStateStartedAbsolute,
    failoverPartnerExpirationAbsolute := lease.failoverPartnerExpirationAbsolute
    failoverStatus := lease.failoverStatus, state := lease.state, sticky := lease.sticky,
    failoverManaged := lease.failoverManaged }

def LeaseRepository.checkpoint (r : LeaseRepository) (now : Int) : LeaseRepositoryCheckpoint :=
  { pools := r.pools, reservations := r.reservations, exclusions := r.exclusions,
    leases := r.leases.map (·.checkpoint now), offerHoldNanoseconds := r.offerHold * second,
    declineHoldNanoseconds := r.declineHold * second, nextDeclineSequence := r.nextDeclineSequence,
    nextRevision := r.nextRevision }

/-! ## Restore -/

/-- The checks of one saved record by itself. -/
def LeaseCheckpoint.malformed (saved : LeaseCheckpoint) (pools : List Pool)
    (nextRevision nextDeclineSequence : BitVec 64) : Bool :=
  saved.client.bytes.isEmpty || decide (maximumClientIdentifierOctets < saved.client.bytes.length) ||
    decide (16#8 < saved.hardware.length) ||
    decide (relayAgentInformationSize < saved.relayAgentInformationOctets.toNat) ||
    (saved.hardware.length != 0#8 && saved.hardware.hardwareType == 0#8) ||
    decide (saved.offerRemainingNanoseconds < 0) || decide (saved.activeRemainingNanoseconds < 0) ||
    decide (saved.lastClientTransactionElapsedNanoseconds < 0) ||
    decide (saved.lastStateChangeElapsedNanoseconds < 0) ||
    saved.revision == 0#64 || decide (nextRevision ≤ saved.revision) ||
    (saved.failoverManaged && saved.failoverStateStartedAbsolute == 0#32) ||
    pools.countP (fun pool => sameScope pool.scope saved.scope &&
      contains pool saved.address) != 1 ||
    (saved.state == .declined && (saved.declineSequence == 0#64 ||
      decide (nextDeclineSequence ≤ saved.declineSequence))) ||
    (saved.state != .declined && saved.declineSequence != 0#64) ||
    (saved.state == .pendingOffer && saved.offerRemainingNanoseconds == 0) ||
    ((saved.state == .active || saved.state == .conflict) && saved.activeRemainingNanoseconds == 0)

/-- States in which a record holds its address. -/
def BindingState.holds (state : BindingState) : Bool :=
  state == .pendingOffer || state == .active || state == .declined || state == .conflict

/-- The checks of a saved record against an earlier one. -/
def LeaseCheckpoint.clashes (saved other : LeaseCheckpoint) : Bool :=
  sameScope saved.scope other.scope && (equalClientKey saved.client other.client ||
    (saved.address == other.address && (saved.state.holds && other.state.holds)))

def LeaseCheckpoint.lease (saved : LeaseCheckpoint) (now : Int) : Lease :=
  { scope := saved.scope, client := saved.client, hardware := saved.hardware,
    relayAgentInformation := saved.relayAgentInformation
    relayAgentInformationOctets := saved.relayAgentInformationOctets, address := saved.address,
    transactionId := saved.transactionId, offeredUntil := now + saved.offerRemainingNanoseconds
    activeUntil :=
      if saved.state == .declined then timeMax else now + saved.activeRemainingNanoseconds
    lastClientTransaction := now - saved.lastClientTransactionElapsedNanoseconds
    lastStateChange := now - saved.lastStateChangeElapsedNanoseconds
    leaseSeconds := saved.leaseSeconds, declineSequence := saved.declineSequence,
    revision := saved.revision, failoverStateStartedAbsolute := saved.failoverStateStartedAbsolute,
    failoverPartnerExpirationAbsolute := saved.failoverPartnerExpirationAbsolute
    failoverStatus := saved.failoverStatus, state := saved.state, sticky := saved.sticky,
    failoverManaged := saved.failoverManaged }

/-- The saved records from a place on, after those before it. -/
def restoreLeases (state : LeaseRepositoryCheckpoint) (now : Int) :
    List LeaseCheckpoint → List LeaseCheckpoint → Option (List Lease)
  | _, [] => some []
  | prior, saved :: rest =>
    if saved.malformed state.pools state.nextRevision state.nextDeclineSequence then none
    else if prior.any (fun other => saved.clashes other) then none
    else (restoreLeases state now (prior ++ [saved]) rest).map (saved.lease now :: ·)

/-- A fresh repository with the saved state, if every check passes. -/
def LeaseRepository.restore (state : LeaseRepositoryCheckpoint) (now : Int) :
    Option LeaseRepository :=
  if state.offerHoldNanoseconds ≤ 0 || state.declineHoldNanoseconds < 0 ||
      state.nextDeclineSequence == 0#64 || state.nextRevision == 0#64 ||
      leasesPerServer < state.leases.length then none
  else
    match ({} : LeaseRepository).configure state.pools state.reservations
        (state.offerHoldNanoseconds.tdiv second) (state.declineHoldNanoseconds.tdiv second)
        state.exclusions with
    | none => none
    | some staged =>
      (restoreLeases state now [] state.leases).map fun leases =>
        { staged with
          leases := leases, nextDeclineSequence := state.nextDeclineSequence,
          nextRevision := state.nextRevision }

end RouterSim.Dhcpv4
