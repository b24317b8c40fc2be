import RouterSim.Dhcpv4.Lease

/-! Bindings learned from a failover partner. -/
namespace RouterSim.Dhcpv4

inductive PartnerUpdateStatus
  | applied | duplicate | unknownAddress | ambiguousAddress | invalidUpdate | resourceExhausted

open Failover (BindingUpdateView)

/-- The client an update names: by identifier, else by hardware address, else nobody. -/
def updateIdentity (update : BindingUpdateView) : Option (ClientKey × ClientHardwareIdentity) :=
  if !update.clientIdentifier.isEmpty then
    if h : update.clientIdentifier.length ≤ 255 then
      some ({ bytes := update.clientIdentifier, option61 := true, fits := h }, {})
    else none
  else
    match update.clientHardwareAddress with
    | [] => some (default, {})
    | hardwareType :: octets =>
      if h : (hardwareType :: octets).length ≤ 255 then
        if 16 < octets.length then none
        else some ({ bytes := hardwareType :: octets, fits := h },
          { address := octets ++ List.replicate (16 - octets.length) 0#8
            hardwareType := hardwareType, length := BitVec.ofNat 8 octets.length })
      else none

/-- The local time of an absolute one that is not past. -/
def localDeadline (absoluteNow : BitVec 32) (now : Int) (absolute : Option (BitVec 32)) : Int :=
  match absolute with
  | some time => if time ≤ absoluteNow then now else now + (time - absoluteNow).toNat * second
  | none => now

/-- When the client was last heard of, in local time. -/
def lastTransaction (absoluteNow : BitVec 32) (now : Int) (absolute : Option (BitVec 32)) : Int :=
  match absolute with
  | some time => if time ≤ absoluteNow then now - (absoluteNow - time).toNat * second else now
  | none => now

/-- The record as the partner describes it. -/
def Lease.learn (update : BindingUpdateView) (identity : ClientKey × ClientHardwareIdentity)
    (started absoluteNow : BitVec 32) (now : Int) (lease : Lease) : Lease :=
  let base : Lease :=
    { lease with
      client := if !identity.1.bytes.isEmpty then identity.1 else lease.client
      hardware := if identity.2.length != 0#8 then identity.2 else lease.hardware
      address := update.address, failoverStatus := update.status,
      failoverStateStartedAbsolute := started
      failoverPartnerExpirationAbsolute := update.potentialExpirationTime.getD 0#32
      failoverManaged := true, sticky := update.status == .active
      lastClientTransaction :=
        lastTransaction absoluteNow now update.clientLastTransactionTime }
  match update.status with
  | .active =>
    { base with
      state := .active, activeUntil := localDeadline absoluteNow now update.leaseExpirationTime
      leaseSeconds :=
        match update.leaseExpirationTime with
        | some time => if absoluteNow < time then time - absoluteNow else 0#32
        | none => 0#32 }
  | .released =>
    { base with
      state := .released, activeUntil := now }
  | .abandoned =>
    { base with
      state := .conflict, activeUntil := timeMax, sticky := false }
  | .expired | .free | .reset | .backup =>
    { base with
      state := .expired, activeUntil := now, sticky := false }

namespace LeaseRepository

/-- The place of the record at an address. -/
def recordAt (r : LeaseRepository) (scope : AllocationScope) (address : Ipv4) : Option Nat :=
  r.leases.findIdx? fun lease => lease.address == address && sameScope lease.scope scope

/-- The state changes only when the update is applied. Disabled pools count here. -/
def applyPartnerUpdate (r : LeaseRepository) (update : BindingUpdateView)
    (absoluteNow : BitVec 32) (now : Int) : LeaseRepository × PartnerUpdateStatus :=
  match r.pools.filter (fun pool => contains pool update.address) with
  | [] => (r, .unknownAddress)
  | _ :: _ :: _ => (r, .ambiguousAddress)
  | [pool] =>
    match update.startTimeOfState with
    | none => (r, .invalidUpdate)
    | some started =>
      if update.status == .active && (update.leaseExpirationTime.isNone ||
          update.potentialExpirationTime.isNone || update.clientLastTransactionTime.isNone) then
        (r, .invalidUpdate)
      else match updateIdentity update with
        | none => (r, .invalidUpdate)
        | some identity =>
          if (update.status == .active || update.status == .expired ||
              update.status == .released) && identity.1.bytes.isEmpty then (r, .invalidUpdate)
          else match r.recordAt pool.scope update.address with
            | some place =>
              if r.leases[place]?.any (fun lease => lease.failoverManaged &&
                  decide (started ≤ lease.failoverStateStartedAbsolute)) then (r, .duplicate)
              else (r.change place (Lease.learn update identity started absoluteNow now) now,
                .applied)
            | none =>
              if r.leases.length == leasesPerServer then (r, .resourceExhausted)
              else
                let fresh : Lease :=
                  { scope := pool.scope, client := identity.1, address := update.address }
                let grown := { r with leases := r.leases ++ [fresh] }
                (grown.change r.leases.length
                  (Lease.learn update identity started absoluteNow now) now, .applied)

/-- The updates of one message, on a staged copy. -/
def stageUpdates (absoluteNow : BitVec 32) (now : Int) :
    LeaseRepository → PartnerUpdateStatus → List BindingUpdateView →
      Except PartnerUpdateStatus (LeaseRepository × PartnerUpdateStatus)
  | staged, aggregate, [] => .ok (staged, aggregate)
  | staged, aggregate, update :: rest =>
    match staged.applyPartnerUpdate update absoluteNow now with
    | (staged', .applied) => stageUpdates absoluteNow now staged' .applied rest
    | (staged', .duplicate) => stageUpdates absoluteNow now staged' aggregate rest
    | (_, failure) => .error failure

def applyPartnerUpdates (r : LeaseRepository) (updates : List BindingUpdateView)
    (absoluteNow : BitVec 32) (now : Int) : LeaseRepository × PartnerUpdateStatus :=
  if updates.isEmpty || failoverUpdatesInFlight < updates.length then (r, .invalidUpdate)
  else match stageUpdates absoluteNow now r .duplicate updates with
    | .ok result => result
    | .error failure => (r, failure)

end LeaseRepository
end RouterSim.Dhcpv4
