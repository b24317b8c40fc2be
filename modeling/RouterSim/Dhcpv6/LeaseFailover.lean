import RouterSim.Dhcpv6.Lease

/-! Operational clear, and bindings learned from a failover partner. -/
namespace RouterSim.Dhcpv6
open RouterSim.Ip (Ipv6 Ipv6Prefix mask)
open Failover (BindingUpdateView)

/-! ## Operational clear -/

inductive OperationalLeaseState
  | advertised | stable | removePending | held | internal | internalOrphan | internalOffered
  | internalHeld
  deriving DecidableEq

inductive LeaseType
  | pd | slaac | wan
  deriving DecidableEq

structure LeaseClearFilter where
  value : Ipv6 := 0#128
  prefixLength : BitVec 8 := 128#8
  valueSpecific : Bool := false
  state : Option OperationalLeaseState := none
  type : Option LeaseType := none

def stateOf (lease : Lease) : OperationalLeaseState := if lease.declined then .held else .stable

def typeOf (lease : Lease) : LeaseType := if lease.client.kind == .delegated then .pd else .wan

def LeaseClearFilter.selects (filter : LeaseClearFilter) (lease : Lease) : Bool :=
  let selected : Ipv6Prefix :=
    { network := mask filter.value filter.prefixLength.toNat, length := filter.prefixLength }
  lease.occupied &&
    (!filter.valueSpecific || (if filter.prefixLength == 128#8 then lease.value == filter.value
      else Ip.contains selected lease.value)) &&
    filter.state.all (· == stateOf lease) && filter.type.all (· == typeOf lease)

def LeaseRepository.clear (start : LeaseRepository) (filter : LeaseClearFilter) (now : Int) :
    LeaseRepository × Nat :=
  if 128#8 < filter.prefixLength then (start, 0)
  else
    let r := start.expire now
    ({ r with leases := r.leases.map fun lease => if filter.selects lease then {} else lease },
      r.leases.countP filter.selects)

/-! ## Partner updates -/

inductive PartnerUpdateStatus
  | applied | duplicate | unknownValue | ambiguousValue | invalidUpdate | resourceExhausted

def updateDelegated (update : BindingUpdateView) : Bool :=
  update.association == .delegatedPrefix || update.association == .unassociatedPrefix

/-- The pools that hold an update's value, with their places. -/
def LeaseRepository.updatePools (r : LeaseRepository) (update : BindingUpdateView) :
    List (LeasePool × Nat) :=
  let delegated := updateDelegated update
  (if delegated then r.prefixPools else r.addressPools).zipIdx.filter fun row =>
    Ip.contains row.1.aggregate update.value &&
      (!delegated || row.1.delegatedLength == update.prefixLength)

def updateKind (update : BindingUpdateView) : LeaseKind :=
  if updateDelegated update then .delegated
  else if update.association == .temporary then .temporary
  else .nonTemporary

def updateIdentity (update : BindingUpdateView) (pool : LeasePool) : ClientIdentity :=
  { duid := update.clientIdentifier, linkIdentity := pool.linkIdentity, iaid := update.iaid,
    kind := updateKind update }

/-- Saturating sum of absolute seconds. -/
def absoluteAfter (base lifetime : BitVec 32) : BitVec 32 :=
  if BitVec.allOnes 32 - lifetime < base then BitVec.allOnes 32 else base + lifetime

def localDeadline (absoluteNow : BitVec 32) (now : Int) (absolute : BitVec 32) : Int :=
  if absolute ≤ absoluteNow then now else now + (absolute - absoluteNow).toNat * second

def lastTransaction (absoluteNow : BitVec 32) (now : Int) (absolute : Option (BitVec 32)) : Int :=
  match absolute with
  | some time => if time ≤ absoluteNow then now - (absoluteNow - time).toNat * second else now
  | none => now

/-- The record an active or abandoned binding is written as. -/
def learnedLease (update : BindingUpdateView) (pool : LeasePool) (poolIndex : Nat)
    (absoluteNow : BitVec 32) (now : Int) : Lease :=
  let active := update.status == .active
  { client := updateIdentity update pool, value := update.value,
    preferredUntil := if active then localDeadline absoluteNow now
      (absoluteAfter update.baseTime update.preferredLifetime) else 0
    validUntil := if active then localDeadline absoluteNow now
      (update.expirationTime.getD (absoluteAfter update.baseTime update.validLifetime)) else 0
    declinedUntil := if active then 0 else timeMax
    lastClientTransaction := lastTransaction absoluteNow now update.clientLastTransactionTime
    poolIndex := poolIndex, prefixLength := update.prefixLength, occupied := true,
    declined := !active }

namespace LeaseRepository

/-- The slot whose record has the update's value and length, of whatever kind. -/
def recordOf (r : LeaseRepository) (update : BindingUpdateView) : Option Nat :=
  r.leases.findIdx? fun lease => lease.occupied && lease.value == update.value &&
    lease.prefixLength == update.prefixLength

/-- The cursor of the update's value. -/
def cursorOf (r : LeaseRepository) (update : BindingUpdateView) : Option Nat :=
  r.failoverBindings.findIdx? fun binding => binding.occupied && binding.value == update.value &&
    binding.prefixLength == update.prefixLength && binding.association == update.association

/-- The leases after an update: an active or abandoned binding is written over the record
of its value, or into a free slot; any other removes that record. -/
def learn (r : LeaseRepository) (update : BindingUpdateView) (pool : LeasePool) (poolIndex : Nat)
    (absoluteNow : BitVec 32) (now : Int) : Except PartnerUpdateStatus (List Lease) :=
  let identity := updateIdentity update pool
  let active := update.status == .active
  let lease := learnedLease update pool poolIndex absoluteNow now
  if active || update.status == .abandoned then
    match (r.recordOf update).or r.available with
    | none => .error .resourceExhausted
    | some slot =>
      if validClient identity then .ok (r.leases.set slot lease) else .error .invalidUpdate
  else match r.recordOf update with
    | some slot => .ok (r.leases.set slot {})
    | none => .ok r.leases

/-- One update of a message; `none` when it is older than what is known. -/
def applyPartnerUpdate (r : LeaseRepository) (update : BindingUpdateView)
    (absoluteNow : BitVec 32) (now : Int) : Except PartnerUpdateStatus (Option LeaseRepository) :=
  if (updateDelegated update && decide (128#8 < update.prefixLength)) ||
      (!updateDelegated update && update.prefixLength != 128#8) ||
      update.startTimeOfState == 0#32 then .error .invalidUpdate
  else match r.updatePools update with
    | [] => .error .unknownValue
    | _ :: _ :: _ => .error .ambiguousValue
    | [(pool, poolIndex)] =>
      let cursor := r.cursorOf update
      if (cursor.bind (r.failoverBindings[·]?)).any fun binding =>
          decide (update.startTimeOfState ≤ binding.stateStartedAbsolute) then .ok none
      else match cursor.or (r.failoverBindings.findIdx? fun binding => !binding.occupied) with
        | none => .error .resourceExhausted
        | some place =>
          if maximumDuidOctets < update.clientIdentifier.length ||
              (update.status == .active && !validClient (updateIdentity update pool)) then
            .error .invalidUpdate
          else match r.learn update pool poolIndex absoluteNow now with
            | .error failure => .error failure
            | .ok leases =>
              .ok (some { r with
                leases := leases, failoverBindings := r.failoverBindings.set place
                  { value := update.value, association := update.association,
                    status := update.status, stateStartedAbsolute := update.startTimeOfState,
                    prefixLength := update.prefixLength, occupied := true } })

/-- The updates of one message on a staged copy, and whether any changed it. -/
def stageUpdates (absoluteNow : BitVec 32) (now : Int) : LeaseRepository → Bool →
    List BindingUpdateView → Except PartnerUpdateStatus (LeaseRepository × Bool)
  | staged, changed, [] => .ok (staged, changed)
  | staged, changed, update :: rest =>
    match staged.applyPartnerUpdate update absoluteNow now with
    | .error failure => .error failure
    | .ok none => stageUpdates absoluteNow now staged changed rest
    | .ok (some next) => stageUpdates absoluteNow now next true rest

def applyPartnerUpdates (r : LeaseRepository) (updates : List BindingUpdateView)
    (absoluteNow : BitVec 32) (now : Int) : LeaseRepository × PartnerUpdateStatus :=
  if updates.isEmpty || failoverUpdatesInFlight < updates.length then (r, .invalidUpdate)
  else match stageUpdates absoluteNow now r false updates with
    | .ok (staged, true) => (staged, .applied)
    | .ok (_, false) => (r, .duplicate)
    | .error failure => (r, failure)

end LeaseRepository
end RouterSim.Dhcpv6
