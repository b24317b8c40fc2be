import RouterSim.Ospf.AreaCoordinator
import RouterSim.Ospf.Flooding
import RouterSim.Ospf.LsaBuilder
import RouterSim.Ip.Packet

/-! The advertisements the area coordinator asks a process for, and the LSAs the process makes of
them: their link state ids, their sequence numbers, and how they are withdrawn. -/
namespace RouterSim.Ospf

abbrev initialSequenceNumber : BitVec 32 := 0x80000001#32
abbrev maximumSequenceNumber : BitVec 32 := 0x7fffffff#32

/-- `external_advertisement` of the source. -/
def CoordinatorAdvertisementKind.external : CoordinatorAdvertisementKind → Bool
  | .translatedExternal => true
  | .nssaExternal => true
  | _ => false

def coordinatorType : Version → CoordinatorAdvertisementKind → BitVec 16
  | .two, .interAreaPrefix => 3#16
  | .two, .interAreaRouter => 4#16
  | .two, .nssaExternal => 7#16
  | .two, .translatedExternal => 5#16
  | .three, .interAreaPrefix => 0x2003#16
  | .three, .interAreaRouter => 0x2004#16
  | .three, .nssaExternal => 0x2007#16
  | .three, .translatedExternal => 0x4005#16

def coordinatorScope (kind : CoordinatorAdvertisementKind) : FloodingScope :=
  if kind = .translatedExternal then .autonomousSystem else .area

structure CoordinatorLsaState where
  advertisement : CoordinatorAdvertisement
  key : LsaKey
  sequence : BitVec 32 := initialSequenceNumber
  withdrawing : Bool := false
  sequenceAtMax : Bool := false
  sequenceWrapPending : Bool := false

structure CoordinatorProcess extends InstanceProcess where
  coordinatorLsas : List CoordinatorLsaState := []
  /-- What the coordinator asked for last. -/
  pendingAdvertisements : List CoordinatorAdvertisement := []
  reconcilePending : Bool := false
  nextLinkStateId : BitVec 32 := 1#32

/-- The first four octets of the network. -/
def CoordinatorAdvertisement.networkId (a : CoordinatorAdvertisement) : BitVec 32 :=
  (a.ipPrefix.network.bytes >>> 96).setWidth 32

/-- Version two says what the link state id of each kind is. -/
def CoordinatorAdvertisement.versionTwoId (a : CoordinatorAdvertisement) : BitVec 32 :=
  if a.kind = .interAreaRouter then a.destinationRouterId else a.networkId

/-- An external route that was translated keeps the link state id it had. -/
def CoordinatorAdvertisement.hasSource (a : CoordinatorAdvertisement) : Bool :=
  a.kind.external && a.sourceLinkStateId != 0#32

section Encode

def versionTwoMask (length : BitVec 8) : BitVec 32 :=
  if length = 0#8 then 0#32 else 0xffffffff#32 <<< (32 - length.toNat)

def coordinatorHeader (inst : Instance) (state : CoordinatorLsaState) (age : BitVec 16) :
    OriginationHeader where
  linkStateId := state.key.linkStateId
  advertisingRouter := inst.routerId
  sequenceNumber := state.sequence
  ageSeconds := age
  type := coordinatorType inst.version state.advertisement.kind
  options :=
    if inst.version = .two then
      if state.advertisement.kind = .nssaExternal then 0x08#32 else 0x02#32
    else 0#32
  version := inst.version

def coordinatorPrefix (a : CoordinatorAdvertisement) : PrefixInput where
  network := a.ipPrefix.network.bytes
  length := a.ipPrefix.length
  options := if a.kind = .nssaExternal then 0x08#8 else 0#8

/-- The forwarding address of a version three external route, if it has one. -/
def coordinatorForwarding (a : CoordinatorAdvertisement) : List (BitVec 8) :=
  if a.forwardingAddressV6 = 0#128 then []
  else (Octets.octets128 a.forwardingAddressV6).take (if a.ipv4ForwardingAddress then 4 else 16)

def encodeCoordinatorLsa (inst : Instance) (state : CoordinatorLsaState) (age : BitVec 16) :
    Option (List (BitVec 8)) :=
  let a := state.advertisement
  let header := coordinatorHeader inst state age
  match inst.version with
  | .two =>
    let mask := versionTwoMask a.ipPrefix.length
    if a.kind.external then
      encodeVersionTwoExternalLsa Ip.maximumFrameOctets header mask a.metric a.typeTwo
        a.forwardingAddressV4 a.tag
    else
      encodeVersionTwoSummaryLsa Ip.maximumFrameOctets header
        (if a.kind = .interAreaRouter then 0#32 else mask) a.metric
  | .three =>
    match a.kind with
    | .interAreaPrefix =>
      encodeVersionThreeInterAreaPrefixLsa Ip.maximumFrameOctets header a.metric
        (coordinatorPrefix a)
    | .interAreaRouter =>
      encodeVersionThreeInterAreaRouterLsa Ip.maximumFrameOctets header 0#32 a.metric
        a.destinationRouterId
    | _ =>
      encodeVersionThreeExternalLsa Ip.maximumFrameOctets header a.metric a.typeTwo
        (coordinatorPrefix a) (coordinatorForwarding a) (some a.tag) 0#16 none

end Encode

namespace CoordinatorProcess

/-- The link state id of a new advertisement. Zero is no id. -/
def allocateLinkStateId (process : CoordinatorProcess) (a : CoordinatorAdvertisement) :
    BitVec 32 × CoordinatorProcess :=
  match process.version with
  | .two => (a.versionTwoId, process)
  | .three =>
    if a.hasSource then (a.sourceLinkStateId, process)
    else
      let candidate := process.nextLinkStateId
      if candidate = 0#32 then (1#32, { process with nextLinkStateId := 2#32 })
      else (candidate, { process with nextLinkStateId := candidate + 1#32 })

def keyFor (process : CoordinatorProcess) (kind : CoordinatorAdvertisementKind)
    (linkStateId : BitVec 32) : LsaKey where
  linkStateId := linkStateId
  advertisingRouter := process.routerId
  type := coordinatorType process.version kind
  scope := coordinatorScope kind

/-- Install the LSA of a state and flood it. -/
def publish (process : CoordinatorProcess) (state : CoordinatorLsaState) (age : BitVec 16)
    (now : Time) : Bool × CoordinatorProcess :=
  match encodeCoordinatorLsa process.toInstance state age with
  | none => (false, process)
  | some bytes =>
    let stored := storeLocal process.toInstanceProcess bytes now
    if !stored.1 then (false, { process with toInstanceProcess := stored.2 })
    else
      let flooded := floodKey stored.2 state.key none now
      (flooded.1, { process with toInstanceProcess := flooded.2 })

def setState (process : CoordinatorProcess) (index : Nat) (state : CoordinatorLsaState) :
    CoordinatorProcess :=
  { process with coordinatorLsas := process.coordinatorLsas.set index state }

/-- A state for an advertisement that has none. -/
def create (process : CoordinatorProcess) (a : CoordinatorAdvertisement) :
    CoordinatorLsaState × CoordinatorProcess :=
  let allocated := process.allocateLinkStateId a
  let created : CoordinatorLsaState :=
    { advertisement := a, key := process.keyFor a.kind allocated.1 }
  (created, { allocated.2 with coordinatorLsas := process.coordinatorLsas ++ [created] })

end CoordinatorProcess

/-- Whether it succeeded, and whether a sequence number has to wrap first. -/
structure Desired where
  ok : Bool
  wrap : Bool := false
  process : CoordinatorProcess

namespace CoordinatorProcess

def find (process : CoordinatorProcess) (a : CoordinatorAdvertisement) : Option Nat :=
  process.coordinatorLsas.findIdx? (·.advertisement.key == a.key)

/-- Add an advertisement, or replace what is advertised for it. -/
def desire (process : CoordinatorProcess) (a : CoordinatorAdvertisement) (now : Time) : Desired :=
  match process.find a with
  | none =>
    if process.coordinatorLsas.length = process.maximumLsas then { ok := false, process }
    else
      let created := process.create a
      let published := created.2.publish created.1 0#16 now
      { ok := published.1, process := published.2 }
  | some index =>
    match process.coordinatorLsas[index]? with
    | none => { ok := false, process }
    | some state =>
      if state.advertisement = a ∧ state.withdrawing = false then { ok := true, process }
      else
        let wanted := { state with advertisement := a, withdrawing := false }
        if state.sequence = maximumSequenceNumber then
          { ok := true, wrap := true,
            process := process.setState index { wanted with sequenceAtMax := true } }
        else
          let next := { wanted with sequence := state.sequence + 1#32 }
          let published := (process.setState index next).publish next 0#16 now
          { ok := published.1, process := published.2 }

/-- The advertisements in order, up to the first that fails. -/
def desireAll (now : Time) : List CoordinatorAdvertisement → CoordinatorProcess → Desired
  | [], process => { ok := true, process }
  | a :: rest, process =>
    let done := process.desire a now
    if !done.ok then done
    else
      let others := desireAll now rest done.process
      { others with wrap := done.wrap || others.wrap }

/-- Flood a state at the maximum age. -/
def flush (process : CoordinatorProcess) (index : Nat) (state : CoordinatorLsaState)
    (now : Time) : Bool × CoordinatorProcess :=
  let published := (process.setState index state).publish state maxAgeSeconds now
  if !published.1 then published
  else
    let marked := published.2.database.markMaxAgeFlooded state.key
    (marked.1, { published.2 with database := marked.2 })

/-- Withdraw a state that is no longer desired. -/
def withdraw (process : CoordinatorProcess) (index : Nat) (state : CoordinatorLsaState)
    (now : Time) : Bool × CoordinatorProcess :=
  if process.pendingAdvertisements.any (state.advertisement.key == ·.key) || state.withdrawing then
    (true, process)
  else
    let sequence := if state.sequence = maximumSequenceNumber then state.sequence
      else state.sequence + 1#32
    process.flush index { state with sequence, withdrawing := true } now

/-- The states from an index on. -/
def withdrawFrom (now : Time) : Nat → Nat → CoordinatorProcess → Bool × CoordinatorProcess
  | 0, _, process => (true, process)
  | steps + 1, index, process =>
    match process.coordinatorLsas[index]? with
    | none => (true, process)
    | some state =>
      let done := process.withdraw index state now
      if !done.1 then done else withdrawFrom now steps (index + 1) done.2

def applyAdvertisements (process : CoordinatorProcess) (now : Time) : Bool × CoordinatorProcess :=
  if !process.reconcilePending then (true, process)
  else
    let desired := desireAll now process.pendingAdvertisements process
    if !desired.ok then (false, desired.process)
    else
      let withdrawn := withdrawFrom now desired.process.coordinatorLsas.length 0 desired.process
      if !withdrawn.1 then withdrawn
      else (true, { withdrawn.2 with reconcilePending := desired.wrap })

/-- What is asked for has a metric and a prefix that can be written. -/
def writable (a : CoordinatorAdvertisement) : Bool :=
  !decide (0x00ffffff#32 < a.metric) &&
    !decide (a.ipPrefix.network.family.bits < a.ipPrefix.length.toNat)

def reconcile (process : CoordinatorProcess) (advertisements : List CoordinatorAdvertisement) :
    Bool × CoordinatorProcess :=
  if !advertisements.all writable then (false, process)
  else if advertisements = process.pendingAdvertisements ∧ process.reconcilePending = true then
    (true, process)
  else (true, { process with pendingAdvertisements := advertisements, reconcilePending := true })

/-- `set_self_sequence` for an LSA of the coordinator. Only a wrap that is complete starts over. -/
def setSelfSequence (process : CoordinatorProcess) (key : LsaKey) (sequence : BitVec 32)
    (wrapPending : Bool) : CoordinatorProcess :=
  match process.coordinatorLsas.findIdx? (·.key == key) with
  | none => process
  | some index =>
    { process with
      coordinatorLsas := process.coordinatorLsas.modify index fun state =>
        { state with
          sequence :=
            if state.sequenceWrapPending = true ∧ wrapPending = false then sequence
            else if state.sequence.toInt < sequence.toInt then sequence
            else state.sequence
          sequenceAtMax := false, sequenceWrapPending := wrapPending } }

/-- The record of a key was removed: a state that was withdrawn goes with it. -/
def forget (process : CoordinatorProcess) (key : LsaKey) : CoordinatorProcess :=
  match process.coordinatorLsas.findIdx? (·.key == key) with
  | none => process
  | some index =>
    if process.coordinatorLsas[index]?.any fun state =>
        state.withdrawing && !state.sequenceWrapPending then
      { process with coordinatorLsas := process.coordinatorLsas.eraseIdx index }
    else process

end CoordinatorProcess

end RouterSim.Ospf
