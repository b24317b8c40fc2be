import RouterSim.Ipsec.Sad
import RouterSim.Lib.Octets

/-! Inbound ESP: the lookup, the replay check, the engine, and only then the window, the
selectors and the lifetime. -/
namespace RouterSim.Ipsec

section Lifetime

inductive LifetimeUseStatus
  | accepted | acceptedSoftLimit | acceptedHardLimit | hardExpired | counterOverflow
  | clockReversed
  deriving DecidableEq

structure LifetimeReservation where
  bytes : BitVec 64 := 0#64
  packets : BitVec 64 := 1#64
  status : LifetimeUseStatus := .hardExpired

def reached (value threshold : BitVec 64) : Bool := threshold != 0#64 && decide (threshold ≤ value)

def reachedAge (age : Int) (seconds : Int) : Bool :=
  seconds != 0 && decide (seconds * 1000000000 ≤ age)

def assessStatus (association : SecurityAssociation) (bytes : BitVec 64) (now : Time) :
    LifetimeUseStatus :=
  if now < association.createdAt then .clockReversed
  else if 0xffffffffffffffff#64 - bytes < association.counters.bytes ∨
      association.counters.packets = 0xffffffffffffffff#64 then .counterOverflow
  else
    let newBytes := association.counters.bytes + bytes
    let newPackets := association.counters.packets + 1#64
    let age := now - association.createdAt
    let limits := association.lifetime
    if reached association.counters.bytes limits.hardBytes ||
        reached association.counters.packets limits.hardPackets ||
        reachedAge age limits.hardTime then .hardExpired
    else if reached newBytes limits.hardBytes || reached newPackets limits.hardPackets then
      .acceptedHardLimit
    else if reached newBytes limits.softBytes || reached newPackets limits.softPackets ||
        reachedAge age limits.softTime then .acceptedSoftLimit
    else .accepted

def assessSaUse (association : SecurityAssociation) (bytes : BitVec 64) (now : Time) :
    LifetimeReservation :=
  { bytes, packets := 1#64, status := assessStatus association bytes now }

def accepted (status : LifetimeUseStatus) : Bool :=
  status == .accepted || status == .acceptedSoftLimit || status == .acceptedHardLimit

def commitSaUse (association : SecurityAssociation) (reservation : LifetimeReservation) :
    SecurityAssociation :=
  if accepted reservation.status then
    { association with counters := { association.counters with
        bytes := association.counters.bytes + reservation.bytes
        packets := association.counters.packets + reservation.packets } }
  else association

end Lifetime

/-- What the engine may report. -/
inductive GcmStatus
  | ok | invalidArgument | outputTooSmall | authenticationFailed | invalidPadding
  | providerFailure
  deriving DecidableEq

structure UnprotectResult where
  status : GcmStatus := .invalidArgument
  plaintext : List (BitVec 8) := []
  nextHeader : BitVec 8 := 0#8

/-- The engine of one key: from the sequence number, whether it is extended, the packet and the
room for the plaintext. -/
abbrev Engine := BitVec 64 → Bool → List (BitVec 8) → Nat → UnprotectResult

structure EspProcessorDependencies where
  findEngine : BitVec 64 → Option Engine
  validateInboundSelector : BitVec 32 → BitVec 8 → List (BitVec 8) → Bool

inductive EspProcessStatus
  | ok | invalidArgument | unknownSa | wrongSaDirection | replayRejected | lifetimeExpired
  | sequenceExhausted | outputTooSmall | cryptoFailure | authenticationFailed | selectorMismatch
  deriving DecidableEq

/-- The plaintext is what is left of it in the output. -/
structure EspUnprotectResult where
  status : EspProcessStatus := .invalidArgument
  plaintext : List (BitVec 8) := []
  nextHeader : BitVec 8 := 0#8
  softLifetimeReached : Bool := false
  hardLifetimeReached : Bool := false

def mapCrypto : GcmStatus → EspProcessStatus
  | .outputTooSmall => .outputTooSmall
  | .authenticationFailed | .invalidPadding => .authenticationFailed
  | .ok | .invalidArgument | .providerFailure => .cryptoFailure

/-- The counter stays at its maximum. -/
def incrementDrop (counter : BitVec 64) : BitVec 64 :=
  if counter ≠ 0xffffffffffffffff#64 then counter + 1#64 else counter

structure EspView where
  spi : BitVec 32
  sequenceLow : BitVec 32

def parseEsp (packet : List (BitVec 8)) : Option EspView :=
  if packet.length < 8 then none
  else if Octets.read32 packet 0 = 0#32 then none
  else some { spi := Octets.read32 packet 0, sequenceLow := Octets.read32 packet 4 }

namespace SecurityAssociation

def countReplayDrop (a : SecurityAssociation) : SecurityAssociation :=
  { a with counters := { a.counters with replayDrops := incrementDrop a.counters.replayDrops } }

def countIntegrityDrop (a : SecurityAssociation) : SecurityAssociation :=
  { a with counters :=
      { a.counters with integrityDrops := incrementDrop a.counters.integrityDrops } }

def countSelectorDrop (a : SecurityAssociation) : SecurityAssociation :=
  { a with counters :=
      { a.counters with selectorDrops := incrementDrop a.counters.selectorDrops } }

/-- The association with the window after a commit. -/
def commitReplay (a : SecurityAssociation) (sequence : BitVec 64) : SecurityAssociation :=
  { a with
    replay := (a.replay.commit sequence).1, oneWord := by
      rw [ReplayWindow.commit_width]
      exact a.oneWord }

end SecurityAssociation

structure EspCall where
  outerDestination : Address
  outerSource : Address
  packet : List (BitVec 8)
  now : Time
  room : Nat

section Unprotect

variable (dependencies : EspProcessorDependencies)

/-- The packet is authentic: the window, the selectors and the lifetime decide. -/
def deliver (association : SecurityAssociation) (sequence : BitVec 64)
    (opened : UnprotectResult) (now : Time) : SecurityAssociation × EspUnprotectResult :=
  if !(association.replay.commit sequence).2 then (association, { status := .replayRejected })
  else
    let association := association.commitReplay sequence
    if !dependencies.validateInboundSelector association.policyId opened.nextHeader
        opened.plaintext then
      (association.countSelectorDrop, { status := .selectorMismatch })
    else
      let lifetime := assessSaUse association (BitVec.ofNat 64 opened.plaintext.length) now
      if !accepted lifetime.status then (association, { status := .lifetimeExpired })
      else
        (commitSaUse association lifetime,
          { status := .ok, plaintext := opened.plaintext, nextHeader := opened.nextHeader,
            softLifetimeReached := lifetime.status == .acceptedSoftLimit
            hardLifetimeReached := lifetime.status == .acceptedHardLimit })

/-- What becomes of a packet for this association. -/
def unprotectWith (association : SecurityAssociation) (sequenceLow : BitVec 32) (call : EspCall) :
    SecurityAssociation × EspUnprotectResult :=
  let replay := association.replay.check sequenceLow
  if replay.status ≠ .admissible then (association.countReplayDrop, { status := .replayRejected })
  else
    match dependencies.findEngine association.cryptoMaterialHandle with
    | none => (association, { status := .cryptoFailure })
    | some engine =>
      let opened := engine replay.sequence association.replay.extended call.packet call.room
      if opened.status ≠ .ok then
        (if opened.status = .authenticationFailed ∨ opened.status = .invalidPadding then
            association.countIntegrityDrop
          else association, { status := mapCrypto opened.status })
      else deliver dependencies association replay.sequence opened call.now

def unprotectEsp (sad : Sad) (call : EspCall) : Sad × EspUnprotectResult :=
  match parseEsp call.packet with
  | none => (sad, { status := .invalidArgument })
  | some view =>
    match sad.findInbound .esp view.spi call.outerDestination call.outerSource with
    | none => (sad, { status := .unknownSa })
    | some index =>
      match sad.entries[index]? with
      | none => (sad, { status := .unknownSa })
      | some association =>
        let done := unprotectWith dependencies association view.sequenceLow call
        ({ sad with entries := sad.entries.set index done.1 }, done.2)

end Unprotect

end RouterSim.Ipsec
