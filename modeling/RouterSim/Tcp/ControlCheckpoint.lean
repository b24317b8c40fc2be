import RouterSim.Tcp.Checkpoint
import RouterSim.Tcp.ControlRuns

/-! Images of a control block. A deadline is kept as the time it still has to
run, and an image is taken over only if it shows one for each armed timer. -/
namespace RouterSim.Tcp

/-! ## The image and its check -/

namespace TcpState

/-- The value of the source's enumeration. -/
def octet : TcpState → BitVec 8
  | .closed => 0#8
  | .listen => 1#8
  | .synSent => 2#8
  | .synReceived => 3#8
  | .established => 4#8
  | .finWait1 => 5#8
  | .finWait2 => 6#8
  | .closeWait => 7#8
  | .closing => 8#8
  | .lastAck => 9#8
  | .timeWait => 10#8

/-- The state an octet up to TIME-WAIT names. -/
def ofOctet (value : BitVec 8) : TcpState :=
  match value.toNat with
  | 0 => .closed
  | 1 => .listen
  | 2 => .synSent
  | 3 => .synReceived
  | 4 => .established
  | 5 => .finWait1
  | 6 => .finWait2
  | 7 => .closeWait
  | 8 => .closing
  | 9 => .lastAck
  | _ => .timeWait

@[simp] theorem ofOctet_octet (state : TcpState) : ofOctet state.octet = state := by
  cases state <;> rfl

theorem octet_le (state : TcpState) : state.octet ≤ TcpState.timeWait.octet := by
  cases state <;> decide

@[simp] theorem octet_inj (a b : TcpState) : a.octet = b.octet ↔ a = b := by
  constructor
  · intro same
    rw [← ofOctet_octet a, same, ofOctet_octet]
  · rintro rfl
    rfl

end TcpState

namespace RetransmissionEstimator

def checkpoint (e : RetransmissionEstimator) : RetransmissionCheckpoint where
  smoothedRttNanoseconds := BitVec.ofInt 64 e.smoothedRtt
  rttVariationNanoseconds := BitVec.ofInt 64 e.rttVariation
  timeoutNanoseconds := BitVec.ofInt 64 e.timeout
  measurementPresent := e.measurementPresent
  synRetransmitted := e.synRetransmitted

def validateCheckpoint (state : RetransmissionCheckpoint) : Bool :=
  if decide (state.timeoutNanoseconds.toInt < Catalog.rtoMinimum) ||
      decide (Catalog.rtoMaximum < state.timeoutNanoseconds.toInt) ||
      decide (state.smoothedRttNanoseconds.toInt < 0) ||
      decide (state.rttVariationNanoseconds.toInt < 0) then false
  else
    state.measurementPresent ||
      (state.smoothedRttNanoseconds == 0#64 && state.rttVariationNanoseconds == 0#64)

def restore (e : RetransmissionEstimator) (state : RetransmissionCheckpoint) :
    RetransmissionEstimator × Bool :=
  if !validateCheckpoint state then (e, false)
  else
    ({ smoothedRtt := state.smoothedRttNanoseconds.toInt
       rttVariation := state.rttVariationNanoseconds.toInt
       timeout := state.timeoutNanoseconds.toInt, measurementPresent := state.measurementPresent,
       synRetransmitted := state.synRetransmitted },
      true)

end RetransmissionEstimator

namespace CongestionController

def checkpoint (c : CongestionController) : CongestionCheckpoint where
  senderMss := c.senderMss
  congestionWindow := c.congestionWindow
  slowStartThreshold := c.slowStartThreshold
  duplicateAcknowledgments := c.duplicateAcknowledgments
  recoveryInflationLimit := c.recoveryInflationLimit
  fastRecovery := c.fastRecovery
  sackRecovery := c.sackRecovery

def validateCheckpoint (state : CongestionCheckpoint) : Bool :=
  if state.senderMss == 0#32 || state.congestionWindow == 0#32 ||
      state.slowStartThreshold == 0#32 then false
  else if !state.fastRecovery && (decide (3#32 ≤ state.duplicateAcknowledgments) ||
      state.recoveryInflationLimit != 0#32) then false
  else if state.sackRecovery && (!state.fastRecovery || state.recoveryInflationLimit != 0#32) then
    false
  else !state.fastRecovery || state.sackRecovery || decide (3#32 ≤ state.duplicateAcknowledgments)

def restore (c : CongestionController) (state : CongestionCheckpoint) :
    CongestionController × Bool :=
  if !validateCheckpoint state then (c, false)
  else
    ({ senderMss := state.senderMss, congestionWindow := state.congestionWindow,
       slowStartThreshold := state.slowStartThreshold
       duplicateAcknowledgments := state.duplicateAcknowledgments
       recoveryInflationLimit := state.recoveryInflationLimit, fastRecovery := state.fastRecovery,
       sackRecovery := state.sackRecovery },
      true)

end CongestionController

theorem toInt_ofInt {x : Int} (low : 0 ≤ x) (high : x < 0x8000000000000000) :
    (BitVec.ofInt 64 x).toInt = x := by
  rw [BitVec.toInt_ofInt]
  exact Int.bmod_eq_of_le (by omega) (by omega)

/-- A timeout between the minimum and the maximum, one second and one minute. -/
def Bounded (timeout : Int) : Prop := 1000000000 ≤ timeout ∧ timeout ≤ 60000000000

theorem Bounded.doubled {timeout : Int} (bounded : Bounded timeout) :
    Bounded (if 30000000000 ≤ timeout then 60000000000 else timeout * 2) := by
  unfold Bounded at bounded ⊢
  split <;> omega

theorem Bounded.raised {timeout : Int} (bounded : Bounded timeout) :
    Bounded (max timeout 3000000000) := by
  unfold Bounded at bounded ⊢
  omega

theorem Bounded.toInt_ofInt {timeout : Int} (bounded : Bounded timeout) :
    (BitVec.ofInt 64 timeout).toInt = timeout := by
  unfold Bounded at bounded
  exact Tcp.toInt_ofInt (by omega) (by omega)

/-- The estimator of a connection without data never takes a sample. -/
structure RetransmissionEstimator.Unsampled (e : RetransmissionEstimator) : Prop where
  absent : e.measurementPresent = false
  smoothed : e.smoothedRtt = 0
  variation : e.rttVariation = 0
  bounded : Bounded e.timeout

namespace RetransmissionEstimator.Unsampled

variable {e : RetransmissionEstimator}

theorem fresh : ({} : RetransmissionEstimator).Unsampled :=
  ⟨rfl, rfl, rfl, by decide, by decide⟩

theorem onTimeout (unsampled : e.Unsampled) (waitingForSyn : Bool) :
    (e.onTimeout waitingForSyn).Unsampled :=
  ⟨unsampled.absent, unsampled.smoothed, unsampled.variation, unsampled.bounded.doubled⟩

theorem onHandshakeComplete (unsampled : e.Unsampled) : e.onHandshakeComplete.Unsampled := by
  refine ⟨unsampled.absent, unsampled.smoothed, unsampled.variation, ?_⟩
  unfold RetransmissionEstimator.onHandshakeComplete
  split
  · exact unsampled.bounded.raised
  · exact unsampled.bounded

theorem restore_checkpoint (unsampled : e.Unsampled) (other : RetransmissionEstimator) :
    validateCheckpoint e.checkpoint = true ∧ other.restore e.checkpoint = (e, true) := by
  obtain ⟨absent, smoothed, variation, bounded⟩ := unsampled
  have timeout : (BitVec.ofInt 64 e.timeout).toInt = e.timeout := bounded.toInt_ofInt
  obtain ⟨floor, ceiling⟩ := bounded
  have valid : validateCheckpoint e.checkpoint = true := by
    simp [validateCheckpoint, checkpoint, timeout, smoothed, variation,
      Int.not_lt.mpr floor, Int.not_lt.mpr ceiling]
  refine ⟨valid, ?_⟩
  rw [restore, valid]
  simp only [checkpoint]
  cases e
  simp_all

end RetransmissionEstimator.Unsampled

namespace CongestionController

theorem saturatingMultiply_ne_zero {value factor : BitVec 32} (hv : value ≠ 0#32)
    (hf : factor ≠ 0#32) : saturatingMultiply value factor ≠ 0#32 := by
  unfold saturatingMultiply
  split
  · decide
  next fits =>
  have fits : factor.toNat ≤ 0xffffffff / value.toNat := by
    have fits : factor ≤ 0xffffffff#32 / value := by simpa [hv] using fits
    simpa [BitVec.le_def] using fits
  have bound : factor.toNat * value.toNat ≤ 0xffffffff := Nat.mul_le_of_le_div _ _ _ fits
  have positive : 0 < value.toNat * factor.toNat :=
    Nat.mul_pos (by bv_omega) (by bv_omega)
  have product : (value * factor).toNat = value.toNat * factor.toNat := by
    rw [BitVec.toNat_mul, Nat.mod_eq_of_lt]
    rw [Nat.mul_comm]
    omega
  intro zero
  rw [zero, BitVec.toNat_ofNat, Nat.zero_mod] at product
  omega

theorem initialWindow_ne_zero {senderMss : BitVec 32} (present : senderMss ≠ 0#32) :
    initialWindow senderMss ≠ 0#32 := by
  unfold initialWindow
  rw [if_neg (by simpa using present)]
  split
  · exact saturatingMultiply_ne_zero present (by decide)
  split
  · exact saturatingMultiply_ne_zero present (by decide)
  · exact saturatingMultiply_ne_zero present (by decide)

/-- A controller as constructed: its image is valid and brings it back. -/
theorem restore_checkpoint_create (senderMss : BitVec 32) (other : CongestionController) :
    validateCheckpoint (create senderMss).checkpoint = true ∧
      other.restore (create senderMss).checkpoint = (create senderMss, true) := by
  have present : maximum senderMss 1#32 ≠ 0#32 := by
    unfold maximum
    split <;> bv_omega
  have valid : validateCheckpoint (create senderMss).checkpoint = true := by
    simp [validateCheckpoint, checkpoint, create, present, initialWindow_ne_zero present]
  refine ⟨valid, ?_⟩
  rw [restore, valid]
  rfl

end CongestionController

/-- The time a call is made at, where the call is given one. -/
def ControlCall.time : ControlCall → Option Instant
  | .activeOpen _ now | .onSegment _ _ now _ | .commitReceivedData _ _ _ now | .close now
  | .serviceDeadline now => some now
  | .passiveOpen | .commitSentData .. | .setReceiveWindow _ => none

namespace ControlBlock

/-- What a timer still has to run. A deadline that has passed leaves nothing. -/
def remaining (now : Instant) (active : Bool) (deadline : Instant) : BitVec 64 :=
  if active && decide (now < deadline) then BitVec.ofInt 64 (deadline - now) else 0#64

def checkpoint (c : ControlBlock) (now : Instant) : ControlBlockCheckpoint where
  retransmission := c.retransmission.checkpoint
  congestion := c.congestion.checkpoint
  outstandingControl := c.outstandingControl
  retransmissionRemainingNanoseconds :=
    remaining now c.outstandingControlPresent c.retransmissionDeadline
  timeWaitRemainingNanoseconds := remaining now (c.state == .timeWait) c.timeWaitDeadline
  sendUnacknowledged := c.sendUnacknowledged
  sendNext := c.sendNext
  sendWindow := c.sendWindow
  sendWindowSequence := c.sendWindowSequence
  sendWindowAcknowledgment := c.sendWindowAcknowledgment
  receiveNext := c.receiveNext
  receiveWindow := c.receiveWindow
  initialSendSequence := c.initialSendSequence
  initialReceiveSequence := c.initialReceiveSequence
  localPort := c.localPort
  remotePort := c.remotePort
  state := c.state.octet
  passiveOpen := c.passiveOpened
  outstandingControlPresent := c.outstandingControlPresent
  localFinSent := c.localFinSent

def validateCheckpoint (value : ControlBlockCheckpoint) : Bool :=
  if !RetransmissionEstimator.validateCheckpoint value.retransmission ||
      !CongestionController.validateCheckpoint value.congestion ||
      value.localPort == 0#16 || decide (TcpState.timeWait.octet < value.state) then false
  else if value.outstandingControlPresent !=
      decide (0 < value.retransmissionRemainingNanoseconds.toInt) then false
  else if (value.state == TcpState.timeWait.octet) !=
      decide (0 < value.timeWaitRemainingNanoseconds.toInt) then false
  else if value.state == TcpState.listen.octet && value.remotePort != 0#16 then false
  else
    value.state == TcpState.closed.octet || value.state == TcpState.listen.octet ||
      value.remotePort != 0#16

def restore (c : ControlBlock) (value : ControlBlockCheckpoint) (now : Instant) :
    ControlBlock × Bool :=
  if !validateCheckpoint value then (c, false)
  else
    match c.retransmission.restore value.retransmission with
    | (retransmission, false) => ({ c with retransmission }, false)
    | (retransmission, true) =>
      match c.congestion.restore value.congestion with
      | (congestion, false) => ({ c with retransmission, congestion }, false)
      | (congestion, true) =>
        ({ retransmission, congestion, outstandingControl := value.outstandingControl,
           retransmissionDeadline := now + value.retransmissionRemainingNanoseconds.toInt
           timeWaitDeadline := now + value.timeWaitRemainingNanoseconds.toInt
           sendUnacknowledged := value.sendUnacknowledged, sendNext := value.sendNext,
           sendWindow := value.sendWindow, sendWindowSequence := value.sendWindowSequence,
           sendWindowAcknowledgment := value.sendWindowAcknowledgment
           receiveNext := value.receiveNext, receiveWindow := value.receiveWindow,
           initialSendSequence := value.initialSendSequence
           initialReceiveSequence := value.initialReceiveSequence, localPort := value.localPort,
           remotePort := value.remotePort, state := TcpState.ofOctet value.state,
           passiveOpened := value.passiveOpen
           outstandingControlPresent := value.outstandingControlPresent
           localFinSent := value.localFinSent },
          true)

/-! ## What every run keeps -/

/-- A block with the time of its last timed call. -/
structure Clocked where
  block : ControlBlock
  clock : Instant

def Clocked.step (k : Clocked) (call : ControlCall) : Clocked :=
  { block := k.block.next call, clock := call.time.getD k.clock }

/-- The call is not made before an earlier one. -/
def Clocked.InOrder (k : Clocked) (call : ControlCall) : Prop := k.clock ≤ call.time.getD k.clock

instance (k : Clocked) (call : ControlCall) : Decidable (k.InOrder call) :=
  inferInstanceAs (Decidable (_ ≤ _))

/-- What an image needs to know of a block whose last call was at `clock`. -/
structure Timed (localPort : BitVec 16) (senderMss : BitVec 32) (clock : Int) (c : ControlBlock) :
    Prop where
  port : c.localPort = localPort
  congestion : c.congestion = CongestionController.create senderMss
  estimator : c.retransmission.Unsampled
  listening : c.state = .listen → c.remotePort = 0#16
  armed : c.outstandingControlPresent = true → c.retransmissionDeadline ≤ clock + 60000000000
  waiting : c.state = .timeWait → c.timeWaitDeadline ≤ clock + 240000000000

section Kept

variable {port : BitVec 16} {mss : BitVec 32} {clock now : Instant} {c : ControlBlock}

theorem Timed.create (port remotePort : BitVec 16) (window mss : BitVec 32) (clock : Instant) :
    (ControlBlock.create port remotePort window mss).Timed port mss clock :=
  ⟨rfl, rfl, .fresh, by rintro ⟨⟩, by rintro ⟨⟩, by rintro ⟨⟩⟩

theorem Timed.later (timed : c.Timed port mss clock) (later : clock ≤ now) : c.Timed port mss now :=
  ⟨timed.port, timed.congestion, timed.estimator, timed.listening,
    fun present => Int.le_trans (timed.armed present) (Int.add_le_add_right later _),
    fun waits => Int.le_trans (timed.waiting waits) (Int.add_le_add_right later _)⟩

section

variable (timed : c.Timed port mss now)
include timed

theorem Timed.trackControl (segment : Fields) : (c.trackControl segment now).Timed port mss now :=
  ⟨timed.port, timed.congestion, timed.estimator, timed.listening,
    fun _ => Int.add_le_add_left timed.estimator.bounded.2 _, timed.waiting⟩

theorem Timed.synAck : (c.synAck now).1.Timed port mss now :=
  timed.trackControl _

theorem Timed.acknowledgeControl : c.acknowledgeControl.Timed port mss now := by
  unfold ControlBlock.acknowledgeControl
  split
  · exact timed
  · exact ⟨timed.port, timed.congestion, timed.estimator.onHandshakeComplete, timed.listening,
      by rintro ⟨⟩, timed.waiting⟩

theorem Timed.enterTimeWait : (c.enterTimeWait now).Timed port mss now :=
  ⟨timed.port, timed.congestion, timed.estimator, by rintro ⟨⟩, by rintro ⟨⟩,
    fun _ => Int.add_le_add_left (by decide) _⟩

theorem Timed.enter {state : TcpState} (quiet : state ≠ .listen) (brief : state ≠ .timeWait) :
    { c with state }.Timed port mss now :=
  ⟨timed.port, timed.congestion, timed.estimator, fun h => absurd h quiet, timed.armed,
    fun h => absurd h brief⟩

theorem Timed.stop : { c with state := .closed, outstandingControlPresent := false }.Timed port mss now :=
  ⟨timed.port, timed.congestion, timed.estimator, by rintro ⟨⟩, by rintro ⟨⟩, by rintro ⟨⟩⟩

theorem Timed.acceptPeerFin : (c.acceptPeerFin now).1.Timed port mss now := by
  have received : { c with receiveNext := c.receiveNext + 1#32 }.Timed port mss now :=
    ⟨timed.port, timed.congestion, timed.estimator, timed.listening, timed.armed, timed.waiting⟩
  unfold ControlBlock.acceptPeerFin
  split
  · exact received.enter (by decide) (by decide)
  · exact received.enter (by decide) (by decide)
  · split
    · exact received.enterTimeWait
    · exact received.enter (by decide) (by decide)
  · exact received.enterTimeWait
  · exact received.enterTimeWait
  · exact received

section

variable (segment : View)

theorem Timed.onListen (passiveInitialSequence advertisedWindow : BitVec 32) :
    (c.onListen segment passiveInitialSequence now advertisedWindow).1.Timed port mss now := by
  unfold ControlBlock.onListen
  split
  · exact timed
  split
  · exact timed
  split
  · exact timed
  refine Timed.synAck ?_
  exact ⟨timed.port, timed.congestion, timed.estimator, by rintro ⟨⟩, timed.armed,
    by rintro ⟨⟩⟩

section

variable (advertisedWindow : BitVec 32)

theorem Timed.onSynSent : (c.onSynSent segment now advertisedWindow).1.Timed port mss now := by
  simp only [ControlBlock.onSynSent]
  split
  · exact timed
  split
  · split
    · exact timed.stop
    · exact timed
  · split
    · exact timed
    · split
      · refine Timed.enter (Timed.acknowledgeControl ?_) (by decide) (by decide)
        exact ⟨timed.port, timed.congestion, timed.estimator, timed.listening, timed.armed,
          timed.waiting⟩
      · refine Timed.synAck ?_
        exact ⟨timed.port, timed.congestion, timed.estimator, by rintro ⟨⟩, timed.armed,
          by rintro ⟨⟩⟩

theorem Timed.processAcknowledgment {acknowledged : ControlBlock} {became : Bool}
    (accepted : c.processAcknowledgment segment advertisedWindow = .ok (acknowledged, became)) :
    acknowledged.Timed port mss now := by
  unfold ControlBlock.processAcknowledgment at accepted
  split at accepted
  · split at accepted
    · cases accepted
    · cases accepted
      refine Timed.enter (Timed.acknowledgeControl ?_) (by decide) (by decide)
      exact ⟨timed.port, timed.congestion, timed.estimator, timed.listening, timed.armed,
        timed.waiting⟩
  · split at accepted
    · cases accepted
    · cases accepted
      have advanced : (c.advanceUnacknowledged segment.acknowledgment).Timed port mss now := by
        have moved : { c with sendUnacknowledged := segment.acknowledgment }.Timed port mss now :=
          ⟨timed.port, timed.congestion, timed.estimator, timed.listening, timed.armed,
            timed.waiting⟩
        simp only [ControlBlock.advanceUnacknowledged]
        split
        · split
          · exact moved.acknowledgeControl
          · exact moved
        · exact timed
      unfold ControlBlock.updateSendWindow
      split
      · exact ⟨advanced.port, advanced.congestion, advanced.estimator, advanced.listening,
          advanced.armed, advanced.waiting⟩
      · exact advanced

theorem Timed.processText (became : Bool) :
    (c.processText segment became now).1.Timed port mss now := by
  unfold ControlBlock.processText
  split
  · exact timed
  split
  · exact timed
  split
  · exact timed
  · exact timed.acceptPeerFin

theorem Timed.onAcknowledgment :
    (c.onAcknowledgment segment now advertisedWindow).1.Timed port mss now := by
  cases outcome : c.processAcknowledgment segment advertisedWindow with
  | error result => simpa only [ControlBlock.onAcknowledgment, outcome] using timed
  | ok accepted =>
    obtain ⟨acknowledged, became⟩ := accepted
    have kept := timed.processAcknowledgment segment advertisedWindow outcome
    simp only [ControlBlock.onAcknowledgment, outcome]
    split
    · have waits : { acknowledged with state := .finWait2 }.Timed port mss now :=
        kept.enter (by decide) (by decide)
      exact waits.processText segment became
    · split
      · exact kept.enterTimeWait
      · split
        · exact kept.enter (by decide) (by decide)
        · exact kept.processText segment became

theorem Timed.onSynchronized :
    (c.onSynchronized segment now advertisedWindow).1.Timed port mss now := by
  simp only [ControlBlock.onSynchronized]
  split
  · exact timed.enterTimeWait
  split
  · exact timed
  split
  · unfold ControlBlock.onReset
    split
    · exact timed
    split
    · exact ⟨timed.port, timed.congestion, timed.estimator, fun _ => rfl, by rintro ⟨⟩,
        by rintro ⟨⟩⟩
    · exact timed.stop
  · split
    · exact timed
    · split
      · exact timed
      · exact timed.onAcknowledgment segment advertisedWindow

end

theorem Timed.onSegment (passiveInitialSequence : BitVec 32)
    (decodedPeerWindow : Option (BitVec 32)) :
    (c.onSegment segment passiveInitialSequence now decodedPeerWindow).1.Timed port mss now := by
  simp only [ControlBlock.onSegment]
  split
  · exact timed
  split
  · exact timed
  · exact timed.onListen segment _ _
  · exact timed.onSynSent segment _
  · exact timed.onSynchronized segment _

end

theorem Timed.commitReceivedData (next window : BitVec 32) (finSequence : Option (BitVec 32)) :
    ((c.commitReceivedData next window finSequence now).getD (c, {})).1.Timed port mss now := by
  have received : { c with receiveNext := next, receiveWindow := window }.Timed port mss now :=
    ⟨timed.port, timed.congestion, timed.estimator, timed.listening, timed.armed, timed.waiting⟩
  simp only [ControlBlock.commitReceivedData]
  split
  · exact timed
  split
  · exact received.acceptPeerFin
  · exact received

theorem Timed.close : (c.close now).1.Timed port mss now := by
  simp only [ControlBlock.close]
  split
  · exact timed.stop
  split
  · exact timed
  refine Timed.trackControl ?_ _
  refine ⟨timed.port, timed.congestion, timed.estimator, ?_, timed.armed, ?_⟩
  · dsimp only
    split <;> rintro ⟨⟩
  · dsimp only
    split <;> rintro ⟨⟩

theorem Timed.serviceDeadline : (c.serviceDeadline now).1.Timed port mss now := by
  simp only [ControlBlock.serviceDeadline]
  split
  · exact timed.enter (by decide) (by decide)
  split
  · exact timed
  have next := timed.estimator.onTimeout (c.state == .synSent || c.state == .synReceived)
  exact ⟨timed.port, timed.congestion, next, timed.listening,
    fun _ => Int.add_le_add_left next.bounded.2 _, timed.waiting⟩

theorem Timed.activeOpen (initialSequence : BitVec 32) :
    (c.activeOpen initialSequence now).1.Timed port mss now := by
  simp only [ControlBlock.activeOpen]
  split
  · exact timed
  refine Timed.trackControl ?_ _
  exact ⟨timed.port, timed.congestion, timed.estimator, by rintro ⟨⟩, timed.armed,
    by rintro ⟨⟩⟩

end

theorem Timed.untimed (timed : c.Timed port mss clock) {call : ControlCall}
    (untimed : call.time = none) : (c.next call).Timed port mss clock := by
  cases call with
  | passiveOpen =>
    simp only [ControlBlock.next, apply, passiveOpen]
    split
    · exact timed
    · exact ⟨timed.port, timed.congestion, timed.estimator, fun _ => rfl, timed.armed, by rintro ⟨⟩⟩
  | commitSentData sequence octets =>
    simp only [ControlBlock.next, apply, commitSentData]
    split
    · exact timed
    · exact ⟨timed.port, timed.congestion, timed.estimator, timed.listening, timed.armed,
        timed.waiting⟩
  | setReceiveWindow window =>
    simp only [ControlBlock.next, apply, setReceiveWindow]
    split
    · exact timed
    · exact ⟨timed.port, timed.congestion, timed.estimator, timed.listening, timed.armed,
        timed.waiting⟩
  | _ => cases untimed

theorem Timed.next (timed : c.Timed port mss now) {call : ControlCall}
    (time : call.time = some now) : (c.next call).Timed port mss now := by
  cases call with
  | activeOpen initialSequence _ =>
    cases time
    exact timed.activeOpen initialSequence
  | onSegment segment passiveInitialSequence _ decodedPeerWindow =>
    cases time
    exact timed.onSegment segment passiveInitialSequence decodedPeerWindow
  | commitReceivedData next window finSequence _ =>
    cases time
    exact timed.commitReceivedData next window finSequence
  | close _ =>
    cases time
    exact timed.close
  | serviceDeadline _ =>
    cases time
    exact timed.serviceDeadline
  | _ => cases time

theorem Timed.step {k : Clocked} (timed : k.block.Timed port mss k.clock) {call : ControlCall}
    (ordered : k.InOrder call) : (k.step call).block.Timed port mss (k.step call).clock := by
  cases time : call.time with
  | none =>
    simp only [Clocked.step, time]
    exact timed.untimed time
  | some now =>
    simp only [Clocked.InOrder, time] at ordered
    simp only [Clocked.step, time]
    exact (timed.later ordered).next time

/-! ## When an image is taken over -/

/-- A timer shows time to run exactly while it is active and not overdue. -/
theorem remaining_toInt (active : Bool) (deadline : Int) {now clock : Int}
    (near : active = true → deadline ≤ clock + 240000000000) (later : clock ≤ now) :
    0 < (remaining now active deadline).toInt ↔ active = true ∧ now < deadline := by
  unfold remaining
  by_cases running : active = true ∧ now < deadline
  · have short := near running.1
    rw [if_pos (by simp [running]), toInt_ofInt (by omega) (by omega)]
    exact iff_of_true (by omega) running
  · rw [if_neg (by simpa using running)]
    exact iff_of_false (by decide) running

/-- The image at `now` is valid, and whatever block takes it over becomes this
one, its deadlines moved to the time it is taken over at. -/
def Restorable (c : ControlBlock) (now : Instant) : Prop :=
  validateCheckpoint (c.checkpoint now) = true ∧
    ∀ (fresh : ControlBlock) (later : Instant), fresh.restore (c.checkpoint now) later =
      ({ c with
          retransmissionDeadline := later +
            (remaining now c.outstandingControlPresent c.retransmissionDeadline).toInt
          timeWaitDeadline := later +
            (remaining now (c.state == .timeWait) c.timeWaitDeadline).toInt },
        true)

/-- Every port an image needs is there, and no armed timer is overdue. -/
structure Presentable (c : ControlBlock) (now : Instant) : Prop where
  localPort : c.localPort ≠ 0#16
  remotePort : c.state ≠ .closed → c.state ≠ .listen → c.remotePort ≠ 0#16
  retransmission : c.outstandingControlPresent = true → now < c.retransmissionDeadline
  timeWait : c.state = .timeWait → now < c.timeWaitDeadline

theorem Timed.validate_iff (timed : c.Timed port mss clock) (later : clock ≤ now) :
    validateCheckpoint (c.checkpoint now) = true ↔ c.Presentable now := by
  have estimator := (timed.estimator.restore_checkpoint c.retransmission).1
  have congestion := (CongestionController.restore_checkpoint_create mss c.congestion).1
  rw [← timed.congestion] at congestion
  have named : ¬ TcpState.timeWait.octet < c.state.octet := BitVec.not_lt.mpr c.state.octet_le
  have control := remaining_toInt c.outstandingControlPresent c.retransmissionDeadline
    (fun present => Int.le_trans (timed.armed present) (Int.add_le_add_left (by decide) _)) later
  have waits := remaining_toInt (c.state == .timeWait) c.timeWaitDeadline
    (fun waiting => timed.waiting (by simpa using waiting)) later
  have listens : (c.state.octet == TcpState.listen.octet) = (c.state == .listen) := by
    rw [Bool.eq_iff_iff, beq_iff_eq, beq_iff_eq, TcpState.octet_inj]
  simp only [validateCheckpoint, checkpoint, estimator, congestion, named, listens, control, waits]
  have unbound : (c.state == .listen && c.remotePort != 0#16) = false := by
    by_cases listening : c.state = .listen
    · simp [timed.listening listening]
    · simp [listening]
  simp only [unbound, settled]
  constructor
  · intro valid
    split at valid
    · cases valid
    next localPort =>
    split at valid
    · cases valid
    next armed =>
    split at valid
    · cases valid
    next waiting =>
    refine ⟨by simpa using localPort, fun isOpen notListening => ?_, fun present => ?_,
      fun waits => ?_⟩
    · simpa [isOpen, notListening] using valid
    · simpa [present] using armed
    · simpa [waits] using waiting
  · rintro ⟨localPort, remotePort, armed, waiting⟩
    rw [if_neg (by simpa using localPort), if_neg, if_neg]
    · by_cases closed : c.state = .closed
      · simp [closed]
      · by_cases listening : c.state = .listen
        · simp [listening]
        · simp [remotePort closed listening]
    · by_cases waits : c.state = .timeWait
      · simp [waits, waiting waits]
      · simp [waits]
    · cases present : c.outstandingControlPresent with
      | true => simp [armed present]
      | false => simp

theorem Timed.restorable_iff (timed : c.Timed port mss clock) (later : clock ≤ now) :
    c.Restorable now ↔ c.Presentable now := by
  rw [← timed.validate_iff later]
  refine ⟨And.left, fun valid => ⟨valid, fun fresh resumed => ?_⟩⟩
  have estimator := (timed.estimator.restore_checkpoint fresh.retransmission).2
  have congestion := (CongestionController.restore_checkpoint_create mss fresh.congestion).2
  rw [← timed.congestion] at congestion
  unfold restore
  rw [valid]
  simp [checkpoint, estimator, congestion]

end Kept

/-- A block reached by calls in the order of their times can be restored from
the image it writes exactly as long as no armed timer is overdue and its ports are set. -/
theorem run_restorable_iff (localPort remotePort : BitVec 16) (receiveWindow senderMss : BitVec 32)
    (calls : List ControlCall) {start now : Instant}
    (ordered : Runs.Along Clocked.step Clocked.InOrder
      ⟨create localPort remotePort receiveWindow senderMss, start⟩ calls)
    (later : (Runs.run Clocked.step
      ⟨create localPort remotePort receiveWindow senderMss, start⟩ calls).clock ≤ now) :
    (Runs.run Clocked.step
        ⟨create localPort remotePort receiveWindow senderMss, start⟩ calls).block.Restorable now ↔
      (Runs.run Clocked.step
        ⟨create localPort remotePort receiveWindow senderMss, start⟩ calls).block.Presentable
          now := by
  have reached := Runs.invariant_along (P := fun k => k.block.Timed localPort senderMss k.clock)
    (fun _ _ timed ordered => timed.step ordered) (Timed.create ..) ordered
  exact reached.restorable_iff later

/-- A fresh block that has just sent its SYN. -/
def synSentCalls : List ControlCall := [.activeOpen 100#32 0]

theorem synSent_restorable :
    (Runs.run Clocked.step ⟨create 1000#16 80#16 500#32 1460#32, 0⟩
      synSentCalls).block.Restorable 999999999 :=
  (run_restorable_iff 1000#16 80#16 500#32 1460#32 synSentCalls (by decide) (by decide)).mpr
    ⟨by decide, fun _ _ => by decide, fun _ => by decide, by rintro ⟨⟩⟩

/-- Once the SYN is overdue its image shows an armed timer with nothing left to run. -/
theorem synSent_overdue_not_restorable :
    Runs.Along Clocked.step Clocked.InOrder ⟨create 1000#16 80#16 500#32 1460#32, 0⟩ synSentCalls ∧
      (Runs.run Clocked.step ⟨create 1000#16 80#16 500#32 1460#32, 0⟩ synSentCalls).clock ≤
        1000000000 ∧
      ¬ (Runs.run Clocked.step ⟨create 1000#16 80#16 500#32 1460#32, 0⟩
        synSentCalls).block.Restorable 1000000000 :=
  ⟨by decide, by decide, fun restorable => absurd restorable.1 (by decide)⟩

end ControlBlock

end RouterSim.Tcp
