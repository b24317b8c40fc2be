namespace RouterSim.Tcp

def saturatingAdd (left right : BitVec 32) : BitVec 32 :=
  if 0xffffffff#32 - left < right then 0xffffffff#32 else left + right

def saturatingMultiply (value factor : BitVec 32) : BitVec 32 :=
  if value != 0#32 && decide (0xffffffff#32 / value < factor) then 0xffffffff#32
  else value * factor

def minimum (left right : BitVec 32) : BitVec 32 := if right < left then right else left

def maximum (left right : BitVec 32) : BitVec 32 := if left < right then right else left

inductive DuplicateAckAction
  | none | retransmitOldest
  deriving DecidableEq

structure CongestionController where
  senderMss : BitVec 32
  congestionWindow : BitVec 32
  slowStartThreshold : BitVec 32
  duplicateAcknowledgments : BitVec 32 := 0#32
  recoveryInflationLimit : BitVec 32 := 0#32
  fastRecovery : Bool := false
  sackRecovery : Bool := false
  deriving DecidableEq

namespace CongestionController

def initialWindow (senderMss : BitVec 32) : BitVec 32 :=
  if senderMss == 0#32 then 0#32
  else if 2190#32 < senderMss then saturatingMultiply senderMss 2#32
  else if 1095#32 < senderMss then saturatingMultiply senderMss 3#32
  else saturatingMultiply senderMss 4#32

def create (senderMss : BitVec 32) : CongestionController :=
  { senderMss := maximum senderMss 1#32, congestionWindow := initialWindow (maximum senderMss 1#32),
    slowStartThreshold := 0xffffffff#32 }

def reducedThreshold (c : CongestionController) (flightSize : BitVec 32) : BitVec 32 :=
  maximum (flightSize / 2#32) (saturatingMultiply c.senderMss 2#32)

/-- The congestion-avoidance increment: a 64-bit product, divided, then cut to 32 bits. -/
def increment (c : CongestionController) : BitVec 32 :=
  maximum (BitVec.ofNat 32 (c.senderMss.toNat * c.senderMss.toNat / c.congestionWindow.toNat)) 1#32

def onNewAck (c : CongestionController) (newlyAcknowledged : BitVec 32) : CongestionController :=
  let counted := { c with duplicateAcknowledgments := 0#32, recoveryInflationLimit := 0#32 }
  if c.sackRecovery then counted
  else if c.fastRecovery then
    { counted with congestionWindow := c.slowStartThreshold, fastRecovery := false }
  else if newlyAcknowledged == 0#32 then counted
  else if c.congestionWindow < c.slowStartThreshold then
    { counted with
      congestionWindow :=
        saturatingAdd c.congestionWindow (minimum newlyAcknowledged c.senderMss) }
  else { counted with congestionWindow := saturatingAdd c.congestionWindow c.increment }

def onDuplicateAck (c : CongestionController) (flightSize : BitVec 32) :
    CongestionController × DuplicateAckAction :=
  let counted :=
    { c with duplicateAcknowledgments := saturatingAdd c.duplicateAcknowledgments 1#32 }
  if counted.duplicateAcknowledgments < 3#32 then (counted, .none)
  else if counted.duplicateAcknowledgments == 3#32 then
    let threshold := c.reducedThreshold flightSize
    ({ counted with
        slowStartThreshold := threshold
        congestionWindow := saturatingAdd threshold (saturatingMultiply c.senderMss 3#32)
        recoveryInflationLimit := if c.senderMss == 0#32 then 0#32 else flightSize / c.senderMss
        fastRecovery := true },
      .retransmitOldest)
  else if c.fastRecovery &&
      decide (counted.duplicateAcknowledgments - 3#32 < c.recoveryInflationLimit) then
    ({ counted with congestionWindow := saturatingAdd c.congestionWindow c.senderMss }, .none)
  else (counted, .none)

def onRetransmissionTimeout (c : CongestionController) (flightSize : BitVec 32) :
    CongestionController :=
  { c with
    slowStartThreshold := c.reducedThreshold flightSize, congestionWindow := c.senderMss,
    duplicateAcknowledgments := 0#32, recoveryInflationLimit := 0#32, fastRecovery := false,
    sackRecovery := false }

def enterSackRecovery (c : CongestionController) (flightSize : BitVec 32) : CongestionController :=
  { c with
    slowStartThreshold := c.reducedThreshold flightSize
    congestionWindow := c.reducedThreshold flightSize, duplicateAcknowledgments := 0#32,
    recoveryInflationLimit := 0#32, fastRecovery := true, sackRecovery := true }

def onSackAck (c : CongestionController) (recoveryComplete : Bool) : CongestionController :=
  let counted := { c with duplicateAcknowledgments := 0#32, recoveryInflationLimit := 0#32 }
  if !c.sackRecovery || !recoveryComplete then counted
  else
    { counted with
      congestionWindow := c.slowStartThreshold, fastRecovery := false, sackRecovery := false }

/-- `value * senderMss / old`, computed in 64 bits and cut to 32. -/
def scaled (value senderMss old : BitVec 32) : BitVec 32 :=
  BitVec.ofNat 32 (value.toNat * senderMss.toNat / old.toNat)

def reduceSenderMss (c : CongestionController) (senderMss : BitVec 32) : CongestionController :=
  if senderMss == 0#32 || decide (c.senderMss ≤ senderMss) then c
  else
    { c with
      congestionWindow := maximum senderMss (scaled c.congestionWindow senderMss c.senderMss)
      recoveryInflationLimit := scaled c.recoveryInflationLimit senderMss c.senderMss, senderMss }

def sendAllowance (c : CongestionController) (receiverWindow flightSize : BitVec 32) : BitVec 32 :=
  let usableWindow := minimum c.congestionWindow receiverWindow
  if usableWindow ≤ flightSize then 0#32 else usableWindow - flightSize

/-! Which operations leave the selective recovery alone. -/

variable (c : CongestionController)

@[simp] theorem onDuplicateAck_sackRecovery (flightSize : BitVec 32) :
    (c.onDuplicateAck flightSize).1.sackRecovery = c.sackRecovery := by
  simp [onDuplicateAck, apply_ite Prod.fst, apply_ite CongestionController.sackRecovery]

@[simp] theorem onNewAck_sackRecovery (newlyAcknowledged : BitVec 32) :
    (c.onNewAck newlyAcknowledged).sackRecovery = c.sackRecovery := by
  simp [onNewAck, apply_ite CongestionController.sackRecovery]

@[simp] theorem onSackAck_sackRecovery (recoveryComplete : Bool) :
    (c.onSackAck recoveryComplete).sackRecovery = (c.sackRecovery && !recoveryComplete) := by
  cases hr : c.sackRecovery <;> cases recoveryComplete <;> simp [onSackAck, hr]

@[simp] theorem reduceSenderMss_sackRecovery (senderMss : BitVec 32) :
    (c.reduceSenderMss senderMss).sackRecovery = c.sackRecovery := by
  simp [reduceSenderMss, apply_ite CongestionController.sackRecovery]

end CongestionController

end RouterSim.Tcp
