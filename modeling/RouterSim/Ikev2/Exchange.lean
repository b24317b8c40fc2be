/-! Request retransmission and message ids of one direction of an IKE SA. Only the side that
sends requests has a timer. The other answers a request again when it sees it again. -/
namespace RouterSim.Ikev2

/-- A point of the steady clock in nanoseconds. -/
abbrev Time := Int

abbrev clockMaximum : Int := 0x7fffffffffffffff

/-- The deadline a delay in units of so many nanoseconds away, if the clock reaches it. -/
def addDeadline (unit : Int) (now : Time) (delay : Int) : Option Time :=
  if delay < 0 then none
  else if clockMaximum / unit < delay then none
  else if clockMaximum - delay * unit < now then none
  else some (now + delay * unit)

abbrev nanosecondsPerMillisecond : Int := 1000000

/-- Intervals are in milliseconds. -/
structure RetransmissionPolicy where
  initial : Int := 0
  maximum : Int := 0
  maximumRetransmissions : BitVec 8 := 0#8
  deriving DecidableEq

inductive RequestStartResult
  | started | requestAlreadyActive | invalidPolicy | invalidToken
  deriving DecidableEq

inductive ResponseResult
  | matched | stale | unexpected
  deriving DecidableEq

inductive RequestTimerAction
  | none | retransmit | exchangeFailed
  deriving DecidableEq

structure RequestTimerResult where
  action : RequestTimerAction := .none
  packetToken : BitVec 64 := 0#64
  messageId : BitVec 32 := 0#32

structure RequestTracker where
  policy : RetransmissionPolicy := {}
  deadline : Time := 0
  messageId : BitVec 32 := 0#32
  packetToken : BitVec 64 := 0#64
  retransmissions : BitVec 8 := 0#8
  active : Bool := false
  deriving DecidableEq

namespace RequestTracker

def policyValid (t : RequestTracker) : Bool :=
  decide (0 < t.policy.initial) && decide (t.policy.initial ≤ t.policy.maximum) &&
    decide (0#8 < t.policy.maximumRetransmissions)

/-- A deadline the clock does not reach leaves the id and the counter behind, inactive. -/
def start (t : RequestTracker) (messageId : BitVec 32) (packetToken : BitVec 64) (now : Time) :
    RequestTracker × RequestStartResult :=
  if t.active then (t, .requestAlreadyActive)
  else if !t.policyValid then (t, .invalidPolicy)
  else if packetToken = 0#64 then (t, .invalidToken)
  else
    let loaded := { t with messageId, packetToken, retransmissions := 0#8 }
    match addDeadline nanosecondsPerMillisecond now t.policy.initial with
    | none => ({ loaded with packetToken := 0#64 }, .invalidPolicy)
    | some deadline => ({ loaded with deadline, active := true }, .started)

def receiveResponse (t : RequestTracker) (messageId : BitVec 32) :
    RequestTracker × ResponseResult :=
  if !t.active then (t, .unexpected)
  else if messageId ≠ t.messageId then (t, if messageId < t.messageId then .stale else .unexpected)
  else ({ t with active := false, packetToken := 0#64 }, .matched)

/-- The interval after some more doublings, none of them past half of the maximum. -/
def doubled (maximum : Int) : Nat → Int → Int
  | 0, result => if maximum < result then maximum else result
  | index + 1, result =>
    if maximum / 2 ≤ result then maximum else doubled maximum index (result * 2)

def interval (t : RequestTracker) : Int :=
  doubled t.policy.maximum t.retransmissions.toNat t.policy.initial

def fail (t : RequestTracker) : RequestTracker × RequestTimerResult :=
  ({ t with active := false, packetToken := 0#64 },
    { action := .exchangeFailed, messageId := t.messageId })

def poll (t : RequestTracker) (now : Time) : RequestTracker × RequestTimerResult :=
  if !t.active || decide (now < t.deadline) then (t, {})
  else if t.policy.maximumRetransmissions ≤ t.retransmissions then t.fail
  else
    let counted := { t with retransmissions := t.retransmissions + 1#8 }
    match addDeadline nanosecondsPerMillisecond now counted.interval with
    | none => counted.fail
    | some deadline =>
      ({ counted with deadline },
        { action := .retransmit, packetToken := t.packetToken, messageId := t.messageId })

end RequestTracker

inductive InboundRequestResult
  | newRequest | duplicateWithCachedResponse | duplicateResponseNotReady | outsideWindow
  deriving DecidableEq

structure InboundRequestDecision where
  result : InboundRequestResult := .outsideWindow
  responseToken : BitVec 64 := 0#64

structure ResponderMessageIds where
  expected : BitVec 32 := 0#32
  lastCompleted : BitVec 32 := 0#32
  responseToken : BitVec 64 := 0#64
  hasCompleted : Bool := false
  requestPending : Bool := false
  deriving DecidableEq

namespace ResponderMessageIds

def receive (r : ResponderMessageIds) (messageId : BitVec 32) :
    ResponderMessageIds × InboundRequestDecision :=
  if messageId = r.expected ∧ r.requestPending = false then
    ({ r with requestPending := true }, { result := .newRequest })
  else if messageId = r.expected then (r, { result := .duplicateResponseNotReady })
  else if r.hasCompleted ∧ messageId = r.lastCompleted then
    (r,
      { result := if r.responseToken ≠ 0#64 then .duplicateWithCachedResponse
          else .duplicateResponseNotReady
        responseToken := r.responseToken })
  else (r, {})

def cacheResponse (r : ResponderMessageIds) (messageId : BitVec 32) (packetToken : BitVec 64) :
    ResponderMessageIds × Bool :=
  if !r.requestPending || messageId != r.expected || packetToken == 0#64 ||
      r.expected == 0xffffffff#32 then (r, false)
  else
    ({ expected := r.expected + 1#32, lastCompleted := messageId, responseToken := packetToken,
       hasCompleted := true, requestPending := false }, true)

end ResponderMessageIds

end RouterSim.Ikev2
