import RouterSim.Lib.Serial

/-! Time is counted in nanoseconds of the host's steady clock. -/
namespace RouterSim.Tcp

abbrev Instant := Int

abbrev Duration := Int

namespace Catalog

abbrev rtoInitial : Duration := 1000000000
abbrev rtoMinimum : Duration := 1000000000
abbrev rtoMaximum : Duration := 60000000000
abbrev rtoClockGranularity : Duration := 1000000
abbrev rtoAfterSynRetransmission : Duration := 3000000000
abbrev delayedAck : Duration := 200000000
abbrev swsOverride : Duration := 200000000
abbrev persistMaximum : Duration := 60000000000
abbrev failureR1Retransmissions : BitVec 32 := 3#32
abbrev failureDataR2 : Duration := 100000000000
abbrev failureSynR2 : Duration := 180000000000
abbrev maximumSegmentLifetime : Duration := 120000000000

end Catalog

/-! ## Retransmission timeout -/

inductive RttSampleResult
  | accepted | ignoredRetransmissionAmbiguity | invalid

structure RetransmissionEstimator where
  smoothedRtt : Duration := 0
  rttVariation : Duration := 0
  timeout : Duration := Catalog.rtoInitial
  measurementPresent : Bool := false
  synRetransmitted : Bool := false
  deriving DecidableEq

namespace RetransmissionEstimator

/-- Divisions truncate towards zero, as the source's do. -/
def boundedTimeout (smoothed variation : Duration) : Duration :=
  if Catalog.rtoMaximum ≤ smoothed then Catalog.rtoMaximum
  else if (Catalog.rtoMaximum - smoothed).tdiv 4 < variation then Catalog.rtoMaximum
  else
    let varianceTerm := max Catalog.rtoClockGranularity (variation * 4)
    if Catalog.rtoMaximum - smoothed < varianceTerm then Catalog.rtoMaximum
    else min (max (smoothed + varianceTerm) Catalog.rtoMinimum) Catalog.rtoMaximum

def observe (e : RetransmissionEstimator) (sample : Duration)
    (segmentWasRetransmitted timestampRemovesAmbiguity : Bool) :
    RetransmissionEstimator × RttSampleResult :=
  if sample ≤ 0 then (e, .invalid)
  else if segmentWasRetransmitted && !timestampRemovesAmbiguity then
    (e, .ignoredRetransmissionAmbiguity)
  else
    let measured :=
      if !e.measurementPresent then
        { e with smoothedRtt := sample, rttVariation := sample.tdiv 2, measurementPresent := true }
      else
        let difference :=
          if e.smoothedRtt ≤ sample then sample - e.smoothedRtt else e.smoothedRtt - sample
        { e with
          rttVariation := e.rttVariation + (difference - e.rttVariation).tdiv 4
          smoothedRtt := e.smoothedRtt + (sample - e.smoothedRtt).tdiv 8 }
    ({ measured with timeout := boundedTimeout measured.smoothedRtt measured.rttVariation },
      .accepted)

def onTimeout (e : RetransmissionEstimator) (waitingForSyn : Bool) : RetransmissionEstimator :=
  { e with
    timeout := if Catalog.rtoMaximum.tdiv 2 ≤ e.timeout then Catalog.rtoMaximum else e.timeout * 2
    synRetransmitted := e.synRetransmitted || waitingForSyn }

def onHandshakeComplete (e : RetransmissionEstimator) : RetransmissionEstimator :=
  { e with
    timeout :=
      if e.synRetransmitted then max e.timeout Catalog.rtoAfterSynRetransmission else e.timeout
    synRetransmitted := false }

end RetransmissionEstimator

/-! ## Delayed acknowledgments -/

inductive AckSchedule
  | none | delayed | immediate
  deriving DecidableEq

structure DelayedAcknowledger where
  deadline : Option Instant := none
  dataSegmentsSinceAck : BitVec 8 := 0#8

namespace DelayedAcknowledger

def onSegment (d : DelayedAcknowledger) (inOrder : Bool) (dataOctets : BitVec 32) (fin : Bool)
    (now : Instant) : DelayedAcknowledger × AckSchedule :=
  if !inOrder || fin then ({ deadline := some now, dataSegmentsSinceAck := 0#8 }, .immediate)
  else if dataOctets == 0#32 then (d, .none)
  else if d.dataSegmentsSinceAck != 0#8 then
    ({ deadline := some now, dataSegmentsSinceAck := 0#8 }, .immediate)
  else ({ deadline := some (now + Catalog.delayedAck), dataSegmentsSinceAck := 1#8 }, .delayed)

def requestImmediate (now : Instant) : DelayedAcknowledger :=
  { deadline := some now, dataSegmentsSinceAck := 0#8 }

def due (d : DelayedAcknowledger) (now : Instant) : Bool :=
  match d.deadline with
  | none => false
  | some deadline => deadline ≤ now

def acknowledgeCommitted : DelayedAcknowledger := {}

end DelayedAcknowledger

/-! ## Zero-window persistence -/

structure PersistTimer where
  deadline : Option Instant := none
  interval : Duration := 0
  deriving DecidableEq

namespace PersistTimer

def update (p : PersistTimer) (zeroWindow queuedData : Bool) (currentRto : Duration)
    (now : Instant) : PersistTimer :=
  if !zeroWindow || !queuedData then {}
  else if p.deadline.isSome then p
  else
    let interval := min (max currentRto 1) Catalog.persistMaximum
    { deadline := some (now + interval), interval }

def due (p : PersistTimer) (now : Instant) : Bool :=
  match p.deadline with
  | none => false
  | some deadline => deadline ≤ now

def probeCommitted (p : PersistTimer) (now : Instant) : PersistTimer × Bool :=
  if !p.due now then (p, false)
  else
    let interval :=
      if Catalog.persistMaximum - p.interval < p.interval then Catalog.persistMaximum
      else p.interval * 2
    ({ deadline := some (now + interval), interval }, true)

end PersistTimer

/-! ## Excessive retransmission -/

inductive FailureAction
  | none | negativeIpAdvice | abortConnection
  deriving DecidableEq

structure FailureDetector where
  firstTransmittedAt : Instant := 0
  dataR2 : Option Duration := some Catalog.failureDataR2
  segmentFirst : BitVec 32 := 0#32
  segmentEnd : BitVec 32 := 0#32
  retransmissions : BitVec 32 := 0#32
  active : Bool := false
  syn : Bool := false
  negativeAdviceReported : Bool := false
  deriving DecidableEq

namespace FailureDetector

def setDataR2 (f : FailureDetector) (timeout : Option Duration) : FailureDetector × Bool :=
  match timeout with
  | some limit => if limit ≤ 0 then (f, false) else ({ f with dataR2 := timeout }, true)
  | none => ({ f with dataR2 := none }, true)

def begin (f : FailureDetector) (first last : BitVec 32) (syn : Bool) (now : Instant) :
    FailureDetector × Bool :=
  let length := last - first
  if length == 0#32 || decide (0x40000000#32 < length) then (f, false)
  else
    ({ f with
        segmentFirst := first
        segmentEnd := last, retransmissions := 0#32, firstTransmittedAt := now, active := true, syn,
        negativeAdviceReported := false },
      true)

def activeR2 (f : FailureDetector) : Option Duration :=
  if !f.active then none else if f.syn then some Catalog.failureSynR2 else f.dataR2

/-- The failure limit, counted from the first transmission, has passed. -/
def expired (f : FailureDetector) (now : Instant) : Bool :=
  match f.activeR2 with
  | none => false
  | some r2 => r2 ≤ now - f.firstTransmittedAt

def retransmitted (f : FailureDetector) (first last : BitVec 32) (now : Instant) :
    FailureDetector × FailureAction :=
  if !f.active || first != f.segmentFirst || last != f.segmentEnd ||
      decide (now < f.firstTransmittedAt) then (f, .none)
  else
    let counted := { f with
      retransmissions :=
        if f.retransmissions != 0xffffffff#32 then f.retransmissions + 1#32 else f.retransmissions }
    if counted.expired now then (counted, .abortConnection)
    else if !counted.negativeAdviceReported &&
        decide (Catalog.failureR1Retransmissions ≤ counted.retransmissions) then
      ({ counted with negativeAdviceReported := true }, .negativeIpAdvice)
    else (counted, .none)

def reset (f : FailureDetector) : FailureDetector := { dataR2 := f.dataR2 }

def acknowledge (f : FailureDetector) (acknowledgment : BitVec 32) : FailureDetector :=
  if !f.active then f
  else if Serial.beforeOrEqual f.segmentEnd acknowledgment then f.reset
  else if Serial.after acknowledgment f.segmentFirst then { f with segmentFirst := acknowledgment }
  else f

def service (f : FailureDetector) (now : Instant) : FailureAction :=
  if decide (f.firstTransmittedAt ≤ now) && f.expired now then .abortConnection else .none

def deadline (f : FailureDetector) : Option Instant := f.activeR2.map (f.firstTransmittedAt + ·)

end FailureDetector

end RouterSim.Tcp
