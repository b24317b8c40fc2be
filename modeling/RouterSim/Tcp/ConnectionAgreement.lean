import RouterSim.Tcp.ConnectionStream

namespace RouterSim.Tcp

open Runs Sample

/-- In a flight shorter than half the sequence space, an acknowledgment advances
exactly when it lies behind SND.UNA and not behind SND.NXT. -/
theorem acknowledgmentAdvances_iff {acknowledgment una next : BitVec 32}
    (h : (next - una).toNat < 0x80000000) :
    acknowledgmentAdvances acknowledgment una next = true ↔
      0 < (acknowledgment - una).toNat ∧ (acknowledgment - una).toNat ≤ (next - una).toNat := by
  simp only [acknowledgmentAdvances, asserted, Serial.after_iff, Serial.beforeOrEqual_iff]
  constructor
  · rintro ⟨hu, hn⟩
    bv_omega
  · rintro ⟨hu, hn⟩
    bv_omega

theorem acknowledgmentAdvances_self (acknowledgment una : BitVec 32) :
    acknowledgmentAdvances acknowledgment una una = false := by
  rw [← Bool.not_eq_true, acknowledgmentAdvances_iff (by simp), BitVec.sub_self,
    BitVec.toNat_ofNat]
  omega

/-! ## The control block beside the data sender -/

/-- The sequence number a FIN takes, if there is one. -/
def finOctet (present : Bool) : BitVec 32 := if present then 1#32 else 0#32

@[simp] theorem finOctet_true : finOctet true = 1#32 := rfl

@[simp] theorem finOctet_false : finOctet false = 0#32 := rfl

namespace ControlBlock

/-- The control block counts the data sender's sequence numbers, and the local FIN
as one more. -/
structure Agrees (c : ControlBlock) (una next : BitVec 32) : Prop where
  settled : Connection.handshaking c.state = false
  sending : c.sending = true → c.localFinSent = false
  next : c.sendNext = next + finOctet c.localFinSent
  unacknowledged : c.sendUnacknowledged = una + finOctet c.localFinAcknowledged

namespace Agrees

variable {c c' : ControlBlock} {una next : BitVec 32}

variable (h : c.Agrees una next)
include h

theorem continues (hc : Continues c c') (huna : c'.sendUnacknowledged = c.sendUnacknowledged) :
    c'.Agrees una next where
  settled := hc.settled h.settled
  sending := fun hs => by rw [hc.localFinSent, h.sending (hc.sending hs)]
  next := by rw [hc.sendNext, hc.localFinSent, h.next]
  unacknowledged := by
    have hu := h.unacknowledged
    simp only [localFinAcknowledged] at hu ⊢
    rw [hc.localFinSent, hc.sendNext, huna]
    exact hu

theorem finished (hf : c.localFinAcknowledged = true) : una = next := by
  have hu := h.unacknowledged
  have hn := h.next
  simp only [localFinAcknowledged, asserted] at hf
  have counted : c.localFinAcknowledged = true := by simp [localFinAcknowledged, hf.1, hf.2]
  rw [counted, hf.2, hn, hf.1] at hu
  bv_omega

theorem serviceDeadline (now : Instant) : (c.serviceDeadline now).1.Agrees una next := by
  unfold ControlBlock.serviceDeadline
  split
  · exact h.continues (.leaves rfl rfl rfl rfl) rfl
  split
  · exact h
  · exact h.continues (.stays rfl rfl rfl) rfl

theorem close (hflight : (next - una).toNat ≤ 0x40000000) (now : Instant) :
    (c.close now).1.Agrees una next := by
  have hs := h.settled
  unfold ControlBlock.close
  split
  · rename_i opening
    simp only [asserted] at opening
    rcases opening with hstate | hstate <;> simp [hstate, Connection.handshaking] at hs
  · split
    · exact h
    · rename_i ready
      have sending : c.sending = true := by
        simp only [ControlBlock.sending]
        cases hstate : c.state <;> simp [hstate] at ready ⊢
      have noFin := h.sending sending
      have hn := h.next
      have hu := h.unacknowledged
      simp only [noFin, localFinAcknowledged, Bool.false_and] at hn hu
      refine ⟨?_, fun hs => ?_, ?_, ?_⟩
      · simp
        split <;> rfl
      · simp [trackControl, ControlBlock.sending] at hs
        split at hs <;> simp at hs
      · simp [trackControl, hn]
      · have unfinished : (una == next + 1#32) = false := by
          rw [beq_eq_false_iff_ne]
          intro hwrap
          bv_omega
        simp [trackControl, localFinAcknowledged, hn, hu, unfinished]

theorem commitSentData {sequence octets : BitVec 32}
    (hc : c.commitSentData sequence octets = (c', true)) : c'.Agrees una (next + octets) := by
  unfold ControlBlock.commitSentData at hc
  split at hc
  · simp only [Prod.mk.injEq, Bool.false_eq_true, and_false] at hc
  rename_i ready
  simp only [asserted, not_or, refuted] at ready
  have noFin : c.localFinSent = false := ready.1.1.2
  have hn := h.next
  have hu := h.unacknowledged
  simp only [noFin, localFinAcknowledged, Bool.false_and] at hn hu
  simp only [Prod.mk.injEq, and_true] at hc
  rw [← hc]
  refine ⟨h.settled, fun _ => noFin, ?_, ?_⟩
  · simp [noFin, hn]
  · simp [localFinAcknowledged, noFin, hu]

/-- A segment keeps the agreement when the control block processes every
acknowledgment of data that the sender takes, and the FIN is not acknowledged
together with data. -/
theorem acknowledged (hflight : (next - una).toNat ≤ 0x40000000) (hc : Continues c c')
    {acknowledgment : BitVec 32} {processed carried : Bool}
    (huna : c'.sendUnacknowledged = if processed && acknowledgmentAdvances acknowledgment
      c.sendUnacknowledged c.sendNext then acknowledgment else c.sendUnacknowledged)
    (hcarried : processed = true → carried = true)
    (hdata : carried = true → acknowledgmentAdvances acknowledgment una next = true →
      processed = true)
    (hfin : processed = true → c.localFinSent = true → acknowledgment = c.sendNext → una = next) :
    c'.Agrees (if carried && acknowledgmentAdvances acknowledgment una next then acknowledgment
      else una) next := by
  have hn := h.next
  have hu := h.unacknowledged
  refine ⟨hc.settled h.settled, fun hs => by rw [hc.localFinSent, h.sending (hc.sending hs)],
    by rw [hc.sendNext, hc.localFinSent, hn], ?_⟩
  simp only [localFinAcknowledged] at hu ⊢
  rw [hc.localFinSent, hc.sendNext, huna]
  cases sent : c.localFinSent with
  | false =>
    simp only [sent, Bool.false_and, finOctet_false, BitVec.add_zero] at hn hu ⊢
    rw [hn, hu]
    have same : (processed && acknowledgmentAdvances acknowledgment una next) =
        (carried && acknowledgmentAdvances acknowledgment una next) := by
      cases advances : acknowledgmentAdvances acknowledgment una next with
      | false => simp
      | true =>
        cases carries : carried with
        | true => rw [hdata carries advances]
        | false =>
          cases processes : processed with
          | false => rfl
          | true => exact absurd (hcarried processes) (by simp [carries])
    rw [same]
  | true =>
    simp only [sent, finOctet_true, Bool.true_and] at hn hu ⊢
    have inside := @acknowledgmentAdvances_iff acknowledgment una next (by omega)
    by_cases finished : c.sendUnacknowledged = c.sendNext
    · rw [beq_iff_eq.mpr finished, finOctet_true] at hu
      have empty : una = next := by
        bv_omega
      rw [empty, finished, acknowledgmentAdvances_self, acknowledgmentAdvances_self]
      simp [hn]
    · rw [beq_eq_false_iff_ne.mpr finished, finOctet_false, BitVec.add_zero] at hu
      have inside' := @acknowledgmentAdvances_iff acknowledgment c.sendUnacknowledged c.sendNext
        (by rw [hn, hu]; bv_omega)
      rw [hu, hn] at inside'
      by_cases data : (carried && acknowledgmentAdvances acknowledgment una next) = true
      · obtain ⟨carries, advances⟩ := Bool.and_eq_true _ _ ▸ data
        have range := inside.mp advances
        have advances' : acknowledgmentAdvances acknowledgment c.sendUnacknowledged c.sendNext =
            true := by
          rw [hu, hn, inside']
          bv_omega
        have unfinished : (acknowledgment == c.sendNext) = false := by
          rw [beq_eq_false_iff_ne, hn]
          intro same
          bv_omega
        simp [hdata carries advances, advances', data, unfinished]
      · rw [if_neg data]
        by_cases fin : (processed && acknowledgmentAdvances acknowledgment c.sendUnacknowledged
            c.sendNext) = true
        · obtain ⟨taken, range⟩ := Bool.and_eq_true _ _ ▸ fin
          rw [hu, hn, inside'] at range
          have outside : ¬ (0 < (acknowledgment - una).toNat ∧
              (acknowledgment - una).toNat ≤ (next - una).toNat) := by
            intro within
            exact data (by rw [hcarried taken, inside.mpr within]; rfl)
          have last : acknowledgment = c.sendNext := by
            bv_omega
          have empty := hfin taken sent last
          rw [if_pos fin, last, beq_self_eq_true, hn, empty, finOctet_true]
        · rw [if_neg fin, beq_eq_false_iff_ne.mpr finished, hu, finOctet_false, BitVec.add_zero]

end Agrees

/-! ## Before the stream exists -/

/-- A control block that has sent nothing but its SYN. -/
structure Opening (c : ControlBlock) : Prop where
  listen : c.state = .listen → c.localFinSent = false
  synSent : c.state = .synSent → c.localFinSent = false ∧
    c.sendUnacknowledged = c.initialSendSequence ∧ c.sendNext = c.initialSendSequence + 1#32
  synReceived : c.state = .synReceived → c.localFinSent = false ∧
    c.sendNext = c.sendUnacknowledged + 1#32
  established : c.state = .established → c.localFinSent = false ∧ c.sendUnacknowledged = c.sendNext

namespace Opening

variable {c c' : ControlBlock}

theorem past (hs : Connection.handshaking c.state = false) (he : c.state ≠ .established) :
    Opening c := by
  constructor <;> intro hstate <;> simp [hstate, Connection.handshaking] at hs he

theorem open_ (hstate : c.state = .established) (hfin : c.localFinSent = false)
    (huna : c.sendUnacknowledged = c.sendNext) : Opening c := by
  constructor <;> intro h <;> first | exact ⟨hfin, huna⟩ | (rw [hstate] at h; cases h)

theorem received (hstate : c.state = .synReceived) (hfin : c.localFinSent = false)
    (hnext : c.sendNext = c.sendUnacknowledged + 1#32) : Opening c := by
  constructor <;> intro h <;> first | exact ⟨hfin, hnext⟩ | (rw [hstate] at h; cases h)

theorem listening (hstate : c.state = .listen) (hfin : c.localFinSent = false) : Opening c := by
  constructor <;> intro h <;> first | exact hfin | (rw [hstate] at h; cases h)

variable (h : c.Opening)
include h

theorem continues (hs : Connection.handshaking c.state = false) (hc : Continues c c')
    (huna : c.state = .established →
      c'.sendUnacknowledged = c.sendUnacknowledged) : c'.Opening := by
  by_cases he : c'.state = .established
  · have before := hc.established he
    obtain ⟨hfin, hsame⟩ := h.established before
    exact open_ he (hc.localFinSent.trans hfin) (by rw [huna before, hc.sendNext, hsame])
  · exact past (hc.settled hs) he

theorem passiveOpen (hfin : c.localFinSent = false) : c.passiveOpen.1.Opening := by
  unfold ControlBlock.passiveOpen
  split
  · exact h
  · exact listening rfl hfin

theorem activeOpen (hfin : c.localFinSent = false) (initial : BitVec 32) (now : Instant) :
    (c.activeOpen initial now).1.Opening := by
  unfold ControlBlock.activeOpen
  split
  · exact h
  · constructor <;> intro hstate <;> first | exact ⟨hfin, rfl, rfl⟩ | cases hstate

theorem close (now : Instant) : (c.close now).1.Opening := by
  unfold ControlBlock.close
  split
  · exact past rfl (by simp)
  split
  · exact h
  dsimp only [trackControl]
  split
  · exact past rfl (by simp)
  · exact past rfl (by simp)

theorem serviceDeadline (now : Instant) : (c.serviceDeadline now).1.Opening := by
  unfold ControlBlock.serviceDeadline
  split
  · exact past rfl (by simp)
  split
  · exact h
  · exact ⟨h.listen, h.synSent, h.synReceived, h.established⟩

theorem onListen (hstate : c.state = .listen) (segment : View) (initial : BitVec 32) (now : Instant)
    (window : BitVec 32) : (c.onListen segment initial now window).1.Opening := by
  unfold ControlBlock.onListen
  repeat' split
  · exact h
  · exact h
  · exact h
  · exact received rfl (h.listen hstate) rfl

theorem onSynSent (hstate : c.state = .synSent) (segment : View) (now : Instant)
    (window : BitVec 32) : (c.onSynSent segment now window).1.Opening := by
  obtain ⟨hfin, huna, hnext⟩ := h.synSent hstate
  unfold ControlBlock.onSynSent
  dsimp only
  split
  · exact h
  split
  · split
    · exact past rfl (by simp)
    · exact h
  · split
    · exact h
    · split
      · rename_i acceptable
        simp only [asserted, Serial.after_iff, Serial.beforeOrEqual_iff] at acceptable
        obtain ⟨_, heq⟩ := acknowledgeControl_eq
          { c with
            initialReceiveSequence := segment.sequence, receiveNext := segment.sequence + 1#32,
            sendWindow := window, sendWindowSequence := segment.sequence,
            sendWindowAcknowledgment := segment.acknowledgment
            sendUnacknowledged := segment.acknowledgment }
        rw [heq]
        refine open_ rfl hfin ?_
        bv_omega
      · exact received rfl hfin (by simp [synAck, trackControl, huna, hnext])

theorem onReset (hstate : c.state = .synReceived) (segment : View) :
    (c.onReset segment).1.Opening := by
  unfold ControlBlock.onReset
  split
  · exact h
  split
  · exact listening rfl (h.synReceived hstate).1
  · exact past rfl (by simp)

theorem processText (hs : Connection.handshaking c.state = false) (segment : View) (became : Bool)
    (now : Instant) : (c.processText segment became now).1.Opening := by
  obtain ⟨continues, una⟩ := processText_continues hs segment became now
  exact h.continues hs continues fun _ => una

theorem onAcknowledgment (hstate : c.state = .synReceived) (segment : View) (now : Instant)
    (window : BitVec 32) : (c.onAcknowledgment segment now window).1.Opening := by
  obtain ⟨hfin, hnext⟩ := h.synReceived hstate
  unfold ControlBlock.onAcknowledgment processAcknowledgment
  rw [if_pos (by simp [hstate])]
  by_cases advances : acknowledgmentAdvances segment.acknowledgment c.sendUnacknowledged
      c.sendNext = true
  · have last : segment.acknowledgment = c.sendNext := by
      rw [acknowledgmentAdvances_iff (by rw [hnext]; bv_omega)] at advances
      bv_omega
    obtain ⟨_, heq⟩ := acknowledgeControl_eq
      { c with
        sendUnacknowledged := segment.acknowledgment, sendWindow := window,
        sendWindowSequence := segment.sequence, sendWindowAcknowledgment := segment.acknowledgment }
    simp only [advances, heq]
    apply processText _ rfl segment true now
    exact open_ rfl hfin last
  · simp [advances]
    exact h

theorem onSegment (segment : View) (initial : BitVec 32) (now : Instant)
    (window : Option (BitVec 32)) : (c.onSegment segment initial now window).1.Opening := by
  by_cases hs : Connection.handshaking c.state = true
  · unfold ControlBlock.onSegment
    split
    · exact h
    cases hstate : c.state with
    | listen => exact h.onListen hstate segment initial now _
    | synSent => exact h.onSynSent hstate segment now _
    | synReceived =>
      unfold onSynchronized
      dsimp only
      repeat' split
      · rename_i fin
        simp [repeatedFin, hstate] at fin
      · exact h
      · exact h
      · exact h.onReset hstate segment
      · exact h
      · exact h
      · exact h.onAcknowledgment hstate segment now _
    | closed | established | finWait1 | finWait2 | closeWait | closing | lastAck | timeWait =>
      simp [hstate, Connection.handshaking] at hs
  · have settled : Connection.handshaking c.state = false := by simpa using hs
    have effect := onSegment_settled settled segment initial now window
    refine h.continues settled effect.continues fun hstate => ?_
    rw [effect.unacknowledged, (h.established hstate).2, acknowledgmentAdvances_self]
    simp

/-- At the first data sequence number the two owners agree. -/
theorem agrees (hstate : c.state = .established) : c.Agrees c.sendNext c.sendNext := by
  obtain ⟨hfin, huna⟩ := h.established hstate
  refine ⟨by rw [hstate]; rfl, fun _ => hfin, by simp [hfin], ?_⟩
  simp [localFinAcknowledged, hfin, huna]

end Opening

end ControlBlock

/-- Where SND.NXT of the data sender stands once the transition is admitted. -/
def PendingTransition.target (p : PendingTransition) (next : BitVec 32) : BitVec 32 :=
  if p.senderTransmissionPresent && !p.senderTransmission.range.retransmission then
    next + p.senderTransmission.range.length
  else next

namespace Connection

/-- The control block has no stream behind it, or gives it up, when it is opened. -/
def reopens (c : Connection) : Bool := c.control.state == .closed || c.control.state == .listen

/-- The control block processes every acknowledgment by which the sender releases
data, the FIN is not acknowledged together with data, and a connection is opened
only once. -/
def inStep (c : Connection) : ConnectionOp → Bool
  | .listen | .prepareActiveOpen _ _ _ => !c.reopens || (c.sender.isNone && !c.control.localFinSent)
  | .prepareIngress bytes _ _ now =>
    match c.reached bytes now, c.sender with
    | some segment, some s =>
      (!has segment.flags Flag.ack || !acknowledgmentAdvances segment.acknowledgment
          s.bytes.sendUnacknowledged s.bytes.sendNext || c.control.processes segment) &&
        (!c.control.processes segment || !c.control.localFinSent ||
          segment.acknowledgment != c.control.sendNext ||
          s.bytes.sendUnacknowledged == s.bytes.sendNext)
    | _, _ => true
  | _ => true

/-- The control block agrees with the live sender, and what is staged will agree
with the sender it leaves. -/
structure AgreesWith (c : Connection) (s : Sender) : Prop where
  live : c.control.Agrees s.bytes.sendUnacknowledged s.bytes.sendNext
  staged : ∀ p, c.pending = some p →
    p.control.Agrees s.bytes.sendUnacknowledged (p.target s.bytes.sendNext)

variable {c c' : Connection} {s t : Sender} {origin : BitVec 32} {stream : SendStream}

theorem flight_bounded (h : s.Steady origin stream) :
    (s.bytes.sendNext - s.bytes.sendUnacknowledged).toNat ≤ 0x40000000 := by
  have hf := h.bytes.flight
  have hspan := h.bytes.span
  have hsent := stream.sent_le
  rw [SendBuffer.flightSize, if_pos h.bytes.valid] at hf
  omega

theorem Publishes.sender {control : ControlBlock} (h : c.Publishes c' control t) :
    c'.sender = some t := by
  obtain ⟨_, _, _, _, _, rfl | ⟨_, _, _, rfl, _⟩⟩ := h
  · rfl
  · rfl

theorem Publishes.control {control : ControlBlock} (h : c.Publishes c' control t) :
    c'.control = control := by
  obtain ⟨_, _, _, _, _, rfl | ⟨_, _, _, rfl, _⟩⟩ := h
  · rfl
  · rfl

/-- With a stream behind it, a connection hands every segment it reaches to the
stream. -/
theorem Streamed.present (h : c.Streamed s origin stream)
    (hs : handshaking c.control.state = false) :
    ¬ (c.sender = none ∨ c.receiver = none ∨ c.receiveWindow = none ∨
      handshaking c.control.state = true) := by
  have receiver := h.receiver
  have window := h.receiveWindow
  rintro (hm | hm | hm | hm)
  · rw [h.sender] at hm
    cases hm
  · rw [hm] at receiver
    cases receiver
  · rw [hm] at window
    cases window
  · rw [hs] at hm
    cases hm

/-- What the receive side adds to a segment's effect does not touch the send side. -/
theorem Settles.continues {control : ControlBlock} {segment : View}
    {outcome : ControlBlock × ControlResult} (h : Settles outcome control)
    (hs : handshaking c.control.state = false)
    (effect : ControlBlock.SegmentEffect c.control segment outcome) :
    ControlBlock.Continues c.control control ∧
      control.sendUnacknowledged = outcome.1.sendUnacknowledged := by
  rcases h with rfl | ⟨_, _, _, _, _, committed⟩
  · exact ⟨effect.continues, rfl⟩
  · obtain ⟨continues, una⟩ := ControlBlock.commitReceivedData_continues
      (effect.continues.settled hs) committed
    exact ⟨effect.continues.trans continues, una⟩

theorem acknowledgeData_edges (c : Connection) (h : s.Steady origin stream) (segment : View)
    (typed : TypedOptions) (options : OptionState) (now : Instant) :
    (c.acknowledgeData s segment typed options now).bytes.sendUnacknowledged =
      (if has segment.flags Flag.ack && acknowledgmentAdvances segment.acknowledgment
        s.bytes.sendUnacknowledged s.bytes.sendNext then segment.acknowledgment
      else s.bytes.sendUnacknowledged) ∧
    (c.acknowledgeData s segment typed options now).bytes.sendNext = s.bytes.sendNext := by
  rcases c.acknowledgeData_steady h segment typed options now with
    ⟨outside, same, _⟩ | ⟨inside, next, _, hsent, _, hcounter, steady⟩
  · simp [outside, same]
  · rw [if_pos inside]
    exact ⟨steady.bytes.unacknowledged.trans hcounter.symm,
      by rw [steady.bytes.next, hsent, h.bytes.next]⟩

theorem activeOpen_same (h : c.reopens = false) (initial : BitVec 32) (now : Instant) :
    (c.control.activeOpen initial now).1 = c.control := by
  simp only [reopens, refuted] at h
  unfold ControlBlock.activeOpen
  rw [if_pos (by simp [h.1, h.2])]

theorem passiveOpen_same (h : c.reopens = false) : c.control.passiveOpen.1 = c.control := by
  simp only [reopens, refuted] at h
  unfold ControlBlock.passiveOpen
  rw [if_pos (by simp [h.1])]

namespace AgreesWith

theorem idle (h : c'.control.Agrees s.bytes.sendUnacknowledged s.bytes.sendNext)
    (hpending : c'.pending = none) : c'.AgreesWith s :=
  ⟨h, fun p hp => by rw [hpending] at hp; cases hp⟩

variable (h : c.AgreesWith s)
include h

theorem stages {candidate : ControlBlock} (hs : c.Stages c' candidate)
    (hc : candidate.Agrees s.bytes.sendUnacknowledged s.bytes.sendNext) : c'.AgreesWith s := by
  rcases hs with rfl | ⟨_, p, token, rfl, hcontrol, _, hpresent⟩
  · exact h
  · refine ⟨h.live, ?_⟩
    rintro _ ⟨⟩
    simpa [hcontrol, PendingTransition.target, hpresent] using hc

theorem transmits {selected : Sender × PreparedTransmission} (hbytes : selected.1.bytes = s.bytes)
    (ht : c.Transmits c' selected) : c'.AgreesWith selected.1 := by
  have live : c.control.Agrees selected.1.bytes.sendUnacknowledged selected.1.bytes.sendNext := by
    rw [hbytes]
    exact h.live
  obtain ⟨hpending, rfl | ⟨p, token, rfl, _, hpresent, hintent, moved⟩⟩ := ht
  · exact idle live hpending
  · refine ⟨live, ?_⟩
    rintro _ ⟨⟩
    rcases moved with ⟨repair, same⟩ | ⟨fresh, committed, _⟩
    · simpa [PendingTransition.target, hintent, repair, same] using live
    · simpa [PendingTransition.target, hpresent, hintent, fresh] using live.commitSentData committed

omit h in
theorem publishes (hpending : c.pending = none) {control : ControlBlock}
    (hc : control.Agrees t.bytes.sendUnacknowledged t.bytes.sendNext)
    (hp : c.Publishes c' control t) : c'.AgreesWith t := by
  obtain ⟨_, _, _, _, _, staged⟩ := hp
  apply stages _ staged hc
  exact idle hc hpending

variable (hs : c.Streamed s origin stream)
include hs

theorem stepIngress {bytes : List Octet} {initial : BitVec 32} {outputSize : Nat} {now : Instant}
    (hok : c.inStep (.prepareIngress bytes initial outputSize now) = true) :
    ∃ t, (c.step (.prepareIngress bytes initial outputSize now)).sender = some t ∧
      (c.step (.prepareIngress bytes initial outputSize now)).AgreesWith t := by
  rcases c.prepareIngress_cases bytes initial outputSize now with staged |
    ⟨segment, typed, options, reaches, ⟨missing, staged⟩ |
      ⟨live, receiver, window, hlive, hr, _, hh, heq⟩⟩
  · exact ⟨s, (hs.stages staged).sender, h.stages staged h.live⟩
  · exact absurd missing (hs.present h.live.settled)
  · rw [hs.sender] at hlive
    cases hlive
    obtain ⟨_, hpending⟩ := refusal_none reaches.ready
    simp only [inStep, reaches.reached, hs.sender, asserted] at hok
    obtain ⟨hdata, hfin⟩ := hok
    have effect := ControlBlock.onSegment_settled hh segment initial now
      (some (decodedWindow options segment))
    simp only [step]
    rw [heq]
    rcases c.ingestStream_cases s receiver window _ segment typed options outputSize now with
      ⟨control, settles, published⟩ | ⟨_, _, stored, hdropped⟩
    · have moved := settles.continues hh effect
      have carries : c.control.processes segment = true → has segment.flags Flag.ack = true := by
        simp only [ControlBlock.processes, asserted]
        exact And.right
      have agrees := h.live.acknowledged (flight_bounded hs.steady) moved.1
        (moved.2.trans effect.unacknowledged) carries
        (fun carried advances => by simpa [carried, advances] using hdata)
        (fun processed sent last => by simpa [processed, sent, last] using hfin)
      obtain ⟨una, next⟩ := c.acknowledgeData_edges hs.steady segment typed options now
      rw [← una, ← next] at agrees
      exact ⟨_, published.sender, publishes hpending agrees published⟩
    · rw [hdropped]
      exact ⟨_, rfl, idle h.live hpending⟩

/-- A segment that the control block does not process acknowledges nothing on either
side. -/
theorem unprocessed {bytes : List Octet} {initial : BitVec 32} {outputSize : Nat} {now : Instant}
    {segment : View} (hok : c.inStep (.prepareIngress bytes initial outputSize now) = true)
    (hreached : c.reached bytes now = some segment) (hskipped : c.control.processes segment = false) :
    (c.step (.prepareIngress bytes initial outputSize now)).control.sendUnacknowledged =
      c.control.sendUnacknowledged ∧
    ∃ t, (c.step (.prepareIngress bytes initial outputSize now)).sender = some t ∧
      t.bytes.sendUnacknowledged = s.bytes.sendUnacknowledged := by
  simp only [inStep, hreached, hs.sender, hskipped, settled] at hok
  have outside : (has segment.flags Flag.ack && acknowledgmentAdvances segment.acknowledgment
      s.bytes.sendUnacknowledged s.bytes.sendNext) = false := by
    rw [← Bool.not_eq_true', Bool.not_and]
    exact hok
  simp only [Connection.step]
  rcases c.prepareIngress_cases bytes initial outputSize now with staged |
    ⟨segment', typed, options, reaches, ⟨missing, _⟩ |
      ⟨live, receiver, window, hlive, hr, _, hh, heq⟩⟩
  · rcases staged with same | ⟨_, p, token, heq, _⟩
    · rw [same]
      exact ⟨rfl, s, hs.sender, rfl⟩
    · rw [heq]
      exact ⟨rfl, s, hs.sender, rfl⟩
  · exact absurd missing (hs.present h.live.settled)
  · have same := reaches.reached.symm.trans hreached
    cases same
    rw [hs.sender] at hlive
    cases hlive
    have effect := ControlBlock.onSegment_settled hh segment initial now
      (some (decodedWindow options segment))
    have una := effect.unacknowledged
    rw [hskipped, Bool.false_and] at una
    obtain ⟨edge, _⟩ := c.acknowledgeData_edges hs.steady segment typed options now
    rw [outside] at edge
    rw [heq]
    rcases c.ingestStream_cases s receiver window _ segment typed options outputSize now with
      ⟨control, settles, published⟩ | ⟨_, _, stored, hdropped⟩
    · rw [published.control, (settles.continues hh effect).2]
      exact ⟨una, _, published.sender, edge⟩
    · rw [hdropped]
      exact ⟨rfl, _, rfl, rfl⟩

theorem stepCommit (prepared : PreparedConnectionSegment) (now : Instant) :
    ∃ t, (c.step (.commit prepared now)).sender = some t ∧
      (c.step (.commit prepared now)).AgreesWith t := by
  simp only [step]
  rcases c.commit_cases prepared now with same | ⟨p, timestamps, hp, _, installed⟩
  · rw [same]
    exact ⟨s, hs.sender, h⟩
  · obtain ⟨copy, _, hstaged, staged, shaped⟩ := hs.stagedSender hp
    obtain ⟨older, _, hreleased, hsent, steady⟩ := staged.steady
    have agrees := h.staged p hp
    have una : copy.bytes.sendUnacknowledged = s.bytes.sendUnacknowledged := by
      have := steady.bytes.unacknowledged
      rw [hreleased, ← hs.steady.bytes.unacknowledged] at this
      exact this
    have next : copy.bytes.sendNext = s.bytes.sendNext := by
      have := steady.bytes.next
      rw [hsent, ← hs.steady.bytes.next] at this
      exact this
    -- The admitted transition brings its control block and its copy of the sender.
    have admits : ∀ t : Sender, t.bytes.sendUnacknowledged = s.bytes.sendUnacknowledged →
        t.bytes.sendNext = p.target s.bytes.sendNext →
        (c.install { p with timestamps } (some t) now).AgreesWith t := by
      intro t huna hnext
      obtain ⟨hcontrol, _, hpending, _⟩ := c.install_some { p with timestamps } t now
      apply idle _ hpending
      rw [hcontrol, huna, hnext]
      exact agrees
    rcases installed with ⟨absent, heq⟩ | ⟨_, missing, _⟩ | ⟨present, sender, hsender, rest⟩
    · rw [heq, hstaged]
      refine ⟨_, (c.install_some _ _ now).2.1, admits _ una ?_⟩
      rw [PendingTransition.target, absent]
      exact next
    · rw [hstaged] at missing
      cases missing
    · rw [hstaged] at hsender
      cases hsender
      rcases steady.commit (shaped present) now with refused |
        ⟨admitted, final, _, hfinal, finalSteady, moved⟩
      · rcases rest with ⟨admitted, _⟩ | ⟨_, heq⟩
        · rw [refused] at admitted
          cases admitted
        · rw [heq, refused, hs.sender]
          refine ⟨s, rfl, h.live, ?_⟩
          rintro _ ⟨⟩
          exact agrees
      · rcases rest with ⟨_, heq⟩ | ⟨rejected, _⟩
        · rw [heq]
          refine ⟨_, (c.install_some _ _ now).2.1, admits _ ?_ ?_⟩
          · rw [finalSteady.bytes.unacknowledged, hfinal, hreleased, hs.steady.bytes.unacknowledged]
          · rw [moved, PendingTransition.target, present]
            simp only [Sender.share, next]
            cases p.senderTransmission.range.retransmission <;> rfl
        · rw [rejected] at admitted
          cases admitted

theorem step {op : ConnectionOp} (hok : c.inStep op = true) :
    ∃ t, (c.step op).sender = some t ∧ (c.step op).AgreesWith t := by
  have staying : ∀ {c' : Connection}, c'.sender = some s → c'.control = c.control →
      c'.pending = c.pending → ∃ t, c'.sender = some t ∧ c'.AgreesWith t := by
    intro c' hsender hcontrol hpending
    exact ⟨s, hsender, hcontrol ▸ h.live, fun p hp => h.staged p (hpending ▸ hp)⟩
  have kept (closed : c.inStep .listen = true) : c.reopens = false := by
    simpa [inStep, hs.sender] using closed
  have moves := c.step_moves op
  generalize c.step op = c' at moves ⊢
  cases moves with
  | stays _ hs' => exact ⟨s, (hs.stages hs').sender, h.stages hs' h.live⟩
  | listen =>
    rw [passiveOpen_same (kept hok)]
    exact staying hs.sender rfl rfl
  | activeOpen hs' =>
    rw [activeOpen_same (kept hok)] at hs'
    exact ⟨s, (hs.stages hs').sender, h.stages hs' h.live⟩
  | ingress => exact h.stepIngress hs hok
  | close hs' =>
    exact ⟨s, (hs.stages hs').sender, h.stages hs' (h.live.close (flight_bounded hs.steady) _)⟩
  | service hs' => exact ⟨s, (hs.stages hs').sender, h.stages hs' (h.live.serviceDeadline _)⟩
  | @deadline _ _ now _ live ht =>
    cases hs.sender.symm.trans live
    have selects := selectDeadline_selects hs.steady now
    exact ⟨_, (hs.transmits selects ht).sender, h.transmits selects.bytes ht⟩
  | @data _ _ pushed now _ live ht =>
    cases hs.sender.symm.trans live
    have selects := selectData_selects hs.steady pushed now
    exact ⟨_, (hs.transmits selects ht).sender, h.transmits selects.bytes ht⟩
  | commit prepared now => exact h.stepCommit hs prepared now
  | discard => exact ⟨s, hs.sender, idle h.live rfl⟩
  | write bytes now live =>
    cases hs.sender.symm.trans live
    obtain ⟨_, heq⟩ := Sender.write_frame hs.steady.valid bytes now
    have edges : (s.write bytes now).1.bytes.sendUnacknowledged = s.bytes.sendUnacknowledged ∧
        (s.write bytes now).1.bytes.sendNext = s.bytes.sendNext := by
      rw [heq]
      unfold SendBuffer.write
      dsimp only
      split
      · exact ⟨rfl, rfl⟩
      · exact ⟨rfl, rfl⟩
    refine ⟨_, rfl, ?_, fun p hp => ?_⟩
    · rw [edges.1, edges.2]
      exact h.live
    · rw [edges.1, edges.2]
      exact h.staged p hp
  | read outputSize now =>
    rcases c.read_cases outputSize now with same | ⟨_, _, _, _, heq⟩
    · rw [same]
      exact ⟨s, hs.sender, h⟩
    · rw [heq]
      exact ⟨s, hs.sender, h.live.continues (.stays rfl rfl rfl) rfl, h.staged⟩
  | policy _ none => cases hs.sender.symm.trans none
  | reduce policy senderMss live =>
    cases hs.sender.symm.trans live
    have bytes : (s.reduceMss senderMss).1.bytes = s.bytes := by
      rcases s.reduceMss_cases senderMss with same | ⟨_, reduced⟩
      · rw [same]
      · rw [reduced]
    refine ⟨_, rfl, ?_, fun p hp => ?_⟩
    · rw [bytes]
      exact h.live
    · rw [bytes]
      exact h.staged p hp

end AgreesWith

/-! ## Before the stream is opened -/

/-- Neither the live nor the staged control block has sent more than a SYN. -/
structure Opening (c : Connection) : Prop where
  live : c.control.Opening
  staged : ∀ p, c.pending = some p → p.control.Opening

namespace Opening

theorem idle (h : c'.control.Opening) (hpending : c'.pending = none) : c'.Opening :=
  ⟨h, fun p hp => by rw [hpending] at hp; cases hp⟩

theorem stages (h : c.Opening) {candidate : ControlBlock} (hs : c.Stages c' candidate)
    (hc : candidate.Opening) : c'.Opening := by
  rcases hs with rfl | ⟨_, p, token, rfl, hcontrol, _, _⟩
  · exact h
  · refine ⟨h.live, ?_⟩
    rintro _ ⟨⟩
    rw [hcontrol]
    exact hc

theorem stepCommit (h : c.Opening) (hu : c.Unopened) (prepared : PreparedConnectionSegment)
    (now : Instant) : (c.step (.commit prepared now)).Opening := by
  simp only [step]
  rcases c.commit_cases prepared now with same | ⟨p, timestamps, hp, _, installed⟩
  · rw [same]
    exact h
  · obtain ⟨hsender, hpresent⟩ := hu.pending p hp
    rcases installed with ⟨_, heq⟩ | ⟨present, _⟩ | ⟨present, _⟩
    · obtain ⟨hcontrol, hpending, _⟩ := c.install_none { p with timestamps } now
      have hstaged : c.stagedSender p = none := by simp only [stagedSender, hsender]
      rw [heq, hstaged]
      apply idle _ hpending
      rw [hcontrol]
      exact h.staged p hp
    · rw [hpresent] at present
      cases present
    · rw [hpresent] at present
      cases present

theorem step (h : c.Opening) (hu : c.Unopened) {op : ConnectionOp} (hok : c.inStep op = true) :
    (c.step op).Opening := by
  have fresh (closed : c.inStep .listen = true) :
      c.reopens = false ∨ c.control.localFinSent = false := by
    simpa [inStep, hu.sender] using closed
  have moves := c.step_moves op
  generalize c.step op = c' at moves ⊢
  cases moves with
  | stays _ hs => exact h.stages hs h.live
  | listen =>
    refine ⟨?_, h.staged⟩
    rcases fresh hok with past | unsent
    · rw [passiveOpen_same past]
      exact h.live
    · exact h.live.passiveOpen unsent
  | activeOpen hs =>
    apply h.stages hs
    rcases fresh hok with past | unsent
    · rw [activeOpen_same past]
      exact h.live
    · exact h.live.activeOpen unsent _ _
  | ingress bytes initial outputSize now =>
    rcases c.prepareIngress_cases bytes initial outputSize now with staged |
      ⟨segment, _, options, _, ⟨_, staged⟩ | ⟨_, _, _, live, _⟩⟩
    · exact h.stages staged h.live
    · exact h.stages staged (h.live.onSegment segment initial now _)
    · cases hu.sender.symm.trans live
  | close hs => exact h.stages hs (h.live.close _)
  | service hs => exact h.stages hs (h.live.serviceDeadline _)
  | commit prepared now => exact h.stepCommit hu prepared now
  | discard => exact idle h.live rfl
  | read outputSize now =>
    rcases c.read_cases outputSize now with same | ⟨_, _, _, _, heq⟩
    · rw [same]
      exact h
    · rw [heq]
      exact ⟨⟨h.live.listen, h.live.synSent, h.live.synReceived, h.live.established⟩, h.staged⟩
  | policy => exact ⟨h.live, h.staged⟩
  | deadline live | data live | write _ _ live | reduce _ _ live =>
    cases hu.sender.symm.trans live

/-- The transition that opens the stream starts both owners at one number. -/
theorem opens (h : c.Opening) (ho : Unopened.Opens c c') :
    ∃ s origin stream, c'.Streamed s origin stream ∧ c'.AgreesWith s := by
  obtain ⟨p, s, hp, hstate, hcontrol, hpending, streamed⟩ := ho
  refine ⟨s, _, _, streamed, AgreesWith.idle ?_ hpending⟩
  have una := streamed.steady.bytes.unacknowledged
  have next := streamed.steady.bytes.next
  simp only [emptyStream, Serial.counter_zero] at una next
  rw [hcontrol, una, next]
  exact (h.staged p hp).agrees hstate

end Opening

/-- A connection either has no stream yet, or both owners of its sequence numbers
agree. -/
def InAgreement (c : Connection) : Prop :=
  c.Unopened ∧ c.Opening ∨
  ∃ s origin stream, c.Streamed s origin stream ∧ c.AgreesWith s

theorem create_inAgreement (tuple : ConnectionTuple) (policy : ConnectionOptionPolicy)
    (storage : ConnectionStorage) (timestampOrigin : Instant) :
    (create tuple policy storage timestampOrigin).InAgreement :=
  .inl ⟨create_unopened tuple policy storage timestampOrigin,
    Opening.idle (ControlBlock.Opening.past rfl (fun h => by cases h)) rfl⟩

theorem step_inAgreement (c : Connection) (op : ConnectionOp) (h : c.InAgreement)
    (hok : c.inStep op = true) : (c.step op).InAgreement := by
  rcases h with ⟨unopened, opening⟩ | ⟨s, origin, stream, streamed, agrees⟩
  · rcases unopened.step op with still | opens
    · exact .inl ⟨still, opening.step unopened hok⟩
    · exact .inr (opening.opens opens)
  · obtain ⟨t, next, streamed', _⟩ := streamed.step op
    obtain ⟨u, hsender, agrees'⟩ := agrees.step streamed hok
    rw [streamed'.sender] at hsender
    cases hsender
    exact .inr ⟨t, origin, next, streamed', agrees'⟩

end Connection

/-- Along every run in which the control block processes whatever acknowledges data,
no acknowledgment takes the FIN together with data and no connection is opened over
a stream: the control block's SND.UNA is the sender's, one further exactly when the
FIN is acknowledged, by which time the sender has released everything it sent; and a
segment that the control block does not process moves neither. -/
theorem control_and_sender_agree (tuple : ConnectionTuple) (policy : ConnectionOptionPolicy)
    (storage : ConnectionStorage) (timestampOrigin : Instant) (ops : List ConnectionOp)
    (h : Runs.Along Connection.step (fun c op => c.inStep op = true)
      (Connection.create tuple policy storage timestampOrigin) ops) :
    ∀ c s, c = run Connection.step (Connection.create tuple policy storage timestampOrigin) ops →
      c.sender = some s →
      c.control.sendUnacknowledged =
        s.bytes.sendUnacknowledged + finOctet c.control.localFinAcknowledged ∧
      (c.control.localFinAcknowledged = true → s.bytes.sendUnacknowledged = s.bytes.sendNext) ∧
      ∀ bytes initial outputSize now segment,
        c.inStep (.prepareIngress bytes initial outputSize now) = true →
        c.reached bytes now = some segment → c.control.processes segment = false →
        (c.step (.prepareIngress bytes initial outputSize now)).control.sendUnacknowledged =
          c.control.sendUnacknowledged ∧
        ∃ t, (c.step (.prepareIngress bytes initial outputSize now)).sender = some t ∧
          t.bytes.sendUnacknowledged = s.bytes.sendUnacknowledged := by
  rintro c s rfl live
  have inv := invariant_along (P := Connection.InAgreement) Connection.step_inAgreement
    (Connection.create_inAgreement tuple policy storage timestampOrigin) h
  rcases inv with ⟨unopened, _⟩ | ⟨s', origin, stream, streamed, agrees⟩
  · rw [unopened.sender] at live
    cases live
  · rw [streamed.sender] at live
    cases live
    refine ⟨agrees.live.unacknowledged, agrees.live.finished, ?_⟩
    intro bytes initial outputSize now segment hok hreached hskipped
    exact agrees.unprocessed streamed hok hreached hskipped

namespace Sample

/-- The octet sent is acknowledged, then the FIN that follows it. -/
def finished : List ConnectionOp :=
  sentOctet ++ [fromPeer 501#32 102#32 Flag.ack, .prepareClose 100 0, admission 4#64,
    fromPeer 501#32 103#32 Flag.ack]

/-- The octet sent is acknowledged by a segment outside the receive window. -/
def acknowledgedOutside : List ConnectionOp := sentOctet ++ [fromPeer 5000#32 102#32 Flag.ack]

/-- The octet sent and the FIN are acknowledged together. -/
def acknowledgedTogether : List ConnectionOp :=
  sentOctet ++ [.prepareClose 100 0, admission 4#64, fromPeer 501#32 103#32 Flag.ack]

end Sample

/-- Data and FIN are acknowledged one after the other, and a segment outside the
window then moves nothing. -/
theorem control_and_sender_agree_finished :
    Runs.Along Connection.step (fun c op => c.inStep op = true) closed finished ∧
    ∃ c s, c = run Connection.step closed finished ∧ c.sender = some s ∧
      c.control.localFinAcknowledged = true ∧
      c.control.sendUnacknowledged =
        s.bytes.sendUnacknowledged + finOctet c.control.localFinAcknowledged ∧
      (c.step (fromPeer 5000#32 103#32 Flag.ack)).control.sendUnacknowledged =
        c.control.sendUnacknowledged := by
  have inStep : Runs.Along Connection.step (fun c op => c.inStep op = true) closed
      finished := by decide +kernel
  refine ⟨inStep, ?_⟩
  generalize heq : run Connection.step closed finished = c
  obtain ⟨s, live⟩ : ∃ s, c.sender = some s := by
    rw [← heq]
    exact Option.isSome_iff_exists.mp (by decide +kernel)
  obtain ⟨una, _, skipped⟩ := control_and_sender_agree _ _ _ _ _ inStep c s heq.symm live
  refine ⟨c, s, rfl, live, by rw [← heq]; decide +kernel, una, ?_⟩
  obtain ⟨segment, hreached⟩ : ∃ segment,
      c.reached (peerSegment 5000#32 103#32 Flag.ack) 0 = some segment := by
    rw [← heq]
    exact Option.isSome_iff_exists.mp (by decide +kernel)
  have outside : (c.reached (peerSegment 5000#32 103#32 Flag.ack) 0).all
      (fun segment => !c.control.processes segment) = true := by
    rw [← heq]
    decide +kernel
  rw [hreached] at outside
  refine (skipped _ _ _ _ segment ?_ hreached (by simpa using outside)).1
  rw [← heq]
  decide +kernel

/-- A segment outside the window releases data in the sender only, and the
acknowledgment of data together with the FIN advances the control block only. -/
theorem acknowledged_on_one_side :
    (run Connection.step closed acknowledgedOutside).control.sendUnacknowledged = 101#32 ∧
    (run Connection.step closed acknowledgedOutside).sender.map
      (·.bytes.sendUnacknowledged) = some 102#32 ∧
    (run Connection.step closed acknowledgedTogether).control.localFinAcknowledged = true ∧
    (run Connection.step closed acknowledgedTogether).control.sendUnacknowledged = 103#32 ∧
    (run Connection.step closed acknowledgedTogether).sender.map
      (·.bytes.sendUnacknowledged) = some 101#32 := by
  decide +kernel

end RouterSim.Tcp
