import RouterSim.Tcp.ConnectionRuns

namespace RouterSim.Tcp

/-! ## What the application wrote -/

namespace Connection

/-- The octets from SND.UNA to the end of what was written. -/
def sendQueue (c : Connection) : List Octet :=
  match c.sender with
  | none => []
  | some s => Circular.window s.bytes.storage 0#8 s.bytes.head.toNat s.bytes.queuedOctets.toNat

/-- The octets a write accepts. -/
def acceptedBy (c : Connection) : ConnectionOp → List Octet
  | .write bytes now => bytes.take (c.write bytes now).2
  | _ => []

/-- The front of the queue that SND.UNA moved over. -/
def releasedBetween (c c' : Connection) : List Octet :=
  match c.sender, c'.sender with
  | some s, some t =>
    c.sendQueue.take (t.bytes.sendUnacknowledged - s.bytes.sendUnacknowledged).toNat
  | _, _ => []

/-- An admission finds the queue as long as it was when the segment was prepared,
and no segment that releases data has its payload refused afterwards. -/
def lossless (c : Connection) : ConnectionOp → Bool
  | .commit prepared _ =>
    match c.pending, c.sender with
    | some p, some s =>
      prepared.token != p.token || prepared.emit != p.emitted ||
        p.sender.all (·.bytes.writeNext == s.bytes.writeNext)
    | _, _ => true
  | .prepareIngress bytes _ _ now =>
    match c.reached bytes now, c.sender, c.receiver with
    | some segment, some s, some receiver =>
      handshaking c.control.state || !c.control.processes segment || segment.payload.isEmpty ||
        !acknowledgmentAdvances segment.acknowledgment s.bytes.sendUnacknowledged
          s.bytes.sendNext ||
        c.control.admitsText (receiver.accept segment.sequence segment.payload).2.receiveNext
    | _, _, _ => true
  | _ => true

end Connection

/-- A connection with what was accepted from its application, and what of it the
peer has acknowledged. -/
structure WrittenRun where
  connection : Connection
  accepted : List Octet := []
  acknowledged : List Octet := []

def WrittenRun.step (t : WrittenRun) (op : ConnectionOp) : WrittenRun where
  connection := t.connection.step op
  accepted := t.accepted ++ t.connection.acceptedBy op
  acknowledged := t.acknowledged ++ t.connection.releasedBetween (t.connection.step op)

namespace Connection

variable {c : Connection} {s : Sender} {origin : BitVec 32} {stream : SendStream}

/-- The acknowledgment of a segment releases octets of the stream or leaves the
repository alone. -/
theorem acknowledgeData_steady (c : Connection) (h : s.Steady origin stream) (segment : View)
    (typed : TypedOptions) (options : OptionState) (now : Instant) :
    ((has segment.flags Flag.ack && acknowledgmentAdvances segment.acknowledgment
        s.bytes.sendUnacknowledged s.bytes.sendNext) = false ∧
      (c.acknowledgeData s segment typed options now).bytes = s.bytes ∧
      (c.acknowledgeData s segment typed options now).Steady origin stream) ∨
    ((has segment.flags Flag.ack && acknowledgmentAdvances segment.acknowledgment
        s.bytes.sendUnacknowledged s.bytes.sendNext) = true ∧
      ∃ next : SendStream, next.accepted = stream.accepted ∧ next.sent = stream.sent ∧
        stream.released ≤ next.released ∧
        segment.acknowledgment = Serial.counter origin next.released ∧
        (c.acknowledgeData s segment typed options now).Steady origin next) := by
  unfold acknowledgeData
  split
  · rename_i noAck
    simp only [asserted] at noAck
    exact .inl ⟨by simp [noAck], rfl, h⟩
  · rename_i ack
    simp only [asserted] at ack
    simp only [ack]
    have outcome := h.acknowledge segment.acknowledgment (decodedWindow options segment)
      (segment.payload.isEmpty && segment.acknowledgment == c.control.sendUnacknowledged &&
        decodedWindow options segment == c.control.sendWindow) now
      (c.timestampRtt options typed now) (typed.sackBlocks.toList.take typed.sackBlockCount.toNat)
    split
    · rename_i status
      left
      rcases outcome with ⟨outside, _⟩ | ⟨inside, _⟩
      · exact ⟨outside, rfl, h⟩
      · exfalso
        rcases h.bytes.acknowledge_cases segment.acknowledgment with ⟨hn, _⟩ | ⟨_, hu, _⟩ |
          ⟨_, _, _, _, _, _, _, _, hstatus⟩
        · simp [acknowledgmentAdvances, Serial.beforeOrEqual_iff, Serial.after_iff] at inside hn
          bv_omega
        · simp [acknowledgmentAdvances, hu] at inside
        · simp [Sender.acknowledge, h.valid, hstatus] at status
    · rename_i status
      left
      rcases h.bytes.acknowledge_cases segment.acknowledgment with ⟨_, hack⟩ | ⟨_, _, hack⟩ |
        ⟨_, _, _, _, _, _, _, _, hstatus⟩
      · simp [Sender.acknowledge, h.valid, hack] at status
      · simp [Sender.acknowledge, h.valid, hack] at status
      · simp [Sender.acknowledge, h.valid, hstatus] at status
    · exact outcome
    · exact outcome

/-- On a copy that is then dropped, it may still overwrite released octets. -/
theorem share_acknowledgeData (c : Connection) (h : s.Steady origin stream) (segment : View)
    (typed : TypedOptions) (options : OptionState) (now : Instant) :
    ∃ t : SendStream, t.released = stream.released ∧ t.sent = stream.sent ∧
      ((has segment.flags Flag.ack && acknowledgmentAdvances segment.acknowledgment
        s.bytes.sendUnacknowledged s.bytes.sendNext) = false → t.accepted = stream.accepted) ∧
      (s.share (c.acknowledgeData s segment typed options now)).Steady origin t := by
  unfold acknowledgeData
  split
  · exact ⟨stream, rfl, rfl, fun _ => rfl, h⟩
  rename_i ack
  simp only [asserted] at ack
  simp only [ack]
  have shared := h.share_acknowledged segment.acknowledgment (decodedWindow options segment)
    (segment.payload.isEmpty && segment.acknowledgment == c.control.sendUnacknowledged &&
      decodedWindow options segment == c.control.sendWindow) now (c.timestampRtt options typed now)
    (typed.sackBlocks.toList.take typed.sackBlockCount.toNat)
  split
  · exact ⟨stream, rfl, rfl, fun _ => rfl, h⟩
  · exact ⟨stream, rfl, rfl, fun _ => rfl, h⟩
  · exact shared
  · exact shared

theorem listen_cases (c : Connection) :
    c.listen.1 = c ∨ c.pending = none ∧ c.listen.1 = { c with control := c.control.passiveOpen.1 } := by
  unfold listen
  split
  · exact .inl rfl
  rename_i ready
  simp only [asserted, not_or] at ready
  exact .inr ⟨by simpa using ready.2, rfl⟩

/-- What a step can do. Ingress, admissions and reads have cases of their own. -/
inductive Moves (c : Connection) : ConnectionOp → Connection → Prop
  | stays {op : ConnectionOp} {c' : Connection} (quiet : c.acceptedBy op = [])
      (hs : c.Stages c' c.control) : Moves c op c'
  | listen : Moves c .listen { c with control := c.control.passiveOpen.1 }
  | activeOpen {initial : BitVec 32} {outputSize : Nat} {now : Instant} {c' : Connection}
      (hs : c.Stages c' (c.control.activeOpen initial now).1) :
      Moves c (.prepareActiveOpen initial outputSize now) c'
  | ingress (bytes : List Octet) (initial : BitVec 32) (outputSize : Nat) (now : Instant) :
      Moves c (.prepareIngress bytes initial outputSize now)
        (c.prepareIngress bytes initial outputSize now).1
  | close {outputSize : Nat} {now : Instant} {c' : Connection}
      (hs : c.Stages c' (c.control.close now).1) : Moves c (.prepareClose outputSize now) c'
  | service {outputSize : Nat} {now : Instant} {c' : Connection}
      (hs : c.Stages c' (c.control.serviceDeadline now).1) :
      Moves c (.prepareDeadline outputSize now) c'
  | deadline {s : Sender} {outputSize : Nat} {now : Instant} {c' : Connection}
      (live : c.sender = some s) (ht : c.Transmits c' (selectDeadline s now)) :
      Moves c (.prepareDeadline outputSize now) c'
  | data {s : Sender} {outputSize : Nat} {pushed : Bool} {now : Instant} {c' : Connection}
      (live : c.sender = some s) (ht : c.Transmits c' (selectData s pushed now)) :
      Moves c (.prepareData outputSize pushed now) c'
  | commit (prepared : PreparedConnectionSegment) (now : Instant) :
      Moves c (.commit prepared now) (c.commit prepared now).1
  | discard {prepared : PreparedConnectionSegment} :
      Moves c (.discard prepared) { c with pending := none }
  | write {s : Sender} (bytes : List Octet) (now : Instant) (live : c.sender = some s) :
      Moves c (.write bytes now) { c with sender := some (s.write bytes now).1 }
  | read (outputSize : Nat) (now : Instant) :
      Moves c (.read outputSize now) (c.read outputSize now).1
  | policy {maximum : BitVec 32} (policy : ConnectionOptionPolicy) (none : c.sender = none) :
      Moves c (.reduceMaximumTransportMessage maximum) { c with policy }
  | reduce {s : Sender} {maximum : BitVec 32} (policy : ConnectionOptionPolicy)
      (senderMss : BitVec 32) (live : c.sender = some s) :
      Moves c (.reduceMaximumTransportMessage maximum)
        { c with policy, sender := some (s.reduceMss senderMss).1 }

theorem step_moves (c : Connection) (op : ConnectionOp) : c.Moves op (c.step op) := by
  cases op with
  | listen =>
    rcases c.listen_cases with same | ⟨_, heq⟩
    · exact .stays rfl (.inl same)
    · simp [Connection.step, heq]
      exact .listen
  | prepareActiveOpen initial outputSize now =>
    exact .activeOpen (c.prepareActiveOpen_cases initial outputSize now)
  | prepareIngress bytes initial outputSize now => exact .ingress bytes initial outputSize now
  | prepareClose outputSize now => exact .close (c.prepareClose_cases outputSize now)
  | prepareDeadline outputSize now =>
    rcases c.prepareDeadline_cases outputSize now with staged | staged | ⟨s, live, transmits⟩
    · exact .stays rfl staged
    · exact .service staged
    · exact .deadline live transmits
  | prepareData outputSize pushed now =>
    rcases c.prepareData_cases outputSize pushed now with same | ⟨s, live, transmits⟩
    · exact .stays rfl (.inl same)
    · exact .data live transmits
  | commit prepared now => exact .commit prepared now
  | discard prepared =>
    rcases c.discard_cases prepared with same | heq
    · exact .stays rfl (.inl same)
    · simp [Connection.step, heq]
      exact .discard
  | write bytes now =>
    cases live : c.sender with
    | none =>
      have same : c.write bytes now = (c, 0) := by simp only [Connection.write, live]
      exact .stays (by simp [acceptedBy, same]) (.inl (congrArg Prod.fst same))
    | some s =>
      have heq : (c.write bytes now).1 = { c with sender := some (s.write bytes now).1 } := by
        simp [Connection.write, live]
      simp only [Connection.step, heq]
      exact .write bytes now live
  | read outputSize now => exact .read outputSize now
  | reduceMaximumTransportMessage maximum =>
    rcases c.reduceMaximumTransportMessage_cases maximum with same |
      ⟨policy, ⟨heq, none⟩ | ⟨s, senderMss, live, heq⟩⟩
    · exact .stays rfl (.inl same)
    · simp [Connection.step, heq]
      exact .policy policy none
    · simp [Connection.step, heq]
      exact .reduce policy senderMss live

/-! ## Steps of a connection with a stream -/

/-- The stream goes on: nothing released is taken back, and a lossless operation
only appends what it accepts. -/
def Advances (c : Connection) (op : ConnectionOp) (stream next : SendStream) : Prop :=
  stream.released ≤ next.released ∧ next.released ≤ stream.accepted.length ∧
  (c.lossless op = true → next.accepted = stream.accepted ++ c.acceptedBy op)

theorem Advances.same {op : ConnectionOp} (hop : c.acceptedBy op = []) (stream : SendStream) :
    c.Advances op stream stream :=
  ⟨Nat.le_refl _, Nat.le_trans stream.released_le stream.sent_le, fun _ => by simp [hop]⟩

namespace Streamed

variable (h : c.Streamed s origin stream)
include h

theorem stepIngress (bytes : List Octet) (initial : BitVec 32) (outputSize : Nat) (now : Instant) :
    ∃ t next, (c.step (.prepareIngress bytes initial outputSize now)).Streamed t origin next ∧
      c.Advances (.prepareIngress bytes initial outputSize now) stream next := by
  have bound := Nat.le_trans stream.released_le stream.sent_le
  rcases c.prepareIngress_cases bytes initial outputSize now with staged |
    ⟨segment, typed, options, reaches, ⟨_, staged⟩ | ⟨live, receiver, window, hs, hr, _, hh, heq⟩⟩
  · exact ⟨s, stream, h.stages staged, .same rfl stream⟩
  · exact ⟨s, stream, h.stages staged, .same rfl stream⟩
  · rw [h.sender] at hs
    cases hs
    obtain ⟨_, idle⟩ := refusal_none reaches.ready
    simp only [step]
    rw [heq]
    rcases c.ingestStream_cases s receiver window _ segment typed options outputSize now with
      ⟨control, _, published⟩ | ⟨event, ⟨_, _, refused⟩, stored, hdropped⟩
    · rcases c.acknowledgeData_steady h.steady segment typed options now with
        ⟨_, _, steady⟩ | ⟨_, next, haccepted, hsent, hreleased, _, steady⟩
      · exact ⟨_, stream, publishes idle steady published, .same rfl stream⟩
      · refine ⟨_, next, publishes idle steady published, hreleased, ?_, fun _ => ?_⟩
        · rw [← haccepted]
          exact Nat.le_trans next.released_le next.sent_le
        · simp [acceptedBy, haccepted]
    · obtain ⟨t, hreleased, _, haccepted, steady⟩ :=
        c.share_acknowledgeData h.steady segment typed options now
      rw [hdropped]
      refine ⟨_, t, replace idle steady rfl rfl h.receiveWindow rfl, Nat.le_of_eq hreleased.symm,
        hreleased ▸ bound, fun lossless => ?_⟩
      have effect := ControlBlock.onSegment_settled hh segment initial now
        (some (decodedWindow options segment))
      obtain ⟨processed, text⟩ := effect.text event
      simp only [acceptedBy, List.append_nil]
      apply haccepted
      rw [Bool.and_eq_false_iff]
      right
      rw [← Bool.not_eq_true]
      intro advances
      simp [Connection.lossless, reaches.reached, h.sender, hr, hh, processed, text.payload, advances,
        text.refused refused] at lossless

theorem stepCommit (prepared : PreparedConnectionSegment) (now : Instant) :
    ∃ t next, (c.step (.commit prepared now)).Streamed t origin next ∧
      c.Advances (.commit prepared now) stream next := by
  have bound := Nat.le_trans stream.released_le stream.sent_le
  rcases c.commit_cases prepared now with same | ⟨p, timestamps, hp, named, installed⟩
  · simp [step]
    rw [same]
    exact ⟨s, stream, h, .same rfl stream⟩
  · obtain ⟨copy, hcopy, hstaged, staged, shaped⟩ := h.stagedSender hp
    obtain ⟨older, hprefix, hreleased, hsent, steady⟩ := staged.steady
    -- The copy's queue is as long as the live one exactly when nothing was written since.
    have kept : c.lossless (.commit prepared now) = true → older.accepted = stream.accepted := by
      intro lossless
      have same : copy.bytes.writeNext = s.bytes.writeNext := by
        simpa [Connection.lossless, hp, h.sender, hcopy, named.1, named.2] using lossless
      have hold : copy.bytes.writeNext = Serial.counter origin older.accepted.length :=
        steady.bytes.written
      have hq := Serial.counter_sub origin (p := older.accepted.length)
        (q := stream.accepted.length) hprefix.length_le (by
          have := h.steady.bytes.span
          have := older.released_le
          have := older.sent_le
          omega)
      rw [← hold, ← h.steady.bytes.written, same] at hq
      simp only [BitVec.sub_self, BitVec.toNat_ofNat] at hq
      exact hprefix.eq_of_length_le (by omega)
    have advances : ∀ next : SendStream, next.accepted = older.accepted →
        next.released = older.released → c.Advances (.commit prepared now) stream next := by
      intro next haccepted hnext
      refine ⟨by omega, by omega, fun lossless => ?_⟩
      simp [acceptedBy, haccepted, kept lossless]
    simp only [step]
    rcases installed with ⟨_, heq⟩ | ⟨_, missing, _⟩ | ⟨present, sender, hsender, rest⟩
    · rw [heq, hstaged]
      exact ⟨_, older, h.install _ steady now, advances older rfl rfl⟩
    · rw [hstaged] at missing
      cases missing
    · rw [hstaged] at hsender
      cases hsender
      rcases steady.commit (shaped present) now with refused |
        ⟨admitted, next, haccepted, hnext, final, _⟩
      · rcases rest with ⟨admitted, _⟩ | ⟨_, heq⟩
        · rw [refused] at admitted
          cases admitted
        · rw [heq, refused, h.sender]
          refine ⟨s, stream, ⟨rfl, h.steady, h.receiver, h.receiveWindow, ?_⟩, .same rfl stream⟩
          rintro _ ⟨⟩
          exact ⟨copy.share s, rfl, ⟨staged.head, older, hprefix, hreleased, hsent, steady⟩,
            fun _ => shaped present⟩
      · rcases rest with ⟨_, heq⟩ | ⟨rejected, _⟩
        · rw [heq]
          exact ⟨_, next, h.install _ final now, advances next haccepted hnext⟩
        · rw [rejected] at admitted
          cases admitted

theorem step (op : ConnectionOp) :
    ∃ t next, (c.step op).Streamed t origin next ∧ c.Advances op stream next := by
  have bound := Nat.le_trans stream.released_le stream.sent_le
  have moves := c.step_moves op
  generalize c.step op = c' at moves ⊢
  cases moves with
  | stays quiet hs => exact ⟨s, stream, h.stages hs, .same quiet stream⟩
  | activeOpen hs | close hs | service hs => exact ⟨s, stream, h.stages hs, .same rfl stream⟩
  | listen =>
    exact ⟨s, stream, ⟨h.sender, h.steady, h.receiver, h.receiveWindow, h.pending⟩,
      .same rfl stream⟩
  | ingress bytes initial outputSize now => exact h.stepIngress bytes initial outputSize now
  | deadline live ht =>
    cases h.sender.symm.trans live
    exact ⟨_, stream, h.transmits (selectDeadline_selects h.steady _) ht, .same rfl stream⟩
  | data live ht =>
    cases h.sender.symm.trans live
    exact ⟨_, stream, h.transmits (selectData_selects h.steady _ _) ht, .same rfl stream⟩
  | commit prepared now => exact h.stepCommit prepared now
  | discard =>
    exact ⟨s, stream, ⟨h.sender, h.steady, h.receiver, h.receiveWindow, fun _ hp => by cases hp⟩,
      .same rfl stream⟩
  | write bytes now live =>
    cases h.sender.symm.trans live
    obtain ⟨t, next, streamed, hreleased, haccepted⟩ := h.write bytes now
    simp only [Connection.write, live] at streamed
    exact ⟨t, next, streamed, by omega, by omega, fun _ => haccepted⟩
  | read outputSize now =>
    refine ⟨s, stream, ?_, .same rfl stream⟩
    rcases c.read_cases outputSize now with same | ⟨_, _, _, _, heq⟩
    · rw [same]
      exact h
    · rw [heq]
      exact ⟨h.sender, h.steady, rfl, rfl, h.pending⟩
  | policy _ none => cases h.sender.symm.trans none
  | reduce policy senderMss live =>
    cases h.sender.symm.trans live
    exact ⟨_, stream, h.reduce policy senderMss, .same rfl stream⟩

end Streamed

/-! ## Steps of a connection without a stream -/

namespace Unopened

variable {c' : Connection}

theorem stages (h : c.Unopened) {candidate : ControlBlock} (hs : c.Stages c' candidate) :
    c'.Unopened := by
  rcases hs with rfl | ⟨_, p, token, rfl, _, hsender, hpresent⟩
  · exact h
  · refine ⟨h.sender, ?_⟩
    rintro _ ⟨⟩
    exact ⟨hsender.trans h.sender, hpresent⟩

/-- The connection becomes established by the transition admitted here. -/
def Opens (c c' : Connection) : Prop :=
  ∃ p s, c.pending = some p ∧ p.control.state = .established ∧ c'.control = p.control ∧
    c'.pending = none ∧ c'.Streamed s p.control.sendNext emptyStream

theorem stepCommit (h : c.Unopened) (prepared : PreparedConnectionSegment) (now : Instant) :
    (c.step (.commit prepared now)).Unopened ∨ Opens c (c.step (.commit prepared now)) := by
  rcases c.commit_cases prepared now with same | ⟨p, timestamps, hp, _, installed⟩
  · left
    simp only [step]
    rw [same]
    exact h
  · obtain ⟨hsender, hpresent⟩ := h.pending p hp
    have hstaged : c.stagedSender p = none := by simp only [stagedSender, hsender]
    rcases installed with ⟨_, heq⟩ | ⟨present, _⟩ | ⟨present, _⟩
    · obtain ⟨hcontrol, hpending, outcome⟩ := c.install_none { p with timestamps } now
      simp only [step]
      rw [heq, hstaged]
      have settled : ∀ q, (c.install { p with timestamps } none now).pending ≠ some q := by
        intro q hq
        cases hq
      rcases outcome with none | ⟨s, hs, hstate, steady, hreceiver, hwindow⟩
      · exact .inl ⟨none, fun q hq => absurd hq (settled q)⟩
      · exact .inr ⟨p, s, hp, hstate, hcontrol, hpending, hs, steady, hreceiver, hwindow,
          fun q hq => absurd hq (settled q)⟩
    · rw [hpresent] at present
      cases present
    · rw [hpresent] at present
      cases present

theorem step (h : c.Unopened) (op : ConnectionOp) : (c.step op).Unopened ∨ Opens c (c.step op) := by
  have moves := c.step_moves op
  generalize c.step op = c' at moves ⊢
  cases moves with
  | commit prepared now => exact h.stepCommit prepared now
  | stays _ hs | activeOpen hs | close hs | service hs => exact .inl (h.stages hs)
  | listen | policy => exact .inl ⟨h.sender, h.pending⟩
  | discard => exact .inl ⟨h.sender, fun _ hp => by cases hp⟩
  | deadline live | data live | write _ _ live | reduce _ _ live =>
    cases h.sender.symm.trans live
  | ingress bytes initial outputSize now =>
    left
    rcases c.prepareIngress_cases bytes initial outputSize now with staged |
      ⟨_, _, _, _, ⟨_, staged⟩ | ⟨_, _, _, live, _⟩⟩
    · exact h.stages staged
    · exact h.stages staged
    · cases h.sender.symm.trans live
  | read outputSize now =>
    left
    rcases c.read_cases outputSize now with same | ⟨_, _, _, _, heq⟩
    · rw [same]
      exact h
    · rw [heq]
      exact ⟨h.sender, h.pending⟩

end Unopened

theorem create_unopened (tuple : ConnectionTuple) (policy : ConnectionOptionPolicy)
    (storage : ConnectionStorage) (timestampOrigin : Instant) :
    (create tuple policy storage timestampOrigin).Unopened :=
  ⟨rfl, fun _ hp => by cases hp⟩

theorem Streamed.sendQueue (h : c.Streamed s origin stream) :
    c.sendQueue = stream.accepted.drop stream.released := by
  simp only [Connection.sendQueue, h.sender]
  rw [h.steady.bytes.queued, h.steady.bytes.queue]

theorem Streamed.releasedBetween {c' : Connection} {t : Sender} {next : SendStream}
    (h : c.Streamed s origin stream) (h' : c'.Streamed t origin next)
    (hle : stream.released ≤ next.released) (hbound : next.released ≤ stream.accepted.length) :
    c.releasedBetween c' =
      (stream.accepted.drop stream.released).take (next.released - stream.released) := by
  have hspan := h.steady.bytes.span
  have moved := Serial.counter_sub origin hle (by omega)
  simp only [Connection.releasedBetween, h.sender, h'.sender]
  rw [h.sendQueue, h.steady.bytes.unacknowledged, h'.steady.bytes.unacknowledged, moved]

end Connection

namespace WrittenRun

/-- The queue and what was acknowledged before it are the two parts of what was
accepted. -/
def Inv (t : WrittenRun) : Prop :=
  t.connection.Unopened ∧ t.accepted = [] ∧ t.acknowledged = [] ∨
  ∃ s origin stream, t.connection.Streamed s origin stream ∧ stream.accepted = t.accepted ∧
    t.acknowledged = t.accepted.take stream.released

theorem step_inv (t : WrittenRun) (op : ConnectionOp) (h : t.Inv)
    (lossless : t.connection.lossless op = true) : (t.step op).Inv := by
  rcases h with ⟨unopened, haccepted, hacknowledged⟩ |
    ⟨s, origin, stream, streamed, haccepted, hacknowledged⟩
  · have nothing : t.connection.acceptedBy op = [] := by
      cases op <;> simp [Connection.acceptedBy, Connection.write, unopened.sender]
    have none : ∀ c', t.connection.releasedBetween c' = [] := by
      intro c'
      simp [Connection.releasedBetween, unopened.sender]
    rcases unopened.step op with next | ⟨p, s, _, _, _, _, streamed⟩
    · exact .inl ⟨next, by simp [step, haccepted, nothing], by simp [step, hacknowledged, none]⟩
    · refine .inr ⟨s, _, _, streamed, ?_, ?_⟩
      · simp [step, haccepted, nothing, Connection.emptyStream]
      · simp [step, hacknowledged, none, Connection.emptyStream]
  · obtain ⟨u, next, streamed', hle, hbound, hnext⟩ := streamed.step op
    have grown := hnext lossless
    refine .inr ⟨u, origin, next, streamed', by simp [step, grown, haccepted], ?_⟩
    simp only [step, hacknowledged, streamed.releasedBetween streamed' hle hbound, haccepted]
    rw [haccepted] at hbound
    rw [List.take_append_of_le_length hbound, ← List.take_add, Nat.add_sub_cancel' hle]

end WrittenRun

/-- Along every run in which no write falls between the preparation and the
admission of a segment, and no segment that releases data has its payload refused,
the octets acknowledged so far followed by the queue are exactly the accepted
prefixes of the writes, in order. -/
theorem no_accepted_octet_lost (tuple : ConnectionTuple) (policy : ConnectionOptionPolicy)
    (storage : ConnectionStorage) (timestampOrigin : Instant) (ops : List ConnectionOp)
    (h : Runs.Along WrittenRun.step (fun t op => t.connection.lossless op = true)
      { connection := Connection.create tuple policy storage timestampOrigin } ops) :
    (Runs.run WrittenRun.step
        { connection := Connection.create tuple policy storage timestampOrigin } ops).acknowledged ++
      (Runs.run WrittenRun.step
        { connection := Connection.create tuple policy storage timestampOrigin }
        ops).connection.sendQueue =
    (Runs.run WrittenRun.step
      { connection := Connection.create tuple policy storage timestampOrigin } ops).accepted := by
  have inv := Runs.invariant_along (P := WrittenRun.Inv) WrittenRun.step_inv
    (.inl ⟨Connection.create_unopened tuple policy storage timestampOrigin, rfl, rfl⟩) h
  rcases inv with ⟨unopened, haccepted, hacknowledged⟩ |
    ⟨s, origin, stream, streamed, haccepted, hacknowledged⟩
  · simp [haccepted, hacknowledged, Connection.sendQueue, unopened.sender]
  · rw [hacknowledged, streamed.sendQueue, haccepted, List.take_append_drop]

/-! ## An opened connection -/

namespace Sample

def localHost : Ipv4 := #v[10#8, 0#8, 0#8, 1#8]

def remoteHost : Ipv4 := #v[10#8, 0#8, 0#8, 2#8]

/-- A closed connection with four octets of buffer each way and no options. -/
def closed : Connection :=
  Connection.create
    { family := Family.ipv4, localIpv4 := localHost, remoteIpv4 := remoteHost, localPort := 1000#16,
      remotePort := 2000#16 }
    { maximumTransportMessage := 100#32, receiveCapacity := 4#32, windowScaling := false,
      timestamps := false, sack := false }
    { sendBytes := List.replicate 4 0#8, receiveBytes := List.replicate 4 0#8,
      receiveBitmap := [0#8], transmitPayloadScratch := List.replicate 4 0#8,
      transmissionHistory := List.replicate 2 {}, sackRanges := [{}], sackWorkspace := [{}] } 0

def peerSegment (sequence acknowledgment : BitVec 32) (flags : BitVec 8) : List Octet :=
  (encodeIpv4 100 remoteHost localHost
    { sourcePort := 2000#16, destinationPort := 1000#16, sequence, acknowledgment, flags,
      window := 10#16 } [] []).getD []

def fromPeer (sequence acknowledgment : BitVec 32) (flags : BitVec 8) : ConnectionOp :=
  .prepareIngress (peerSegment sequence acknowledgment flags) 0#32 100 0

def admission (token : BitVec 64) : ConnectionOp := .commit { token, emit := true } 0

/-- An active open from sequence number 100, answered from 500. -/
def opening : List ConnectionOp :=
  [.prepareActiveOpen 100#32 100 0, admission 1#64,
    fromPeer 500#32 101#32 (Flag.syn ||| Flag.ack), admission 2#64]

/-- The first octet written has been sent. -/
def sentOctet : List ConnectionOp :=
  opening ++ [.write [7#8] 0, .prepareData 100 true 0, admission 3#64]

def acknowledgedWrite : List ConnectionOp :=
  sentOctet ++ [.write [8#8] 0, fromPeer 501#32 102#32 Flag.ack]

def writeUnderStaged : List ConnectionOp :=
  opening ++ [.write [7#8] 0, .prepareData 100 true 0, .write [8#8] 0, admission 3#64]

end Sample

/-- One octet is sent and acknowledged while a second one waits. -/
theorem no_accepted_octet_lost_one_acknowledged :
    Runs.Along WrittenRun.step (fun t op => t.connection.lossless op = true)
      { connection := Sample.closed } Sample.acknowledgedWrite ∧
    (Runs.run WrittenRun.step { connection := Sample.closed }
      Sample.acknowledgedWrite).acknowledged = [7#8] ∧
    (Runs.run WrittenRun.step { connection := Sample.closed }
        Sample.acknowledgedWrite).acknowledged ++
      (Runs.run WrittenRun.step { connection := Sample.closed }
        Sample.acknowledgedWrite).connection.sendQueue =
    (Runs.run WrittenRun.step { connection := Sample.closed }
      Sample.acknowledgedWrite).accepted := by
  refine ⟨by decide +kernel, by decide +kernel, ?_⟩
  exact no_accepted_octet_lost _ _ _ _ _ (by decide +kernel)

/-- A write that falls between the preparation and the admission of a segment is
accepted and then lost. -/
theorem write_under_staged_segment_lost :
    (Runs.run WrittenRun.step { connection := Sample.closed } Sample.writeUnderStaged).accepted =
      [7#8, 8#8] ∧
    (Runs.run WrittenRun.step { connection := Sample.closed } Sample.writeUnderStaged).acknowledged ++
      (Runs.run WrittenRun.step { connection := Sample.closed }
        Sample.writeUnderStaged).connection.sendQueue = [7#8] := by
  decide +kernel

end RouterSim.Tcp
