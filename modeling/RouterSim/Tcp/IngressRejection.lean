import RouterSim.Tcp.SendWindow

/-! What a segment leaves behind when it is answered with an error. The answer to a segment of the
stream is a transition of its own: where there is no room to write it, the effects of the segment
stay. -/
namespace RouterSim.Tcp.Connection

variable {c : Connection} {s : Sender} {receiver : ReceiveBuffer} {window : ReceiveWindow}
  {segment : View} {typed : TypedOptions} {options : OptionState} {bytes : List Octet}
  {initial : BitVec 32} {outputSize room : Nat} {now : Instant}

/-- What a segment leaves of the connection besides the sender, and its answer; nothing if the
control block refuses the payload. -/
def streamUpdate (c : Connection) (receiver : ReceiveBuffer) (window : ReceiveWindow)
    (result : ControlBlock × ControlResult) (segment : View) (now : Instant) :
    Option StreamUpdate :=
  if result.2.event == .dataRequiresStreamOwner then
    (c.receiveData result.1 receiver window segment now).2
  else
    some
      { control := result.1, response := result.2, receiver, receiveWindow := window
        delayedAck := if has segment.flags Flag.fin && result.2.emit then
          DelayedAcknowledger.requestImmediate now else c.delayedAck }

/-- The connection with the effects of a segment, and nothing staged. -/
def withEffects (c : Connection) (sender : Sender) (update : StreamUpdate)
    (options : OptionState) : Connection :=
  { c with
    control := update.control, sender := some sender, receiver := some update.receiver,
    receiveWindow := some update.receiveWindow, delayedAck := update.delayedAck,
    timestamps := options.timestamps, timestampStatePresent := options.timestampStatePresent }

/-- A segment of the stream leaves the connection so, with this answer. -/
def Leaves (c : Connection) (bytes : List Octet) (initial : BitVec 32) (now : Instant)
    (after : Connection) (update : StreamUpdate) : Prop :=
  ∃ segment typed options s receiver window,
    c.Reaches bytes now segment typed options ∧ c.sender = some s ∧ c.receiver = some receiver ∧
      c.receiveWindow = some window ∧
      c.streamUpdate receiver window (c.control.onSegment segment initial now
        (some (decodedWindow options segment))) segment now = some update ∧
      after = c.withEffects (c.acknowledgeData s segment typed options now) update options

/-- The segment gets to the stream. -/
def handed (c : Connection) (bytes : List Octet) (now : Instant) : Bool :=
  (c.reachedWindow bytes now).isSome && c.sender.isSome && c.streams

/-- The transition was staged over the connection. -/
def StagedOver (c after : Connection) (control : ControlBlock) : Prop :=
  ∃ p, after = { c with nextToken := (takeToken c.nextToken).2, pending := some p } ∧
    p.control = control ∧ p.sender = c.sender

theorem stage_outcome (c : Connection) (candidate : ControlBlock) (result : ControlResult)
    (localOffer : Option SynOptionOffer) (peerOptions : Option TypedOptions)
    (negotiated : Option NegotiatedOptions) (timestamps : TimestampState) (present : Bool)
    (outputSize : Nat) (now : Instant) (idle : c.pending = none) :
    (c.stage candidate result localOffer peerOptions negotiated timestamps present outputSize
        now).2.status = .outputTooSmall ∧
      (c.stage candidate result localOffer peerOptions negotiated timestamps present outputSize
        now).1 = c ∨
    (c.stage candidate result localOffer peerOptions negotiated timestamps present outputSize
        now).2.status = .prepared ∧
      c.StagedOver (c.stage candidate result localOffer peerOptions negotiated timestamps present
        outputSize now).1 candidate := by
  unfold stage
  rw [if_neg (by simp [idle])]
  dsimp only
  split
  · exact .inl ⟨rfl, rfl⟩
  · exact .inr ⟨rfl, ⟨_, rfl, rfl, rfl⟩⟩

theorem ingestStream_some {result : ControlBlock × ControlResult} {update : StreamUpdate}
    (h : c.streamUpdate receiver window result segment now = some update) :
    c.ingestStream s receiver window result segment typed options outputSize now =
      c.publish (c.acknowledgeData s segment typed options now) update options outputSize now := by
  unfold streamUpdate at h
  unfold ingestStream
  split at h
  next text =>
    rw [if_pos text]
    cases received : c.receiveData result.1 receiver window segment now with
    | mk stored next =>
      rw [received] at h
      obtain rfl : next = some update := h
      rfl
  next other =>
    rw [if_neg other]
    obtain rfl := Option.some.inj h
    rfl

theorem ingestStream_none {result : ControlBlock × ControlResult}
    (s : Sender) (typed : TypedOptions) (options : OptionState) (outputSize : Nat)
    (h : c.streamUpdate receiver window result segment now = none) :
    (c.ingestStream s receiver window result segment typed options outputSize now).2.status =
      .payloadRequiresStreamOwner := by
  unfold streamUpdate at h
  unfold ingestStream
  split at h
  next text =>
    rw [if_pos text]
    cases received : c.receiveData result.1 receiver window segment now with
    | mk stored next =>
      rw [received] at h
      obtain rfl : next = none := h
      rfl
  next => cases h

/-- Publication leaves the effects, and the answer over them where it is written. -/
theorem publish_outcome (s : Sender) (options : OptionState) (outputSize : Nat) (now : Instant)
    (idle : c.pending = none) (update : StreamUpdate) :
    (c.publish s update options outputSize now).2.status = .noAction ∧
      update.response.emit = false ∨
    update.response.emit = true ∧
      ((c.publish s update options outputSize now).2.status = .outputTooSmall ∧
        (c.publish s update options outputSize now).1 = c.withEffects s update options ∨
      (c.publish s update options outputSize now).2.status = .prepared ∧
        (c.withEffects s update options).StagedOver
          (c.publish s update options outputSize now).1 update.control) := by
  unfold publish
  cases emit : update.response.emit with
  | false => exact .inl ⟨rfl, rfl⟩
  | true => exact .inr ⟨rfl, stage_outcome (c.withEffects s update options) _ _ _ _ _ _ _ _ _ idle⟩

/-- A segment that does not get to the stream is staged, or changes nothing. -/
theorem prepareIngress_control (initial : BitVec 32) (outputSize : Nat)
    (h : c.handed bytes now = false) :
    (c.prepareIngress bytes initial outputSize now).2.status = .prepared ∨
      (c.prepareIngress bytes initial outputSize now).1 = c := by
  have staged : ∀ (candidate : ControlBlock) (result : ControlResult)
      (localOffer : Option SynOptionOffer) (peerOptions : Option TypedOptions)
      (negotiated : Option NegotiatedOptions) (timestamps : TimestampState) (present : Bool),
      c.pending = none →
      (c.stage candidate result localOffer peerOptions negotiated timestamps present outputSize
        now).2.status = .prepared ∨
      (c.stage candidate result localOffer peerOptions negotiated timestamps present outputSize
        now).1 = c := by
    intro candidate result localOffer peerOptions negotiated timestamps present idle
    rcases c.stage_outcome candidate result localOffer peerOptions negotiated timestamps present
      outputSize now idle with ⟨_, same⟩ | ⟨prepared, _⟩
    · exact .inr same
    · exact .inl prepared
  unfold prepareIngress
  cases ready : c.refusal with
  | some status => exact .inr rfl
  | none =>
    have idle := (refusal_none ready).2
    cases parsed : c.parse bytes with
    | none => exact .inr rfl
    | some read =>
      obtain ⟨segment, typed⟩ := read
      unfold ingestSegment
      dsimp only
      cases verdict : (c.processOptions segment typed now).2 with
      | missingRequired => exact .inr rfl
      | stale => exact staged _ _ _ _ _ _ _ idle
      | accepted =>
        have reached : (c.reachedWindow bytes now).isSome = true := by
          simp [reachedWindow, ready, parsed, verdict]
        dsimp only
        split
        next s receiver window hs hr hw settled =>
          simp [handed, reached, streams, hs, hr, hw, settled] at h
        next => exact staged _ _ _ _ _ _ _ idle

/-- A segment that gets to the stream, whatever the room for its answer. -/
theorem prepareIngress_stream (initial : BitVec 32) (h : c.handed bytes now = true) :
    c.pending = none ∧ ∃ segment typed options s receiver window,
      c.Reaches bytes now segment typed options ∧ c.sender = some s ∧
      c.receiver = some receiver ∧ c.receiveWindow = some window ∧
      ∀ outputSize, c.prepareIngress bytes initial outputSize now =
        c.ingestStream s receiver window (c.control.onSegment segment initial now
          (some (decodedWindow options segment))) segment typed options outputSize now := by
  simp only [handed, streams, asserted, Option.isSome_iff_exists] at h
  obtain ⟨⟨⟨⟨segment, window'⟩, reached⟩, s, hs⟩, ⟨⟨receiver, hr⟩, window, hw⟩, settled⟩ := h
  unfold reachedWindow at reached
  split at reached
  next segment typed ready parsed =>
    obtain ⟨accepted, eq⟩ := Option.ite_none_right_eq_some.mp reached
    have verdict : (c.processOptions segment typed now).2 = .accepted := beq_iff_eq.mp accepted
    refine ⟨(refusal_none ready).2, segment, typed, _, s, receiver, window,
      ⟨ready, parsed, Prod.ext rfl verdict⟩, hs, hr, hw, ?_⟩
    intro outputSize
    simp [prepareIngress, ready, parsed, ingestSegment, verdict, hs, hr, hw, settled]
  next => cases reached

/-- A segment that is answered with an error changes nothing, unless it is one of the stream whose
answer finds no room. Such a segment leaves its effects and nothing staged, and more room adds the
staged answer to them or leaves the same. -/
theorem prepareIngress_rejection (c : Connection) (bytes : List Octet) (initial : BitVec 32)
    (outputSize : Nat) (now : Instant) :
    ((c.prepareIngress bytes initial outputSize now).2.status ≠ .prepared →
      (c.prepareIngress bytes initial outputSize now).2.status ≠ .noAction →
      (c.prepareIngress bytes initial outputSize now).2.status ≠ .outputTooSmall →
      (c.prepareIngress bytes initial outputSize now).2.status ≠ .payloadRequiresStreamOwner →
      (c.prepareIngress bytes initial outputSize now).1 = c) ∧
    ((c.prepareIngress bytes initial outputSize now).2.status = .outputTooSmall →
      c.handed bytes now = false → (c.prepareIngress bytes initial outputSize now).1 = c) ∧
    ((c.prepareIngress bytes initial outputSize now).2.status = .outputTooSmall →
      c.handed bytes now = true →
      ∃ update, c.Leaves bytes initial now (c.prepareIngress bytes initial outputSize now).1 update ∧
        update.response.emit = true ∧
        (c.prepareIngress bytes initial outputSize now).1.pending = none ∧
        ∀ room,
          (c.prepareIngress bytes initial room now).2.status = .outputTooSmall ∧
            (c.prepareIngress bytes initial room now).1 =
              (c.prepareIngress bytes initial outputSize now).1 ∨
          (c.prepareIngress bytes initial room now).2.status = .prepared ∧
            (c.prepareIngress bytes initial outputSize now).1.StagedOver
              (c.prepareIngress bytes initial room now).1 update.control) := by
  cases hhanded : c.handed bytes now with
  | false =>
    have outcome := c.prepareIngress_control initial outputSize hhanded
    refine ⟨fun other _ _ _ => outcome.resolve_left other, fun small _ => ?_,
      fun _ other => by cases other⟩
    rcases outcome with prepared | same
    · rw [small] at prepared
      cases prepared
    · exact same
  | true =>
    obtain ⟨idle, segment, typed, options, s, receiver, window, reaches, hs, hr, hw, eq⟩ :=
      c.prepareIngress_stream initial hhanded
    have first := eq outputSize
    cases left : c.streamUpdate receiver window (c.control.onSegment segment initial now
        (some (decodedWindow options segment))) segment now with
    | none =>
      have refused := ingestStream_none s typed options outputSize left
      rw [← first] at refused
      refine ⟨fun _ _ _ other => absurd refused other, fun _ other => (by cases other), fun small => ?_⟩
      rw [refused] at small
      cases small
    | some update =>
      have publishes : ∀ room, c.prepareIngress bytes initial room now =
          c.publish (c.acknowledgeData s segment typed options now) update options room now :=
        fun room => (eq room).trans (ingestStream_some left)
      rw [publishes outputSize]
      rcases publish_outcome (c.acknowledgeData s segment typed options now) options outputSize now
        idle update with
        ⟨quiet, _⟩ | ⟨emit, ⟨small, effects⟩ | ⟨prepared, _⟩⟩
      · refine ⟨fun _ other => absurd quiet other, fun _ other => (by cases other), fun small => ?_⟩
        rw [quiet] at small
        cases small
      · refine ⟨fun _ _ other => absurd small other, fun _ other => (by cases other), fun _ _ => ?_⟩
        rw [effects]
        refine ⟨update, ⟨segment, typed, options, s, receiver, window, reaches, hs, hr, hw, left,
          rfl⟩, emit, idle, ?_⟩
        intro room
        rw [publishes room]
        rcases publish_outcome (c.acknowledgeData s segment typed options now) options room now
          idle update with
          ⟨_, quiet⟩ | ⟨_, outcome⟩
        · rw [emit] at quiet
          cases quiet
        · exact outcome
      · refine ⟨fun other => absurd prepared other, fun _ other => (by cases other), fun small => ?_⟩
        rw [prepared] at small
        cases small

end RouterSim.Tcp.Connection

namespace RouterSim.Tcp.Sample

/-- An opened connection. -/
def opened : Connection := Runs.run Connection.step closed opening

/-- The peer's FIN to an opened connection, without room for the answer. -/
def finAnswered : Connection × ConnectionPrepareResult :=
  opened.prepareIngress (peerSegment 501#32 101#32 (Flag.fin ||| Flag.ack)) 0#32 0 0

/-- The peer has closed its side. -/
def peerClosed : Connection :=
  Runs.run Connection.step opened [fromPeer 501#32 101#32 (Flag.fin ||| Flag.ack), admission 3#64]

/-- An octet behind the FIN. -/
def octetAnswered : Connection × ConnectionPrepareResult :=
  peerClosed.prepareIngress ((encodeIpv4 100 remoteHost localHost
    { sourcePort := 2000#16, destinationPort := 1000#16, sequence := 502#32,
      acknowledgment := 101#32, flags := Flag.ack, window := 10#16 } [] [9#8]).getD []) 0#32 100 0

/-- The FIN is answered with an error, and is accepted; so is an octet behind it, which stays in
the receive buffer. -/
theorem refused_answer_leaves_effects :
    (finAnswered.2.status = .outputTooSmall ∧ opened.control.state = .established ∧
      finAnswered.1.control.state = .closeWait) ∧
    octetAnswered.2.status = .payloadRequiresStreamOwner ∧
      peerClosed.receiver.map (·.receivedBitmap) = some [0#8] ∧
      octetAnswered.1.receiver.map (·.receivedBitmap) = some [2#8] := by
  decide +kernel

end RouterSim.Tcp.Sample
