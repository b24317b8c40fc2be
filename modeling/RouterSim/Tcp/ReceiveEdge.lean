import RouterSim.Tcp.ReceiveCredit
import RouterSim.Tcp.IngressRejection

namespace RouterSim.Tcp

open Serial Runs Sample

/-! ## RCV.NXT of the control block -/

variable {received window : BitVec 32} {b : ReceiveBuffer} {lead : Nat} {w : ReceiveWindow}

namespace ControlBlock

variable {c next : ControlBlock}

/-- A control block past the handshake that receives where it did before. -/
structure KeepsReceive (c next : ControlBlock) : Prop where
  receiveNext : next.receiveNext = c.receiveNext
  settled : Connection.handshaking c.state = false → Connection.handshaking next.state = false

section

variable (c : ControlBlock)

theorem KeepsReceive.refl : KeepsReceive c c := ⟨rfl, id⟩

theorem serviceDeadline_keeps (now : Instant) : KeepsReceive c (c.serviceDeadline now).1 := by
  unfold serviceDeadline
  split
  · exact ⟨rfl, fun _ => rfl⟩
  split
  · exact .refl c
  · exact ⟨rfl, id⟩

theorem close_keeps (now : Instant) : KeepsReceive c (c.close now).1 := by
  unfold close
  split
  · exact ⟨rfl, fun _ => rfl⟩
  split
  · exact .refl c
  refine ⟨rfl, fun _ => ?_⟩
  split <;> rfl

theorem commitSentData_keeps (sequence octets : BitVec 32) :
    KeepsReceive c (c.commitSentData sequence octets).1 := by
  unfold commitSentData
  split
  · exact .refl c
  · exact ⟨rfl, id⟩

theorem setReceiveWindow_keeps (window : BitVec 32) :
    KeepsReceive c (c.setReceiveWindow window).1 := by
  unfold setReceiveWindow
  split
  · exact .refl c
  · exact ⟨rfl, id⟩

theorem acceptPeerFin_receiveNext (now : Instant) :
    (c.acceptPeerFin now).1.receiveNext = c.receiveNext + 1#32 := by
  unfold acceptPeerFin
  repeat' split
  all_goals rfl

theorem processText_receiveNext (segment : View) (became : Bool) (now : Instant) :
    (c.processText segment became now).1.receiveNext = c.receiveNext ∨
    (c.processText segment became now).1.receiveNext = c.receiveNext + 1#32 := by
  unfold processText
  repeat' split
  all_goals first
    | exact .inl rfl
    | exact .inr (acceptPeerFin_receiveNext c now)

end

theorem onAcknowledgment_receiveNext (hs : Connection.handshaking c.state = false)
    (segment : View) (now : Instant) (window : BitVec 32) :
    (c.onAcknowledgment segment now window).1.receiveNext = c.receiveNext ∨
    (c.onAcknowledgment segment now window).1.receiveNext = c.receiveNext + 1#32 := by
  have hreceived : (c.state == .synReceived) = false := by
    cases hstate : c.state <;> simp [hstate, Connection.handshaking] at hs ⊢
  obtain ⟨_, moved, _⟩ := advanceUnacknowledged_continues (c := c) segment.acknowledgment
  obtain ⟨_, updated, _⟩ := updateSendWindow_continues
    (c := c.advanceUnacknowledged segment.acknowledgment) segment window
  have same := updated.receiveNext.trans moved.receiveNext
  unfold onAcknowledgment processAcknowledgment
  rw [if_neg (by simp [hreceived])]
  by_cases beyond : after segment.acknowledgment c.sendNext = true
  · simp only [beyond, ↓reduceIte]
    exact .inl trivial
  · simp [beyond]
    generalize (c.advanceUnacknowledged segment.acknowledgment).updateSendWindow segment window =
      next at same ⊢
    rw [← same]
    split
    · exact processText_receiveNext { next with state := .finWait2 } segment false now
    split
    · exact .inl rfl
    split
    · exact .inl rfl
    · exact processText_receiveNext next segment false now

/-- A segment moves RCV.NXT by a FIN at most; its text waits for the stream. -/
theorem onSegment_receiveNext (hs : Connection.handshaking c.state = false) (segment : View)
    (initial : BitVec 32) (now : Instant) (window : Option (BitVec 32)) :
    (c.onSegment segment initial now window).1.receiveNext = c.receiveNext ∨
    (c.onSegment segment initial now window).1.receiveNext = c.receiveNext + 1#32 := by
  have reset : (c.onReset segment).1.receiveNext = c.receiveNext := by
    unfold onReset
    repeat' split
    all_goals rfl
  have synchronized : ∀ window, (c.onSynchronized segment now window).1.receiveNext = c.receiveNext ∨
      (c.onSynchronized segment now window).1.receiveNext = c.receiveNext + 1#32 := by
    intro window
    unfold onSynchronized
    dsimp only
    repeat' split
    all_goals first
      | exact .inl rfl
      | exact .inl reset
      | exact onAcknowledgment_receiveNext hs segment now window
  unfold onSegment
  split
  · exact .inl rfl
  cases hstate : c.state with
  | closed => exact .inl rfl
  | listen | synSent | synReceived => simp [hstate, Connection.handshaking] at hs
  | established | finWait1 | finWait2 | closeWait | closing | lastAck | timeWait =>
    exact synchronized _

/-- Committed text leaves RCV.NXT behind it, or behind the FIN that ends it. -/
theorem commitReceivedData_receiveNext {fin : Option (BitVec 32)}
    {now : Instant} {control : ControlBlock} {response : ControlResult}
    (h : c.commitReceivedData received window fin now = some (control, response)) :
    control.receiveNext = received ∨ control.receiveNext = received + 1#32 := by
  unfold commitReceivedData at h
  split at h
  · cases h
  split at h
  · simp at h
    have accepted := acceptPeerFin_receiveNext { c with receiveNext := received
                                                        receiveWindow := window } now
    rw [h] at accepted
    exact .inr accepted
  · simp at h
    rw [← h.1]
    exact .inl rfl

theorem onAcknowledgment_timeWait (hstate : c.state = .timeWait) (segment : View) (now : Instant)
    (window : BitVec 32)
    (event : (c.onAcknowledgment segment now window).2.event = .dataRequiresStreamOwner) :
    (c.onAcknowledgment segment now window).1.state = .timeWait := by
  obtain ⟨_, moved, _⟩ := advanceUnacknowledged_continues (c := c) segment.acknowledgment
  obtain ⟨_, updated, _⟩ := updateSendWindow_continues
    (c := c.advanceUnacknowledged segment.acknowledgment) segment window
  have same := (updated.state.trans moved.state).trans hstate
  unfold onAcknowledgment processAcknowledgment at event ⊢
  rw [if_neg (by simp [hstate])] at event ⊢
  by_cases beyond : after segment.acknowledgment c.sendNext = true
  · simp [beyond]
    exact hstate
  · simp [beyond] at event ⊢
    generalize (c.advanceUnacknowledged segment.acknowledgment).updateSendWindow segment window =
      next at same event ⊢
    rw [if_neg (by simp [same]), if_neg (by simp [same]), if_neg (by simp [same])] at event ⊢
    rw [(processText_awaits event).2]
    exact same

theorem onSegment_timeWait (hstate : c.state = .timeWait) (segment : View) (initial : BitVec 32)
    (now : Instant) (window : Option (BitVec 32))
    (event : (c.onSegment segment initial now window).2.event = .dataRequiresStreamOwner) :
    (c.onSegment segment initial now window).1.state = .timeWait := by
  revert event
  unfold onSegment
  split
  · exact fun _ => hstate
  simp only [hstate]
  unfold onSynchronized
  dsimp only
  split
  · exact fun _ => rfl
  split
  · exact fun _ => hstate
  split
  · exact fun event => absurd event (onReset_settled (by rw [hstate]; rfl) segment).2.2
  split
  · exact fun _ => hstate
  split
  · exact fun _ => hstate
  · exact onAcknowledgment_timeWait hstate segment now _

/-- Text that is committed found its place in the window. -/
theorem AwaitsText.admitted {segment : View} (h : AwaitsText c next segment)
    {fin : Option (BitVec 32)} {now : Instant}
    {outcome : ControlBlock × ControlResult} (waiting : c.state = .timeWait → next.state = .timeWait)
    (committed : next.commitReceivedData received window fin now = some outcome) :
    c.admitsText received = true := by
  unfold commitReceivedData at committed
  split at committed
  · cases committed
  rename_i guard
  simp only [h.receiveNext, h.receiveWindow, asserted, not_or, refuted] at guard
  obtain ⟨⟨⟨_, notWaiting⟩, behind⟩, inside⟩ := guard
  simp only [admitsText, asserted]
  exact ⟨⟨fun state => notWaiting (waiting state), behind⟩, by bv_omega⟩

end ControlBlock

/-! ## The receive side of a connection -/

namespace Connection

variable {c c' : Connection} {capacity : Nat} {origin : BitVec 32} {k k' : Credit capacity}

/-- No text is stored past the peer's FIN, and a connection is not opened over a
stream. -/
def keepsEdge (c : Connection) : ConnectionOp → Bool
  | .listen | .prepareActiveOpen _ _ _ => !c.reopens || c.sender.isNone
  | .prepareIngress bytes _ _ now =>
    match c.reached bytes now, c.receiver with
    | some segment, some receiver =>
      receiver.receiveNext == c.control.receiveNext || segment.payload.isEmpty ||
        !c.control.processes segment ||
        !c.control.admitsText (receiver.accept segment.sequence segment.payload).2.receiveNext
    | _, _ => true
  | _ => true

/-- The repository and its window stand for the credit. -/
def Credited (c : Connection) (origin : BitVec 32) (k : Credit capacity) : Prop :=
  ∃ b w, c.receiver = some b ∧ c.receiveWindow = some w ∧ k.Shown origin b w

theorem Credited.shown (h : c.Credited origin k)
    (hb : c.receiver = some b) (hw : c.receiveWindow = some w) : k.Shown origin b w := by
  obtain ⟨_, _, hb', hw', shown⟩ := h
  rw [hb] at hb'
  rw [hw] at hw'
  cases hb'
  cases hw'
  exact shown

/-- The control block is ahead of the repository by `lead` FINs, and so is what it
staged. -/
structure Leads (c : Connection) (origin : BitVec 32) (k : Credit capacity) (lead : Nat) :
    Prop where
  live : c.control.receiveNext = counter origin (k.next + lead)
  settled : handshaking c.control.state = false
  staged : ∀ p, c.pending = some p → c.control.KeepsReceive p.control

/-- A step moves the edge of the credit forward, and while `ok` holds that of the
control block with it. -/
structure Follows (c c' : Connection) (origin : BitVec 32) (ok : Bool) (k k' : Credit capacity) :
    Prop where
  credited : c'.Credited origin k'
  forward : k.Forward k'
  leads : ok = true → ∀ lead, c.Leads origin k lead →
    ∃ lead', c'.Leads origin k' lead' ∧ lead ≤ lead' ∧ lead' ≤ lead + 1

variable {ok : Bool} {candidate block : ControlBlock} {selected : Sender × PreparedTransmission}
   {first : BitVec 32} {s : Sender} {stream : SendStream}

theorem Follows.idle (h : c.Credited origin k) (receiver : c'.receiver = c.receiver)
    (window : c'.receiveWindow = c.receiveWindow)
    (leads : ok = true → ∀ lead, c.Leads origin k lead → c'.Leads origin k lead) :
    Follows c c' origin ok k k where
  credited := by
    obtain ⟨b, w, hb, hw, shown⟩ := h
    exact ⟨b, w, receiver.trans hb, window.trans hw, shown⟩
  forward := .refl k
  leads := fun hok lead led => ⟨lead, leads hok lead led, Nat.le_refl _, Nat.le_succ _⟩

theorem Leads.stages (h : c.Leads origin k lead)
    (hs : c.Stages c' candidate) (keeps : c.control.KeepsReceive candidate) :
    c'.Leads origin k lead := by
  rcases hs with rfl | ⟨_, p, token, rfl, hcontrol, _⟩
  · exact h
  · refine ⟨h.live, h.settled, ?_⟩
    rintro _ ⟨⟩
    exact hcontrol ▸ keeps

theorem Leads.transmits (h : c.Leads origin k lead) (ht : c.Transmits c' selected) :
    c'.Leads origin k lead := by
  obtain ⟨_, rfl | ⟨p, token, rfl, _, _, _, moved⟩⟩ := ht
  · exact ⟨h.live, h.settled, h.staged⟩
  · refine ⟨h.live, h.settled, ?_⟩
    rintro _ ⟨⟩
    rcases moved with ⟨_, same⟩ | ⟨_, committed, _⟩
    · exact same ▸ .refl c.control
    · have keeps := c.control.commitSentData_keeps selected.2.range.sequence selected.2.range.length
      rwa [committed] at keeps

theorem Stages.receive (hs : c.Stages c' candidate) :
    c'.receiver = c.receiver ∧ c'.receiveWindow = c.receiveWindow := by
  rcases hs with rfl | ⟨_, _, _, rfl, _⟩
  · exact ⟨rfl, rfl⟩
  · exact ⟨rfl, rfl⟩

theorem Transmits.receive (ht : c.Transmits c' selected) :
    c'.receiver = c.receiver ∧ c'.receiveWindow = c.receiveWindow := by
  obtain ⟨_, rfl | ⟨_, _, rfl, _⟩⟩ := ht
  · exact ⟨rfl, rfl⟩
  · exact ⟨rfl, rfl⟩

theorem Follows.stages (h : c.Credited origin k)
    (hs : c.Stages c' candidate) (keeps : ok = true → c.control.KeepsReceive candidate) :
    Follows c c' origin ok k k :=
  .idle h hs.receive.1 hs.receive.2 fun hok _ led => led.stages hs (keeps hok)

theorem Follows.transmits (h : c.Credited origin k) (ht : c.Transmits c' selected) :
    Follows c c' origin ok k k :=
  .idle h ht.receive.1 ht.receive.2 fun _ _ led => led.transmits ht

/-! ## Segments -/

/-- The receive side a segment leaves. -/
structure Receives (c' : Connection) (block : ControlBlock) (b : ReceiveBuffer)
    (w : ReceiveWindow) : Prop where
  control : c'.control = block
  receiver : c'.receiver = some b
  receiveWindow : c'.receiveWindow = some w
  staged : ∀ p, c'.pending = some p → p.control = block

theorem withEffects_receives (hpending : c.pending = none) (sender : Sender)
    (update : StreamUpdate) (options : OptionState) :
    (c.withEffects sender update options).Receives update.control update.receiver
      update.receiveWindow :=
  ⟨rfl, rfl, rfl, fun p hp => by
    rw [show (c.withEffects sender update options).pending = c.pending from rfl, hpending] at hp
    cases hp⟩

theorem Receives.stages
    (h : c.Receives block b w) (hs : c.Stages c' block) : c'.Receives block b w := by
  rcases hs with rfl | ⟨_, p, token, rfl, hcontrol, _⟩
  · exact h
  · refine ⟨h.control, h.receiver, h.receiveWindow, ?_⟩
    rintro _ ⟨⟩
    exact hcontrol

theorem publish_receives (hpending : c.pending = none) (sender : Sender) (update : StreamUpdate)
    (options : OptionState) (outputSize : Nat) (now : Instant) :
    (c.publish sender update options outputSize now).1.Receives update.control update.receiver
      update.receiveWindow := by
  have published := withEffects_receives hpending sender update options
  unfold publish
  split
  · exact published
  · exact published.stages (stageControl_cases ..)

/-- A segment has its text committed, or refused, or brings none. -/
theorem ingestStream_receives (hpending : c.pending = none) (s : Sender) (receiver : ReceiveBuffer)
    (window : ReceiveWindow) (result : ControlBlock × ControlResult) (segment : View)
    (typed : TypedOptions) (options : OptionState) (outputSize : Nat) (now : Instant) :
    (result.2.event = .dataRequiresStreamOwner ∧ ∃ room fin control response,
      result.1.commitReceivedData (receiver.accept segment.sequence segment.payload).2.receiveNext
        room fin now = some (control, response) ∧
      (c.ingestStream s receiver window result segment typed options outputSize now).1.Receives
        control (receiver.accept segment.sequence segment.payload).1
        (window.receiveNextAdvanced ((receiver.accept segment.sequence
          segment.payload).2.receiveNext - receiver.receiveNext))) ∨
    (∃ sender, (c.ingestStream s receiver window result segment typed options outputSize now).1 =
      { c with
        sender
        receiver := some (receiver.share (receiver.accept segment.sequence segment.payload).1) }) ∨
    (c.ingestStream s receiver window result segment typed options outputSize now).1.Receives
      result.1 receiver window := by
  unfold ingestStream
  split
  · rename_i event
    unfold receiveData
    dsimp only
    cases committed : result.1.commitReceivedData
        (receiver.accept segment.sequence segment.payload).2.receiveNext
        (window.receiveNextAdvanced ((receiver.accept segment.sequence
          segment.payload).2.receiveNext - receiver.receiveNext)).advertised
        (if has segment.flags Flag.fin then
          some (segment.sequence + BitVec.ofNat 32 segment.payload.length) else none) now with
    | none => exact .inr (.inl ⟨_, rfl⟩)
    | some outcome =>
      refine .inl ⟨by simpa using event, _, _, outcome.1, outcome.2, committed, ?_⟩
      exact publish_receives hpending ..
  · exact .inr (.inr (publish_receives hpending ..))

theorem Receives.leads
    (h : c'.Receives block b w) (live : block.receiveNext = counter origin (k.next + lead))
    (settled : handshaking block.state = false) : c'.Leads origin k lead where
  live := h.control ▸ live
  settled := h.control ▸ settled
  staged := fun p hp => by
    rw [h.staged p hp, h.control]
    exact .refl block

/-- One octet or none further, the control block is one more FIN ahead or not. -/
theorem leads_next (h : c'.Receives block b w) (settled : handshaking block.state = false)
    (moved : block.receiveNext = received ∨ block.receiveNext = received + 1#32)
    (live : received = counter origin (k.next + lead)) :
    ∃ lead', c'.Leads origin k lead' ∧ lead ≤ lead' ∧ lead' ≤ lead + 1 := by
  rcases moved with same | fin
  · exact ⟨lead, h.leads (same.trans live) settled, Nat.le_refl _, Nat.le_succ _⟩
  · refine ⟨lead + 1, h.leads ?_ settled, Nat.le_succ _, Nat.le_refl _⟩
    rw [fin, live, ← Nat.add_assoc, counter_add _ _ 1]

theorem Streamed.follows_ingress
    (hs : c.Streamed s first stream) (h : c.Credited origin k) (bytes : List Octet)
    (initial : BitVec 32) (outputSize : Nat) (now : Instant) :
    ∃ k', Follows c (c.step (.prepareIngress bytes initial outputSize now)) origin
      (c.keepsEdge (.prepareIngress bytes initial outputSize now)) k k' := by
  simp only [Connection.step]
  rcases c.prepareIngress_cases bytes initial outputSize now with staged |
    ⟨segment, typed, options, reaches, ⟨missing, staged⟩ |
      ⟨live, receiver, window, hlive, hr, hw, hh, heq⟩⟩
  · exact ⟨k, .stages h staged fun _ => .refl _⟩
  · refine ⟨k, .idle h staged.receive.1 staged.receive.2 fun _ lead led => ?_⟩
    exact absurd missing (hs.present led.settled)
  · obtain ⟨_, hpending⟩ := refusal_none reaches.ready
    obtain ⟨b, w, hb, hw', shown⟩ := h
    rw [hr] at hb
    rw [hw] at hw'
    cases hb
    cases hw'
    have effect := ControlBlock.onSegment_settled hh segment initial now
      (some (decodedWindow options segment))
    rw [heq]
    rcases c.ingestStream_receives hpending live receiver window _ segment typed options outputSize now with
      ⟨event, room, fin, control, response, committed, received⟩ | ⟨sender, dropped⟩ | received
    · obtain ⟨k', forward, shown'⟩ := shown.accept segment.sequence segment.payload
      obtain ⟨processed, text⟩ := effect.text event
      have settled := (ControlBlock.commitReceivedData_continues (effect.continues.settled hh)
        committed).1.settled (effect.continues.settled hh)
      refine ⟨k', ⟨_, _, received.receiver, received.receiveWindow, shown'⟩, forward, ?_⟩
      intro hok lead led
      have admitted := text.admitted
        (fun state => ControlBlock.onSegment_timeWait state segment initial now _ event) committed
      have aligned : receiver.receiveNext = c.control.receiveNext := by
        simpa [keepsEdge, reaches.reached, hr, processed, text.payload, admitted] using hok
      have whole : BitVec.ofNat 32 lead = 0#32 := by
        rw [shown.receiveNext, led.live, counter_add] at aligned
        bv_omega
      apply leads_next received settled (ControlBlock.commitReceivedData_receiveNext committed)
      rw [(ReceiveBuffer.accept_moved shown.buffer (by rw [shown.size]; exact shown.bounded)
        segment.sequence segment.payload).2, shown'.receiveNext, counter_add, whole,
        BitVec.add_zero]
    · rw [dropped]
      refine ⟨k, ⟨_, window, rfl, hw, shown.share (ReceiveBuffer.Refines.accept_storage_length ..)⟩, .refl k, ?_⟩
      exact fun _ lead led => ⟨lead, ⟨led.live, led.settled, led.staged⟩, Nat.le_refl _, Nat.le_succ _⟩
    · refine ⟨k, ⟨_, _, received.receiver, received.receiveWindow, shown⟩, .refl k, ?_⟩
      intro _ lead led
      exact leads_next received (effect.continues.settled hh)
        (ControlBlock.onSegment_receiveNext hh segment initial now _) led.live

/-! ## Reads and admissions -/

theorem read_receives (hb : c.receiver = some b)
    (hw : c.receiveWindow = some w) (outputSize : Nat) (now : Instant) :
    ∃ w', (w' = w ∨ w' = (w.applicationSpaceAvailable (b.read outputSize).1.advertisedWindow).1) ∧
      (c.read outputSize now).1.receiver = some (b.read outputSize).1 ∧
      (c.read outputSize now).1.receiveWindow = some w' ∧
      (c.read outputSize now).1.pending = c.pending ∧
      c.control.KeepsReceive (c.read outputSize now).1.control := by
  simp only [read, hb, hw]
  split
  · exact ⟨w, .inl rfl, rfl, rfl, rfl, .refl _⟩
  split
  · exact ⟨_, .inr rfl, rfl, rfl, rfl, .refl _⟩
  · exact ⟨_, .inr rfl, rfl, rfl, rfl, ControlBlock.setReceiveWindow_keeps ..⟩

theorem Credited.follows_read (h : c.Credited origin k) (outputSize : Nat) (now : Instant)
    (ok : Bool) : ∃ k', Follows c (c.read outputSize now).1 origin ok k k' := by
  obtain ⟨b, w, hb, hw, shown⟩ := h
  obtain ⟨w', opened, hb', hw', hpending, keeps⟩ := read_receives hb hw outputSize now
  obtain ⟨octets, received, shown'⟩ := shown.read outputSize
  have leads : ∀ k' : Credit capacity, k'.next = k.next → ok = true → ∀ lead,
      c.Leads origin k lead → ∃ lead', (c.read outputSize now).1.Leads origin k' lead' ∧
        lead ≤ lead' ∧ lead' ≤ lead + 1 := by
    intro k' next _ lead led
    refine ⟨lead, ⟨keeps.receiveNext.trans (next ▸ led.live), keeps.settled led.settled, ?_⟩,
      Nat.le_refl _, Nat.le_succ _⟩
    intro p hp
    rw [hpending] at hp
    have staged := led.staged p hp
    exact ⟨staged.receiveNext.trans keeps.receiveNext.symm, fun _ => staged.settled led.settled⟩
  rcases opened with rfl | rfl
  · exact ⟨_, ⟨_, _, hb', hw', shown'⟩, .refl k, leads _ rfl⟩
  · rcases shown'.extend with same | extended
    · rw [same] at hw'
      exact ⟨_, ⟨_, _, hb', hw', shown'⟩, .refl k, leads _ rfl⟩
    · exact ⟨_, ⟨_, _, hb', hw', extended⟩, k.forward_consume_extend received, leads _ rfl⟩

theorem Streamed.follows_commit (hs : c.Streamed s first stream) (h : c.Credited origin k)
    (prepared : PreparedConnectionSegment) (now : Instant) (ok : Bool) :
    Follows c (c.commit prepared now).1 origin ok k k := by
  have installed : ∀ (p : PendingTransition) (t : Sender), c.pending.map (·.control) = some p.control →
      Follows c (c.install p (some t) now) origin ok k k := by
    intro p t hp
    obtain ⟨q, hq, same⟩ := Option.map_eq_some_iff.mp hp
    obtain ⟨hcontrol, _, hpending, hreceiver, hwindow⟩ := c.install_some p t now
    refine .idle h hreceiver hwindow fun _ lead led => ?_
    have staged := led.staged q hq
    rw [same] at staged
    refine ⟨?_, ?_, fun p hp => by rw [hpending] at hp; cases hp⟩
    · rw [hcontrol, staged.receiveNext]
      exact led.live
    · rw [hcontrol]
      exact staged.settled led.settled
  rcases c.commit_cases prepared now with same | ⟨p, timestamps, hp, _, outcome⟩
  · rw [same]
    exact .idle h rfl rfl fun _ _ led => led
  · obtain ⟨copy, hcopy, hstaged, _⟩ := hs.stagedSender hp
    rcases outcome with ⟨_, heq⟩ | ⟨_, missing, _⟩ | ⟨_, staged, _, ⟨_, heq⟩ | ⟨_, heq⟩⟩
    · rw [heq, hstaged]
      exact installed _ _ (by rw [hp]; rfl)
    · rw [hstaged] at missing
      cases missing
    · rw [heq]
      exact installed _ _ (by rw [hp]; rfl)
    · rw [heq]
      refine .idle h rfl rfl fun _ lead led => ⟨led.live, led.settled, ?_⟩
      rintro _ ⟨⟩
      exact led.staged p hp

theorem Streamed.follows
    (hs : c.Streamed s first stream) (h : c.Credited origin k) (op : ConnectionOp) :
    ∃ k', Follows c (c.step op) origin (c.keepsEdge op) k k' := by
  have closed : ∀ op', c.keepsEdge op' = true → (op' = .listen ∨ ∃ i n t,
      op' = .prepareActiveOpen i n t) → c.reopens = false := by
    rintro _ hok (rfl | ⟨_, _, _, rfl⟩)
    all_goals simpa [keepsEdge, hs.sender] using hok
  have moves := c.step_moves op
  generalize c.step op = c' at moves ⊢
  cases moves with
  | stays _ hs' => exact ⟨k, .stages h hs' fun _ => .refl _⟩
  | listen =>
    refine ⟨k, .idle h rfl rfl fun hok _ led => ?_⟩
    rw [passiveOpen_same (closed _ hok (.inl rfl))]
    exact led
  | activeOpen hs' =>
    refine ⟨k, .stages h hs' fun hok => ?_⟩
    rw [activeOpen_same (closed _ hok (.inr ⟨_, _, _, rfl⟩))]
    exact .refl _
  | ingress bytes initial outputSize now => exact hs.follows_ingress h bytes initial outputSize now
  | close hs' => exact ⟨k, .stages h hs' fun _ => c.control.close_keeps _⟩
  | service hs' => exact ⟨k, .stages h hs' fun _ => c.control.serviceDeadline_keeps _⟩
  | deadline _ ht | data _ ht => exact ⟨k, .transmits h ht⟩
  | commit prepared now => exact ⟨k, hs.follows_commit h prepared now _⟩
  | discard =>
    exact ⟨k, .idle h rfl rfl fun _ _ led => ⟨led.live, led.settled, fun _ hp => by cases hp⟩⟩
  | read outputSize now => exact h.follows_read outputSize now _
  | write | policy | reduce =>
    exact ⟨k, .idle h rfl rfl fun _ _ led => ⟨led.live, led.settled, led.staged⟩⟩

/-! ## Before the stream exists -/

/-- Nothing can be received yet. -/
structure Bare (c : Connection) : Prop where
  receiver : c.receiver = none
  receiveWindow : c.receiveWindow = none

/-- The stream was just opened: all of its arena is promised, from the sequence number
after the peer's SYN. -/
def Fresh (c : Connection) : Prop :=
  ∃ capacity origin, ∃ k : Credit capacity, c.Credited origin k ∧ c.Leads origin k 0

theorem install_bare (h : c.Bare) (p : PendingTransition) (now : Instant) :
    (c.install p none now).sender = none ∧ (c.install p none now).Bare ∨
    (c.install p none now).sender.isSome = true ∧ (c.install p none now).Fresh := by
  unfold install initializeStream
  dsimp only
  split
  · exact .inl ⟨rfl, h.receiver, h.receiveWindow⟩
  split
  · exact .inl ⟨rfl, h.receiver, h.receiveWindow⟩
  rename_i ready
  split
  · exact .inl ⟨rfl, h.receiver, h.receiveWindow⟩
  split
  · exact .inl ⟨rfl, rfl, rfl⟩
  rename_i valid
  simp only [asserted, not_or, refuted] at valid
  have established : p.control.state = .established := by simpa using ready
  refine .inr ⟨rfl, c.storage.receiveBytes.length, p.control.receiveNext, _,
    ⟨_, _, rfl, rfl, Credit.Shown.create valid.1.2 valid.2⟩, ?_⟩
  refine ⟨?_, ?_, fun _ hp => by cases hp⟩
  · simp
  · dsimp only
    rw [established]
    rfl

theorem Unopened.commit_bare (h : c.Unopened) (bare : c.Bare)
    (prepared : PreparedConnectionSegment) (now : Instant) :
    (c.commit prepared now).1.sender = none ∧ (c.commit prepared now).1.Bare ∨
    (c.commit prepared now).1.sender.isSome = true ∧ (c.commit prepared now).1.Fresh := by
  rcases c.commit_cases prepared now with same | ⟨p, timestamps, hp, _, installed⟩
  · rw [same]
    exact .inl ⟨h.sender, bare⟩
  · obtain ⟨hsender, hpresent⟩ := h.pending p hp
    have hstaged : c.stagedSender p = none := by simp only [stagedSender, hsender]
    rcases installed with ⟨_, heq⟩ | ⟨present, _⟩ | ⟨present, _⟩
    · rw [heq, hstaged]
      exact install_bare bare _ now
    · rw [hpresent] at present
      cases present
    · rw [hpresent] at present
      cases present

/-- Only an admission gives a connection something to receive with. -/
theorem Unopened.receive_same (h : c.Unopened) (bare : c.Bare) {op : ConnectionOp}
    (other : ∀ prepared now, op ≠ .commit prepared now) : (c.step op).Bare := by
  have staged : ∀ {candidate : ControlBlock} {c' : Connection}, c.Stages c' candidate → c'.Bare :=
    fun hs => ⟨hs.receive.1.trans bare.receiver, hs.receive.2.trans bare.receiveWindow⟩
  have moves := c.step_moves op
  generalize c.step op = c' at moves ⊢
  cases moves with
  | stays _ hs | activeOpen hs | close hs | service hs => exact staged hs
  | listen | discard | policy => exact ⟨bare.receiver, bare.receiveWindow⟩
  | ingress bytes initial outputSize now =>
    rcases c.prepareIngress_cases bytes initial outputSize now with idle |
      ⟨_, _, _, _, ⟨_, handshake⟩ | ⟨_, _, _, live, _⟩⟩
    · exact staged idle
    · exact staged handshake
    · cases h.sender.symm.trans live
  | commit prepared now => exact absurd rfl (other prepared now)
  | read outputSize now =>
    simp only [Connection.read, bare.receiver]
    exact bare
  | deadline live | data live | write _ _ live | reduce _ _ live =>
    cases h.sender.symm.trans live

theorem Unopened.opens_fresh (h : c.Unopened) (bare : c.Bare) (op : ConnectionOp) :
    (c.step op).Unopened ∧ (c.step op).Bare ∨
    (∃ s first stream, (c.step op).Streamed s first stream) ∧ (c.step op).Fresh := by
  rcases h.step op with still | ⟨_, s, _, _, _, _, streamed⟩
  · refine .inl ⟨still, ?_⟩
    cases op with
    | commit prepared now =>
      rcases h.commit_bare bare prepared now with ⟨_, next⟩ | ⟨live, _⟩
      · exact next
      · have none := still.sender
        simp only [Connection.step] at none
        rw [none] at live
        cases live
    | _ => exact h.receive_same bare (fun _ _ heq => by cases heq)
  · refine .inr ⟨⟨s, _, _, streamed⟩, ?_⟩
    cases op with
    | commit prepared now =>
      rcases h.commit_bare bare prepared now with ⟨none, _⟩ | ⟨_, fresh⟩
      · have live := streamed.sender
        simp only [Connection.step] at live
        rw [none] at live
        cases live
      · exact fresh
    | _ =>
      have receiver := streamed.receiver
      rw [(h.receive_same bare (fun _ _ heq => by cases heq)).receiver] at receiver
      cases receiver

/-! ## Runs -/

/-- A connection has no stream yet, or its receive side stands for a credit. -/
def InCredit (c : Connection) : Prop :=
  c.Unopened ∧ c.Bare ∨
  (∃ s first stream, c.Streamed s first stream) ∧
    ∃ capacity origin, ∃ k : Credit capacity, c.Credited origin k

/-- And the control block receives with it. -/
def InLead (c : Connection) : Prop :=
  c.Unopened ∧ c.Bare ∨
  (∃ s first stream, c.Streamed s first stream) ∧
    ∃ capacity origin, ∃ k : Credit capacity, c.Credited origin k ∧ ∃ lead, c.Leads origin k lead

theorem create_bare (tuple : ConnectionTuple) (policy : ConnectionOptionPolicy)
    (storage : ConnectionStorage) (timestampOrigin : Instant) :
    (create tuple policy storage timestampOrigin).Unopened ∧
    (create tuple policy storage timestampOrigin).Bare :=
  ⟨create_unopened tuple policy storage timestampOrigin, rfl, rfl⟩

theorem step_inCredit (c : Connection) (op : ConnectionOp) (h : c.InCredit) : (c.step op).InCredit := by
  rcases h with ⟨unopened, bare⟩ | ⟨⟨s, first, stream, streamed⟩, capacity, origin, k, credited⟩
  · rcases unopened.opens_fresh bare op with still | ⟨streamed, capacity, origin, k, credited, _⟩
    · exact .inl still
    · exact .inr ⟨streamed, capacity, origin, k, credited⟩
  · obtain ⟨t, next, streamed', _⟩ := streamed.step op
    obtain ⟨k', follows⟩ := streamed.follows credited op
    exact .inr ⟨⟨t, first, next, streamed'⟩, capacity, origin, k', follows.credited⟩

theorem step_inLead (c : Connection) (op : ConnectionOp) (h : c.InLead)
    (hok : c.keepsEdge op = true) : (c.step op).InLead := by
  rcases h with ⟨unopened, bare⟩ |
    ⟨⟨s, first, stream, streamed⟩, capacity, origin, k, credited, lead, led⟩
  · rcases unopened.opens_fresh bare op with still | ⟨streamed, capacity, origin, k, credited, led⟩
    · exact .inl still
    · exact .inr ⟨streamed, capacity, origin, k, credited, 0, led⟩
  · obtain ⟨t, next, streamed', _⟩ := streamed.step op
    obtain ⟨k', follows⟩ := streamed.follows credited op
    obtain ⟨lead', led', _⟩ := follows.leads hok lead led
    exact .inr ⟨⟨t, first, next, streamed'⟩, capacity, origin, k', follows.credited, lead', led'⟩

end Connection

/-! ## The window on the wire -/

/-- What was negotiated, as the peer sees it. -/
def NegotiatedOptions.peer (o : NegotiatedOptions) : NegotiatedOptions :=
  { o with
    sendWindowShift := o.receiveWindowShift, receiveWindowShift := o.sendWindowShift }

/-- The window the peer reads from the field of a segment. -/
def peerWindow (field : BitVec 16) (synSegment : Bool) (negotiated : Option NegotiatedOptions) :
    BitVec 32 :=
  match negotiated with
  | some options => decodePeerWindow field synSegment options.peer
  | none => field.setWidth 32

theorem minimum_le_left (a b : BitVec 32) : minimum a b ≤ a := by
  unfold minimum
  split <;> bv_omega

theorem capped_le (window : BitVec 32) :
    ((minimum window 65535#32).setWidth 16).setWidth 32 ≤ window := by
  have left := minimum_le_left window 65535#32
  rw [BitVec.le_def] at left ⊢
  rw [BitVec.toNat_setWidth, BitVec.toNat_setWidth]
  exact Nat.le_trans (Nat.mod_le _ _) (Nat.le_trans (Nat.mod_le _ _) left)

theorem shifted_le {scaled : BitVec 32} {shift : Nat} (h : scaled ≤ window >>> shift) :
    scaled <<< shift ≤ window := by
  rw [BitVec.le_def, BitVec.toNat_ushiftRight, Nat.shiftRight_eq_div_pow] at h
  rw [BitVec.le_def, BitVec.toNat_shiftLeft, Nat.shiftLeft_eq]
  refine Nat.le_trans (Nat.mod_le _ _) ?_
  exact Nat.le_trans (Nat.mul_le_mul_right _ h) (Nat.div_mul_le_self _ _)

theorem peerWindow_encode_le (window : BitVec 32) (synSegment : Bool) (options : NegotiatedOptions) :
    decodePeerWindow (encodeReceiveWindow window synSegment options) synSegment options.peer ≤
      window := by
  unfold decodePeerWindow encodeReceiveWindow
  dsimp only [NegotiatedOptions.peer]
  split
  · exact capped_le window
  · exact shifted_le (capped_le _)

namespace Connection

theorem peerWindow_le {c : Connection} (hw : c.receiveWindow = some w)
    (synSegment : Bool) (negotiated : Option NegotiatedOptions) :
    peerWindow (c.segmentWindow synSegment negotiated) synSegment negotiated ≤ w.advertised := by
  simp only [segmentWindow, hw]
  cases negotiated with
  | none => exact capped_le _
  | some options => exact peerWindow_encode_le _ _ options

/-- The right edge of the control block, where its RCV.NXT is. -/
theorem Leads.rightEdge {c : Connection} {capacity : Nat} {origin : BitVec 32} {k : Credit capacity}
    (h : c.Leads origin k lead) (shown : k.Shown origin b w) :
    c.control.receiveNext + w.advertised = counter origin (k.edge + lead) := by
  have same : counter origin (k.next + lead) = b.receiveNext + BitVec.ofNat 32 lead := by
    rw [shown.receiveNext, counter_add]
  rw [h.live, same, counter_add, ← shown.rightEdge]
  ac_rfl

end Connection

/-- Edges less than half the sequence space apart are in serial order. -/
theorem beforeOrEqual_counter {origin : BitVec 32} {p q : Nat} (h : p ≤ q)
    (near : q < p + 0x80000000) : beforeOrEqual (counter origin p) (counter origin q) = true := by
  rw [beforeOrEqual_iff, counter_sub origin h (by omega)]
  omega

/-- Along every run, the window advertised finds room beside what was not read, a peer
reads no more than that from any segment, and no step takes back the right edge above
RCV.NXT of the receive repository. Nor does one take back the edge above RCV.NXT of the
control block, where no text is stored past the peer's FIN and no connection is opened
over a stream. -/
theorem right_edge_never_retracts (tuple : ConnectionTuple) (policy : ConnectionOptionPolicy)
    (storage : ConnectionStorage) (timestampOrigin : Instant) (ops : List ConnectionOp)
    (op : ConnectionOp) :
    ∀ c b w, c = run Connection.step (Connection.create tuple policy storage timestampOrigin) ops →
      c.receiver = some b → c.receiveWindow = some w → w.advertised ≤ b.advertisedWindow ∧
      (∀ synSegment negotiated,
        peerWindow (c.segmentWindow synSegment negotiated) synSegment negotiated ≤ w.advertised) ∧
      ∃ b' w', (c.step op).receiver = some b' ∧ (c.step op).receiveWindow = some w' ∧
        beforeOrEqual (b.receiveNext + w.advertised) (b'.receiveNext + w'.advertised) = true ∧
        (Runs.Along Connection.step (fun c op => c.keepsEdge op = true)
            (Connection.create tuple policy storage timestampOrigin) (ops ++ [op]) →
          beforeOrEqual (c.control.receiveNext + w.advertised)
            ((c.step op).control.receiveNext + w'.advertised) = true) := by
  rintro c b w rfl hb hw
  generalize hstart : Connection.create tuple policy storage timestampOrigin = start at hb hw ⊢
  have bare : start.Unopened ∧ start.Bare := by
    rw [← hstart]
    exact Connection.create_bare tuple policy storage timestampOrigin
  have inCredit := invariant (P := Connection.InCredit) Connection.step_inCredit ops (.inl bare)
  rcases inCredit with ⟨_, none⟩ | ⟨⟨s, first, stream, streamed⟩, capacity, origin, k, credited⟩
  · rw [none.receiver] at hb
    cases hb
  · obtain ⟨k', follows⟩ := streamed.follows credited op
    obtain ⟨b', w', hb', hw', shown'⟩ := follows.credited
    have shown := credited.shown hb hw
    have near := shown.bounded
    obtain ⟨forward, bounded⟩ := follows.forward
    refine ⟨shown.advertised_le, Connection.peerWindow_le hw, b', w', hb', hw', ?_, fun along => ?_⟩
    · rw [shown.rightEdge, shown'.rightEdge]
      exact beforeOrEqual_counter forward (by omega)
    · obtain ⟨before, ok, _⟩ := along_append.mp along
      have inLead := invariant_along (P := Connection.InLead) Connection.step_inLead
        (.inl bare) before
      rcases inLead with ⟨_, none⟩ | ⟨_, capacity, origin, k, credited, lead, led⟩
      · rw [none.receiver] at hb
        cases hb
      · obtain ⟨k', follows⟩ := streamed.follows credited op
        obtain ⟨lead', led', ahead, _⟩ := follows.leads ok lead led
        have shown := credited.shown hb hw
        have near := shown.bounded
        obtain ⟨forward, bounded⟩ := follows.forward
        rw [led.rightEdge shown, led'.rightEdge (follows.credited.shown hb' hw')]
        exact beforeOrEqual_counter (by omega) (by omega)

namespace Sample

/-- Octets from the peer. -/
def textFromPeer (sequence acknowledgment : BitVec 32) (payload : List Octet) : ConnectionOp :=
  .prepareIngress ((encodeIpv4 100 remoteHost localHost
    { sourcePort := 2000#16, destinationPort := 1000#16, sequence, acknowledgment, flags := Flag.ack
      window := 10#16 } [] payload).getD []) 0#32 100 0

/-- Two octets fill half of the arena. -/
def halfFilled : List ConnectionOp := opening ++ [textFromPeer 501#32 101#32 [1#8, 2#8]]

/-- The peer has closed its side at sequence number 501. -/
def halfClosed : List ConnectionOp :=
  opening ++ [fromPeer 501#32 101#32 (Flag.fin ||| Flag.ack), admission 3#64]

/-- Where the promise ends, above RCV.NXT of the control block. -/
def promisedUpTo (c : Connection) : Option (BitVec 32) :=
  c.receiveWindow.map (c.control.receiveNext + ·.advertised)

end Sample

/-- The octets are read, and the edge moves from 505 to 507. -/
theorem right_edge_never_retracts_read :
    promisedUpTo (run Connection.step closed halfFilled) = some 505#32 ∧
    promisedUpTo ((run Connection.step closed halfFilled).step (.read 2 0)) = some 507#32 ∧
    ∃ c b w b' w', c = run Connection.step closed halfFilled ∧
      c.receiver = some b ∧ c.receiveWindow = some w ∧ w.advertised ≤ b.advertisedWindow ∧
      (c.step (.read 2 0)).receiver = some b' ∧ (c.step (.read 2 0)).receiveWindow = some w' ∧
      beforeOrEqual (b.receiveNext + w.advertised) (b'.receiveNext + w'.advertised) = true ∧
      beforeOrEqual (c.control.receiveNext + w.advertised)
        ((c.step (.read 2 0)).control.receiveNext + w'.advertised) = true := by
  refine ⟨by decide +kernel, by decide +kernel, ?_⟩
  generalize heq : run Connection.step closed halfFilled = c
  obtain ⟨b, hb⟩ : ∃ b, c.receiver = some b := by
    rw [← heq]
    exact Option.isSome_iff_exists.mp (by decide +kernel)
  obtain ⟨w, hw⟩ : ∃ w, c.receiveWindow = some w := by
    rw [← heq]
    exact Option.isSome_iff_exists.mp (by decide +kernel)
  obtain ⟨free, _, b', w', hb', hw', forward, ahead⟩ :=
    right_edge_never_retracts _ _ _ _ halfFilled (.read 2 0) c b w heq.symm hb hw
  exact ⟨c, b, w, b', w', rfl, hb, hw, free, hb', hw', forward, ahead (by decide +kernel)⟩

/-- Text over the place of the peer's FIN takes one octet back: the edge was at 506 and
is at 505. -/
theorem text_over_fin_retracts :
    promisedUpTo (run Connection.step closed halfClosed) = some 506#32 ∧
    promisedUpTo ((run Connection.step closed halfClosed).step
      (textFromPeer 501#32 101#32 [1#8, 2#8])) = some 505#32 := by
  decide +kernel

end RouterSim.Tcp
