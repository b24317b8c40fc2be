import RouterSim.Tcp.ControlBlock

namespace RouterSim.Tcp

open List Serial

/-- One end of a connection: its control block, whether it has been opened, and
every segment it ever emitted. -/
structure Party where
  block : ControlBlock
  opened : Bool := false
  sent : List Fields := []

namespace Party

/-- Take over the outcome of a call, recording what it emitted. -/
def absorb (x : Party) (outcome : ControlBlock × ControlResult) : Party :=
  { x with
    block := outcome.1, sent := if outcome.2.emit then outcome.2.segment :: x.sent else x.sent }

def passiveOpen (x : Party) : Party :=
  if x.opened then x else { x.absorb x.block.passiveOpen with opened := true }

def activeOpen (x : Party) (initialSequence : BitVec 32) (now : Instant) : Party :=
  if x.opened then x else { x.absorb (x.block.activeOpen initialSequence now) with opened := true }

/-- The peer's `index`-th segment arrives, however often it already did. -/
def deliver (x y : Party) (index : Nat) (passiveInitialSequence : BitVec 32) (now : Instant)
    (decodedPeerWindow : Option (BitVec 32)) : Party :=
  match y.sent[index]? with
  | none => x
  | some segment =>
    x.absorb (x.block.onSegment { segment with } passiveInitialSequence now decodedPeerWindow)

end Party

structure Handshake where
  left : Party
  right : Party

inductive PartyOp
  | passiveOpen
  | activeOpen (initialSequence : BitVec 32) (now : Instant)
  | deliver (index : Nat) (passiveInitialSequence : BitVec 32) (now : Instant)
      (decodedPeerWindow : Option (BitVec 32))
  | serviceDeadline (now : Instant)
  | close (now : Instant)

inductive HandshakeOp
  | left (op : PartyOp)
  | right (op : PartyOp)

/-- An operation of `x`, whose peer is `y`. -/
def Party.step (x y : Party) : PartyOp → Party
  | .passiveOpen => x.passiveOpen
  | .activeOpen initialSequence now => x.activeOpen initialSequence now
  | .deliver index passiveInitialSequence now decodedPeerWindow =>
    x.deliver y index passiveInitialSequence now decodedPeerWindow
  | .serviceDeadline now => x.absorb (x.block.serviceDeadline now)
  | .close now => x.absorb (x.block.close now)

namespace Handshake

def start (leftPort rightPort : BitVec 16) (leftWindow rightWindow leftMss rightMss : BitVec 32) :
    Handshake :=
  { left := { block := ControlBlock.create leftPort rightPort leftWindow leftMss }
    right := { block := ControlBlock.create rightPort leftPort rightWindow rightMss } }

def step (h : Handshake) : HandshakeOp → Handshake
  | .left op => { h with left := h.left.step h.right op }
  | .right op => { h with right := h.right.step h.left op }

end Handshake

/-! ## The invariant -/

namespace Party

/-- Opened and closed again: nothing opens it a second time. -/
def Dead (x : Party) : Prop := x.opened = true ∧ x.block.state = .closed

def finState : TcpState → Bool
  | .finWait1 | .finWait2 | .closing | .lastAck | .timeWait => true
  | _ => false

/-- What is acknowledged to `y` by `x`: its SYN, or its SYN and FIN. -/
def Covered (x y : Party) (acknowledgment : BitVec 32) : Prop :=
  acknowledgment = y.block.initialSendSequence + 1#32 ∨
    (acknowledgment = y.block.initialSendSequence + 2#32 ∧ y.block.localFinSent = true ∧
      x.block.receiveNext = y.block.initialSendSequence + 2#32)

/-- Everything `x` can have sent to `y` while neither is dead. -/
inductive Emitted (x y : Party) (segment : Fields) : Prop
  | syn (flags : segment.flags = Flag.syn)
      (sequence : segment.sequence = x.block.initialSendSequence)
      (opened : x.opened = true) (active : x.block.passiveOpened = false)
  | synAck (flags : segment.flags = Flag.syn ||| Flag.ack)
      (sequence : segment.sequence = x.block.initialSendSequence)
      (synchronized : x.block.synchronized = true)
      (acknowledgment : segment.acknowledgment = y.block.initialSendSequence + 1#32)
  | ack (flags : segment.flags = Flag.ack)
      (synchronized : x.block.synchronized = true)
      (acknowledgment : Covered x y segment.acknowledgment)
  | finAck (flags : segment.flags = Flag.fin ||| Flag.ack)
      (sequence : segment.sequence = x.block.initialSendSequence + 1#32)
      (fin : x.block.localFinSent = true) (synchronized : x.block.synchronized = true)
      (acknowledgment : Covered x y segment.acknowledgment)
  | reset (flags : segment.flags = Flag.rst ||| Flag.ack)
      (opened : y.opened = true) (active : y.block.passiveOpened = false)

/-- What a synchronized `x` knows of `y`. -/
structure Knows (x y : Party) : Prop where
  opened : y.opened = true
  notListening : y.block.state ≠ .listen
  initialReceive : x.block.initialReceiveSequence = y.block.initialSendSequence
  receiveNext : x.block.receiveNext = y.block.initialSendSequence + 1#32 ∨
    (x.block.receiveNext = y.block.initialSendSequence + 2#32 ∧ y.block.localFinSent = true)

/-- The send sequence space of `x`, once its own SYN is acknowledged. -/
structure Acknowledged (x y : Party) : Prop where
  sendNext : x.block.sendNext = x.block.initialSendSequence +
    (if x.block.localFinSent then 2#32 else 1#32)
  unacknowledged : x.block.sendUnacknowledged = x.block.initialSendSequence + 1#32 ∨
    (x.block.sendUnacknowledged = x.block.initialSendSequence + 2#32 ∧
      x.block.localFinSent = true ∧ y.block.synchronized = true ∧
      y.block.receiveNext = x.block.initialSendSequence + 2#32)

/-- One direction of the agreement between two parties that are both alive. -/
structure Agrees (x y : Party) : Prop where
  unopened : x.opened = false → x.block.state = .closed
  alive : x.opened = true → x.block.state ≠ .closed
  listening : x.block.state = .listen → x.block.passiveOpened = true
  fin : x.block.localFinSent = finState x.block.state
  opening : x.block.state = .synSent ∨ x.block.state = .synReceived →
    x.block.sendUnacknowledged = x.block.initialSendSequence ∧
      x.block.sendNext = x.block.initialSendSequence + 1#32
  knows : x.block.synchronized = true → Knows x y
  acknowledged : x.block.synchronized = true → x.block.state ≠ .synReceived → Acknowledged x y
  sent : ∀ segment ∈ x.sent, Emitted x y segment
  outstanding : x.block.outstandingControlPresent = true → x.block.outstandingControl ∈ x.sent

/-- How a party that stays alive may change, as its peer sees it. -/
structure Evolves (x x' : Party) : Prop where
  opened : x.opened = true → x'.opened = true ∧ x'.block.passiveOpened = x.block.passiveOpened
  sequence : x.opened = true → x.block.state ≠ .listen →
    x'.block.initialSendSequence = x.block.initialSendSequence ∧ x'.block.state ≠ .listen
  fin : x.block.localFinSent = true → x'.block.localFinSent = true
  synchronized : x.block.synchronized = true → x'.block.synchronized = true ∧
    x'.block.initialReceiveSequence = x.block.initialReceiveSequence ∧
    (x.block.receiveNext = x.block.initialReceiveSequence + 2#32 →
      x'.block.receiveNext = x.block.receiveNext)

variable {x y x' y' : Party}

theorem Agrees.isOpen (h : Agrees x y) (hs : x.block.state ≠ .closed) : x.opened = true := by
  cases ho : x.opened with
  | true => rfl
  | false => exact absurd (h.unopened ho) hs

theorem notListening_of_synchronized (h : x.block.synchronized = true) :
    x.block.state ≠ .closed ∧ x.block.state ≠ .listen ∧ x.block.state ≠ .synSent := by
  unfold ControlBlock.synchronized at h
  refine ⟨?_, ?_, ?_⟩ <;> intro hs <;> simp [hs] at h

theorem Covered.peer {acknowledgment : BitVec 32} (hx : Agrees x y)
    (synchronized : x.block.synchronized = true) (ev : Evolves y y')
    (h : Covered x y acknowledgment) : Covered x y' acknowledgment := by
  have known := hx.knows synchronized
  obtain ⟨same, _⟩ := ev.sequence known.opened known.notListening
  rcases h with h | ⟨h, fin, next⟩
  · exact Or.inl (by rw [h, same])
  · exact Or.inr ⟨by rw [h, same], ev.fin fin, by rw [next, same]⟩

theorem Covered.self {acknowledgment : BitVec 32} (hx : Agrees x y)
    (synchronized : x.block.synchronized = true) (ev : Evolves x x')
    (h : Covered x y acknowledgment) : Covered x' y acknowledgment := by
  rcases h with h | ⟨h, fin, next⟩
  · exact Or.inl h
  · obtain ⟨_, _, stays⟩ := ev.synchronized synchronized
    refine Or.inr ⟨h, fin, ?_⟩
    rw [stays (by rw [(hx.knows synchronized).initialReceive, next]), next]

variable {segment : Fields} {c : ControlBlock} {result : ControlResult}

section

variable (hx : Agrees x y)
include hx

theorem Emitted.peer (ev : Evolves y y') (h : Emitted x y segment) : Emitted x y' segment := by
  cases h with
  | syn flags sequence opened active => exact .syn flags sequence opened active
  | synAck flags sequence synchronized acknowledgment =>
    have known := hx.knows synchronized
    obtain ⟨same, _⟩ := ev.sequence known.opened known.notListening
    exact .synAck flags sequence synchronized (by rw [acknowledgment, same])
  | ack flags synchronized acknowledgment =>
    exact .ack flags synchronized (acknowledgment.peer hx synchronized ev)
  | finAck flags sequence fin synchronized acknowledgment =>
    exact .finAck flags sequence fin synchronized (acknowledgment.peer hx synchronized ev)
  | reset flags opened active =>
    obtain ⟨stillOpen, same⟩ := ev.opened opened
    exact .reset flags stillOpen (by rw [same, active])

theorem Emitted.self (ev : Evolves x x') (h : Emitted x y segment) : Emitted x' y segment := by
  cases h with
  | syn flags sequence opened active =>
    have notListening : x.block.state ≠ .listen := by
      intro hs
      rw [hx.listening hs] at active
      cases active
    obtain ⟨stillOpen, passive⟩ := ev.opened opened
    exact .syn flags (by rw [sequence, (ev.sequence opened notListening).1]) stillOpen
      (by rw [passive, active])
  | synAck flags sequence synchronized acknowledgment =>
    obtain ⟨notClosed, notListening, _⟩ := notListening_of_synchronized synchronized
    have same := (ev.sequence (hx.isOpen notClosed) notListening).1
    exact .synAck flags (by rw [sequence, same]) (ev.synchronized synchronized).1 acknowledgment
  | ack flags synchronized acknowledgment =>
    exact .ack flags (ev.synchronized synchronized).1 (acknowledgment.self hx synchronized ev)
  | finAck flags sequence fin synchronized acknowledgment =>
    obtain ⟨notClosed, notListening, _⟩ := notListening_of_synchronized synchronized
    have same := (ev.sequence (hx.isOpen notClosed) notListening).1
    exact .finAck flags (by rw [sequence, same]) (ev.fin fin) (ev.synchronized synchronized).1
      (acknowledgment.self hx synchronized ev)
  | reset flags opened active => exact .reset flags opened active

/-- What `x` holds of its peer survives the peer's own steps. -/
theorem Agrees.peer (hy : Agrees y x) (ev : Evolves y y') : Agrees x y' where
  unopened := hx.unopened
  alive := hx.alive
  listening := hx.listening
  fin := hx.fin
  opening := hx.opening
  knows := by
    intro synchronized
    have known := hx.knows synchronized
    obtain ⟨same, notListening⟩ := ev.sequence known.opened known.notListening
    refine ⟨(ev.opened known.opened).1, notListening, by rw [known.initialReceive, same], ?_⟩
    rcases known.receiveNext with next | ⟨next, fin⟩
    · exact Or.inl (by rw [next, same])
    · exact Or.inr ⟨by rw [next, same], ev.fin fin⟩
  acknowledged := by
    intro synchronized past
    obtain ⟨sendNext, una⟩ := hx.acknowledged synchronized past
    refine ⟨sendNext, ?_⟩
    rcases una with una | ⟨una, fin, peerSynchronized, next⟩
    · exact Or.inl una
    · obtain ⟨still, _, stays⟩ := ev.synchronized peerSynchronized
      have known := hy.knows peerSynchronized
      exact Or.inr ⟨una, fin, still, by rw [stays (by rw [known.initialReceive, next]), next]⟩
  sent := fun segment mem => (hx.sent segment mem).peer hx ev
  outstanding := hx.outstanding

omit hx in
theorem Evolves.refl (x : Party) : Evolves x x where
  opened h := ⟨h, rfl⟩
  sequence _ h := ⟨rfl, h⟩
  fin h := h
  synchronized h := ⟨h, rfl, fun _ => rfl⟩

/-- A synchronized control block that may take the place of the one `x` has. -/
structure Sound (x y : Party) (c : ControlBlock) : Prop where
  initialSend : c.initialSendSequence = x.block.initialSendSequence
  initialReceive : c.initialReceiveSequence = x.block.initialReceiveSequence
  passive : c.passiveOpened = x.block.passiveOpened
  synchronized : c.synchronized = true
  receiveNext : c.receiveNext = x.block.receiveNext ∨
    (x.block.receiveNext = y.block.initialSendSequence + 1#32 ∧
      c.receiveNext = y.block.initialSendSequence + 2#32 ∧ y.block.localFinSent = true)
  finKept : x.block.localFinSent = true → c.localFinSent = true
  fin : c.localFinSent = finState c.state
  opening : c.state = .synReceived → c.sendUnacknowledged = c.initialSendSequence ∧
    c.sendNext = c.initialSendSequence + 1#32
  acknowledged : c.state ≠ .synReceived → Acknowledged { x with block := c } y
  outstanding : c.outstandingControlPresent = true → c.outstandingControl ∈ x.sent

section

variable (synchronized : x.block.synchronized = true)
include synchronized

theorem Agrees.sound : Sound x y x.block where
  initialSend := rfl
  initialReceive := rfl
  passive := rfl
  synchronized := synchronized
  receiveNext := Or.inl rfl
  finKept := id
  fin := hx.fin
  opening h := hx.opening (Or.inr h)
  acknowledged := hx.acknowledged synchronized
  outstanding := hx.outstanding

theorem Sound.next (h : Sound x y c) :
    c.receiveNext = y.block.initialSendSequence + 1#32 ∨
      (c.receiveNext = y.block.initialSendSequence + 2#32 ∧ y.block.localFinSent = true) := by
  rcases h.receiveNext with same | ⟨_, next, fin⟩
  · rw [same]
    exact (hx.knows synchronized).receiveNext
  · exact Or.inr ⟨next, fin⟩

/-- Taking over a sound block with an acknowledgment, or nothing, as the answer. -/
theorem Sound.absorb (h : Sound x y c)
    (answer : result.emit = true → result.segment = c.acknowledgment.segment) :
    Agrees (x.absorb (c, result)) y ∧ Evolves x (x.absorb (c, result)) := by
  have known := hx.knows synchronized
  obtain ⟨notClosed, notListening, _⟩ := notListening_of_synchronized synchronized
  obtain ⟨notClosed', notListening', notSynSent'⟩ :=
    @notListening_of_synchronized (x.absorb (c, result)) h.synchronized
  have ev : Evolves x (x.absorb (c, result)) :=
    { opened := fun ho => ⟨ho, h.passive⟩, sequence := fun _ _ => ⟨h.initialSend, notListening'⟩,
      fin := h.finKept, synchronized := by
        intro _
        refine ⟨h.synchronized, h.initialReceive, ?_⟩
        intro both
        rcases h.receiveNext with same | ⟨one, _⟩
        · exact same
        · rw [known.initialReceive, one] at both
          bv_omega }
  have next := h.next hx synchronized
  refine ⟨?_, ev⟩
  constructor
  case unopened => exact fun ho => absurd (hx.unopened ho) notClosed
  case alive => exact fun _ => notClosed'
  case listening => exact fun hs => absurd hs notListening'
  case fin => exact h.fin
  case opening =>
    rintro (hs | hs)
    · exact absurd hs notSynSent'
    · exact h.opening hs
  case knows => exact fun _ => ⟨known.opened, known.notListening,
    h.initialReceive.trans known.initialReceive, next⟩
  case acknowledged => exact fun _ past => ⟨(h.acknowledged past).1, (h.acknowledged past).2⟩
  case sent =>
    intro segment mem
    simp only [Party.absorb] at mem
    split at mem
    · rename_i emits
      rcases mem_cons.mp mem with rfl | old
      · rw [answer emits]
        refine .ack rfl h.synchronized ?_
        rcases next with next | ⟨next, fin⟩
        · exact Or.inl next
        · exact Or.inr ⟨next, fin, next⟩
      · exact (hx.sent segment old).self hx ev
    · exact (hx.sent segment mem).self hx ev
  case outstanding =>
    intro present
    simp only [Party.absorb]
    split
    · exact mem_cons_of_mem _ (h.outstanding present)
    · exact h.outstanding present

/-- The outcome of one call on `x`: it dies, or the agreement goes on. -/
def Kept (x y : Party) (outcome : ControlBlock × ControlResult) : Prop :=
  Dead (x.absorb outcome) ∨ (Agrees (x.absorb outcome) y ∧ Evolves x (x.absorb outcome))

omit synchronized in
theorem kept_silent (event : ControlEvent) : Kept x y (x.block, { event }) := by
  refine Or.inr ⟨?_, Evolves.refl _⟩
  exact hx

theorem Sound.kept (h : Sound x y c)
    (answer : result.emit = true → result.segment = c.acknowledgment.segment) :
    Kept x y (c, result) :=
  Or.inr (h.absorb hx synchronized answer)

end

omit hx in
theorem kept_closed (opened : x.opened = true) (closed : c.state = .closed)
    (result : ControlResult) : Kept x y (c, result) :=
  Or.inl ⟨opened, closed⟩

omit hx in
theorem Sound.enterTimeWait (h : Sound x y c) (fin : finState c.state = true)
    (now : Instant) : Sound x y (c.enterTimeWait now) :=
  { h with
    synchronized := rfl, fin := h.fin.trans fin, opening := fun hs => by cases hs
    acknowledged := fun _ =>
      have past : c.state ≠ .synReceived := by intro hs; simp [hs, finState] at fin
      ⟨(h.acknowledged past).sendNext, (h.acknowledged past).unacknowledged⟩
    outstanding := fun hp => by cases hp }

omit hx in
/-- A sound block moves on without touching its sequence space. -/
theorem Sound.moved (h : Sound x y c) {state : TcpState}
    (past : c.state ≠ .synReceived) (synchronized : { c with state }.synchronized = true)
    (notOpening : state ≠ .synReceived) (fin : finState state = finState c.state) :
    Sound x y { c with state } :=
  { h with
    synchronized, fin := h.fin.trans fin.symm, opening := fun hs => absurd hs notOpening
    acknowledged := fun _ =>
      ⟨(h.acknowledged past).sendNext, (h.acknowledged past).unacknowledged⟩ }

omit hx in
theorem Sound.received (h : Sound x y c)
    (inOrder : c.receiveNext = y.block.initialSendSequence + 1#32)
    (fin : y.block.localFinSent = true) :
    Sound x y { c with receiveNext := c.receiveNext + 1#32 } :=
  { h with
    receiveNext := by
      refine Or.inr ⟨?_, by rw [inOrder]; bv_omega, fin⟩
      rcases h.receiveNext with same | ⟨one, _⟩
      · rw [← same, inOrder]
      · exact one
    acknowledged := fun past =>
      ⟨(h.acknowledged past).sendNext, (h.acknowledged past).unacknowledged⟩ }

theorem acceptPeerFin_kept (synchronized : x.block.synchronized = true) (h : Sound x y c)
    (past : c.state ≠ .synReceived) (inOrder : c.receiveNext = y.block.initialSendSequence + 1#32)
    (fin : y.block.localFinSent = true) (now : Instant) : Kept x y (c.acceptPeerFin now) := by
  have received := h.received inOrder fin
  unfold ControlBlock.acceptPeerFin
  split
  · exact (received.moved past rfl (by decide) (by simp [finState, *])).kept hx synchronized
      fun _ => rfl
  · exact absurd ‹_› past
  · split
    · exact (received.enterTimeWait (by simp [finState, *]) now).kept hx synchronized fun _ => rfl
    · exact (received.moved past rfl (by decide) (by simp [finState, *])).kept hx synchronized
        fun _ => rfl
  · exact (received.enterTimeWait (by simp [finState, *]) now).kept hx synchronized fun _ => rfl
  · exact (received.enterTimeWait (by simp [finState, *]) now).kept hx synchronized fun _ => rfl
  · exact received.kept hx synchronized fun _ => rfl

/-- The segments of `y` that get as far as the processing of their text. -/
structure Text (x y : Party) (segment : Fields) : Prop where
  covered : Covered y x segment.acknowledgment
  synchronized : y.block.synchronized = true
  fin : has segment.flags Flag.fin = true →
    segment.sequence = y.block.initialSendSequence + 1#32 ∧ y.block.localFinSent = true

theorem processText_kept (synchronized : x.block.synchronized = true) (h : Sound x y c)
    (past : c.state ≠ .synReceived) (text : Text x y segment) (becameEstablished : Bool)
    (now : Instant) : Kept x y (c.processText { segment with } becameEstablished now) := by
  unfold ControlBlock.processText
  split
  · exact h.kept hx synchronized fun he => by cases he
  split
  · exact h.kept hx synchronized fun he => by cases he
  rename_i hfin
  simp only [asserted, refuted] at hfin
  obtain ⟨sequence, fin⟩ := text.fin hfin
  split
  · exact h.kept hx synchronized fun _ => rfl
  rename_i inOrder
  simp only [asserted, Decidable.not_not] at inOrder
  exact acceptPeerFin_kept hx synchronized h past (inOrder.symm.trans sequence) fin now

/-- The peer's first acknowledgment covers the SYN and nothing else. -/
theorem established_sound (opening : x.block.state = .synReceived)
    (synchronized : x.block.synchronized = true) (text : Text x y segment)
    (same : ∃ retransmission sendWindow sendWindowSequence
        sendWindowAcknowledgment, c = { x.block with
          sendUnacknowledged := segment.acknowledgment
          sendWindow, sendWindowSequence, sendWindowAcknowledgment, retransmission
          outstandingControlPresent := false, state := .established }) : Sound x y c := by
  obtain ⟨retransmission, window, windowSequence, windowAcknowledgment, rfl⟩ := same
  have hfin : x.block.localFinSent = false := by rw [hx.fin, opening]; rfl
  exact
    { hx.sound synchronized with
      synchronized := rfl, fin := hfin, opening := fun hs => by cases hs
      outstanding := fun hp => by cases hp
      acknowledged := by
        intro _
        refine ⟨?_, Or.inl ?_⟩
        · simp [hfin, (hx.opening (Or.inr opening)).2]
        · rcases text.covered with one | ⟨_, fin, _⟩
          · exact one
          · rw [hfin] at fin
            cases fin }

theorem advanceUnacknowledged_sound (past : x.block.state ≠ .synReceived)
    (synchronized : x.block.synchronized = true) (text : Text x y segment) :
    Sound x y (x.block.advanceUnacknowledged segment.acknowledgment) ∧
      (x.block.advanceUnacknowledged segment.acknowledgment).state = x.block.state := by
  have advanced : Sound x y { x.block with sendUnacknowledged := segment.acknowledgment } :=
    { hx.sound synchronized with
      opening := fun hs => absurd hs past, acknowledged := by
        intro _
        refine ⟨(hx.acknowledged synchronized past).sendNext, ?_⟩
        rcases text.covered with one | ⟨two, fin, next⟩
        · exact Or.inl one
        · exact Or.inr ⟨two, fin, text.synchronized, next⟩ }
  unfold ControlBlock.advanceUnacknowledged
  split
  · dsimp only
    split
    · obtain ⟨retransmission, cleared⟩ := ControlBlock.acknowledgeControl_eq
        { x.block with sendUnacknowledged := segment.acknowledgment }
      rw [cleared]
      exact ⟨{ advanced with
        opening := fun hs => absurd hs past
        acknowledged := fun _ =>
          ⟨(advanced.acknowledged past).sendNext, (advanced.acknowledged past).unacknowledged⟩
        outstanding := fun hp => by cases hp }, rfl⟩
    · exact ⟨advanced, rfl⟩
  · exact ⟨hx.sound synchronized, rfl⟩

omit hx in
theorem Sound.updateSendWindow (h : Sound x y c) (segment : View)
    (window : BitVec 32) : Sound x y (c.updateSendWindow segment window) ∧
      (c.updateSendWindow segment window).state = c.state := by
  unfold ControlBlock.updateSendWindow
  split
  · exact ⟨{ h with
      acknowledged := fun past =>
        ⟨(h.acknowledged past).sendNext, (h.acknowledged past).unacknowledged⟩ }, rfl⟩
  · exact ⟨h, rfl⟩

section

variable (synchronized : x.block.synchronized = true)
include synchronized

theorem processAcknowledgment_sound (text : Text x y segment) (window : BitVec 32) :
    match x.block.processAcknowledgment { segment with } window with
    | .error result => result = x.block.acknowledgment
    | .ok (c, _) => Sound x y c ∧ c.state ≠ .synReceived := by
  unfold ControlBlock.processAcknowledgment
  by_cases opening : x.block.state = .synReceived
  · rw [if_pos (by simp [opening])]
    obtain ⟨una, next⟩ := hx.opening (Or.inr opening)
    have hfin : x.block.localFinSent = false := by rw [hx.fin, opening]; rfl
    have advances : acknowledgmentAdvances segment.acknowledgment x.block.sendUnacknowledged
        x.block.sendNext = true := by
      rcases text.covered with one | ⟨_, fin, _⟩
      · simp [acknowledgmentAdvances, after_iff, beforeOrEqual_iff]
        bv_omega
      · rw [hfin] at fin
        cases fin
    rw [if_neg (by simp [advances])]
    obtain ⟨retransmission, cleared⟩ := ControlBlock.acknowledgeControl_eq { x.block with
      sendUnacknowledged := segment.acknowledgment, sendWindow := window,
      sendWindowSequence := segment.sequence, sendWindowAcknowledgment := segment.acknowledgment }
    refine ⟨established_sound hx opening synchronized text ⟨retransmission, window,
      segment.sequence, segment.acknowledgment, ?_⟩, fun hs => by cases hs⟩
    rw [cleared]
  · obtain ⟨advanced, kept⟩ := advanceUnacknowledged_sound hx opening synchronized text
    obtain ⟨sound, kept'⟩ := advanced.updateSendWindow { segment with } window
    rw [if_neg (by simp [opening])]
    split
    · rename_i result heq
      split at heq
      · exact (Except.error.inj heq).symm
      · cases heq
    · rename_i c became heq
      split at heq
      · cases heq
      obtain ⟨hc, -⟩ := Prod.mk.inj (Except.ok.inj heq)
      rw [← hc]
      exact ⟨sound, by rw [kept', kept]; exact opening⟩

theorem onAcknowledgment_kept (text : Text x y segment) (now : Instant) (window : BitVec 32) :
    Kept x y (x.block.onAcknowledgment { segment with } now window) := by
  have processed := processAcknowledgment_sound hx synchronized text window
  obtain ⟨notClosed, _⟩ := notListening_of_synchronized synchronized
  unfold ControlBlock.onAcknowledgment
  generalize x.block.processAcknowledgment { segment with } window = outcome at processed
  cases outcome with
  | error result =>
    exact (hx.sound synchronized).kept hx synchronized fun _ => congrArg _ processed
  | ok outcome =>
    obtain ⟨c, became⟩ := outcome
    obtain ⟨sound, past⟩ := processed
    dsimp only
    split
    · rename_i fin
      have hs : c.state = .finWait1 := by simpa using (Bool.and_eq_true_iff.mp fin).1
      exact processText_kept hx synchronized
        (sound.moved past rfl (by decide) (by rw [hs]; rfl)) (fun hs => by cases hs) text became now
    · split
      · rename_i fin
        have hs : c.state = .closing := by simpa using (Bool.and_eq_true_iff.mp fin).1
        exact (sound.enterTimeWait (by rw [hs]; rfl) now).kept hx synchronized
          fun he => by cases he
      · split
        · exact kept_closed (hx.isOpen notClosed) rfl _
        · exact processText_kept hx synchronized sound past text became now

omit hx synchronized in
theorem Emitted.text (h : Emitted y x segment)
    (ack : has segment.flags Flag.ack = true) (rst : has segment.flags Flag.rst = false) :
    Text x y segment := by
  cases h with
  | syn flags => rw [flags] at ack; cases ack
  | synAck flags sequence synchronized acknowledgment =>
    exact ⟨Or.inl acknowledgment, synchronized, fun fin => by rw [flags] at fin; cases fin⟩
  | ack flags synchronized acknowledgment =>
    exact ⟨acknowledgment, synchronized, fun fin => by rw [flags] at fin; cases fin⟩
  | finAck flags sequence fin synchronized acknowledgment =>
    exact ⟨acknowledgment, synchronized, fun _ => ⟨sequence, fin⟩⟩
  | reset flags => rw [flags] at rst; cases rst

theorem onReset_kept (active : x.block.passiveOpened = false) :
    Kept x y (x.block.onReset { segment with }) := by
  obtain ⟨notClosed, _⟩ := notListening_of_synchronized synchronized
  unfold ControlBlock.onReset
  split
  · exact (hx.sound synchronized).kept hx synchronized fun _ => rfl
  · simp [active]
    exact kept_closed (hx.isOpen notClosed) rfl _

theorem onSynchronized_kept (arrived : Emitted y x segment) (now : Instant) (window : BitVec 32) :
    Kept x y (x.block.onSynchronized { segment with } now window) := by
  have sound := hx.sound synchronized
  unfold ControlBlock.onSynchronized
  dsimp only
  split
  · rename_i repeated
    have hs : x.block.state = .timeWait := by
      simp only [ControlBlock.repeatedFin, asserted] at repeated
      exact repeated.1.1.1
    exact (sound.enterTimeWait (by rw [hs]; rfl) now).kept hx synchronized fun _ => rfl
  · split
    · split
      · exact sound.kept hx synchronized fun he => by cases he
      · exact sound.kept hx synchronized fun _ => rfl
    · split
      · rename_i rst
        cases arrived with
        | reset flags opened active => exact onReset_kept hx synchronized active
        | syn flags | synAck flags | ack flags | finAck flags => rw [flags] at rst; cases rst
      · rename_i rst
        split
        · exact sound.kept hx synchronized fun _ => rfl
        split
        · exact sound.kept hx synchronized fun he => by cases he
        rename_i ack
        exact onAcknowledgment_kept hx synchronized
          (arrived.text (by simpa using ack) (by simpa using rst)) now window

end

/-- What can be on its way to a party that has not sent anything of its own. -/
theorem Emitted.isSyn (hy : Agrees y x) (h : Emitted y x segment)
    (fresh : x.opened = false ∨ x.block.state = .listen) :
    segment.flags = Flag.syn ∧ segment.sequence = y.block.initialSendSequence ∧
      y.opened = true ∧ y.block.passiveOpened = false := by
  have unknown : y.block.synchronized = true → False := by
    intro synchronized
    have known := hy.knows synchronized
    rcases fresh with unopened | listening
    · rw [known.opened] at unopened
      cases unopened
    · exact known.notListening listening
  cases h with
  | syn flags sequence opened active => exact ⟨flags, sequence, opened, active⟩
  | synAck _ _ synchronized => exact (unknown synchronized).elim
  | ack _ synchronized => exact (unknown synchronized).elim
  | finAck _ _ _ synchronized => exact (unknown synchronized).elim
  | reset _ opened active =>
    rcases fresh with unopened | listening
    · rw [opened] at unopened
      cases unopened
    · rw [hx.listening listening] at active
      cases active

/-- The step in which `x` hears of its peer's SYN. -/
structure Hears (x y : Party) (c : ControlBlock) (result : ControlResult) : Prop where
  waiting : x.block.state = .listen ∨ x.block.state = .synSent
  opened : y.opened = true
  notListening : y.block.state ≠ .listen
  initialSend : x.block.state = .synSent → c.initialSendSequence = x.block.initialSendSequence
  passive : c.passiveOpened = x.block.passiveOpened
  fin : c.localFinSent = false
  initialReceive : c.initialReceiveSequence = y.block.initialSendSequence
  receiveNext : c.receiveNext = y.block.initialSendSequence + 1#32
  sendNext : c.sendNext = c.initialSendSequence + 1#32
  state : (c.state = .synReceived ∧ c.sendUnacknowledged = c.initialSendSequence ∧
      result.segment.flags = Flag.syn ||| Flag.ack ∧
      result.segment.sequence = c.initialSendSequence) ∨
    (c.state = .established ∧ c.sendUnacknowledged = c.initialSendSequence + 1#32 ∧
      result.segment.flags = Flag.ack)
  acknowledgment : result.segment.acknowledgment = c.receiveNext
  emits : result.emit = true
  outstanding : c.outstandingControlPresent = true → c.outstandingControl = result.segment

theorem Hears.kept (h : Hears x y c result) : Kept x y (c, result) := by
  have notSynchronized : x.block.synchronized = false := by
    rcases h.waiting with hs | hs <;> simp [ControlBlock.synchronized, hs]
  have synchronized : c.synchronized = true := by
    rcases h.state with ⟨hs, _⟩ | ⟨hs, _⟩ <;> simp [ControlBlock.synchronized, hs]
  have opened : x.opened = true := by
    apply hx.isOpen
    rcases h.waiting with hs | hs <;> simp [hs]
  have hsent : (x.absorb (c, result)).sent = result.segment :: x.sent := by
    simp [Party.absorb, h.emits]
  have ev : Evolves x (x.absorb (c, result)) :=
    { opened := fun ho => ⟨ho, h.passive⟩, sequence := by
        intro _ notListening
        rcases h.waiting with hs | hs
        · exact absurd hs notListening
        · refine ⟨h.initialSend hs, ?_⟩
          rcases h.state with ⟨hc, _⟩ | ⟨hc, _⟩ <;> simp [Party.absorb, hc]
      fin := by
        intro hf
        rw [hx.fin] at hf
        rcases h.waiting with hs | hs <;> simp [hs, finState] at hf
      synchronized := by
        intro hs
        rw [notSynchronized] at hs
        cases hs }
  refine Or.inr ⟨?_, ev⟩
  constructor
  case unopened =>
    intro ho
    rw [show (x.absorb (c, result)).opened = x.opened from rfl, opened] at ho
    cases ho
  case alive =>
    intro _
    rcases h.state with ⟨hc, _⟩ | ⟨hc, _⟩ <;> simp [Party.absorb, hc]
  case listening =>
    intro hs
    rcases h.state with ⟨hc, _⟩ | ⟨hc, _⟩ <;> simp [Party.absorb, hc] at hs
  case fin =>
    rcases h.state with ⟨hc, _⟩ | ⟨hc, _⟩ <;> simp [Party.absorb, hc, h.fin, finState]
  case opening =>
    intro hs
    rcases h.state with ⟨_, una, _⟩ | ⟨hc, _⟩
    · exact ⟨una, h.sendNext⟩
    · simp [Party.absorb, hc] at hs
  case knows => exact fun _ => ⟨h.opened, h.notListening, h.initialReceive, Or.inl h.receiveNext⟩
  case acknowledged =>
    intro _ past
    rcases h.state with ⟨hc, _⟩ | ⟨_, una, _⟩
    · exact absurd hc past
    · exact ⟨by simp [Party.absorb, h.sendNext, h.fin], Or.inl una⟩
  case sent =>
    intro segment mem
    rw [hsent] at mem
    rcases mem_cons.mp mem with rfl | old
    · have covers := h.acknowledgment.trans h.receiveNext
      rcases h.state with ⟨_, _, flags, sequence⟩ | ⟨_, _, flags⟩
      · exact .synAck flags sequence synchronized covers
      · exact .ack flags synchronized (Or.inl covers)
    · exact (hx.sent segment old).self hx ev
  case outstanding =>
    intro present
    rw [hsent]
    exact mem_cons.mpr (Or.inl (h.outstanding present))

omit hx in
theorem Agrees.notListening (hy : Agrees y x) (active : y.block.passiveOpened = false) :
    y.block.state ≠ .listen := by
  intro hs
  rw [hy.listening hs] at active
  cases active

theorem onListen_kept (hy : Agrees y x) (listening : x.block.state = .listen)
    (arrived : Emitted y x segment) (passiveInitialSequence : BitVec 32) (now : Instant)
    (window : BitVec 32) :
    Kept x y (x.block.onListen { segment with } passiveInitialSequence now window) := by
  obtain ⟨flags, sequence, opened, active⟩ := arrived.isSyn hx hy (Or.inr listening)
  have fin : x.block.localFinSent = false := by rw [hx.fin, listening]; rfl
  unfold ControlBlock.onListen
  rw [if_neg (by simp only [flags]; decide), if_neg (by simp only [flags]; decide),
    if_neg (by simp only [flags]; decide)]
  exact Hears.kept hx
    { waiting := Or.inl listening, opened, notListening := hy.notListening active,
      initialSend := by rw [listening]; intro hs; cases hs
      passive := rfl
      fin
      initialReceive := sequence
      receiveNext := congrArg (· + 1#32) sequence
      sendNext := rfl
      state := Or.inl ⟨rfl, rfl, rfl, rfl⟩
      acknowledgment := rfl
      emits := rfl
      outstanding := fun _ => rfl }

theorem onSynSent_kept (hy : Agrees y x) (waiting : x.block.state = .synSent)
    (arrived : Emitted y x segment) (now : Instant) (window : BitVec 32) :
    Kept x y (x.block.onSynSent { segment with } now window) := by
  obtain ⟨una, next⟩ := hx.opening (Or.inl waiting)
  have fin : x.block.localFinSent = false := by rw [hx.fin, waiting]; rfl
  have acceptable : segment.acknowledgment = x.block.initialSendSequence + 1#32 →
      (after segment.acknowledgment x.block.initialSendSequence = true ∧
        beforeOrEqual segment.acknowledgment x.block.sendNext = true) := by
    intro one
    rw [after_iff, beforeOrEqual_iff, one, next]
    constructor <;> bv_omega
  have one : Covered y x segment.acknowledgment →
      segment.acknowledgment = x.block.initialSendSequence + 1#32 := by
    rintro (one | ⟨_, sent, _⟩)
    · exact one
    · rw [fin] at sent
      cases sent
  unfold ControlBlock.onSynSent
  cases arrived with
  | syn flags sequence opened active =>
    have rst : has segment.flags Flag.rst = false := by rw [flags]; rfl
    have ack : has segment.flags Flag.ack = false := by rw [flags]; rfl
    have syn : has segment.flags Flag.syn = true := by rw [flags]; rfl
    simp only [rst, ack, syn, settled, ↓reduceIte]
    exact Hears.kept hx
      { waiting := Or.inr waiting, opened, notListening := hy.notListening active,
        initialSend := fun _ => rfl, passive := rfl, fin, initialReceive := sequence,
        receiveNext := congrArg (· + 1#32) sequence, sendNext := next,
        state := Or.inl ⟨rfl, una, rfl, rfl⟩, acknowledgment := rfl, emits := rfl,
        outstanding := fun _ => rfl }
  | synAck flags sequence synchronized acknowledgment =>
    have rst : has segment.flags Flag.rst = false := by rw [flags]; rfl
    have ack : has segment.flags Flag.ack = true := by rw [flags]; rfl
    have syn : has segment.flags Flag.syn = true := by rw [flags]; rfl
    obtain ⟨notClosed, notListening, _⟩ := notListening_of_synchronized synchronized
    obtain ⟨after, upTo⟩ := acceptable acknowledgment
    simp only [rst, ack, syn, after, upTo, Bool.and_self, settled, ↓reduceIte]
    obtain ⟨retransmission, cleared⟩ := ControlBlock.acknowledgeControl_eq { x.block with
      initialReceiveSequence := segment.sequence, receiveNext := segment.sequence + 1#32,
      sendWindow := window, sendWindowSequence := segment.sequence,
      sendWindowAcknowledgment := segment.acknowledgment
      sendUnacknowledged := segment.acknowledgment }
    rw [cleared]
    exact Hears.kept hx
      { waiting := Or.inr waiting, opened := hy.isOpen notClosed, notListening,
        initialSend := fun _ => rfl, passive := rfl, fin, initialReceive := sequence,
        receiveNext := congrArg (· + 1#32) sequence, sendNext := next,
        state := Or.inr ⟨rfl, acknowledgment, rfl⟩, acknowledgment := rfl, emits := rfl,
        outstanding := fun hp => by cases hp }
  | ack flags synchronized acknowledgment =>
    have rst : has segment.flags Flag.rst = false := by rw [flags]; rfl
    have syn : has segment.flags Flag.syn = false := by rw [flags]; rfl
    obtain ⟨after, upTo⟩ := acceptable (one acknowledgment)
    simp only [rst, syn, after, upTo, settled, Bool.and_not_self, ↓reduceIte]
    exact kept_silent hx .none
  | finAck flags sequence sent synchronized acknowledgment =>
    have rst : has segment.flags Flag.rst = false := by rw [flags]; rfl
    have syn : has segment.flags Flag.syn = false := by rw [flags]; rfl
    obtain ⟨after, upTo⟩ := acceptable (one acknowledgment)
    simp only [rst, syn, after, upTo, settled, Bool.and_not_self]
    exact kept_silent hx .none
  | reset flags opened active =>
    have rst : has segment.flags Flag.rst = true := by rw [flags]; rfl
    simp only
    split
    · exact kept_silent hx .none
    split
    · exact kept_closed (hx.isOpen (by simp [waiting])) rfl _
    · exact kept_silent hx .none

/-- Only timers change, and what is emitted is something `x` may emit anyway. -/
theorem retimed_kept (retransmission : RetransmissionEstimator) (retransmissionDeadline : Instant)
    (emitted : result.emit = true → Emitted x y result.segment) :
    Kept x y ({ x.block with retransmission, retransmissionDeadline }, result) := by
  have ev : Evolves x
      (x.absorb ({ x.block with retransmission, retransmissionDeadline }, result)) :=
    ⟨(Evolves.refl x).1, (Evolves.refl x).2, (Evolves.refl x).3, (Evolves.refl x).4⟩
  refine Or.inr ⟨?_, ev⟩
  constructor
  case unopened => exact hx.unopened
  case alive => exact hx.alive
  case listening => exact hx.listening
  case fin => exact hx.fin
  case opening => exact hx.opening
  case knows =>
    intro hs
    have known := hx.knows hs
    exact ⟨known.opened, known.notListening, known.initialReceive, known.receiveNext⟩
  case acknowledged =>
    intro hs past
    have known := hx.acknowledged hs past
    exact ⟨known.sendNext, known.unacknowledged⟩
  case sent =>
    intro segment mem
    simp only [Party.absorb] at mem
    split at mem
    · rename_i emits
      rcases mem_cons.mp mem with rfl | old
      · exact (emitted emits).self hx ev
      · exact (hx.sent segment old).self hx ev
    · exact (hx.sent segment mem).self hx ev
  case outstanding =>
    intro present
    simp only [Party.absorb]
    split
    · exact mem_cons_of_mem _ (hx.outstanding present)
    · exact hx.outstanding present

/-- A party that is not open answers a SYN with a reset. -/
theorem unopened_kept (hy : Agrees y x) (unopened : x.opened = false)
    (arrived : Emitted y x segment) : Kept x y (x.block, x.block.resetFor { segment with }) := by
  obtain ⟨flags, _, opened, active⟩ := arrived.isSyn hx hy (Or.inl unopened)
  have ack : has segment.flags Flag.ack = false := by rw [flags]; rfl
  refine retimed_kept hx x.block.retransmission x.block.retransmissionDeadline fun _ => ?_
  refine .reset ?_ opened active
  simp [ControlBlock.resetFor, ack]

theorem onSegment_kept (hy : Agrees y x) (arrived : Emitted y x segment)
    (passiveInitialSequence : BitVec 32) (now : Instant) (decodedPeerWindow : Option (BitVec 32)) :
    Kept x y (x.block.onSegment { segment with } passiveInitialSequence now decodedPeerWindow) := by
  unfold ControlBlock.onSegment
  split
  · exact kept_silent hx .none
  split
  · rename_i closed
    have unopened : x.opened = false := by
      cases ho : x.opened with
      | false => rfl
      | true => exact absurd closed (hx.alive ho)
    split
    · exact kept_silent hx .none
    · exact unopened_kept hx hy unopened arrived
  · exact onListen_kept hx hy ‹_› arrived _ _ _
  · exact onSynSent_kept hx hy ‹_› arrived _ _
  · rename_i notClosed notListening notSynSent
    refine onSynchronized_kept hx ?_ arrived _ _
    unfold ControlBlock.synchronized
    split
    · exact absurd ‹_› notClosed
    · exact absurd ‹_› notListening
    · exact absurd ‹_› notSynSent
    · rfl

theorem serviceDeadline_kept (now : Instant) : Kept x y (x.block.serviceDeadline now) := by
  unfold ControlBlock.serviceDeadline
  split
  · rename_i expired
    have hs : x.block.state = .timeWait := by
      simp only [asserted] at expired
      exact expired.1
    exact kept_closed (hx.isOpen (by simp [hs])) rfl _
  · split
    · exact kept_silent hx .none
    · rename_i due
      simp only [asserted, not_or, refuted] at due
      exact retimed_kept hx _ _ fun _ => hx.sent _ (hx.outstanding due.1)

theorem close_kept (now : Instant) : Kept x y (x.block.close now) := by
  unfold ControlBlock.close
  split
  · rename_i waiting
    refine kept_closed (hx.isOpen ?_) rfl _
    intro hs
    simp [hs] at waiting
  · split
    · exact kept_silent hx .none
    · rename_i canClose
      have hs : x.block.state = .established ∨ x.block.state = .closeWait := by
        simpa [Classical.or_iff_not_imp_left] using canClose
      have synchronized : x.block.synchronized = true := by
        rcases hs with hs | hs <;> simp [ControlBlock.synchronized, hs]
      have past : x.block.state ≠ .synReceived := by rcases hs with hs | hs <;> simp [hs]
      have fin : x.block.localFinSent = false := by
        rw [hx.fin]
        rcases hs with hs | hs <;> rw [hs] <;> rfl
      have opened : x.opened = true := hx.isOpen (by rcases hs with hs | hs <;> simp [hs])
      have known := hx.knows synchronized
      obtain ⟨next, una⟩ := hx.acknowledged synchronized past
      simp only [fin, settled, ↓reduceIte] at next
      generalize hstate : (if (x.block.state == .established) = true then TcpState.finWait1
        else .lastAck) = state
      have closing : state = .finWait1 ∨ state = .lastAck := by
        rw [← hstate]
        split <;> simp
      have ev : ∀ c result, c.passiveOpened = x.block.passiveOpened →
          c.initialSendSequence = x.block.initialSendSequence → c.state = state →
          c.initialReceiveSequence = x.block.initialReceiveSequence →
          c.receiveNext = x.block.receiveNext → Evolves x (x.absorb (c, result)) := by
        intro c result hpassive hsend hstate' hreceive hnext
        refine ⟨fun ho => ⟨ho, hpassive⟩, fun _ _ => ⟨hsend, ?_⟩, fun hf => ?_, fun _ =>
          ⟨?_, hreceive, fun _ => hnext⟩⟩
        · rcases closing with rfl | rfl <;> simp [Party.absorb, hstate']
        · rw [fin] at hf
          cases hf
        · rcases closing with rfl | rfl <;>
            simp [Party.absorb, ControlBlock.synchronized, hstate']
      refine Or.inr ⟨?_, ev _ _ rfl rfl rfl rfl rfl⟩
      constructor
      case unopened =>
        intro ho
        rw [show (x.absorb _).opened = x.opened from rfl, opened] at ho
        cases ho
      case alive => intro _; rcases closing with rfl | rfl <;> intro hc <;> cases hc
      case listening => intro hc; rcases closing with rfl | rfl <;> cases hc
      case fin => rcases closing with rfl | rfl <;> rfl
      case opening =>
        intro hc
        rcases closing with rfl | rfl <;> rcases hc with hc | hc <;> cases hc
      case knows =>
        exact fun _ => ⟨known.opened, known.notListening, known.initialReceive, known.receiveNext⟩
      case acknowledged =>
        intro _ _
        refine ⟨?_, ?_⟩
        · simp [Party.absorb, ControlBlock.trackControl]
          bv_omega
        · rcases una with one | ⟨_, sent, _⟩
          · exact Or.inl one
          · rw [fin] at sent
            cases sent
      case sent =>
        intro segment mem
        rcases mem_cons.mp mem with rfl | old
        · refine .finAck rfl next rfl ?_ ?_
          · rcases closing with rfl | rfl <;> rfl
          · rcases known.receiveNext with one | ⟨two, sent⟩
            · exact Or.inl one
            · exact Or.inr ⟨two, sent, two⟩
        · exact (hx.sent segment old).self hx (ev _ _ rfl rfl rfl rfl rfl)
      case outstanding => exact fun _ => mem_cons_self

end

theorem Evolves.ofUnopened {x x' : Party} (hx : Agrees x y) (unopened : x.opened = false) :
    Evolves x x' := by
  have closed := hx.unopened unopened
  have fin : x.block.localFinSent = false := by rw [hx.fin, closed]; rfl
  have notSynchronized : x.block.synchronized = false := by simp [ControlBlock.synchronized, closed]
  exact
    { opened := by rw [unopened]; intro h; cases h
      sequence := by rw [unopened]; intro h; cases h
      fin := by rw [fin]; intro h; cases h
      synchronized := by rw [notSynchronized]; intro h; cases h }

theorem passiveOpen_kept (hx : Agrees x y) :
    Dead x.passiveOpen ∨ (Agrees x.passiveOpen y ∧ Evolves x x.passiveOpen) := by
  unfold Party.passiveOpen
  split
  · exact Or.inr ⟨hx, Evolves.refl x⟩
  rename_i unopened
  rw [Bool.not_eq_true] at unopened
  have closed := hx.unopened unopened
  have fin : x.block.localFinSent = false := by rw [hx.fin, closed]; rfl
  unfold ControlBlock.passiveOpen
  split
  · exact Or.inl ⟨rfl, closed⟩
  refine Or.inr ⟨?_, Evolves.ofUnopened hx unopened⟩
  constructor
  case unopened => intro h; cases h
  case alive => intro _ h; cases h
  case listening => exact fun _ => rfl
  case fin => exact fin
  case opening => rintro (h | h) <;> cases h
  case knows => intro h; cases h
  case acknowledged => intro h; cases h
  case sent =>
    intro segment mem
    exact (hx.sent segment mem).self hx (Evolves.ofUnopened hx unopened)
  case outstanding => exact hx.outstanding

theorem activeOpen_kept (hx : Agrees x y) (initialSequence : BitVec 32) (now : Instant) :
    Dead (x.activeOpen initialSequence now) ∨ (Agrees (x.activeOpen initialSequence now) y ∧
      Evolves x (x.activeOpen initialSequence now)) := by
  unfold Party.activeOpen
  split
  · exact Or.inr ⟨hx, Evolves.refl x⟩
  rename_i unopened
  rw [Bool.not_eq_true] at unopened
  have closed := hx.unopened unopened
  have fin : x.block.localFinSent = false := by rw [hx.fin, closed]; rfl
  unfold ControlBlock.activeOpen
  split
  · exact Or.inl ⟨rfl, closed⟩
  refine Or.inr ⟨?_, Evolves.ofUnopened hx unopened⟩
  constructor
  case unopened => intro h; cases h
  case alive => intro _ h; cases h
  case listening => intro h; cases h
  case fin => exact fin
  case opening => exact fun _ => ⟨rfl, rfl⟩
  case knows => intro h; cases h
  case acknowledged => intro h; cases h
  case sent =>
    intro segment mem
    rcases mem_cons.mp mem with rfl | old
    · exact .syn rfl rfl rfl rfl
    · exact (hx.sent segment old).self hx (Evolves.ofUnopened hx unopened)
  case outstanding => exact fun _ => mem_cons_self

theorem step_kept (hx : Agrees x y) (hy : Agrees y x) (op : PartyOp) :
    Dead (x.step y op) ∨ (Agrees (x.step y op) y ∧ Evolves x (x.step y op)) := by
  cases op with
  | passiveOpen => exact passiveOpen_kept hx
  | activeOpen initialSequence now => exact activeOpen_kept hx initialSequence now
  | deliver index passiveInitialSequence now decodedPeerWindow =>
    simp only [Party.step, Party.deliver]
    split
    · exact Or.inr ⟨hx, Evolves.refl x⟩
    · rename_i segment hindex
      exact onSegment_kept hx hy (hy.sent segment (mem_of_getElem? hindex)) _ _ _
  | serviceDeadline now => exact serviceDeadline_kept hx now
  | close now => exact close_kept hx now

theorem Dead.step (h : Dead x) (op : PartyOp) : Dead (x.step y op) := by
  obtain ⟨opened, closed⟩ := h
  cases op with
  | passiveOpen => simp [Party.step, Party.passiveOpen, Dead, opened, closed]
  | activeOpen => simp [Party.step, Party.activeOpen, Dead, opened, closed]
  | deliver index passiveInitialSequence now decodedPeerWindow =>
    simp only [Party.step, Party.deliver]
    split
    · exact ⟨opened, closed⟩
    refine ⟨opened, ?_⟩
    simp only [Party.absorb, ControlBlock.onSegment]
    split
    · exact closed
    · simp [closed]
  | serviceDeadline now =>
    refine ⟨opened, ?_⟩
    simp only [Party.step, ControlBlock.serviceDeadline]
    split
    · rfl
    · split <;> exact closed
  | close now => simp [Party.step, Party.absorb, ControlBlock.close, Dead, opened, closed]

end Party

namespace Handshake

/-- A dead party can hold no further agreement; until then both directions do. -/
def Inv (h : Handshake) : Prop :=
  h.left.Dead ∨ h.right.Dead ∨ (h.left.Agrees h.right ∧ h.right.Agrees h.left)

theorem fresh_agrees (localPort remotePort : BitVec 16) (window mss : BitVec 32) (y : Party) :
    Party.Agrees { block := ControlBlock.create localPort remotePort window mss } y := by
  constructor
  case unopened => exact fun _ => rfl
  case alive => intro h; cases h
  case listening => intro h; cases h
  case fin => rfl
  case opening => rintro (h | h) <;> cases h
  case knows => intro h; cases h
  case acknowledged => intro h; cases h
  case sent => intro segment mem; cases mem
  case outstanding => intro h; cases h

theorem step_inv {h : Handshake} (inv : h.Inv) (op : HandshakeOp) : (h.step op).Inv := by
  rcases inv with dead | dead | ⟨left, right⟩
  · cases op with
    | left op => exact Or.inl (dead.step op)
    | right op => exact Or.inl dead
  · cases op with
    | left op => exact Or.inr (Or.inl dead)
    | right op => exact Or.inr (Or.inl (dead.step op))
  · cases op with
    | left op =>
      rcases Party.step_kept left right op with dead | ⟨agrees, evolves⟩
      · exact Or.inl dead
      · exact Or.inr (Or.inr ⟨agrees, right.peer left evolves⟩)
    | right op =>
      rcases Party.step_kept right left op with dead | ⟨agrees, evolves⟩
      · exact Or.inr (Or.inl dead)
      · exact Or.inr (Or.inr ⟨left.peer right evolves, agrees⟩)

theorem run_inv (leftPort rightPort : BitVec 16)
    (leftWindow rightWindow leftMss rightMss : BitVec 32) (ops : List HandshakeOp) :
    (Runs.run step (start leftPort rightPort leftWindow rightWindow leftMss rightMss) ops).Inv :=
  Runs.invariant (P := Inv) (fun _ op inv => step_inv inv op) ops
    (Or.inr (Or.inr ⟨fresh_agrees _ _ _ _ _, fresh_agrees _ _ _ _ _⟩))

end Handshake

/-- ESTABLISHED or a later synchronized state. -/
def Party.Reached (x : Party) : Prop := x.block.synchronized = true ∧ x.block.state ≠ .synReceived

/-- What `x` believes of `y` lies within what `y` has done. -/
def Party.Consistent (x y : Party) : Prop :=
  x.block.initialReceiveSequence = y.block.initialSendSequence ∧
    after x.block.receiveNext y.block.sendNext = false ∧
    after x.block.sendUnacknowledged y.block.receiveNext = false

theorem Party.Agrees.consistent {x y : Party} (hx : x.Agrees y) (hy : y.Agrees x)
    (reached : x.Reached) (peer : y.Reached) : x.Consistent y := by
  have known := hx.knows reached.1
  have known' := hy.knows peer.1
  obtain ⟨_, una⟩ := hx.acknowledged reached.1 reached.2
  obtain ⟨next, _⟩ := hy.acknowledged peer.1 peer.2
  refine ⟨known.initialReceive, ?_, ?_⟩
  · rw [Bool.eq_false_iff, ne_eq, after_iff]
    rcases known.receiveNext with one | ⟨two, fin⟩
    · rw [one, next]
      split <;> bv_omega
    · rw [two, next, if_pos fin]
      bv_omega
  · rw [Bool.eq_false_iff, ne_eq, after_iff]
    rcases una with one | ⟨two, _, _, received⟩
    · rcases known'.receiveNext with same | ⟨later, _⟩
      · rw [one, same]
        bv_omega
      · rw [one, later]
        bv_omega
    · rw [two, received]
      bv_omega

/-- Two ends that both reached ESTABLISHED agree on their initial sequence
numbers, and neither believes more was sent or received than was. -/
theorem handshake_agreement (leftPort rightPort : BitVec 16)
    (leftWindow rightWindow leftMss rightMss : BitVec 32) (ops : List HandshakeOp) :
    let h := Runs.run Handshake.step
      (Handshake.start leftPort rightPort leftWindow rightWindow leftMss rightMss) ops
    h.left.Reached → h.right.Reached → h.left.Consistent h.right ∧ h.right.Consistent h.left := by
  intro h left right
  rcases Handshake.run_inv leftPort rightPort leftWindow rightWindow leftMss rightMss ops with
    dead | dead | ⟨hl, hr⟩
  · exact absurd dead.2 (Party.notListening_of_synchronized left.1).1
  · exact absurd dead.2 (Party.notListening_of_synchronized right.1).1
  · exact ⟨hl.consistent hr left right, hr.consistent hl right left⟩

/-- A three-way handshake whose SYN is delivered twice. -/
theorem handshake_agreement_three_way :
    let h := Runs.run Handshake.step (Handshake.start 4000#16 80#16 1000#32 2000#32 536#32 536#32)
      [.right .passiveOpen, .left (.activeOpen 0xffffffff#32 0),
        .right (.deliver 0 300#32 1 none), .right (.deliver 0 301#32 2 none),
        .left (.deliver 1 0#32 3 none), .right (.deliver 0 302#32 4 none)]
    h.left.Reached ∧ h.right.Reached ∧ h.left.Consistent h.right ∧ h.right.Consistent h.left :=
  have left := ⟨by decide, by decide⟩
  have right := ⟨by decide, by decide⟩
  ⟨left, right, handshake_agreement _ _ _ _ _ _ _ left right⟩

end RouterSim.Tcp
