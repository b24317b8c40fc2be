import RouterSim.Tcp.ConnectionAgreement

/-! The window a data sender fills, beside the window its control block has validated. The
control block takes the window of a segment that is no older than the last one it took it from;
the sender takes the window of every acknowledgment that is not ahead of what was sent. -/
namespace RouterSim.Tcp

open Serial Sample

/-! ## The control block -/

namespace ControlBlock

variable {c : ControlBlock} {segment : View} {window : BitVec 32} {now : Instant}

/-- SND.WL1 and SND.WL2 are no newer than the segment. -/
def windowFresh (c : ControlBlock) (segment : View) : Bool :=
  before c.sendWindowSequence segment.sequence ||
    (c.sendWindowSequence == segment.sequence &&
      beforeOrEqual c.sendWindowAcknowledgment segment.acknowledgment)

/-- The segment passes the checks of a synchronized state before its acknowledgment. -/
def reachesAcknowledgment (c : ControlBlock) (segment : View) : Bool :=
  !c.repeatedFin segment && (c.repeatedSimultaneousSyn segment || c.acceptable segment) &&
    !has segment.flags Flag.rst && (!has segment.flags Flag.syn || c.repeatedSimultaneousSyn segment) &&
    has segment.flags Flag.ack

/-- The acknowledgment is one the state processes, and the window in it is fresh. -/
def acknowledgmentTakesWindow (c : ControlBlock) (segment : View) : Bool :=
  if c.state == .synReceived then
    acknowledgmentAdvances segment.acknowledgment c.sendUnacknowledged c.sendNext
  else !after segment.acknowledgment c.sendNext && c.windowFresh segment

/-- The acknowledgment a SYN sent waits for. -/
def answersSyn (c : ControlBlock) (segment : View) : Bool :=
  has segment.flags Flag.ack && after segment.acknowledgment c.initialSendSequence &&
    beforeOrEqual segment.acknowledgment c.sendNext

/-- The control block takes the window of this segment as SND.WND. -/
def takesWindow (c : ControlBlock) (segment : View) : Bool :=
  segment.destinationPort == c.localPort &&
    match c.state with
    | .closed => false
    | .listen =>
      !has segment.flags Flag.rst && !has segment.flags Flag.ack && has segment.flags Flag.syn
    | .synSent =>
      (!has segment.flags Flag.ack || c.answersSyn segment) && !has segment.flags Flag.rst &&
        has segment.flags Flag.syn
    | _ => c.reachesAcknowledgment segment && c.acknowledgmentTakesWindow segment

@[simp] theorem trackControl_sendWindow (fields : Fields) :
    (c.trackControl fields now).sendWindow = c.sendWindow := rfl

@[simp] theorem acknowledgeControl_sendWindow : c.acknowledgeControl.sendWindow = c.sendWindow := by
  obtain ⟨_, eq⟩ := acknowledgeControl_eq c
  rw [eq]

@[simp] theorem acceptPeerFin_sendWindow : (c.acceptPeerFin now).1.sendWindow = c.sendWindow := by
  unfold acceptPeerFin
  split
  · rfl
  · rfl
  · split <;> rfl
  · rfl
  · rfl
  · rfl

@[simp] theorem processText_sendWindow (became : Bool) :
    (c.processText segment became now).1.sendWindow = c.sendWindow := by
  unfold processText
  split
  · rfl
  split
  · rfl
  split
  · rfl
  · exact acceptPeerFin_sendWindow

@[simp] theorem advanceUnacknowledged_sendWindow (acknowledgment : BitVec 32) :
    (c.advanceUnacknowledged acknowledgment).sendWindow = c.sendWindow := by
  unfold advanceUnacknowledged
  split
  · dsimp only
    split
    · exact acknowledgeControl_sendWindow
    · rfl
  · rfl

theorem updateSendWindow_sendWindow :
    (c.updateSendWindow segment window).sendWindow =
      if c.windowFresh segment then window else c.sendWindow := by
  unfold updateSendWindow windowFresh
  split <;> rfl

@[simp] theorem onReset_sendWindow : (c.onReset segment).1.sendWindow = c.sendWindow := by
  unfold onReset
  split
  · rfl
  · split <;> rfl

theorem windowFresh_advance (acknowledgment : BitVec 32) :
    (c.advanceUnacknowledged acknowledgment).windowFresh segment = c.windowFresh segment := by
  unfold advanceUnacknowledged
  split
  · dsimp only
    split
    · obtain ⟨_, eq⟩ := acknowledgeControl_eq { c with sendUnacknowledged := acknowledgment }
      rw [eq]
      rfl
    · rfl
  · rfl

theorem processAcknowledgment_sendWindow {next : ControlBlock} {became : Bool}
    (h : c.processAcknowledgment segment window = .ok (next, became)) :
    next.sendWindow = if c.acknowledgmentTakesWindow segment then window else c.sendWindow := by
  unfold processAcknowledgment at h
  unfold acknowledgmentTakesWindow
  split at h
  next received =>
    split at h
    · cases h
    rename_i advances
    obtain ⟨rfl, rfl⟩ := Prod.mk.inj (Except.ok.inj h)
    rw [Bool.not_eq_true', Bool.not_eq_false] at advances
    rw [if_pos received, if_pos advances]
    exact acknowledgeControl_sendWindow
  next other =>
    split at h
    · cases h
    rename_i near
    obtain ⟨rfl, rfl⟩ := Prod.mk.inj (Except.ok.inj h)
    rw [Bool.not_eq_true] at near
    rw [updateSendWindow_sendWindow, windowFresh_advance, advanceUnacknowledged_sendWindow,
      if_neg other, near]
    rfl

/-- An acknowledgment that is answered with an error takes no window. -/
theorem processAcknowledgment_error {result : ControlResult}
    (h : c.processAcknowledgment segment window = .error result) :
    c.acknowledgmentTakesWindow segment = false := by
  unfold processAcknowledgment at h
  unfold acknowledgmentTakesWindow
  split at h
  next received =>
    split at h
    next stays =>
      rw [if_pos received]
      exact (Bool.not_eq_true' _).mp stays
    next => cases h
  next other =>
    split at h
    next beyond => simp [other, beyond]
    next => cases h

theorem onAcknowledgment_sendWindow :
    (c.onAcknowledgment segment now window).1.sendWindow =
      if c.acknowledgmentTakesWindow segment then window else c.sendWindow := by
  unfold onAcknowledgment
  cases processed : c.processAcknowledgment segment window with
  | error result => simp [processAcknowledgment_error processed]
  | ok outcome =>
    obtain ⟨next, became⟩ := outcome
    rw [← processAcknowledgment_sendWindow processed]
    dsimp only
    split
    · exact processText_sendWindow became
    split
    · rfl
    split
    · rfl
    · exact processText_sendWindow became

theorem onSynchronized_sendWindow :
    (c.onSynchronized segment now window).1.sendWindow =
      if c.reachesAcknowledgment segment && c.acknowledgmentTakesWindow segment then window
      else c.sendWindow := by
  unfold onSynchronized
  dsimp only
  split
  next fin => simp [reachesAcknowledgment, fin, enterTimeWait]
  rename_i notFin
  split
  next outside =>
    simp only [asserted] at outside
    simp [reachesAcknowledgment, outside.1, outside.2]
  next inside =>
    split
    next reset => simp [reachesAcknowledgment, reset]
    rename_i noReset
    split
    next syn =>
      simp only [asserted] at syn
      simp [reachesAcknowledgment, syn.1, syn.2]
    next noSyn =>
      split
      next noAck =>
        simp only [asserted] at noAck
        simp [reachesAcknowledgment, noAck]
      next ack =>
        have reaches : c.reachesAcknowledgment segment = true := by
          simp only [asserted, not_and, refuted] at notFin inside noReset noSyn ack
          simp only [reachesAcknowledgment, notFin, noReset, ack, settled, asserted]
          constructor
          · cases repeated : c.repeatedSimultaneousSyn segment with
            | true => exact .inl rfl
            | false => exact .inr (inside repeated)
          · cases syn : has segment.flags Flag.syn with
            | true => exact .inr (noSyn syn)
            | false => exact .inl rfl
        rw [reaches, Bool.true_and]
        exact onAcknowledgment_sendWindow

theorem onListen_sendWindow (initial : BitVec 32) :
    (c.onListen segment initial now window).1.sendWindow =
      if !has segment.flags Flag.rst && !has segment.flags Flag.ack && has segment.flags Flag.syn
        then window else c.sendWindow := by
  unfold onListen
  cases has segment.flags Flag.rst <;> cases has segment.flags Flag.ack <;>
    cases has segment.flags Flag.syn <;> rfl

theorem onSynSent_sendWindow :
    (c.onSynSent segment now window).1.sendWindow =
      if (!has segment.flags Flag.ack || c.answersSyn segment) && !has segment.flags Flag.rst &&
        has segment.flags Flag.syn then window else c.sendWindow := by
  unfold onSynSent
  dsimp only
  rw [show (has segment.flags Flag.ack && after segment.acknowledgment c.initialSendSequence &&
    beforeOrEqual segment.acknowledgment c.sendNext) = c.answersSyn segment from rfl]
  cases answers : c.answersSyn segment with
  | true =>
    cases has segment.flags Flag.rst with
    | true => simp
    | false =>
      cases has segment.flags Flag.syn with
      | false => simp
      | true => simp
  | false =>
    cases has segment.flags Flag.ack with
    | true => simp
    | false =>
      cases has segment.flags Flag.rst with
      | true => simp
      | false =>
        cases has segment.flags Flag.syn with
        | false => simp
        | true => simp [synAck]

/-- The window a segment leaves is the one it carries, or the one there was. -/
theorem onSegment_sendWindow (c : ControlBlock) (segment : View) (initial : BitVec 32)
    (now : Instant) (window : BitVec 32) :
    (c.onSegment segment initial now (some window)).1.sendWindow =
      if c.takesWindow segment then window else c.sendWindow := by
  unfold onSegment takesWindow
  cases mine : segment.destinationPort == c.localPort with
  | false => simp [bne, mine]
  | true =>
    simp only [bne, mine, settled]
    cases state : c.state with
    | closed => rfl
    | listen => exact onListen_sendWindow initial
    | synSent => exact onSynSent_sendWindow
    | synReceived | established | finWait1 | finWait2 | closeWait | closing | lastAck | timeWait =>
      exact onSynchronized_sendWindow

@[simp] theorem activeOpen_sendWindow (initial : BitVec 32) :
    (c.activeOpen initial now).1.sendWindow = c.sendWindow := by
  unfold activeOpen
  split <;> rfl

@[simp] theorem passiveOpen_sendWindow : c.passiveOpen.1.sendWindow = c.sendWindow := by
  unfold passiveOpen
  split <;> rfl

@[simp] theorem close_sendWindow : (c.close now).1.sendWindow = c.sendWindow := by
  unfold close
  split
  · rfl
  · split <;> rfl

@[simp] theorem serviceDeadline_sendWindow : (c.serviceDeadline now).1.sendWindow = c.sendWindow := by
  unfold serviceDeadline
  split
  · rfl
  · split <;> rfl

@[simp] theorem commitSentData_sendWindow (sequence octets : BitVec 32) :
    (c.commitSentData sequence octets).1.sendWindow = c.sendWindow := by
  unfold commitSentData
  split <;> rfl

theorem commitReceivedData_sendWindow {next received : BitVec 32} {fin : Option (BitVec 32)}
    {outcome : ControlBlock × ControlResult}
    (h : c.commitReceivedData next received fin now = some outcome) :
    outcome.1.sendWindow = c.sendWindow := by
  obtain ⟨-, h⟩ := Option.ite_none_left_eq_some.mp h
  split at h
  · obtain rfl := Option.some.inj h
    exact acceptPeerFin_sendWindow
  · obtain rfl := Option.some.inj h
    rfl

end ControlBlock

/-! ## The data sender -/

namespace Sender

variable {s : Sender} {intent : PreparedTransmission} {now : Instant}

@[simp] theorem startOrRestartTimer_receiverWindow :
    (s.startOrRestartTimer now).receiverWindow = s.receiverWindow := rfl

@[simp] theorem watchOldest_receiverWindow (time : TransmissionRecord → Instant) :
    (s.watchOldest time).receiverWindow = s.receiverWindow := by
  unfold watchOldest
  split <;> rfl

@[simp] theorem updatePersist_receiverWindow :
    (s.updatePersist now).receiverWindow = s.receiverWindow := rfl

@[simp] theorem write_receiverWindow (input : List Octet) :
    (s.write input now).1.receiverWindow = s.receiverWindow := by
  unfold write
  split
  · rfl
  · dsimp only
    split <;> rfl

@[simp] theorem reduceMss_receiverWindow (senderMss : BitVec 32) :
    (s.reduceMss senderMss).1.receiverWindow = s.receiverWindow := by
  unfold reduceMss
  split
  · rfl
  · split <;> rfl

@[simp] theorem prepareNew_receiverWindow (pushed : Bool) :
    (s.prepareNew now pushed).1.receiverWindow = s.receiverWindow := by
  unfold prepareNew smallPayload
  dsimp only
  repeat' split
  all_goals rfl

@[simp] theorem preparePersistProbe_receiverWindow :
    (s.preparePersistProbe now).1.receiverWindow = s.receiverWindow := by
  unfold preparePersistProbe
  dsimp only
  repeat' split
  all_goals rfl

theorem orElse_receiverWindow {selected : Sender × PreparedTransmission}
    {next : Sender → Sender × PreparedTransmission}
    (keeps : ∀ t : Sender, (next t).1.receiverWindow = t.receiverWindow) :
    (Sender.orElse selected next).1.receiverWindow = selected.1.receiverWindow := by
  unfold Sender.orElse
  split
  · rfl
  · exact keeps selected.1

/-! ### Admission -/

@[simp] theorem abort_receiverWindow : s.abort.receiverWindow = s.receiverWindow := rfl

@[simp] theorem markRttRetransmitted_receiverWindow (range : PreparedSendRange) :
    (s.markRttRetransmitted range).receiverWindow = s.receiverWindow := by
  unfold markRttRetransmitted
  split <;> rfl

@[simp] theorem startRttProbe_receiverWindow :
    (s.startRttProbe intent now).receiverWindow = s.receiverWindow := by
  unfold startRttProbe
  split <;> rfl

@[simp] theorem noteRepair_receiverWindow (first last : BitVec 32) :
    (s.noteRepair first last now).receiverWindow = s.receiverWindow := rfl

@[simp] theorem recordOriginal_receiverWindow :
    (s.recordOriginal intent now).1.receiverWindow = s.receiverWindow := rfl

@[simp] theorem recordRetransmission_receiverWindow :
    (s.recordRetransmission intent now).1.receiverWindow = s.receiverWindow := rfl

@[simp] theorem recordTransmission_receiverWindow :
    (s.recordTransmission intent now).1.receiverWindow = s.receiverWindow := by
  unfold recordTransmission
  split <;> rfl

@[simp] theorem extendScoreboard_receiverWindow :
    s.extendScoreboard.1.receiverWindow = s.receiverWindow := rfl

@[simp] theorem beginFlight_receiverWindow :
    (s.beginFlight intent now).receiverWindow = s.receiverWindow := rfl

theorem applyCommit_receiverWindow (previousFlight : BitVec 32) :
    (s.applyCommit intent previousFlight now).1.receiverWindow = s.receiverWindow := by
  unfold applyCommit
  split
  · unfold commitNewData
    dsimp only
    repeat' split
    all_goals simp
  · unfold commitFastRetransmit
    dsimp only
    split
    all_goals simp
  · unfold commitTimeoutRetransmit
    dsimp only
    split
    all_goals simp
  · unfold commitPersistProbe
    dsimp only
    repeat' split
    all_goals simp
  · unfold commitSackRecovery
    dsimp only
    repeat' split
    all_goals simp

@[simp] theorem commit_receiverWindow : (s.commit intent now).1.receiverWindow = s.receiverWindow := by
  unfold commit
  split
  · rfl
  dsimp only
  split
  · rfl
  split
  · exact applyCommit_receiverWindow _
  · exact applyCommit_receiverWindow _

/-! ### Acknowledgments -/

@[simp] theorem observeRtt_receiverWindow (acknowledgment : BitVec 32) (rtt : Option Duration) :
    (s.observeRtt acknowledgment now rtt).receiverWindow = s.receiverWindow := by
  unfold observeRtt
  cases rtt with
  | none =>
    dsimp only
    split <;> rfl
  | some _ =>
    dsimp only
    split <;> rfl

@[simp] theorem onAdvanced_receiverWindow (acknowledgment newly : BitVec 32) (recovering : Bool)
    (rtt : Option Duration) :
    (s.onAdvanced acknowledgment newly recovering now rtt).receiverWindow = s.receiverWindow := by
  unfold onAdvanced
  dsimp only
  repeat' split
  all_goals simp

@[simp] theorem onDuplicate_receiverWindow (eligible : Bool) :
    (s.onDuplicate eligible).receiverWindow = s.receiverWindow := by
  unfold onDuplicate
  split <;> rfl

@[simp] theorem detectLoss_receiverWindow (newInformation : Bool) :
    (s.detectLoss newInformation).receiverWindow = s.receiverWindow := by
  unfold detectLoss
  split
  · dsimp only
    split <;> rfl
  · rfl

/-- The sender is there for the acknowledgment, and it is not ahead of what was sent. -/
def admits (s : Sender) (acknowledgment : BitVec 32) : Bool :=
  s.valid && s.bytes.valid && !after acknowledgment s.bytes.sendNext

variable {acknowledgment window : BitVec 32} {eligible : Bool} {rtt : Option Duration}
  {blocks : List SackBlock}

theorem acknowledge_refused (window : BitVec 32) (eligible : Bool) (now : Instant)
    (rtt : Option Duration) (blocks : List SackBlock) (h : s.admits acknowledgment = false) :
    (s.acknowledge acknowledgment window eligible now rtt blocks).2.status = .beyondSent ∨
      (s.acknowledge acknowledgment window eligible now rtt blocks).2.status = .invalid := by
  unfold acknowledge
  cases valid : s.valid with
  | false => exact .inr rfl
  | true =>
    unfold SendBuffer.acknowledge
    cases repository : s.bytes.valid with
    | false => exact .inr (by simp)
    | true =>
      have beyond : after acknowledgment s.bytes.sendNext = true := by
        simpa [admits, valid, repository] using h
      exact .inl (by simp [beyond])

theorem acknowledge_admitted (window : BitVec 32) (eligible : Bool) (now : Instant)
    (rtt : Option Duration) (blocks : List SackBlock) (h : s.admits acknowledgment = true) :
    ((s.acknowledge acknowledgment window eligible now rtt blocks).2.status = .advanced ∨
      (s.acknowledge acknowledgment window eligible now rtt blocks).2.status = .duplicate) ∧
      (s.acknowledge acknowledgment window eligible now rtt blocks).1.receiverWindow = window := by
  simp only [admits, asserted] at h
  obtain ⟨⟨valid, repository⟩, near⟩ := h
  unfold acknowledge SendBuffer.acknowledge
  simp only [valid, repository, near]
  cases advances : after acknowledgment s.bytes.sendUnacknowledged with
  | false =>
    refine ⟨.inr rfl, ?_⟩
    simp [takeWindow]
  | true =>
    refine ⟨.inl rfl, ?_⟩
    simp [takeWindow]

end Sender

/-! ## The connection -/

namespace Connection

variable {c c' : Connection} {s t : Sender} {segment : View} {now : Instant}

theorem acknowledgeData_receiverWindow (c : Connection) (s : Sender) (segment : View)
    (typed : TypedOptions) (options : OptionState) (now : Instant) :
    (c.acknowledgeData s segment typed options now).receiverWindow =
      if has segment.flags Flag.ack && s.admits segment.acknowledgment then
        decodedWindow options segment else s.receiverWindow := by
  unfold acknowledgeData
  cases has segment.flags Flag.ack with
  | false => rfl
  | true =>
    simp only [settled]
    generalize (segment.payload.isEmpty && segment.acknowledgment == c.control.sendUnacknowledged &&
      decodedWindow options segment == c.control.sendWindow) = eligible
    cases admits : s.admits segment.acknowledgment with
    | false =>
      rcases Sender.acknowledge_refused (decodedWindow options segment) eligible now
        (c.timestampRtt options typed now)
        (typed.sackBlocks.toList.take typed.sackBlockCount.toNat) admits with
        refused | refused
      · rw [refused]
        rfl
      · rw [refused]
        rfl
    | true =>
      obtain ⟨taken | taken, window⟩ := Sender.acknowledge_admitted
        (decodedWindow options segment) eligible now (c.timestampRtt options typed now)
        (typed.sackBlocks.toList.take typed.sackBlockCount.toNat) admits
      · rw [taken]
        exact window
      · rw [taken]
        exact window

theorem selectDeadline_receiverWindow :
    (selectDeadline s now).1.receiverWindow = s.receiverWindow := by
  unfold selectDeadline
  rw [Sender.orElse_receiverWindow fun t => Sender.prepareNew_receiverWindow true,
    Sender.orElse_receiverWindow fun t => Sender.preparePersistProbe_receiverWindow]

theorem selectData_receiverWindow (pushed : Bool) :
    (selectData s pushed now).1.receiverWindow = s.receiverWindow := by
  unfold selectData
  rw [Sender.orElse_receiverWindow fun t => Sender.prepareNew_receiverWindow pushed,
    Sender.orElse_receiverWindow fun t => rfl]

/-- A segment that reaches the control block, with the window read from it. -/
def reachedWindow (c : Connection) (bytes : List Octet) (now : Instant) :
    Option (View × BitVec 32) :=
  match c.refusal, c.parse bytes with
  | none, some (segment, typed) =>
    let checked := c.processOptions segment typed now
    if checked.2 == .accepted then some (segment, decodedWindow checked.1 segment) else none
  | _, _ => none

variable {bytes : List Octet}

theorem Reaches.reachedWindow {typed : TypedOptions} {options : OptionState}
    (h : c.Reaches bytes now segment typed options) :
    c.reachedWindow bytes now = some (segment, decodedWindow options segment) := by
  simp [Connection.reachedWindow, h.ready, h.parsed, h.accepted]

/-- Segments are handed to the stream. -/
def streams (c : Connection) : Bool :=
  c.receiver.isSome && c.receiveWindow.isSome && !handshaking c.control.state

/-- A segment that reaches the control block beside a live sender carries the window there is,
or both of them take its window, or neither does. -/
def windowInStep (c : Connection) : ConnectionOp → Bool
  | .prepareIngress bytes _ _ now =>
    match c.reachedWindow bytes now, c.sender with
    | some (segment, window), some s =>
      window == c.control.sendWindow ||
        c.control.takesWindow segment ==
          (c.streams && has segment.flags Flag.ack && s.admits segment.acknowledgment)
    | _, _ => true
  | _ => true

/-- The live sender has the window of the live control block, and the staged copy the window of
the staged one. -/
structure OneWindow (c : Connection) : Prop where
  live : ∀ s, c.sender = some s → s.receiverWindow = c.control.sendWindow
  staged : ∀ p, c.pending = some p → ∀ copy, p.sender = some copy →
    copy.receiverWindow = p.control.sendWindow

namespace OneWindow

theorem idle (live : ∀ s, c.sender = some s → s.receiverWindow = c.control.sendWindow)
    (hpending : c.pending = none) : c.OneWindow :=
  ⟨live, fun p hp => by rw [hpending] at hp; cases hp⟩

theorem stages (h : c.OneWindow) {candidate : ControlBlock} (hs : c.Stages c' candidate)
    (same : ∀ s, c.sender = some s → candidate.sendWindow = c.control.sendWindow) :
    c'.OneWindow := by
  rcases hs with rfl | ⟨_, p, token, rfl, hcontrol, hsender, _⟩
  · exact h
  · refine ⟨h.live, ?_⟩
    rintro _ ⟨⟩ copy hcopy
    rw [hsender] at hcopy
    rw [hcontrol, same copy hcopy, h.live copy hcopy]

theorem transmits (h : c.OneWindow) (live : c.sender = some s)
    {selected : Sender × PreparedTransmission}
    (same : selected.1.receiverWindow = s.receiverWindow) (ht : c.Transmits c' selected) :
    c'.OneWindow := by
  have window := same.trans (h.live s live)
  obtain ⟨hpending, rfl | ⟨p, token, rfl, hsender, _, _, moved⟩⟩ := ht
  · refine idle ?_ ?_
    · rintro _ ⟨⟩
      exact window
    · exact hpending
  · refine ⟨?_, ?_⟩
    · rintro _ ⟨⟩
      exact window
    · rintro _ ⟨⟩ copy hcopy
      rw [hsender] at hcopy
      obtain rfl := Option.some.inj hcopy
      rcases moved with ⟨_, same⟩ | ⟨_, committed, _⟩
      · rw [same, window]
      · have kept := ControlBlock.commitSentData_sendWindow (c := c.control)
          selected.2.range.sequence selected.2.range.length
        rw [committed] at kept
        rw [window, kept]

variable {control : ControlBlock}

theorem publishes (hpending : c.pending = none)
    (same : t.receiverWindow = control.sendWindow) (hp : c.Publishes c' control t) :
    c'.OneWindow := by
  obtain ⟨_, _, _, _, _, staged⟩ := hp
  refine stages ?_ staged fun _ _ => rfl
  refine idle ?_ ?_
  · rintro _ ⟨⟩
    exact same
  · exact hpending

theorem settles {outcome : ControlBlock × ControlResult}
    (h : Settles outcome control) : control.sendWindow = outcome.1.sendWindow := by
  rcases h with rfl | ⟨_, _, _, _, _, committed⟩
  · rfl
  · exact ControlBlock.commitReceivedData_sendWindow committed

/-- What a segment of the stream publishes has one window exactly when the segment is in step. -/
theorem published_iff (h : c.OneWindow) {typed : TypedOptions}
    {options : OptionState} (reaches : c.Reaches bytes now segment typed options)
    (live : c.sender = some s) (streaming : c.streams = true) {initial : BitVec 32}
    {outputSize : Nat} (settled : Settles (c.control.onSegment segment initial now
      (some (decodedWindow options segment))) control) :
    (c.acknowledgeData s segment typed options now).receiverWindow = control.sendWindow ↔
      c.windowInStep (.prepareIngress bytes initial outputSize now) = true := by
  rw [settles settled, ControlBlock.onSegment_sendWindow, acknowledgeData_receiverWindow,
    h.live s live]
  simp only [windowInStep, reaches.reachedWindow, live, streaming, Bool.true_and]
  generalize (has segment.flags Flag.ack && s.admits segment.acknowledgment) = sends
  cases sends <;> cases c.control.takesWindow segment
  · simp
  · simpa using eq_comm
  · simp
  · simp

theorem stepIngress (h : c.OneWindow) {initial : BitVec 32}
    {outputSize : Nat} (hok : c.windowInStep (.prepareIngress bytes initial outputSize now) = true) :
    (c.step (.prepareIngress bytes initial outputSize now)).OneWindow := by
  simp only [step]
  rcases c.prepareIngress_cases bytes initial outputSize now with staged |
    ⟨segment, typed, options, reaches, ⟨missing, staged⟩ |
      ⟨s, receiver, window, live, hr, hw, settled, heq⟩⟩
  · exact h.stages staged fun _ _ => rfl
  · refine h.stages staged ?_
    intro s live
    have alone : c.streams = false := by
      rcases missing with none | none | none | shaking
      · rw [live] at none
        cases none
      · simp [streams, none]
      · simp [streams, none]
      · simp [streams, shaking]
    rw [ControlBlock.onSegment_sendWindow]
    simp only [windowInStep, reaches.reachedWindow, live, alone, asserted] at hok
    rcases hok with same | untaken
    · rw [same, ite_self]
    · rw [untaken]
      rfl
  · obtain ⟨_, hpending⟩ := refusal_none reaches.ready
    have streaming : c.streams = true := by simp [streams, hr, hw, settled]
    rw [heq]
    rcases c.ingestStream_cases s receiver window _ segment typed options outputSize now with
      ⟨control, settles', published⟩ | ⟨_, _, stored, dropped⟩
    · exact publishes hpending ((h.published_iff reaches live streaming settles').mpr hok) published
    · rw [dropped]
      refine idle ?_ ?_
      · rintro _ ⟨⟩
        exact h.live s live
      · exact hpending

theorem freshSender_receiverWindow {negotiated : NegotiatedOptions} {mss : BitVec 32}
    (valid : (c.freshSender negotiated mss now).valid = true) :
    (c.freshSender negotiated mss now).receiverWindow = c.control.sendWindow := by
  unfold freshSender at valid ⊢
  generalize (Sender.create c.storage.sendBytes c.storage.transmissionHistory
    c.storage.sackRanges c.storage.sackWorkspace c.control.sendNext mss).setSackEnabled
      negotiated.sack = created at valid ⊢
  unfold Sender.updateReceiverWindow at valid ⊢
  split
  next broken =>
    rw [if_pos broken] at valid
    rw [valid] at broken
    cases broken
  next =>
    split
    next same => exact beq_iff_eq.mp same
    split
    · rfl
    split
    · simp
    · rfl

theorem initializeStream (same : ∀ s, c.sender = some s → s.receiverWindow = c.control.sendWindow) :
    ∀ s, (c.initializeStream now).sender = some s →
      s.receiverWindow = (c.initializeStream now).control.sendWindow := by
  unfold Connection.initializeStream
  split
  · exact same
  split
  · exact same
  dsimp only
  split
  · exact same
  split
  · intro _ none
    cases none
  next valid =>
    simp only [asserted, not_or, refuted] at valid
    rintro _ ⟨⟩
    exact freshSender_receiverWindow valid.1.1

theorem install {p : PendingTransition} {sender : Option Sender}
    (same : ∀ s, sender = some s → s.receiverWindow = p.control.sendWindow) :
    (c.install p sender now).OneWindow :=
  idle (initializeStream (c := { c with
    control := p.control, localSynOffer := p.localSynOffer, peerSynOptions := p.peerSynOptions,
    negotiated := p.negotiated, timestamps := p.timestamps, sender,
    timestampStatePresent := p.timestampStatePresent }) same) rfl

/-- The staged copy keeps its own window over the live arenas. -/
theorem stagedSender (h : c.OneWindow) {p : PendingTransition} (hp : c.pending = some p) :
    ∀ s, c.stagedSender p = some s → s.receiverWindow = p.control.sendWindow := by
  intro s hs
  unfold Connection.stagedSender at hs
  split at hs
  next copy live hcopy _ =>
    obtain rfl := Option.some.inj hs
    exact h.staged p hp copy hcopy
  next => exact h.staged p hp s hs

theorem stepCommit (h : c.OneWindow) (prepared : PreparedConnectionSegment) :
    (c.step (.commit prepared now)).OneWindow := by
  simp only [step]
  rcases c.commit_cases prepared now with same | ⟨p, timestamps, hp, _, installed⟩
  · rw [same]
    exact h
  · have window := h.stagedSender hp
    rcases installed with ⟨_, heq⟩ | ⟨_, _, heq⟩ | ⟨_, staged, hstaged, ⟨_, heq⟩ | ⟨_, heq⟩⟩
    · rw [heq]
      exact install window
    · rw [heq]
      refine ⟨h.live, ?_⟩
      rintro _ ⟨⟩
      exact h.staged p hp
    · rw [heq]
      apply install
      rintro _ ⟨⟩
      rw [Sender.commit_receiverWindow]
      exact window staged hstaged
    · rw [heq]
      refine ⟨?_, ?_⟩
      · intro s live
        obtain ⟨old, hold, rfl⟩ := Option.map_eq_some_iff.mp live
        exact h.live old hold
      · rintro _ ⟨⟩ _ ⟨⟩
        rw [Sender.commit_receiverWindow]
        exact window staged hstaged

theorem step (c : Connection) (op : ConnectionOp) (h : c.OneWindow)
    (hok : c.windowInStep op = true) : (c.step op).OneWindow := by
  have moves := c.step_moves op
  generalize c.step op = c' at moves ⊢
  cases moves with
  | stays _ hs => exact h.stages hs fun _ _ => rfl
  | listen =>
    refine ⟨fun s live => ?_, h.staged⟩
    rw [h.live s live]
    exact ControlBlock.passiveOpen_sendWindow.symm
  | activeOpen hs => exact h.stages hs fun _ _ => ControlBlock.activeOpen_sendWindow _
  | ingress => exact h.stepIngress hok
  | close hs => exact h.stages hs fun _ _ => ControlBlock.close_sendWindow
  | service hs => exact h.stages hs fun _ _ => ControlBlock.serviceDeadline_sendWindow
  | deadline live ht => exact h.transmits live selectDeadline_receiverWindow ht
  | data live ht => exact h.transmits live (selectData_receiverWindow _) ht
  | commit prepared now => exact h.stepCommit prepared
  | discard => exact idle h.live rfl
  | write bytes now live =>
    refine ⟨?_, h.staged⟩
    rintro _ ⟨⟩
    rw [Sender.write_receiverWindow]
    exact h.live _ live
  | read outputSize now =>
    rcases c.read_cases outputSize now with same | ⟨_, _, _, _, heq⟩
    · rw [same]
      exact h
    · rw [heq]
      exact ⟨h.live, h.staged⟩
  | policy => exact ⟨h.live, h.staged⟩
  | reduce policy senderMss live =>
    refine ⟨?_, h.staged⟩
    rintro _ ⟨⟩
    rw [Sender.reduceMss_receiverWindow]
    exact h.live _ live

theorem create (tuple : ConnectionTuple) (policy : ConnectionOptionPolicy)
    (storage : ConnectionStorage) (timestampOrigin : Instant) :
    (create tuple policy storage timestampOrigin).OneWindow :=
  idle (fun _ live => by cases live) rfl

end OneWindow

end Connection

/-- Along every run in which no segment brings a new window to one of the two alone, the sender's
window is the one the control block has validated. -/
theorem sender_window_validated (tuple : ConnectionTuple) (policy : ConnectionOptionPolicy)
    (storage : ConnectionStorage) (timestampOrigin : Instant) (ops : List ConnectionOp)
    (h : Runs.Along Connection.step (fun c op => c.windowInStep op = true)
      (Connection.create tuple policy storage timestampOrigin) ops) :
    ∀ c s, c = Runs.run Connection.step
        (Connection.create tuple policy storage timestampOrigin) ops →
      c.sender = some s → s.receiverWindow = c.control.sendWindow := by
  rintro c s rfl live
  have inv := Runs.invariant_along (P := Connection.OneWindow) Connection.OneWindow.step
    (Connection.OneWindow.create tuple policy storage timestampOrigin) h
  exact inv.live s live

namespace Sample

/-- A segment like those of the peer, with another window. -/
def fromPeerWindow (sequence acknowledgment : BitVec 32) (window : BitVec 16) : ConnectionOp :=
  .prepareIngress ((encodeIpv4 100 remoteHost localHost
    { sourcePort := 2000#16, destinationPort := 1000#16, sequence, acknowledgment, flags := Flag.ack
      window } [] []).getD []) 0#32 100 0

/-- The window grows by a segment in order. -/
def windowUpdate : List ConnectionOp := opening ++ [fromPeerWindow 501#32 101#32 20#16]

/-- A segment from before the window of the receiver, sent when the peer had less room. -/
def lateSegment : List ConnectionOp := windowUpdate ++ [fromPeerWindow 500#32 101#32 3#16]

end Sample

/-- The window of a segment in order reaches both sides. -/
theorem sender_window_validated_update :
    ∃ c s, c = Runs.run Connection.step closed windowUpdate ∧ c.sender = some s ∧
      s.receiverWindow = c.control.sendWindow ∧ c.control.sendWindow = 20#32 := by
  obtain ⟨s, live⟩ : ∃ s, (Runs.run Connection.step closed windowUpdate).sender =
      some s := Option.isSome_iff_exists.mp (by decide +kernel)
  have inStep : Runs.Along Connection.step (fun c op => c.windowInStep op = true) closed
      windowUpdate := by decide +kernel
  exact ⟨_, s, rfl, live, sender_window_validated _ _ _ _ _ inStep _ s rfl live, by decide +kernel⟩

/-- The window of a late segment, which the control block does not process, reaches the sender. -/
theorem late_window_taken :
    (Runs.run Connection.step closed lateSegment).control.sendWindow = 20#32 ∧
    (Runs.run Connection.step closed lateSegment).sender.map (·.receiverWindow) = some 3#32 := by
  decide +kernel

end RouterSim.Tcp
