import RouterSim.Ikev2.SessionService

/-! The two ends of one IKE SA, and where a service takes the messages that one end may send to
the other. -/
namespace RouterSim.Ikev2

/-- The two ends of an IKE SA. -/
structure Handshake where
  initiator : Sa
  responder : Sa

/-- What the ends do. The responder takes the initiator's SPI from the first request, and the
initiator takes the responder's SPI from the answer. -/
inductive HandshakeOp
  | initiate (initiatorSpi : BitVec 64) (now : Time)
  | accept (now : Time)
  | answer (responderSpi keySetHandle : BitVec 64) (now : Time)
  | learn (keySetHandle : BitVec 64) (now : Time)
  | operate (side : Role) (operation : Sa.Operation)

def Role.other : Role → Role
  | .initiator => .responder
  | .responder => .initiator

namespace Handshake

def create (initiatorId responderId : BitVec 64)
    (initiatorConfiguration responderConfiguration : SaConfiguration) : Handshake :=
  { initiator := .create initiatorId .initiator initiatorConfiguration
    responder := .create responderId .responder responderConfiguration }

def side (h : Handshake) : Role → Sa
  | .initiator => h.initiator
  | .responder => h.responder

def step (h : Handshake) : HandshakeOp → Handshake
  | .initiate initiatorSpi now =>
    { h with initiator := (h.initiator.beginInitialExchange initiatorSpi now).1 }
  | .accept now =>
    { h with responder := (h.responder.beginInitialExchange h.initiator.spis.initiator now).1 }
  | .answer responderSpi keySetHandle now =>
    { h with responder := (h.responder.completeInitialExchange responderSpi keySetHandle now).1 }
  | .learn keySetHandle now =>
    { h with initiator :=
        (h.initiator.completeInitialExchange h.responder.spis.responder keySetHandle now).1 }
  | .operate .initiator operation => { h with initiator := h.initiator.operate operation }
  | .operate .responder operation => { h with responder := h.responder.operate operation }

end Handshake

/-- The headers of an end in its state: before it knows both SPIs only the first request, and
then whatever the exchanges need. -/
def MaySend (sender : Sa) (header : Header) : Prop :=
  header.initiatorSpi = sender.spis.initiator ∧ header.responderSpi = sender.spis.responder ∧
    header.initiator = (sender.role == .initiator) ∧ match sender.state with
    | .initialExchange =>
      sender.role = .initiator ∧ header.response = false ∧
        header.exchangeType = exchangeIkeSaInit ∧ header.messageId = 0#32
    | .authenticating | .established | .deleting => True
    | .created | .closed | .failed => False

section Service

/-- The session is in the service, and the others there have other SPIs than the message. -/
structure Owned (service : SessionService) (session : Sa) (header : Header) : Prop where
  valid : service.valid = true
  among : ∃ before record after, service.sessions = before ++ record :: after ∧
    record.sa = session ∧ ∀ other ∈ before ++ after,
      ¬(other.sa.spis.initiator = header.initiatorSpi ∧
        other.sa.spis.responder = header.responderSpi)

/-- The service starts a new session for the first request. Any other message goes to the
session it is for. -/
def Dispatched (dispatch : InboundDispatch) (session : Sa) (header : Header) : Prop :=
  if header.responderSpi = 0#64 then dispatch.kind = .newIkeSaInit
  else
    dispatch.ikeSaId = session.id ∧
      dispatch.kind =
        if header.response then .sessionResponseCandidate else .sessionRequestCandidate

instance (dispatch : InboundDispatch) (session : Sa) (header : Header) :
    Decidable (Dispatched dispatch session header) := by
  unfold Dispatched
  infer_instance

end Service

section Invariant

variable {h : Handshake} {sa after : Sa} {now : Time}

/-- The SPIs of an end as its state has it. -/
structure Sa.Phase (sa : Sa) : Prop where
  created : sa.state = .created → sa.spis = {}
  initial : sa.state = .initialExchange → sa.spis.initiator ≠ 0#64 ∧ sa.spis.responder = 0#64
  settled : Sa.Settled sa.state → (sa.state = .failed ∧ sa.spis = {}) ∨
    (sa.spis.initiator ≠ 0#64 ∧ sa.spis.responder ≠ 0#64)

theorem Sa.Phase.keyed (phase : sa.Phase) (keyed : Sa.Keyed sa.state) :
    sa.spis.initiator ≠ 0#64 ∧ sa.spis.responder ≠ 0#64 := by
  have settled : Sa.Settled sa.state := by
    obtain state | state | state := keyed <;> rw [state] <;> decide
  obtain ⟨failed, -⟩ | both := phase.settled settled
  · obtain state | state | state := keyed <;> rw [failed] at state <;> exact SaState.noConfusion state
  · exact both

theorem Sa.Phase.create (id : BitVec 64) (role : Role) (configuration : SaConfiguration) :
    (Sa.create id role configuration).Phase := by
  unfold Sa.create
  split
  · exact ⟨fun state => SaState.noConfusion state, fun state => SaState.noConfusion state,
      fun _ => .inl ⟨rfl, rfl⟩⟩
  · exact ⟨fun _ => rfl, fun state => SaState.noConfusion state,
      fun settled => absurd rfl settled.1⟩

theorem Sa.Phase.keeps (phase : sa.Phase) (keeps : Sa.Keeps sa after) : after.Phase := by
  obtain same | ⟨keyed, settled⟩ := keeps.state
  · exact ⟨fun state => keeps.spis ▸ phase.created (same ▸ state),
      fun state => keeps.spis ▸ phase.initial (same ▸ state),
      fun state => by rw [same, keeps.spis]; exact phase.settled (same ▸ state)⟩
  · refine ⟨fun state => absurd state settled.1, fun state => absurd state settled.2, fun _ => ?_⟩
    rw [keeps.spis]
    exact .inr (phase.keyed keyed)

theorem beginInitialExchange_cases (sa : Sa) (spi : BitVec 64) (now : Time) :
    (sa.beginInitialExchange spi now).1 = sa ∨
      (sa.state = .created ∧ spi ≠ 0#64 ∧
        (sa.beginInitialExchange spi now).1.role = sa.role ∧
        (sa.beginInitialExchange spi now).1.state = .initialExchange ∧
        (sa.beginInitialExchange spi now).1.spis = { initiator := spi, responder := 0#64 }) := by
  unfold Sa.beginInitialExchange
  split
  · exact .inl rfl
  next state =>
  split
  · exact .inl rfl
  next nonzero =>
  split
  · exact .inl rfl
  next waiting =>
  obtain ⟨deadline, rfl⟩ := Sa.setLivenessDeadline_eq waiting
  exact .inr ⟨Decidable.of_not_not state, nonzero, rfl, rfl, rfl⟩

theorem completeInitialExchange_cases (sa : Sa) (spi keys : BitVec 64) (now : Time) :
    (sa.completeInitialExchange spi keys now).1 = sa ∨
      (sa.state = .initialExchange ∧ spi ≠ 0#64 ∧
        (sa.completeInitialExchange spi keys now).1.role = sa.role ∧
        (sa.completeInitialExchange spi keys now).1.state = .authenticating ∧
        (sa.completeInitialExchange spi keys now).1.spis =
          { initiator := sa.spis.initiator, responder := spi }) := by
  unfold Sa.completeInitialExchange
  split
  · exact .inl rfl
  next state =>
  split
  · exact .inl rfl
  next nonzero =>
  split
  · exact .inl rfl
  next waiting =>
  obtain ⟨deadline, rfl⟩ := Sa.setLivenessDeadline_eq waiting
  exact .inr ⟨Decidable.of_not_not state, fun zero => nonzero (.inl zero), rfl, rfl, rfl⟩

theorem Sa.Phase.begin (phase : sa.Phase) (spi : BitVec 64) (now : Time) :
    (sa.beginInitialExchange spi now).1.Phase := by
  obtain same | ⟨-, nonzero, -, state, spis⟩ := beginInitialExchange_cases sa spi now
  · rw [same]
    exact phase
  · refine ⟨fun other => ?_, fun _ => ?_, fun settled => absurd state settled.2⟩
    · rw [state] at other
      exact SaState.noConfusion other
    · rw [spis]
      exact ⟨nonzero, rfl⟩

theorem Sa.Phase.complete (phase : sa.Phase) (spi keys : BitVec 64) (now : Time) :
    (sa.completeInitialExchange spi keys now).1.Phase := by
  obtain same | ⟨was, nonzero, -, state, spis⟩ := completeInitialExchange_cases sa spi keys now
  · rw [same]
    exact phase
  · refine ⟨fun other => ?_, fun other => ?_, fun _ => .inr ?_⟩
    · rw [state] at other
      exact SaState.noConfusion other
    · rw [state] at other
      exact SaState.noConfusion other
    · rw [spis]
      exact ⟨(phase.initial was).1, nonzero⟩

/-- What the two ends know of each other. -/
structure Handshake.Consistent (h : Handshake) : Prop where
  initiatorRole : h.initiator.role = .initiator
  responderRole : h.responder.role = .responder
  initiatorPhase : h.initiator.Phase
  responderPhase : h.responder.Phase
  accepted : h.responder.spis.initiator ≠ 0#64 →
    h.responder.spis.initiator = h.initiator.spis.initiator
  learned : h.initiator.spis.responder ≠ 0#64 → h.initiator.spis = h.responder.spis

namespace Handshake.Consistent

theorem create (initiatorId responderId : BitVec 64)
    (initiatorConfiguration responderConfiguration : SaConfiguration) :
    (Handshake.create initiatorId responderId initiatorConfiguration
      responderConfiguration).Consistent where
  initiatorRole := rfl
  responderRole := rfl
  initiatorPhase := .create ..
  responderPhase := .create ..
  accepted nonzero := absurd rfl nonzero
  learned nonzero := absurd rfl nonzero

section

variable (c : h.Consistent)
include c

/-- The initiator chooses its SPI, before the responder knows of it. -/
theorem initiate (spi : BitVec 64) : (h.step (.initiate spi now)).Consistent := by
  have phase := c.initiatorPhase.begin spi now
  obtain same | ⟨was, nonzero, role, state, spis⟩ := beginInitialExchange_cases h.initiator spi now
  · rw [show h.step (.initiate spi now) = h by simp only [Handshake.step, same]]
    exact c
  · have unknown : h.initiator.spis = {} := c.initiatorPhase.created was
    refine ⟨role.trans c.initiatorRole, c.responderRole, phase, c.responderPhase, ?_, ?_⟩
    · intro known
      have earlier := c.accepted known
      rw [unknown] at earlier
      exact absurd earlier known
    · intro known
      simp only [Handshake.step, spis] at known
      exact absurd rfl known

theorem accept : (h.step (.accept now)).Consistent := by
  have phase := c.responderPhase.begin h.initiator.spis.initiator now
  obtain same | ⟨was, -, role, -, spis⟩ :=
    beginInitialExchange_cases h.responder h.initiator.spis.initiator now
  · rw [show h.step (.accept now) = h by simp only [Handshake.step, same]]
    exact c
  · refine ⟨c.initiatorRole, role.trans c.responderRole, c.initiatorPhase, phase, ?_, ?_⟩
    · intro _
      simp [Handshake.step, spis]
    · intro known
      have earlier := c.learned known
      rw [c.responderPhase.created was] at earlier
      exact absurd (congrArg SaSpis.responder earlier) known

theorem answer (spi keys : BitVec 64) : (h.step (.answer spi keys now)).Consistent := by
  have phase := c.responderPhase.complete spi keys now
  obtain same | ⟨was, -, role, -, spis⟩ := completeInitialExchange_cases h.responder spi keys now
  · rw [show h.step (.answer spi keys now) = h by simp only [Handshake.step, same]]
    exact c
  · refine ⟨c.initiatorRole, role.trans c.responderRole, c.initiatorPhase, phase, ?_, ?_⟩
    · intro known
      simp only [Handshake.step, spis] at known ⊢
      exact c.accepted known
    · intro known
      have earlier := congrArg SaSpis.responder (c.learned known)
      rw [(c.responderPhase.initial was).2] at earlier
      exact absurd earlier known

/-- The initiator takes over the SPI that the responder chose. -/
theorem learn (keys : BitVec 64) : (h.step (.learn keys now)).Consistent := by
  have phase := c.initiatorPhase.complete h.responder.spis.responder keys now
  obtain same | ⟨was, nonzero, role, -, spis⟩ :=
    completeInitialExchange_cases h.initiator h.responder.spis.responder keys now
  · rw [show h.step (.learn keys now) = h by simp only [Handshake.step, same]]
    exact c
  · have chosen : h.responder.spis.initiator ≠ 0#64 := by
      intro zero
      by_cases created : h.responder.state = .created
      · rw [c.responderPhase.created created] at nonzero
        exact nonzero rfl
      · by_cases initial : h.responder.state = .initialExchange
        · exact (c.responderPhase.initial initial).1 zero
        · obtain ⟨-, none⟩ | both := c.responderPhase.settled ⟨created, initial⟩
          · rw [none] at nonzero
            exact nonzero rfl
          · exact both.1 zero
    have agreed := c.accepted chosen
    refine ⟨role.trans c.initiatorRole, c.responderRole, phase, c.responderPhase, ?_, ?_⟩
    · intro _
      simp only [Handshake.step, spis]
      exact agreed
    · intro _
      simp [Handshake.step, spis, ← agreed]

theorem operate (side : Role) (operation : Sa.Operation) :
    (h.step (.operate side operation)).Consistent := by
  cases side with
  | initiator =>
    have keeps := Sa.operate_keeps h.initiator operation
    refine ⟨keeps.role.trans c.initiatorRole, c.responderRole, c.initiatorPhase.keeps keeps,
      c.responderPhase, ?_, ?_⟩
    · simp [Handshake.step, keeps.spis]
      exact c.accepted
    · simp [Handshake.step, keeps.spis]
      exact c.learned
  | responder =>
    have keeps := Sa.operate_keeps h.responder operation
    refine ⟨c.initiatorRole, keeps.role.trans c.responderRole, c.initiatorPhase,
      c.responderPhase.keeps keeps, ?_, ?_⟩
    · simp [Handshake.step, keeps.spis]
      exact c.accepted
    · simp [Handshake.step, keeps.spis]
      exact c.learned

theorem step (op : HandshakeOp) : (h.step op).Consistent := by
  cases op with
  | initiate spi now => exact c.initiate spi
  | accept now => exact c.accept
  | answer spi keys now => exact c.answer spi keys
  | learn keys now => exact c.learn keys
  | operate side operation => exact c.operate side operation

end

theorem run (initiatorId responderId : BitVec 64)
    (initiatorConfiguration responderConfiguration : SaConfiguration) (ops : List HandshakeOp) :
    (Runs.run Handshake.step (Handshake.create initiatorId responderId initiatorConfiguration
      responderConfiguration) ops).Consistent :=
  Runs.invariant (P := Handshake.Consistent) (fun _ op c => step c op) ops (create ..)

end Handshake.Consistent

end Invariant

section Dispatch

variable {service : SessionService} {session : Sa} {header : Header} {payloads : List Payload}
  {datagram : List (BitVec 8)} {h : Handshake} {side : Role}

/-- The lookup finds the session the message is for, or none. -/
theorem Owned.find (owned : Owned service session header) :
    service.sessions.find? (fun record => record.sa.spis.initiator == header.initiatorSpi &&
        record.sa.spis.responder == header.responderSpi) = none ∧
      session.spis ≠ { initiator := header.initiatorSpi, responder := header.responderSpi } ∨
    ∃ record, service.sessions.find? (fun record =>
        record.sa.spis.initiator == header.initiatorSpi &&
          record.sa.spis.responder == header.responderSpi) = some record ∧ record.sa = session ∧
      session.spis = { initiator := header.initiatorSpi, responder := header.responderSpi } := by
  obtain ⟨before, record, after, sessions, rfl, others⟩ := owned.among
  have passed : ∀ rest : List SessionRecord, (∀ other ∈ rest, other ∈ before ++ after) →
      ∀ other ∈ rest, ¬(other.sa.spis.initiator == header.initiatorSpi &&
        other.sa.spis.responder == header.responderSpi) = true := by
    intro rest inside other mem same
    rw [Bool.and_eq_true, beq_iff_eq, beq_iff_eq] at same
    exact others other (inside other mem) same
  have first := passed before fun other mem => List.mem_append_left _ mem
  have last := passed after fun other mem => List.mem_append_right _ mem
  rw [sessions, List.find?_append, List.find?_eq_none.mpr first, Option.none_or]
  by_cases same : record.sa.spis =
      { initiator := header.initiatorSpi, responder := header.responderSpi }
  · refine .inr ⟨record, ?_, rfl, same⟩
    simp [same]
  · refine .inl ⟨?_, same⟩
    rw [List.find?_cons_of_neg, List.find?_eq_none.mpr last]
    rw [Bool.and_eq_true, beq_iff_eq, beq_iff_eq]
    intro both
    apply same
    obtain ⟨initiator, responder⟩ := both
    rw [← initiator, ← responder]

theorem receive_crowded (written : Encoded header payloads datagram)
    (crowded : service.configuration.maximumPayloadsPerMessage < payloads.length) :
    (service.receive { bytes := datagram }).kind = .resourceExhausted := by
  obtain ⟨-, -, exhausted⟩ := parse_encoded written service.configuration.maximumPayloadsPerMessage
  unfold SessionService.receive
  simp [exhausted crowded]

theorem receive_read (session : Sa) (valid : service.valid = true)
    (written : Encoded header payloads datagram)
    (fits : payloads.length ≤ service.configuration.maximumPayloadsPerMessage) :
    (header.response = false → header.exchangeType = exchangeIkeSaInit →
      header.responderSpi = 0#64 → header.messageId = 0#32 →
      (service.receive { bytes := datagram }).kind = .newIkeSaInit) ∧
    (header.responderSpi ≠ 0#64 → Owned service session header →
      (session.spis ≠ { initiator := header.initiatorSpi, responder := header.responderSpi } →
        (service.receive { bytes := datagram }).kind = .unknownSession) ∧
      (session.spis = { initiator := header.initiatorSpi, responder := header.responderSpi } →
        header.initiator = (session.role == .responder) →
        (service.receive { bytes := datagram }).ikeSaId = session.id ∧
          (service.receive { bytes := datagram }).kind =
            if header.response then .sessionResponseCandidate else .sessionRequestCandidate)) := by
  obtain ⟨read, whole, -⟩ := parse_encoded written service.configuration.maximumPayloadsPerMessage
  obtain ⟨status, -⟩ := whole fits
  constructor
  · intro request type unknown first
    unfold SessionService.receive
    simp [valid, status, read, request, type, unknown, first]
  · intro known owned
    obtain ⟨missing, other⟩ | ⟨record, found, rfl, same⟩ := owned.find
    · refine ⟨fun _ => ?_, fun same => absurd same other⟩
      unfold SessionService.receive
      simp [valid, status, read, known, missing]
    · refine ⟨fun other => absurd same other, fun _ role => ?_⟩
      unfold SessionService.receive
      cases response : header.response <;>
        simp [valid, status, read, known, found, role, response]

theorem not_dispatched_of_kind {dispatch : InboundDispatch}
    (kind : dispatch.kind = .unknownSession ∨ dispatch.kind = .resourceExhausted) :
    ¬Dispatched dispatch session header := by
  unfold Dispatched
  split
  · intro started
    rw [started] at kind
    obtain kind | kind := kind <;> exact InboundDispatchKind.noConfusion kind
  · rintro ⟨-, delivered⟩
    rw [delivered] at kind
    split at kind <;> obtain kind | kind := kind <;> exact InboundDispatchKind.noConfusion kind

/-- Once the responder has chosen its SPI, the initiator either waits for it or knows it. -/
theorem Handshake.Consistent.knows (c : h.Consistent) (keyed : Sa.Keyed h.responder.state) :
    h.initiator.state = .initialExchange ∨ h.initiator.spis = h.responder.spis := by
  obtain ⟨chosen, -⟩ := c.responderPhase.keyed keyed
  have agreed := c.accepted chosen
  by_cases initial : h.initiator.state = .initialExchange
  · exact .inl initial
  · refine .inr (c.learned ?_)
    by_cases created : h.initiator.state = .created
    · rw [c.initiatorPhase.created created] at agreed
      exact absurd agreed chosen
    · obtain ⟨-, none⟩ | both := c.initiatorPhase.settled ⟨created, initial⟩
      · rw [none] at agreed
        exact absurd agreed chosen
      · exact both.2

theorem MaySend.keyed {sender : Sa} (sent : MaySend sender header)
    (later : sender.state ≠ .initialExchange) : Sa.Keyed sender.state := by
  obtain ⟨-, -, -, phase⟩ := sent
  cases state : sender.state <;> simp only [state] at phase later <;> simp_all [Sa.Keyed]

theorem dispatched_to_responder (c : h.Consistent) (owned : Owned service h.responder header)
    (sent : MaySend h.initiator header) (written : Encoded header payloads datagram)
    (fits : payloads.length ≤ service.configuration.maximumPayloadsPerMessage) :
    Dispatched (service.receive { bytes := datagram }) h.responder header := by
  obtain ⟨first, later⟩ := receive_read h.responder owned.valid written fits
  obtain ⟨initiatorSpi, responderSpi, role, phase⟩ := sent
  by_cases initial : h.initiator.state = .initialExchange
  · have unknown : header.responderSpi = 0#64 :=
      responderSpi.trans (c.initiatorPhase.initial initial).2
    rw [initial] at phase
    obtain ⟨-, request, type, id⟩ := phase
    rw [Dispatched, if_pos unknown]
    exact first request type unknown id
  · have keyed : Sa.Keyed h.initiator.state :=
      MaySend.keyed ⟨initiatorSpi, responderSpi, role, phase⟩ initial
    have known := (c.initiatorPhase.keyed keyed).2
    have same := c.learned known
    rw [← responderSpi] at known
    rw [Dispatched, if_neg known]
    refine (later known owned).2 ?_ ?_
    · rw [initiatorSpi, responderSpi, ← same]
    · rw [role, c.initiatorRole, c.responderRole]
      rfl

theorem dispatched_to_initiator_iff (c : h.Consistent) (owned : Owned service h.initiator header)
    (sent : MaySend h.responder header) (written : Encoded header payloads datagram)
    (fits : payloads.length ≤ service.configuration.maximumPayloadsPerMessage) :
    Dispatched (service.receive { bytes := datagram }) h.initiator header ↔
      h.initiator.state ≠ .initialExchange := by
  obtain ⟨-, later⟩ := receive_read h.initiator owned.valid written fits
  have answering : h.responder.state ≠ .initialExchange := by
    intro initial
    obtain ⟨-, -, -, phase⟩ := sent
    rw [initial] at phase
    rw [c.responderRole] at phase
    exact Role.noConfusion phase.1
  have keyed := sent.keyed answering
  obtain ⟨initiatorSpi, responderSpi, role, -⟩ := sent
  have known := (c.responderPhase.keyed keyed).2
  rw [← responderSpi] at known
  constructor
  · intro delivered initial
    have other : h.initiator.spis ≠
        { initiator := header.initiatorSpi, responder := header.responderSpi } := by
      intro same
      have unknown := (c.initiatorPhase.initial initial).2
      rw [same] at unknown
      exact known unknown
    exact not_dispatched_of_kind (.inl ((later known owned).1 other)) delivered
  · intro waiting
    obtain initial | same := c.knows keyed
    · exact absurd initial waiting
    · rw [Dispatched, if_neg known]
      refine (later known owned).2 ?_ ?_
      · rw [initiatorSpi, responderSpi, same]
      · rw [role, c.initiatorRole, c.responderRole]
        rfl

/-- In every state of a handshake, a message of one end reaches the session at the other end
exactly when the service has room for its payloads and that end is no initiator that waits for
the answer to its first request. -/
theorem handshake_dispatched_iff (initiatorId responderId : BitVec 64)
    (initiatorConfiguration responderConfiguration : SaConfiguration) (ops : List HandshakeOp)
    (side : Role) (service : SessionService) (header : Header) (payloads : List Payload)
    (datagram : List (BitVec 8))
    (owned : Owned service ((Runs.run Handshake.step (.create initiatorId responderId
      initiatorConfiguration responderConfiguration) ops).side side) header)
    (sent : MaySend ((Runs.run Handshake.step (.create initiatorId responderId
      initiatorConfiguration responderConfiguration) ops).side side.other) header)
    (written : Encoded header payloads datagram) :
    Dispatched (service.receive { bytes := datagram })
        ((Runs.run Handshake.step (.create initiatorId responderId
          initiatorConfiguration responderConfiguration) ops).side side) header ↔
      payloads.length ≤ service.configuration.maximumPayloadsPerMessage ∧
        ¬(side = .initiator ∧ ((Runs.run Handshake.step (.create initiatorId responderId
          initiatorConfiguration responderConfiguration) ops).side side).state =
            .initialExchange) := by
  have c := Handshake.Consistent.run initiatorId responderId initiatorConfiguration
    responderConfiguration ops
  generalize Runs.run Handshake.step (.create initiatorId responderId initiatorConfiguration
    responderConfiguration) ops = h at *
  by_cases fits : payloads.length ≤ service.configuration.maximumPayloadsPerMessage
  · cases side with
    | initiator =>
      rw [Handshake.side, dispatched_to_initiator_iff c owned sent written fits]
      simp [fits]
    | responder =>
      have reached : Dispatched (service.receive { bytes := datagram })
          (h.side .responder) header := dispatched_to_responder c owned sent written fits
      simp [fits, reached]
  · have crowded := receive_crowded written (Nat.lt_of_not_le fits)
    simp [fits, not_dispatched_of_kind (.inr crowded)]

end Dispatch

section Answer

def oneChild : SaConfiguration :=
  { maximumChildSas := 1, liveness := { idleInterval := 30, maximumUnansweredRequests := 2#8 } }

/-- The initiator sends its first request, and the responder chooses its SPI. -/
def untilAnswer : List HandshakeOp := [.initiate 11#64 0, .accept 0, .answer 22#64 33#64 0]

def answered : Handshake :=
  Runs.run Handshake.step (.create 7#64 9#64 oneChild oneChild) untilAnswer

/-- The answer to the first request, without payloads. -/
def initialAnswer : Header :=
  { initiatorSpi := 11#64, responderSpi := 22#64, majorVersion := 2#8
    exchangeType := exchangeIkeSaInit, response := true, length := 28#32 }

def initialAnswerOctets : List (BitVec 8) := (encodeHeader initialAnswer).getD []

def initiatorService : SessionService :=
  ((SessionService.create { maximumSessions := 2, maximumPayloadsPerMessage := 8 }).add
    answered.initiator).1

theorem initialAnswer_encoded : Encoded initialAnswer [] initialAnswerOctets where
  minor := by decide
  chained := rfl
  octets := ⟨initialAnswerOctets, [], by decide +kernel, rfl, by decide +kernel⟩
  length := by decide +kernel

theorem initialAnswer_sent : MaySend answered.responder initialAnswer := by
  refine ⟨by decide +kernel, by decide +kernel, by decide +kernel, ?_⟩
  trivial

theorem initialAnswer_owned : Owned initiatorService answered.initiator initialAnswer where
  valid := by decide +kernel
  among := ⟨[], { sa := answered.initiator }, [], by decide +kernel, rfl, by simp⟩

/-- The service of the waiting initiator does not know the session of the answer. -/
theorem initial_answer_unknown :
    Owned initiatorService answered.initiator initialAnswer ∧
      MaySend answered.responder initialAnswer ∧ Encoded initialAnswer [] initialAnswerOctets ∧
      (initiatorService.receive { bytes := initialAnswerOctets }).kind = .unknownSession ∧
      ¬Dispatched (initiatorService.receive { bytes := initialAnswerOctets }) answered.initiator
        initialAnswer :=
  ⟨initialAnswer_owned, initialAnswer_sent, initialAnswer_encoded, by decide +kernel,
    by decide +kernel⟩

theorem initial_answer_dispatched_iff :
    Dispatched (initiatorService.receive { bytes := initialAnswerOctets }) answered.initiator
        initialAnswer ↔
      ([] : List Payload).length ≤ initiatorService.configuration.maximumPayloadsPerMessage ∧
        ¬(Role.initiator = .initiator ∧ answered.initiator.state = .initialExchange) :=
  handshake_dispatched_iff 7#64 9#64 oneChild oneChild untilAnswer .initiator initiatorService
    initialAnswer [] initialAnswerOctets initialAnswer_owned initialAnswer_sent
    initialAnswer_encoded

end Answer

end RouterSim.Ikev2
