import RouterSim.Ikev2.SessionService

/-! What a message that passed its integrity check does to its session: the message id is spent
before the SA is asked whether it takes the message. -/
namespace RouterSim.Ikev2

open Table

inductive AuthenticatedDispatchKind
  | sessionRequest | sessionResponse | duplicateRequest | unknownSession | roleMismatch
  | messageIdRejected | invalidState
  deriving DecidableEq

structure AuthenticatedDispatch where
  kind : AuthenticatedDispatchKind := .invalidState
  cachedResponseToken : BitVec 64 := 0#64

namespace SessionRecord

def commitResponse (record : SessionRecord) (header : Header) (now : Time) :
    SessionRecord × AuthenticatedDispatch :=
  let received := record.requests.receiveResponse header.messageId
  if received.2 ≠ .matched then ({ record with requests := received.1 }, { kind := .messageIdRejected })
  else
    let noted := record.sa.noteAuthenticatedActivity now
    ({ record with requests := received.1, sa := noted.1 },
      { kind := if noted.2 ≠ .applied then .invalidState else .sessionResponse })

def commitRequest (record : SessionRecord) (header : Header) (now : Time) :
    SessionRecord × AuthenticatedDispatch :=
  let decision := record.responses.receive header.messageId
  if decision.2.result = .outsideWindow then
    ({ record with responses := decision.1 }, { kind := .messageIdRejected })
  else
    let noted := record.sa.noteAuthenticatedActivity now
    ({ record with responses := decision.1, sa := noted.1 },
      if noted.2 ≠ .applied then { kind := .invalidState }
      else if decision.2.result = .duplicateWithCachedResponse then
        { kind := .duplicateRequest, cachedResponseToken := decision.2.responseToken }
      else if decision.2.result = .duplicateResponseNotReady then { kind := .messageIdRejected }
      else { kind := .sessionRequest })

def commit (record : SessionRecord) (header : Header) (now : Time) :
    SessionRecord × AuthenticatedDispatch :=
  if header.initiatorSpi ≠ record.sa.spis.initiator ∨
      header.responderSpi ≠ record.sa.spis.responder then (record, { kind := .unknownSession })
  else if header.initiator != (record.sa.role == .responder) then
    (record, { kind := .roleMismatch })
  else if header.response then record.commitResponse header now
  else record.commitRequest header now

/-- What a message that is refused leaves alone. -/
def standing (record : SessionRecord) : RequestTracker × ResponderMessageIds × SaState :=
  (record.requests, record.responses, record.sa.state)

/-- The message is from the peer, and the one that the session waits for. -/
def awaits (record : SessionRecord) (header : Header) : Bool :=
  header.initiatorSpi == record.sa.spis.initiator &&
    header.responderSpi == record.sa.spis.responder &&
      header.initiator == (record.sa.role == .responder) &&
        if header.response then
          record.requests.active && header.messageId == record.requests.messageId
        else !record.responses.requestPending && header.messageId == record.responses.expected

/-- The SA is up, and the clock has room for its next deadline. -/
def alive (record : SessionRecord) (now : Time) : Bool :=
  record.sa.state == .established && (record.sa.setLivenessDeadline now).isSome

end SessionRecord

def AuthenticatedDispatchKind.taken : AuthenticatedDispatchKind → Bool
  | sessionRequest | duplicateRequest | sessionResponse => true
  | _ => false

namespace SessionService

def session? (service : SessionService) (ikeSaId : BitVec 64) : Option SessionRecord :=
  lookup (·.sa.id) ikeSaId service.sessions

def commitAuthenticated (service : SessionService) (ikeSaId : BitVec 64) (header : Header)
    (now : Time) : SessionService × AuthenticatedDispatch :=
  match service.session? ikeSaId with
  | none => (service, { kind := .unknownSession })
  | some found =>
    let done := found.commit header now
    ({ service with sessions := update (·.sa.id) ikeSaId (fun _ => done.1) service.sessions },
      done.2)

end SessionService

namespace SessionRecord

variable {record : SessionRecord} {header : Header} {now : Time}

theorem noteAuthenticatedActivity_spec (sa : Sa) (now : Time) :
    (sa.noteAuthenticatedActivity now).1.id = sa.id ∧
      (sa.noteAuthenticatedActivity now).1.state = sa.state ∧
        ((sa.noteAuthenticatedActivity now).2 = .applied ↔
          sa.state = .established ∧ (sa.setLivenessDeadline now).isSome = true) := by
  unfold Sa.noteAuthenticatedActivity
  split
  next other => simp [other]
  next state =>
  have state := Decidable.of_not_not state
  cases moved : sa.setLivenessDeadline now with
  | none => simp
  | some after =>
    obtain ⟨deadline, rfl⟩ := Sa.setLivenessDeadline_eq moved
    simp [state]

theorem commit_id : (record.commit header now).1.sa.id = record.sa.id := by
  have same := (noteAuthenticatedActivity_spec record.sa now).1
  unfold commit commitResponse commitRequest
  grind

/-- A message that is refused leaves the session alone, unless the session waited for it. -/
theorem commit_standing_iff :
    ((record.commit header now).2.kind.taken = false →
      (record.commit header now).1.standing = record.standing) ↔
    (record.awaits header = true → record.alive now = true) := by
  obtain ⟨-, state, applied⟩ := noteAuthenticatedActivity_spec record.sa now
  unfold commit awaits alive
  split
  next other => grind [standing]
  next here =>
  split
  next other => grind [standing]
  next peer =>
  cases response : header.response with
  | true =>
    unfold commitResponse RequestTracker.receiveResponse
    cases active : record.requests.active <;> grind [standing, AuthenticatedDispatchKind.taken]
  | false =>
    unfold commitRequest ResponderMessageIds.receive
    cases pending : record.responses.requestPending <;>
      grind [standing, AuthenticatedDispatchKind.taken]

end SessionRecord

namespace SessionService

variable {service : SessionService} {ikeSaId : BitVec 64} {header : Header} {now : Time}

theorem session?_commit (id : BitVec 64) :
    (service.commitAuthenticated ikeSaId header now).1.session? id =
      if id = ikeSaId then (service.session? id).map fun found => (found.commit header now).1
      else service.session? id := by
  unfold commitAuthenticated
  cases known : service.session? ikeSaId with
  | none =>
    by_cases same : id = ikeSaId
    · simp [same, known]
    · rw [if_neg same]
  | some found =>
    have row : lookup (fun row : SessionRecord => row.sa.id) ikeSaId service.sessions =
      some found := known
    have own := key_of_lookup row
    have keeps : ∀ row : SessionRecord, row.sa.id = ikeSaId →
        (found.commit header now).1.sa.id = ikeSaId := fun _ _ => by
      rw [SessionRecord.commit_id]
      exact own
    by_cases same : id = ikeSaId
    · rw [if_pos same, same, known]
      exact (lookup_update_same keeps).trans (congrArg (Option.map fun _ => _) known)
    · rw [if_neg same]
      exact lookup_update_other keeps same

/-- A message that is refused changes no session, exactly if the session it is for does not wait
for it or can take it. -/
theorem commit_authenticated_atomic_iff (service : SessionService) (ikeSaId : BitVec 64)
    (header : Header) (now : Time) :
    ((service.commitAuthenticated ikeSaId header now).2.kind.taken = false → ∀ id,
      ((service.commitAuthenticated ikeSaId header now).1.session? id).map
        SessionRecord.standing = (service.session? id).map SessionRecord.standing) ↔
    ∀ record, service.session? ikeSaId = some record → record.awaits header = true →
      record.alive now = true := by
  simp only [session?_commit]
  unfold commitAuthenticated
  cases known : service.session? ikeSaId with
  | none => grind
  | some found =>
    have whole := @SessionRecord.commit_standing_iff found header now
    constructor
    · rintro keeps record ⟨⟩
      refine whole.mp fun refused => ?_
      simpa [known] using keeps refused ikeSaId
    · intro waits refused id
      have same := whole.mpr (waits found rfl) refused
      by_cases here : id = ikeSaId
      · simp [here, known, same]
      · rw [if_neg here]

/-- A session that has its keys but no authenticated peer yet, with a request of its own out. -/
def authenticating : SessionService :=
  let started := (Sa.create 7#64 .initiator ⟨1, 30, 2#8⟩).beginInitialExchange 11#64 0
  let service := create { maximumSessions := 1, maximumPayloadsPerMessage := 8 }
  { service with
    sessions := [{
      sa := (started.1.completeInitialExchange 22#64 33#64 0).1
      requests := (({ policy := ⟨500, 4000, 3#8⟩ } : RequestTracker).start 1#32 5#64 0).1 }] }

/-- The response is refused, and the request it was for is over. -/
theorem response_spent_while_authenticating :
    let response : Header :=
      { initiatorSpi := 11#64, responderSpi := 22#64, response := true, messageId := 1#32 }
    let done := authenticating.commitAuthenticated 7#64 response 1
    done.2.kind = .invalidState ∧
      (authenticating.session? 7#64).any (·.requests.active) = true ∧
        (done.1.session? 7#64).any (·.requests.active) = false := by
  decide +kernel

end SessionService

end RouterSim.Ikev2
