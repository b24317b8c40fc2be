import RouterSim.Ikev2.Exchange
import RouterSim.Ipsec.Sad

/-! The lifecycle of an IKE SA and of its CHILD SAs. The forwarding side gets requests and
acknowledges them; a CHILD SA is bound only after its pair was acknowledged. -/
namespace RouterSim.Ikev2

open Ipsec (SecurityAssociation SaPairInstallResult SaPairEraseResult)

inductive Role
  | initiator | responder
  deriving DecidableEq

inductive SaState
  | created | initialExchange | authenticating | established | deleting | closed | failed
  deriving DecidableEq

structure SaSpis where
  initiator : BitVec 64 := 0#64
  responder : BitVec 64 := 0#64
  deriving DecidableEq

/-- The interval is in seconds. -/
structure LivenessPolicy where
  idleInterval : Int := 0
  maximumUnansweredRequests : BitVec 8 := 0#8
  deriving DecidableEq

structure SaConfiguration where
  maximumChildSas : Nat := 0
  liveness : LivenessPolicy := {}
  deriving DecidableEq

inductive SaTransitionResult
  | applied | invalidState | invalidValue | capacityExhausted | requestPending | requestMismatch
  | forwardingRejected
  deriving DecidableEq

inductive AuthenticationStatus
  | ok | invalidArgument | outputTooSmall | authenticationFailed
  deriving DecidableEq

inductive LivenessAction
  | none | sendEmptyInformational | deleteIkeSa

structure ChildSaInstallRequest where
  requestId : BitVec 64
  ikeSaId : BitVec 64
  childSaId : BitVec 64
  replacesChildSaId : BitVec 64
  inbound : SecurityAssociation
  outbound : SecurityAssociation
  deriving DecidableEq

inductive ChildSaState
  | active | retiring
  deriving DecidableEq

structure ChildSaBinding where
  childSaId : BitVec 64
  inboundSaId : BitVec 64
  outboundSaId : BitVec 64
  installedAt : Time
  state : ChildSaState := .active
  deriving DecidableEq

structure ChildSaRemoveRequest where
  requestId : BitVec 64
  ikeSaId : BitVec 64
  childSaId : BitVec 64
  inboundSaId : BitVec 64
  outboundSaId : BitVec 64
  deriving DecidableEq

structure Sa where
  id : BitVec 64
  role : Role := .initiator
  configuration : SaConfiguration := {}
  state : SaState := .created
  spis : SaSpis := {}
  keySetHandle : BitVec 64 := 0#64
  nextRequestId : BitVec 64 := 1#64
  pendingChildInstall : Option ChildSaInstallRequest := .none
  pendingChildRemove : Option ChildSaRemoveRequest := .none
  pendingRemovePreviousState : ChildSaState := .active
  childSas : List ChildSaBinding := []
  livenessDeadline : Time := 0
  unansweredLivenessRequests : BitVec 8 := 0#8
  deriving DecidableEq

abbrev nanosecondsPerSecond : Int := 1000000000

namespace Sa

/-- Without memory for the bindings the maximum is zero, as a configuration may have it. -/
def create (id : BitVec 64) (role : Role) (configuration : SaConfiguration) : Sa :=
  { id, role, configuration
    state :=
      if id = 0#64 ∨ configuration.liveness.idleInterval ≤ 0 ∨
          configuration.liveness.maximumUnansweredRequests = 0#8 then .failed
      else .created }

/-- Zero says that there is none left. -/
def allocateRequestId (sa : Sa) : Sa × BitVec 64 :=
  if sa.nextRequestId = 0#64 then (sa, 0#64)
  else
    ({ sa with nextRequestId :=
        if sa.nextRequestId = 0xffffffffffffffff#64 then 0#64 else sa.nextRequestId + 1#64 },
      sa.nextRequestId)

def setLivenessDeadline (sa : Sa) (now : Time) : Option Sa :=
  let idle := sa.configuration.liveness.idleInterval
  let delay := idle * nanosecondsPerSecond
  if clockMaximum / nanosecondsPerSecond < idle then none
  else if delay ≤ 0 ∨ clockMaximum - delay < now then none
  else some { sa with livenessDeadline := now + delay }

def fail (sa : Sa) : Sa := { sa with state := .failed, keySetHandle := 0#64 }

section Handshake

def beginInitialExchange (sa : Sa) (initiatorSpi : BitVec 64) (now : Time) :
    Sa × SaTransitionResult :=
  if sa.state ≠ .created then (sa, .invalidState)
  else if initiatorSpi = 0#64 then (sa, .invalidValue)
  else
    match sa.setLivenessDeadline now with
    | none => (sa, .invalidValue)
    | some sa =>
      ({ sa with spis := { initiator := initiatorSpi, responder := 0#64 }
                 state := .initialExchange }, .applied)

def completeInitialExchange (sa : Sa) (responderSpi keySetHandle : BitVec 64) (now : Time) :
    Sa × SaTransitionResult :=
  if sa.state ≠ .initialExchange then (sa, .invalidState)
  else if responderSpi = 0#64 ∨ keySetHandle = 0#64 then (sa, .invalidValue)
  else
    match sa.setLivenessDeadline now with
    | none => (sa, .invalidValue)
    | some sa =>
      ({ sa with spis := { sa.spis with responder := responderSpi }, keySetHandle
                 state := .authenticating }, .applied)

def completeAuthentication (sa : Sa) (authentication : AuthenticationStatus) (now : Time) :
    Sa × SaTransitionResult :=
  if sa.state ≠ .authenticating then (sa, .invalidState)
  else if authentication ≠ .ok then (sa.fail, .forwardingRejected)
  else
    match sa.setLivenessDeadline now with
    | none => (sa.fail, .invalidValue)
    | some sa => ({ sa with unansweredLivenessRequests := 0#8, state := .established }, .applied)

end Handshake

section Children

def beginChildInstallImpl (sa : Sa) (childSaId replacesChildSaId : BitVec 64)
    (inbound outbound : SecurityAssociation) : Sa × Option ChildSaInstallRequest :=
  let ordinaryInstall := replacesChildSaId = 0#64
  if sa.state ≠ .established ∨ sa.pendingChildInstall.isSome ∨ sa.pendingChildRemove.isSome ∨
      childSaId = 0#64 ∨ (ordinaryInstall ∧ sa.configuration.maximumChildSas ≤ sa.childSas.length) ∨
      (¬ordinaryInstall ∧ sa.configuration.maximumChildSas < sa.childSas.length) ∨
      sa.childSas.any (·.childSaId == childSaId) then (sa, none)
  else if inbound.outbound ∨ ¬outbound.outbound ∨ inbound.id = 0#64 ∨ outbound.id = 0#64 ∨
      inbound.id = outbound.id ∨ inbound.policyId ≠ outbound.policyId then (sa, none)
  else
    let allocated := sa.allocateRequestId
    if allocated.2 = 0#64 then (allocated.1, none)
    else
      let request : ChildSaInstallRequest :=
        { requestId := allocated.2, ikeSaId := sa.id, childSaId, replacesChildSaId
          inbound, outbound }
      ({ allocated.1 with pendingChildInstall := some request }, some request)

def beginChildInstall (sa : Sa) (childSaId : BitVec 64) (inbound outbound : SecurityAssociation) :
    Sa × Option ChildSaInstallRequest :=
  sa.beginChildInstallImpl childSaId 0#64 inbound outbound

def beginChildRekey (sa : Sa) (replacedChildSaId newChildSaId : BitVec 64)
    (inbound outbound : SecurityAssociation) : Sa × Option ChildSaInstallRequest :=
  if replacedChildSaId = 0#64 ∨ replacedChildSaId = newChildSaId then (sa, none)
  else if !(sa.childSas.any fun binding =>
      binding.childSaId == replacedChildSaId && binding.state == .active) then (sa, none)
  else sa.beginChildInstallImpl newChildSaId replacedChildSaId inbound outbound

/-- The first binding of a CHILD SA gets another state. -/
def setChildState (childSaId : BitVec 64) (state : ChildSaState)
    (childSas : List ChildSaBinding) : List ChildSaBinding :=
  Table.update (·.childSaId) childSaId (fun binding => { binding with state }) childSas

def completeChildInstall (sa : Sa) (requestId : BitVec 64)
    (forwardingResult : SaPairInstallResult) (now : Time) : Sa × SaTransitionResult :=
  if sa.state ≠ .established then (sa, .invalidState)
  else
    match sa.pendingChildInstall with
    | none => (sa, .requestPending)
    | some request =>
      if request.requestId ≠ requestId then (sa, .requestMismatch)
      else if !forwardingResult.committed then
        ({ sa with pendingChildInstall := none }, .forwardingRejected)
      else
        let added := sa.childSas ++
          [{ childSaId := request.childSaId, inboundSaId := request.inbound.id
             outboundSaId := request.outbound.id, installedAt := now }]
        let bound := { sa with
          childSas :=
            if request.replacesChildSaId ≠ 0#64 then
              setChildState request.replacesChildSaId .retiring added
            else added
          pendingChildInstall := none, unansweredLivenessRequests := 0#8 }
        ((bound.setLivenessDeadline now).getD bound.fail, .applied)

def beginChildDelete (sa : Sa) (childSaId : BitVec 64) : Sa × Option ChildSaRemoveRequest :=
  if (sa.state ≠ .established ∧ sa.state ≠ .deleting) ∨ sa.pendingChildInstall.isSome ∨
      sa.pendingChildRemove.isSome ∨ childSaId = 0#64 then (sa, none)
  else
    match sa.childSas.find? (·.childSaId == childSaId) with
    | none => (sa, none)
    | some binding =>
      let allocated := sa.allocateRequestId
      if allocated.2 = 0#64 then (allocated.1, none)
      else
        let request : ChildSaRemoveRequest :=
          { requestId := allocated.2, ikeSaId := sa.id, childSaId := binding.childSaId
            inboundSaId := binding.inboundSaId, outboundSaId := binding.outboundSaId }
        ({ allocated.1 with
            pendingRemovePreviousState := binding.state
            childSas := setChildState childSaId .retiring sa.childSas
            pendingChildRemove := some request }, some request)

def completeChildDelete (sa : Sa) (requestId : BitVec 64)
    (forwardingResult : SaPairEraseResult) : Sa × SaTransitionResult :=
  if sa.state ≠ .established ∧ sa.state ≠ .deleting then (sa, .invalidState)
  else
    match sa.pendingChildRemove with
    | none => (sa, .requestPending)
    | some request =>
      if request.requestId ≠ requestId then (sa, .requestMismatch)
      else if forwardingResult ≠ .erased then
        ({ sa with
            childSas := setChildState request.childSaId sa.pendingRemovePreviousState sa.childSas
            pendingChildRemove := none }, .forwardingRejected)
      else
        ({ sa with
            childSas := sa.childSas.eraseP (·.childSaId == request.childSaId)
            pendingChildRemove := none }, .applied)

end Children

section Lifecycle

def beginIkeDelete (sa : Sa) : Sa × SaTransitionResult :=
  if sa.state ≠ .established then (sa, .invalidState)
  else if sa.pendingChildInstall.isSome ∨ sa.pendingChildRemove.isSome then (sa, .requestPending)
  else ({ sa with state := .deleting }, .applied)

def completeIkeDelete (sa : Sa) : Sa × SaTransitionResult :=
  if sa.state ≠ .deleting then (sa, .invalidState)
  else if sa.childSas ≠ [] ∨ sa.pendingChildInstall.isSome ∨ sa.pendingChildRemove.isSome then
    (sa, .requestPending)
  else
    ({ sa with keySetHandle := 0#64, livenessDeadline := 0, unansweredLivenessRequests := 0#8
               state := .closed }, .applied)

def noteAuthenticatedActivity (sa : Sa) (now : Time) : Sa × SaTransitionResult :=
  if sa.state ≠ .established then (sa, .invalidState)
  else
    match sa.setLivenessDeadline now with
    | none => (sa, .invalidValue)
    | some sa => ({ sa with unansweredLivenessRequests := 0#8 }, .applied)

def pollLiveness (sa : Sa) (now : Time) : Sa × LivenessAction :=
  if sa.state ≠ .established ∨ now < sa.livenessDeadline then (sa, .none)
  else if sa.configuration.liveness.maximumUnansweredRequests ≤ sa.unansweredLivenessRequests then
    ({ sa with state := .deleting }, .deleteIkeSa)
  else
    match sa.setLivenessDeadline now with
    | none => (sa.fail, .deleteIkeSa)
    | some sa =>
      ({ sa with unansweredLivenessRequests := sa.unansweredLivenessRequests + 1#8 },
        .sendEmptyInformational)

end Lifecycle

/-- What may be asked of an SA once its SPIs are known. -/
inductive Operation
  | authenticate (authentication : AuthenticationStatus) (now : Time)
  | beginChildInstall (childSaId : BitVec 64) (inbound outbound : SecurityAssociation)
  | beginChildRekey (replacedChildSaId newChildSaId : BitVec 64)
      (inbound outbound : SecurityAssociation)
  | completeChildInstall (requestId : BitVec 64) (forwardingResult : SaPairInstallResult)
      (now : Time)
  | beginChildDelete (childSaId : BitVec 64)
  | completeChildDelete (requestId : BitVec 64) (forwardingResult : SaPairEraseResult)
  | beginIkeDelete
  | completeIkeDelete
  | activity (now : Time)
  | poll (now : Time)

def operate (sa : Sa) : Operation → Sa
  | .authenticate authentication now => (sa.completeAuthentication authentication now).1
  | .beginChildInstall childSaId inbound outbound =>
    (sa.beginChildInstall childSaId inbound outbound).1
  | .beginChildRekey replacedChildSaId newChildSaId inbound outbound =>
    (sa.beginChildRekey replacedChildSaId newChildSaId inbound outbound).1
  | .completeChildInstall requestId forwardingResult now =>
    (sa.completeChildInstall requestId forwardingResult now).1
  | .beginChildDelete childSaId => (sa.beginChildDelete childSaId).1
  | .completeChildDelete requestId forwardingResult =>
    (sa.completeChildDelete requestId forwardingResult).1
  | .beginIkeDelete => sa.beginIkeDelete.1
  | .completeIkeDelete => sa.completeIkeDelete.1
  | .activity now => (sa.noteAuthenticatedActivity now).1
  | .poll now => (sa.pollLiveness now).1

/-- The handshake has settled both SPIs. -/
def Settled (state : SaState) : Prop := state ≠ .created ∧ state ≠ .initialExchange

/-- The SA has its keys. -/
def Keyed (state : SaState) : Prop :=
  state = .authenticating ∨ state = .established ∨ state = .deleting

instance (state : SaState) : Decidable (Settled state) := inferInstanceAs (Decidable (_ ∧ _))

instance (state : SaState) : Decidable (Keyed state) := inferInstanceAs (Decidable (_ ∨ _))

theorem settled_established : Settled .established := by decide

theorem settled_deleting : Settled .deleting := by decide

theorem settled_closed : Settled .closed := by decide

theorem settled_failed : Settled .failed := by decide

/-- The same IKE SA, and a handshake that has gone no further. -/
structure Keeps (sa after : Sa) : Prop where
  id : after.id = sa.id
  role : after.role = sa.role
  spis : after.spis = sa.spis
  state : after.state = sa.state ∨ (Keyed sa.state ∧ Settled after.state)

section Keeps

variable {sa after : Sa}

theorem Keeps.refl (sa : Sa) : Keeps sa sa := ⟨rfl, rfl, rfl, .inl rfl⟩

theorem Keeps.of_keyed (id : after.id = sa.id) (role : after.role = sa.role)
    (spis : after.spis = sa.spis) (before : Keyed sa.state) (later : Settled after.state) :
    Keeps sa after :=
  ⟨id, role, spis, .inr ⟨before, later⟩⟩

theorem setLivenessDeadline_eq {now : Time} (h : sa.setLivenessDeadline now = some after) :
    ∃ deadline, after = { sa with livenessDeadline := deadline } := by
  unfold setLivenessDeadline at h
  dsimp only at h
  split at h
  · cases h
  split at h
  · cases h
  · exact ⟨_, (Option.some.inj h).symm⟩

theorem completeAuthentication_keeps (authentication : AuthenticationStatus) (now : Time) :
    Keeps sa (sa.completeAuthentication authentication now).1 := by
  unfold completeAuthentication
  split
  · exact .refl sa
  next state =>
  have before : Keyed sa.state := by
    rw [Decidable.of_not_not state]
    decide
  split
  · exact .of_keyed rfl rfl rfl before settled_failed
  split
  · exact .of_keyed rfl rfl rfl before settled_failed
  next waiting =>
  obtain ⟨deadline, rfl⟩ := setLivenessDeadline_eq waiting
  exact .of_keyed rfl rfl rfl before settled_established

theorem allocateRequestId_keeps : Keeps sa sa.allocateRequestId.1 := by
  unfold allocateRequestId
  split <;> exact ⟨rfl, rfl, rfl, .inl rfl⟩

theorem beginChildInstallImpl_keeps (childSaId replacesChildSaId : BitVec 64)
    (inbound outbound : SecurityAssociation) :
    Keeps sa (sa.beginChildInstallImpl childSaId replacesChildSaId inbound outbound).1 := by
  unfold beginChildInstallImpl
  dsimp only
  split
  · exact .refl sa
  split
  · exact .refl sa
  split
  · exact allocateRequestId_keeps
  · exact ⟨allocateRequestId_keeps.id, allocateRequestId_keeps.role,
      allocateRequestId_keeps.spis, allocateRequestId_keeps.state⟩

theorem completeChildInstall_keeps (requestId : BitVec 64)
    (forwardingResult : SaPairInstallResult) (now : Time) :
    Keeps sa (sa.completeChildInstall requestId forwardingResult now).1 := by
  unfold completeChildInstall
  split
  · exact .refl sa
  next state =>
  have before : Keyed sa.state := by
    rw [Decidable.of_not_not state]
    decide
  split
  · exact .refl sa
  split
  · exact .refl sa
  split
  · exact ⟨rfl, rfl, rfl, .inl rfl⟩
  dsimp only
  split
  all_goals
    generalize waiting : setLivenessDeadline _ now = moved
    cases moved with
    | none => exact .of_keyed rfl rfl rfl before settled_failed
    | some moved =>
      obtain ⟨deadline, rfl⟩ := setLivenessDeadline_eq waiting
      exact ⟨rfl, rfl, rfl, .inl rfl⟩

theorem beginChildDelete_keeps (childSaId : BitVec 64) :
    Keeps sa (sa.beginChildDelete childSaId).1 := by
  unfold beginChildDelete
  split
  · exact .refl sa
  split
  · exact .refl sa
  dsimp only
  split
  · exact allocateRequestId_keeps
  · exact ⟨allocateRequestId_keeps.id, allocateRequestId_keeps.role,
      allocateRequestId_keeps.spis, allocateRequestId_keeps.state⟩

theorem completeChildDelete_keeps (requestId : BitVec 64) (forwardingResult : SaPairEraseResult) :
    Keeps sa (sa.completeChildDelete requestId forwardingResult).1 := by
  unfold completeChildDelete
  split
  · exact .refl sa
  split
  · exact .refl sa
  split
  · exact .refl sa
  · split <;> exact ⟨rfl, rfl, rfl, .inl rfl⟩

theorem beginIkeDelete_keeps : Keeps sa sa.beginIkeDelete.1 := by
  unfold beginIkeDelete
  split
  · exact .refl sa
  next state =>
  split
  · exact .refl sa
  refine .of_keyed rfl rfl rfl ?_ settled_deleting
  rw [Decidable.of_not_not state]
  decide

theorem completeIkeDelete_keeps : Keeps sa sa.completeIkeDelete.1 := by
  unfold completeIkeDelete
  split
  · exact .refl sa
  next state =>
  split
  · exact .refl sa
  refine .of_keyed rfl rfl rfl ?_ settled_closed
  rw [Decidable.of_not_not state]
  decide

theorem noteAuthenticatedActivity_keeps (now : Time) :
    Keeps sa (sa.noteAuthenticatedActivity now).1 := by
  unfold noteAuthenticatedActivity
  split
  · exact .refl sa
  split
  · exact .refl sa
  next waiting =>
  obtain ⟨deadline, rfl⟩ := setLivenessDeadline_eq waiting
  exact ⟨rfl, rfl, rfl, .inl rfl⟩

theorem pollLiveness_keeps (now : Time) : Keeps sa (sa.pollLiveness now).1 := by
  unfold pollLiveness
  split
  · exact .refl sa
  next due =>
  have before : Keyed sa.state := by
    rw [Decidable.of_not_not fun state => due (.inl state)]
    decide
  split
  · exact .of_keyed rfl rfl rfl before settled_deleting
  split
  · exact .of_keyed rfl rfl rfl before settled_failed
  next waiting =>
  obtain ⟨deadline, rfl⟩ := setLivenessDeadline_eq waiting
  exact ⟨rfl, rfl, rfl, .inl rfl⟩

theorem operate_keeps (sa : Sa) (operation : Operation) : Keeps sa (sa.operate operation) := by
  cases operation with
  | authenticate authentication now => exact completeAuthentication_keeps authentication now
  | beginChildInstall childSaId inbound outbound =>
    exact beginChildInstallImpl_keeps childSaId 0#64 inbound outbound
  | beginChildRekey replacedChildSaId newChildSaId inbound outbound =>
    show Keeps sa (sa.beginChildRekey replacedChildSaId newChildSaId inbound outbound).1
    unfold beginChildRekey
    split
    · exact .refl sa
    split
    · exact .refl sa
    · exact beginChildInstallImpl_keeps newChildSaId replacedChildSaId inbound outbound
  | completeChildInstall requestId forwardingResult now =>
    exact completeChildInstall_keeps requestId forwardingResult now
  | beginChildDelete childSaId => exact beginChildDelete_keeps childSaId
  | completeChildDelete requestId forwardingResult =>
    exact completeChildDelete_keeps requestId forwardingResult
  | beginIkeDelete => exact beginIkeDelete_keeps
  | completeIkeDelete => exact completeIkeDelete_keeps
  | activity now => exact noteAuthenticatedActivity_keeps now
  | poll now => exact pollLiveness_keeps now

end Keeps

end Sa

end RouterSim.Ikev2
