import RouterSim.Ikev2.Exchange
import RouterSim.Lib.Runs

/-! A requester and a responder over a channel that loses, duplicates and reorders. The two
stay within one message id of each other, and every response in flight is one that was cached
for its id. -/
namespace RouterSim.Ikev2

open List

/-- What became of a delivered message. A request is noted with whether the requester still
waits for its response. -/
inductive Observation
  | request (id : BitVec 32) (decision : InboundRequestDecision) (awaited : Bool)
  | response (id : BitVec 32) (token : BitVec 64) (result : ResponseResult)

structure ExchangeSystem where
  requester : RequestTracker
  next : BitVec 32 := 0#32
  ready : Bool := true
  responder : ResponderMessageIds := {}
  requests : List (BitVec 32) := []
  responses : List (BitVec 32 × BitVec 64) := []
  cached : List (BitVec 32 × BitVec 64) := []
  log : List Observation := []

inductive ExchangeOp
  | start (token : BitVec 64) (now : Time)
  | poll (now : Time)
  | answer (id : BitVec 32) (token : BitVec 64)
  | loseRequest (i : Nat)
  | duplicateRequest (i : Nat)
  | deliverRequest (i : Nat)
  | loseResponse (i : Nat)
  | duplicateResponse (i : Nat)
  | deliverResponse (i : Nat)

namespace ExchangeSystem

def create (policy : RetransmissionPolicy) : ExchangeSystem := { requester := { policy } }

/-- A request starts when the response to the one before has matched. -/
def start (s : ExchangeSystem) (token : BitVec 64) (now : Time) : ExchangeSystem :=
  if s.ready ∧ s.next < 0xffffffff#32 then
    let started := s.requester.start s.next token now
    if started.2 = .started then
      { s with
        requester := started.1, next := s.next + 1#32, ready := false,
        requests := s.requests ++ [s.next] }
    else { s with requester := started.1 }
  else s

def poll (s : ExchangeSystem) (now : Time) : ExchangeSystem :=
  let polled := s.requester.poll now
  { s with
    requester := polled.1
    requests := if polled.2.action = .retransmit then s.requests ++ [polled.2.messageId]
      else s.requests }

def answer (s : ExchangeSystem) (id : BitVec 32) (token : BitVec 64) : ExchangeSystem :=
  let answered := s.responder.cacheResponse id token
  if answered.2 then
    { s with
      responder := answered.1, responses := s.responses ++ [(id, token)],
      cached := (id, token) :: s.cached }
  else { s with responder := answered.1 }

def awaits (s : ExchangeSystem) (id : BitVec 32) : Bool :=
  s.requester.active && s.requester.messageId == id

def receiveRequest (s : ExchangeSystem) (id : BitVec 32) : ExchangeSystem :=
  let received := s.responder.receive id
  { s with
    responder := received.1
    responses := if received.2.result = .duplicateWithCachedResponse then
        s.responses ++ [(id, received.2.responseToken)]
      else s.responses
    log := .request id received.2 (s.awaits id) :: s.log }

def receiveResponse (s : ExchangeSystem) (id : BitVec 32) (token : BitVec 64) : ExchangeSystem :=
  let received := s.requester.receiveResponse id
  { s with
    requester := received.1, ready := s.ready || received.2 = .matched,
    log := .response id token received.2 :: s.log }

/-- Any copy in flight may be lost, doubled or delivered next. -/
def step (s : ExchangeSystem) : ExchangeOp → ExchangeSystem
  | .start token now => s.start token now
  | .poll now => s.poll now
  | .answer id token => s.answer id token
  | .loseRequest i => { s with requests := s.requests.eraseIdx i }
  | .duplicateRequest i => { s with requests := s.requests ++ s.requests[i]?.toList }
  | .deliverRequest i =>
    match s.requests[i]? with
    | none => s
    | some id => { s with requests := s.requests.eraseIdx i }.receiveRequest id
  | .loseResponse i => { s with responses := s.responses.eraseIdx i }
  | .duplicateResponse i => { s with responses := s.responses ++ s.responses[i]?.toList }
  | .deliverResponse i =>
    match s.responses[i]? with
    | none => s
    | some (id, token) => { s with responses := s.responses.eraseIdx i }.receiveResponse id token

/-- The ids that were classified as new, the latest first. -/
def newRequests (log : List Observation) : List (BitVec 32) :=
  log.filterMap fun
    | .request id decision _ => if decision.result = .newRequest then some id else none
    | .response .. => none

/-- The one token cached for the id. -/
def CachedFor (s : ExchangeSystem) (id : BitVec 32) (token : BitVec 64) : Prop :=
  ∀ token', (id, token') ∈ s.cached ↔ token' = token

structure ExactlyOnce (s : ExchangeSystem) : Prop where
  /-- Each id is new at most once, and in increasing order. -/
  increasing : (newRequests s.log).Pairwise fun later earlier => earlier < later
  /-- A request whose response is still awaited is never outside the window. -/
  inside : ∀ id decision, .request id decision true ∈ s.log → decision.result ≠ .outsideWindow
  /-- A response that matched carried what was cached for its id. -/
  matched : ∀ id token, .response id token .matched ∈ s.log → s.CachedFor id token
  /-- The last completed request is answered again from the cache. -/
  again : s.responder.hasCompleted → ∃ token, s.CachedFor s.responder.lastCompleted token ∧
    s.responder.receive s.responder.lastCompleted =
      (s.responder, { result := .duplicateWithCachedResponse, responseToken := token })

end ExchangeSystem

section Functions

variable {t : RequestTracker} {r : ResponderMessageIds} {id : BitVec 32} {token : BitVec 64}
  {now : Time}

/-- A request that does not start leaves an active one as it is, if there is one. -/
theorem RequestTracker.start_spec (t : RequestTracker) (id : BitVec 32) (token : BitVec 64)
    (now : Time) :
    (t.start id token now).2 = .started ∧ (t.start id token now).1.messageId = id ∨
      (t.start id token now).2 ≠ .started ∧
        ((t.start id token now).1.active = true → (t.start id token now).1 = t) := by
  unfold start
  split
  · exact .inr ⟨nofun, fun _ => rfl⟩
  next inactive =>
  split
  · exact .inr ⟨nofun, fun _ => rfl⟩
  split
  · exact .inr ⟨nofun, fun _ => rfl⟩
  split
  · exact .inr ⟨nofun, fun active => absurd active inactive⟩
  · exact .inl ⟨rfl, rfl⟩

/-- The timer sends the same id again or gives the request up. -/
theorem RequestTracker.poll_spec (t : RequestTracker) (now : Time) :
    ((t.poll now).1.active = true → t.active = true ∧ (t.poll now).1.messageId = t.messageId) ∧
      ((t.poll now).2.action = .retransmit →
        t.active = true ∧ (t.poll now).2.messageId = t.messageId) := by
  unfold poll fail
  split
  · exact ⟨fun active => ⟨active, rfl⟩, nofun⟩
  next due =>
  have active : t.active = true := by
    simp only [asserted, not_or, refuted] at due
    exact due.1
  split
  · exact ⟨nofun, nofun⟩
  dsimp only
  split
  · exact ⟨nofun, nofun⟩
  · exact ⟨fun _ => ⟨active, rfl⟩, fun _ => ⟨active, rfl⟩⟩

theorem RequestTracker.receiveResponse_spec (t : RequestTracker) (id : BitVec 32) :
    (t.receiveResponse id).2 = .matched ∧ t.active = true ∧ id = t.messageId ∧
        (t.receiveResponse id).1.active = false ∨
      (t.receiveResponse id).2 ≠ .matched ∧ (t.receiveResponse id).1 = t := by
  unfold receiveResponse
  split
  · exact .inr ⟨nofun, rfl⟩
  next active =>
  split
  · refine .inr ⟨?_, rfl⟩
    split <;> exact nofun
  · next same => exact .inl ⟨rfl, by simpa using active, Decidable.of_not_not same, rfl⟩

/-- The expected id is new once; the rest of the window is answered without a change. -/
theorem ResponderMessageIds.receive_cases (r : ResponderMessageIds) (id : BitVec 32) :
    (id = r.expected ∧ r.requestPending = false ∧
        r.receive id = ({ r with requestPending := true }, { result := .newRequest })) ∨
      ((r.receive id).1 = r ∧ (r.receive id).2.result ≠ .newRequest ∧
        ((r.receive id).2.result = .outsideWindow →
          id ≠ r.expected ∧ ¬ (r.hasCompleted = true ∧ id = r.lastCompleted)) ∧
        ((r.receive id).2.result = .duplicateWithCachedResponse → r.hasCompleted = true ∧
          id = r.lastCompleted ∧ (r.receive id).2.responseToken = r.responseToken)) := by
  unfold receive
  split
  · next new => exact .inl ⟨new.1, new.2, rfl⟩
  right
  split
  · exact ⟨rfl, nofun, nofun, nofun⟩
  next other =>
  split
  · next last =>
    split
    · exact ⟨rfl, nofun, nofun, fun _ => ⟨last.1, last.2, rfl⟩⟩
    · exact ⟨rfl, nofun, nofun, nofun⟩
  · next last => exact ⟨rfl, nofun, fun _ => ⟨other, last⟩, nofun⟩

theorem ResponderMessageIds.cacheResponse_spec (r : ResponderMessageIds) (id : BitVec 32)
    (token : BitVec 64) :
    (r.requestPending = true ∧ id = r.expected ∧ token ≠ 0#64 ∧ r.expected ≠ 0xffffffff#32 ∧
        r.cacheResponse id token =
          ({ expected := r.expected + 1#32, lastCompleted := id, responseToken := token,
             hasCompleted := true, requestPending := false }, true)) ∨
      r.cacheResponse id token = (r, false) := by
  unfold cacheResponse
  split
  · exact .inr rfl
  next accepted =>
  simp only [asserted, not_or, refuted, Decidable.not_not] at accepted
  obtain ⟨⟨⟨pending, same⟩, token⟩, last⟩ := accepted
  exact .inl ⟨pending, same, token, last, rfl⟩

end Functions

namespace ExchangeSystem

/-- The two sides are within one id of each other, and the channel holds nothing else than
what one of them sent. -/
structure Inv (s : ExchangeSystem) : Prop where
  sent : ∀ id ∈ s.requests, id < s.next
  answers : ∀ response ∈ s.responses, response ∈ s.cached
  below : ∀ response ∈ s.cached, response.1 < s.responder.expected
  once : s.cached.Pairwise fun a b => a.1 ≠ b.1
  token : s.responder.hasCompleted = true → s.responder.responseToken ≠ 0#64 ∧
    (s.responder.lastCompleted, s.responder.responseToken) ∈ s.cached
  last : s.responder.hasCompleted = true →
    s.responder.lastCompleted.toNat + 1 = s.responder.expected.toNat
  fresh : s.responder.hasCompleted = false → s.responder.expected = 0#32
  ahead : s.responder.expected ≤ s.next
  pending : s.responder.requestPending = true → s.responder.expected < s.next
  window : s.next.toNat ≤ s.responder.expected.toNat + 1
  ready : s.ready = true → s.next ≤ s.responder.expected
  active : s.requester.active = true →
    s.ready = false ∧ s.requester.messageId.toNat + 1 = s.next.toNat
  news : ∀ id ∈ newRequests s.log, id < s.responder.expected ∨
    id = s.responder.expected ∧ s.responder.requestPending = true
  increasing : (newRequests s.log).Pairwise fun later earlier => earlier < later
  inside : ∀ id decision, .request id decision true ∈ s.log → decision.result ≠ .outsideWindow
  matched : ∀ id token, .response id token .matched ∈ s.log → (id, token) ∈ s.cached

variable {s : ExchangeSystem} {policy : RetransmissionPolicy}

theorem Inv.create : Inv (create policy) := by
  constructor <;> simp [ExchangeSystem.create, newRequests]

section

variable (h : s.Inv)
include h

theorem Inv.cachedFor {id : BitVec 32} {token : BitVec 64} (mem : (id, token) ∈ s.cached) :
    s.CachedFor id token := by
  intro token'
  constructor
  · intro other
    obtain ⟨i, hi, at_i⟩ := mem_iff_getElem.mp mem
    obtain ⟨j, hj, at_j⟩ := mem_iff_getElem.mp other
    have apart := pairwise_iff_getElem.mp h.once
    obtain before | rfl | after := Nat.lt_trichotomy i j
    · exact absurd (by rw [at_i, at_j]) (apart i j hi hj before)
    · rw [at_i] at at_j
      exact (Prod.mk.inj at_j).2.symm
    · exact absurd (by rw [at_i, at_j]) (apart j i hj hi after)
  · rintro rfl
    exact mem

theorem Inv.start (token : BitVec 64) (now : Time) : (s.start token now).Inv := by
  unfold ExchangeSystem.start
  split
  · next may =>
    obtain ⟨ready, room⟩ := may
    have caught := h.ready ready
    have next : (s.next + 1#32).toNat = s.next.toNat + 1 := by bv_omega
    obtain ⟨started, id⟩ | ⟨refused, kept⟩ := RequestTracker.start_spec s.requester s.next token now
    · rw [if_pos started]
      refine { h with
        sent := ?_, ahead := ?_, pending := ?_, window := ?_, ready := Bool.noConfusion, active := ?_ }
      · intro id mem
        obtain mem | mem := mem_append.mp mem
        · have below := h.sent id mem
          bv_omega
        · rw [mem_singleton.mp mem]
          bv_omega
      · have ahead := h.ahead
        bv_omega
      · intro pending
        have ahead := h.pending pending
        bv_omega
      · dsimp only
        bv_omega
      · intro _
        exact ⟨rfl, by rw [id, next]⟩
    · rw [if_neg refused]
      refine { h with active := ?_ }
      intro active
      have same := kept active
      rw [same] at active ⊢
      exact h.active active
  · exact h

theorem Inv.poll (now : Time) : (s.poll now).Inv := by
  obtain ⟨kept, again⟩ := RequestTracker.poll_spec s.requester now
  refine { h with sent := ?_, active := ?_ }
  · intro id mem
    simp only [ExchangeSystem.poll] at mem ⊢
    split at mem
    · next retransmit =>
      obtain mem | mem := mem_append.mp mem
      · exact h.sent id mem
      · obtain ⟨active, same⟩ := again retransmit
        have waiting := (h.active active).2
        rw [mem_singleton.mp mem, same]
        bv_omega
    · exact h.sent id mem
  · intro active
    obtain ⟨before, same⟩ := kept active
    obtain ⟨waiting, id⟩ := h.active before
    exact ⟨waiting, (congrArg (·.toNat + 1) same).trans id⟩

theorem Inv.answer (id : BitVec 32) (token : BitVec 64) : (s.answer id token).Inv := by
  unfold ExchangeSystem.answer
  obtain ⟨pending, rfl, nonzero, small, answered⟩ | refused :=
    ResponderMessageIds.cacheResponse_spec s.responder id token
  · have ahead := h.pending pending
    have window := h.window
    have next : (s.responder.expected + 1#32).toNat = s.responder.expected.toNat + 1 := by
      bv_omega
    simp only [answered, if_true]
    refine { h with
      answers := ?_, below := ?_, once := ?_, token := ?_, last := ?_, fresh := Bool.noConfusion,
      ahead := ?_, pending := Bool.noConfusion, window := ?_, ready := ?_, news := ?_, matched := ?_ }
    · intro response mem
      obtain mem | mem := mem_append.mp mem
      · exact mem_cons_of_mem _ (h.answers response mem)
      · exact mem_singleton.mp mem ▸ mem_cons_self
    · intro response mem
      obtain rfl | mem := mem_cons.mp mem
      · dsimp only
        bv_omega
      · have below := h.below response mem
        bv_omega
    · refine pairwise_cons.mpr ⟨fun other mem same => ?_, h.once⟩
      have below := h.below other mem
      bv_omega
    · exact fun _ => ⟨nonzero, mem_cons_self⟩
    · exact fun _ => next.symm
    · dsimp only
      bv_omega
    · dsimp only
      bv_omega
    · intro ready
      bv_omega
    · intro id mem
      have known := h.news id mem
      left
      bv_omega
    · exact fun id token mem => mem_cons_of_mem _ (h.matched id token mem)
  · simp [refused]
    exact h

omit h in
theorem newRequests_request (id : BitVec 32) (decision : InboundRequestDecision) (awaited : Bool)
    (log : List Observation) : newRequests (.request id decision awaited :: log) =
      if decision.result = .newRequest then id :: newRequests log else newRequests log := by
  unfold newRequests
  split <;> simp_all

theorem Inv.receiveRequest (id : BitVec 32) (sent : id < s.next) : (s.receiveRequest id).Inv := by
  have ahead := h.ahead
  have window := h.window
  unfold ExchangeSystem.receiveRequest
  obtain ⟨rfl, idle, new⟩ | ⟨kept, old, outside, duplicate⟩ :=
    ResponderMessageIds.receive_cases s.responder id
  · simp [new]
    refine { h with pending := fun _ => sent, news := ?_, increasing := ?_, inside := ?_
                    matched := ?_ }
    · intro id mem
      obtain rfl | mem := mem_cons.mp mem
      · exact .inr ⟨rfl, rfl⟩
      · exact (h.news id mem).imp_right fun both => ⟨both.1, rfl⟩
    · rw [newRequests_request, if_pos rfl]
      refine pairwise_cons.mpr ⟨fun earlier mem => ?_, h.increasing⟩
      obtain below | ⟨-, pending⟩ := h.news earlier mem
      · exact below
      · simp [idle] at pending
    · intro id decision mem
      obtain same | mem := mem_cons.mp mem
      · obtain ⟨-, rfl, -⟩ := Observation.request.inj same
        nofun
      · exact h.inside id decision mem
    · intro id token mem
      obtain same | mem := mem_cons.mp mem
      · cases same
      · exact h.matched id token mem
  · simp only [kept]
    refine { h with answers := ?_, news := ?_, increasing := ?_, inside := ?_, matched := ?_ }
    · intro response mem
      split at mem
      · next cached =>
        obtain mem | mem := mem_append.mp mem
        · exact h.answers response mem
        · obtain ⟨completed, rfl, same⟩ := duplicate cached
          rw [mem_singleton.mp mem, same]
          exact (h.token completed).2
      · exact h.answers response mem
    · intro id mem
      rw [newRequests_request, if_neg old] at mem
      exact h.news id mem
    · rw [newRequests_request, if_neg old]
      exact h.increasing
    · intro other decision mem
      obtain same | mem := mem_cons.mp mem
      · obtain ⟨rfl, rfl, awaited⟩ := Observation.request.inj same
        simp only [awaits, Bool.true_eq, asserted] at awaited
        have waiting := (h.active awaited.1).2
        intro result
        obtain ⟨ne, notLast⟩ := outside result
        -- The awaited id is the last one sent, so it is expected or just completed.
        have completed : s.responder.hasCompleted = true := by
          rw [← Bool.not_eq_false]
          intro none
          have zero := h.fresh none
          bv_omega
        have last := h.last completed
        exact notLast ⟨completed, by bv_omega⟩
      · exact h.inside other decision mem
    · intro id token mem
      obtain same | mem := mem_cons.mp mem
      · cases same
      · exact h.matched id token mem

theorem Inv.receiveResponse {id : BitVec 32} {token : BitVec 64} (mem : (id, token) ∈ s.cached) :
    (s.receiveResponse id token).Inv := by
  unfold ExchangeSystem.receiveResponse
  obtain ⟨matched, active, rfl, done⟩ | ⟨other, kept⟩ :=
    RequestTracker.receiveResponse_spec s.requester id
  · have waiting := (h.active active).2
    have below := h.below _ mem
    refine { h with ready := ?_, active := ?_, inside := ?_, matched := ?_ }
    · intro _
      bv_omega
    · intro still
      rw [done] at still
      cases still
    · intro id decision mem
      obtain same | mem := mem_cons.mp mem
      · cases same
      · exact h.inside id decision mem
    · intro id' token' mem'
      obtain same | mem' := mem_cons.mp mem'
      · obtain ⟨rfl, rfl, -⟩ := Observation.response.inj same
        exact mem
      · exact h.matched id' token' mem'
  · simp [kept, other]
    refine { h with inside := ?_, matched := ?_ }
    · intro id decision mem
      obtain same | mem := mem_cons.mp mem
      · cases same
      · exact h.inside id decision mem
    · intro id' token' mem'
      obtain same | mem' := mem_cons.mp mem'
      · exact absurd (Observation.response.inj same).2.2.symm other
      · exact h.matched id' token' mem'

theorem Inv.requests_subset {requests : List _} (sub : requests ⊆ s.requests) :
    Inv { s with requests } :=
  { h with sent := fun id mem => h.sent id (sub mem) }

theorem Inv.responses_subset {responses : List _} (sub : responses ⊆ s.responses) :
    Inv { s with responses } :=
  { h with answers := fun response mem => h.answers response (sub mem) }

omit h in
theorem duplicated_subset {l : List α} {i : Nat} : l ++ l[i]?.toList ⊆ l :=
  append_subset.mpr ⟨fun _ mem => mem, fun _ mem => mem_of_getElem? (Option.mem_toList.mp mem)⟩

theorem Inv.step (op : ExchangeOp) : (s.step op).Inv := by
  cases op with
  | start token now => exact h.start token now
  | poll now => exact h.poll now
  | answer id token => exact h.answer id token
  | loseRequest i => exact h.requests_subset eraseIdx_subset
  | duplicateRequest i => exact h.requests_subset duplicated_subset
  | deliverRequest i =>
    cases at_i : s.requests[i]? with
    | none => simpa only [ExchangeSystem.step, at_i] using h
    | some id =>
      simp only [ExchangeSystem.step, at_i]
      have lost := h.requests_subset (eraseIdx_subset (k := i))
      exact lost.receiveRequest id (h.sent id (mem_of_getElem? at_i))
  | loseResponse i => exact h.responses_subset eraseIdx_subset
  | duplicateResponse i => exact h.responses_subset duplicated_subset
  | deliverResponse i =>
    cases at_i : s.responses[i]? with
    | none => simpa only [ExchangeSystem.step, at_i] using h
    | some response =>
      simp only [ExchangeSystem.step, at_i]
      have lost := h.responses_subset (eraseIdx_subset (k := i))
      exact lost.receiveResponse (h.answers response (mem_of_getElem? at_i))

theorem Inv.exactlyOnce : s.ExactlyOnce where
  increasing := h.increasing
  inside := h.inside
  matched id token mem := h.cachedFor (h.matched id token mem)
  again completed := by
    obtain ⟨nonzero, mem⟩ := h.token completed
    refine ⟨s.responder.responseToken, h.cachedFor mem, ?_⟩
    have last := h.last completed
    have older : s.responder.lastCompleted ≠ s.responder.expected := by bv_omega
    simp [ResponderMessageIds.receive, older, completed, nonzero]

end

/-- Whatever the channel does, the exchange is exactly once. -/
theorem run_exactly_once (policy : RetransmissionPolicy) (ops : List ExchangeOp) :
    (Runs.run step (create policy) ops).ExactlyOnce := by
  have kept : (Runs.run step (create policy) ops).Inv :=
    Runs.invariant (P := Inv) (fun _ op h => h.step op) ops Inv.create
  exact kept.exactlyOnce

end ExchangeSystem

end RouterSim.Ikev2
