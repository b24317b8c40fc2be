import RouterSim.Ikev2.Sa

/-! An IKE SA and the database it forwards to. A request goes out, is executed once and its
answer comes back, and anything else may happen to the SA in between. -/
namespace RouterSim.Ikev2

open Ipsec (SecurityAssociation Sad SaPairInstallResult SaPairEraseResult)
open List Option Table Runs

inductive ForwardingRequest
  | install (request : ChildSaInstallRequest)
  | remove (request : ChildSaRemoveRequest)

inductive ForwardingAnswer
  | installed (requestId : BitVec 64) (result : SaPairInstallResult)
  | removed (requestId : BitVec 64) (result : SaPairEraseResult)

/-- `installed` lists the ids of the entries that were installed for the SA. -/
structure ForwardedSa where
  sa : Sa
  sad : Sad
  request : Option ForwardingRequest := none
  answer : Option ForwardingAnswer := none
  installed : List (BitVec 64) := []

inductive ForwardedSaOp
  | beginInitialExchange (initiatorSpi : BitVec 64) (now : Time)
  | completeInitialExchange (responderSpi keySetHandle : BitVec 64) (now : Time)
  | completeAuthentication (authentication : AuthenticationStatus) (now : Time)
  | beginChildInstall (childSaId : BitVec 64) (inbound outbound : SecurityAssociation)
  | beginChildRekey (replacedChildSaId newChildSaId : BitVec 64)
      (inbound outbound : SecurityAssociation)
  | beginChildDelete (childSaId : BitVec 64)
  | execute
  | complete (now : Time)
  | activity (now : Time)
  | poll (now : Time)
  | beginIkeDelete
  | completeIkeDelete

namespace ForwardedSa

/-- A request that the SA made goes out. -/
def sendInstall (c : ForwardedSa) (made : Sa × Option ChildSaInstallRequest) : ForwardedSa :=
  { c with sa := made.1
           request := match made.2 with
             | some request => some (.install request)
             | none => c.request }

def sendRemove (c : ForwardedSa) (made : Sa × Option ChildSaRemoveRequest) : ForwardedSa :=
  { c with sa := made.1
           request := match made.2 with
             | some request => some (.remove request)
             | none => c.request }

/-- The forwarding side takes the request. -/
def execute (c : ForwardedSa) : ForwardedSa :=
  match c.request with
  | none => c
  | some (.install request) =>
    let done := c.sad.installPair request.inbound request.outbound
    { c with sad := done.1, request := none
             answer := some (.installed request.requestId done.2)
             installed :=
               if done.2.committed then request.inbound.id :: request.outbound.id :: c.installed
               else c.installed }
  | some (.remove request) =>
    let done := c.sad.erasePair request.inboundSaId request.outboundSaId
    { c with sad := done.1, request := none
             answer := some (.removed request.requestId done.2) }

/-- The answer comes back. -/
def complete (c : ForwardedSa) (now : Time) : ForwardedSa :=
  match c.answer with
  | none => c
  | some (.installed requestId result) =>
    { c with sa := (c.sa.completeChildInstall requestId result now).1, answer := none }
  | some (.removed requestId result) =>
    { c with sa := (c.sa.completeChildDelete requestId result).1, answer := none }

def step (c : ForwardedSa) : ForwardedSaOp → ForwardedSa
  | .beginInitialExchange initiatorSpi now =>
    { c with sa := (c.sa.beginInitialExchange initiatorSpi now).1 }
  | .completeInitialExchange responderSpi keySetHandle now =>
    { c with sa := (c.sa.completeInitialExchange responderSpi keySetHandle now).1 }
  | .completeAuthentication authentication now =>
    { c with sa := (c.sa.completeAuthentication authentication now).1 }
  | .beginChildInstall childSaId inbound outbound =>
    c.sendInstall (c.sa.beginChildInstall childSaId inbound outbound)
  | .beginChildRekey replacedChildSaId newChildSaId inbound outbound =>
    c.sendInstall (c.sa.beginChildRekey replacedChildSaId newChildSaId inbound outbound)
  | .beginChildDelete childSaId => c.sendRemove (c.sa.beginChildDelete childSaId)
  | .execute => c.execute
  | .complete now => c.complete now
  | .activity now => { c with sa := (c.sa.noteAuthenticatedActivity now).1 }
  | .poll now => { c with sa := (c.sa.pollLiveness now).1 }
  | .beginIkeDelete => { c with sa := c.sa.beginIkeDelete.1 }
  | .completeIkeDelete => { c with sa := c.sa.completeIkeDelete.1 }

/-- A new SA beside a database that others have filled. -/
def create (id : BitVec 64) (role : Role) (configuration : SaConfiguration) (capacity : Nat)
    (others : List SecurityAssociation) : ForwardedSa :=
  { sa := .create id role configuration
    sad := run (fun sad association => (sad.install association).1) { capacity } others }

/-- No request of the SA is waiting for its answer. -/
def Quiet (c : ForwardedSa) : Prop :=
  c.sa.pendingChildInstall = none ∧ c.sa.pendingChildRemove = none

end ForwardedSa

section Accounts

/-- The ids of a pair, the inbound one first. -/
abbrev PairIds := BitVec 64 × BitVec 64

def ChildSaBinding.ids (binding : ChildSaBinding) : PairIds :=
  (binding.inboundSaId, binding.outboundSaId)

def Names (pair : PairIds) (id : BitVec 64) : Prop := id = pair.1 ∨ id = pair.2

instance (pair : PairIds) (id : BitVec 64) : Decidable (Names pair id) :=
  inferInstanceAs (Decidable (_ ∨ _))

/-- No entry belongs to both pairs. -/
def Apart (pair other : PairIds) : Prop := ∀ id, Names pair id → ¬Names other id

/-- The pairs are in the database, apart from each other, and they name every entry that was
installed for the SA. -/
structure Accounts (pairs : List PairIds) (sad : Sad) (installed : List (BitVec 64)) : Prop where
  inbound : ∀ pair ∈ pairs, ∃ entry ∈ sad.entries, entry.id = pair.1 ∧ entry.outbound = false
  outbound : ∀ pair ∈ pairs, ∃ entry ∈ sad.entries, entry.id = pair.2 ∧ entry.outbound = true
  apart : pairs.Pairwise Apart
  owned : ∀ entry ∈ sad.entries, entry.id ∈ installed → ∃ pair ∈ pairs, Names pair entry.id

namespace Accounts

variable {pairs before after : List PairIds} {pair : PairIds} {sad next : Sad}
  {installed : List (BitVec 64)}

theorem none (fresh : installed = []) : Accounts [] sad installed where
  inbound _ mem := absurd mem not_mem_nil
  outbound _ mem := absurd mem not_mem_nil
  apart := .nil
  owned _ _ mine := absurd (fresh ▸ mine) not_mem_nil

theorem install (h : Accounts pairs sad installed) {inbound outbound : SecurityAssociation}
    (directions : inbound.outbound = false ∧ outbound.outbound = true)
    (entries : ∀ e, e ∈ next.entries ↔ e = inbound ∨ e = outbound ∨
      (e ∈ sad.entries ∧ e.id ≠ inbound.id ∧ e.id ≠ outbound.id))
    (fresh : ∀ pair ∈ pairs, ¬Names pair inbound.id ∧ ¬Names pair outbound.id) :
    Accounts (pairs ++ [(inbound.id, outbound.id)]) next
      (inbound.id :: outbound.id :: installed) where
  inbound pair mem := by
    obtain old | new := mem_append.mp mem
    · obtain ⟨entry, inside, id, direction⟩ := h.inbound pair old
      obtain ⟨first, second⟩ := fresh pair old
      refine ⟨entry, (entries entry).mpr (.inr (.inr ⟨inside, ?_, ?_⟩)), id, direction⟩
      · exact fun same => first (.inl (same ▸ id))
      · exact fun same => second (.inl (same ▸ id))
    · rw [mem_singleton.mp new]
      exact ⟨inbound, (entries _).mpr (.inl rfl), rfl, directions.1⟩
  outbound pair mem := by
    obtain old | new := mem_append.mp mem
    · obtain ⟨entry, inside, id, direction⟩ := h.outbound pair old
      obtain ⟨first, second⟩ := fresh pair old
      refine ⟨entry, (entries entry).mpr (.inr (.inr ⟨inside, ?_, ?_⟩)), id, direction⟩
      · exact fun same => first (.inr (same ▸ id))
      · exact fun same => second (.inr (same ▸ id))
    · rw [mem_singleton.mp new]
      exact ⟨outbound, (entries _).mpr (.inr (.inl rfl)), rfl, directions.2⟩
  apart := by
    refine pairwise_append.mpr ⟨h.apart, pairwise_singleton .., ?_⟩
    intro pair old other new id named
    rw [mem_singleton.mp new]
    rintro (rfl | rfl)
    · exact (fresh pair old).1 named
    · exact (fresh pair old).2 named
  owned entry mem mine := by
    obtain rfl | rfl | ⟨inside, first, second⟩ := (entries entry).mp mem
    · exact ⟨_, mem_append_right _ (mem_singleton.mpr rfl), .inl rfl⟩
    · exact ⟨_, mem_append_right _ (mem_singleton.mpr rfl), .inr rfl⟩
    · have earlier : entry.id ∈ installed := by simpa [first, second] using mine
      obtain ⟨pair, old, named⟩ := h.owned entry inside earlier
      exact ⟨pair, mem_append_left _ old, named⟩

theorem erase (h : Accounts (before ++ pair :: after) sad installed)
    (entries : ∀ e, e ∈ next.entries ↔ e ∈ sad.entries ∧ e.id ≠ pair.1 ∧ e.id ≠ pair.2) :
    Accounts (before ++ after) next installed := by
  have others : ∀ other ∈ before ++ after, other ∈ before ++ pair :: after ∧
      ∀ id, Names other id → id ≠ pair.1 ∧ id ≠ pair.2 := by
    intro other mem
    obtain ⟨first, rest, cross⟩ := pairwise_append.mp h.apart
    obtain ⟨behind, -⟩ := pairwise_cons.mp rest
    obtain left | right := mem_append.mp mem
    · refine ⟨mem_append_left _ left, fun id named => ?_⟩
      have apart := cross other left pair mem_cons_self id named
      exact ⟨fun same => apart (.inl same), fun same => apart (.inr same)⟩
    · refine ⟨mem_append_right _ (mem_cons_of_mem _ right), fun id named => ?_⟩
      exact ⟨fun same => behind other right id (.inl same) named,
        fun same => behind other right id (.inr same) named⟩
  refine ⟨?_, ?_, ?_, ?_⟩
  · intro other mem
    obtain ⟨earlier, away⟩ := others other mem
    obtain ⟨entry, inside, id, direction⟩ := h.inbound other earlier
    exact ⟨entry, (entries entry).mpr ⟨inside, away entry.id (.inl id)⟩, id, direction⟩
  · intro other mem
    obtain ⟨earlier, away⟩ := others other mem
    obtain ⟨entry, inside, id, direction⟩ := h.outbound other earlier
    exact ⟨entry, (entries entry).mpr ⟨inside, away entry.id (.inr id)⟩, id, direction⟩
  · exact h.apart.sublist ((List.Sublist.refl before).append (sublist_cons_self pair after))
  · intro entry mem mine
    obtain ⟨inside, first, second⟩ := (entries entry).mp mem
    obtain ⟨owner, among, named⟩ := h.owned entry inside mine
    refine ⟨owner, ?_, named⟩
    obtain left | right := mem_append.mp among
    · exact mem_append_left _ left
    · obtain rfl | right := mem_cons.mp right
      · obtain same | same := named
        · exact absurd same first
        · exact absurd same second
      · exact mem_append_right _ right

end Accounts

end Accounts

/-- The bindings and the requests that wait are as they were. -/
structure Sa.SameChildren (sa after : Sa) : Prop where
  childSas : after.childSas = sa.childSas
  install : after.pendingChildInstall = sa.pendingChildInstall
  remove : after.pendingChildRemove = sa.pendingChildRemove

namespace Sa

/-- The ids the bindings name. -/
def pairs (sa : Sa) : List PairIds := sa.childSas.map ChildSaBinding.ids

section Children

variable {sa : Sa} {now : Time}

theorem SameChildren.refl (sa : Sa) : SameChildren sa sa := ⟨rfl, rfl, rfl⟩

theorem beginInitialExchange_children (spi : BitVec 64) :
    SameChildren sa (sa.beginInitialExchange spi now).1 := by
  unfold beginInitialExchange
  split
  · exact .refl sa
  split
  · exact .refl sa
  split
  · exact .refl sa
  next waiting =>
  obtain ⟨deadline, rfl⟩ := setLivenessDeadline_eq waiting
  exact ⟨rfl, rfl, rfl⟩

theorem completeInitialExchange_children (spi keys : BitVec 64) :
    SameChildren sa (sa.completeInitialExchange spi keys now).1 := by
  unfold completeInitialExchange
  split
  · exact .refl sa
  split
  · exact .refl sa
  split
  · exact .refl sa
  next waiting =>
  obtain ⟨deadline, rfl⟩ := setLivenessDeadline_eq waiting
  exact ⟨rfl, rfl, rfl⟩

theorem completeAuthentication_children (authentication : AuthenticationStatus) :
    SameChildren sa (sa.completeAuthentication authentication now).1 := by
  unfold completeAuthentication
  split
  · exact .refl sa
  split
  · exact ⟨rfl, rfl, rfl⟩
  split
  · exact ⟨rfl, rfl, rfl⟩
  next waiting =>
  obtain ⟨deadline, rfl⟩ := setLivenessDeadline_eq waiting
  exact ⟨rfl, rfl, rfl⟩

theorem beginIkeDelete_children : SameChildren sa sa.beginIkeDelete.1 := by
  unfold beginIkeDelete
  split
  · exact .refl sa
  · split <;> exact ⟨rfl, rfl, rfl⟩

theorem completeIkeDelete_children : SameChildren sa sa.completeIkeDelete.1 := by
  unfold completeIkeDelete
  split
  · exact .refl sa
  · split <;> exact ⟨rfl, rfl, rfl⟩

theorem noteAuthenticatedActivity_children :
    SameChildren sa (sa.noteAuthenticatedActivity now).1 := by
  unfold noteAuthenticatedActivity
  split
  · exact .refl sa
  split
  · exact .refl sa
  next waiting =>
  obtain ⟨deadline, rfl⟩ := setLivenessDeadline_eq waiting
  exact ⟨rfl, rfl, rfl⟩

theorem pollLiveness_children : SameChildren sa (sa.pollLiveness now).1 := by
  unfold pollLiveness
  split
  · exact .refl sa
  split
  · exact ⟨rfl, rfl, rfl⟩
  split
  · exact ⟨rfl, rfl, rfl⟩
  next waiting =>
  obtain ⟨deadline, rfl⟩ := setLivenessDeadline_eq waiting
  exact ⟨rfl, rfl, rfl⟩

theorem allocateRequestId_children (sa : Sa) : SameChildren sa sa.allocateRequestId.1 := by
  unfold allocateRequestId
  split <;> exact ⟨rfl, rfl, rfl⟩

/-- No request, or one that now waits and none before it. -/
def Installs (sa : Sa) (made : Sa × Option ChildSaInstallRequest) : Prop :=
  (made.2 = none ∧ SameChildren sa made.1) ∨
    ∃ request, made.2 = some request ∧ sa.pendingChildInstall = none ∧
      sa.pendingChildRemove = none ∧
      SameChildren { sa with pendingChildInstall := some request } made.1

theorem beginChildInstallImpl_installs (childSaId replaced : BitVec 64)
    (inbound outbound : SecurityAssociation) :
    sa.Installs (sa.beginChildInstallImpl childSaId replaced inbound outbound) := by
  have allocated := allocateRequestId_children sa
  unfold beginChildInstallImpl
  dsimp only
  split
  · exact .inl ⟨rfl, .refl sa⟩
  next free =>
  split
  · exact .inl ⟨rfl, .refl sa⟩
  split
  · exact .inl ⟨rfl, allocated⟩
  simp only [not_or, not_isSome_iff_eq_none] at free
  obtain ⟨-, installing, removing, -⟩ := free
  exact .inr ⟨_, rfl, installing, removing, allocated.childSas, rfl, allocated.remove⟩

theorem beginChildRekey_installs (replaced childSaId : BitVec 64)
    (inbound outbound : SecurityAssociation) :
    sa.Installs (sa.beginChildRekey replaced childSaId inbound outbound) := by
  unfold beginChildRekey
  split
  · exact .inl ⟨rfl, .refl sa⟩
  split
  · exact .inl ⟨rfl, .refl sa⟩
  · exact beginChildInstallImpl_installs childSaId replaced inbound outbound

theorem pairs_setChildState (childSaId : BitVec 64) (state : ChildSaState)
    (childSas : List ChildSaBinding) :
    (setChildState childSaId state childSas).map ChildSaBinding.ids =
      childSas.map ChildSaBinding.ids :=
  map_update fun _ => rfl

theorem lookup_setChildState (childSaId : BitVec 64) (state : ChildSaState)
    (childSas : List ChildSaBinding) :
    lookup (·.childSaId) childSaId (setChildState childSaId state childSas) =
      (lookup (·.childSaId) childSaId childSas).map fun binding => { binding with state } :=
  lookup_update_same fun _ same => same

/-- The ids of the first binding of a CHILD SA. -/
def pairOf (sa : Sa) (childSaId : BitVec 64) : Option PairIds :=
  (lookup (·.childSaId) childSaId sa.childSas).map ChildSaBinding.ids

theorem beginChildDelete_cases (sa : Sa) (childSaId : BitVec 64) :
    ((sa.beginChildDelete childSaId).2 = none ∧ SameChildren sa (sa.beginChildDelete childSaId).1) ∨
    ∃ request, (sa.beginChildDelete childSaId).2 = some request ∧
      sa.pendingChildInstall = none ∧ sa.pendingChildRemove = none ∧
      (sa.beginChildDelete childSaId).1.pendingChildInstall = none ∧
      (sa.beginChildDelete childSaId).1.pendingChildRemove = some request ∧
      (sa.beginChildDelete childSaId).1.pairs = sa.pairs ∧
      (sa.beginChildDelete childSaId).1.pairOf request.childSaId =
        some (request.inboundSaId, request.outboundSaId) := by
  have allocated := allocateRequestId_children sa
  unfold beginChildDelete
  split
  · exact .inl ⟨rfl, .refl sa⟩
  next free =>
  simp only [not_or, not_isSome_iff_eq_none] at free
  obtain ⟨-, installing, removing, -⟩ := free
  split
  · exact .inl ⟨rfl, .refl sa⟩
  next binding found =>
  dsimp only
  split
  · exact .inl ⟨rfl, allocated⟩
  have key : binding.childSaId = childSaId := key_of_lookup found
  refine .inr ⟨_, rfl, installing, removing, allocated.install.trans installing, rfl,
    pairs_setChildState .., ?_⟩
  have found : lookup (·.childSaId) childSaId sa.childSas = some binding := found
  dsimp only [pairOf]
  rw [key, lookup_setChildState, found]
  rfl

/-- What an answer to an install request does to the SA. -/
theorem completeChildInstall_cases {request : ChildSaInstallRequest}
    (pending : sa.pendingChildInstall = some request) (result : SaPairInstallResult) (now : Time) :
    (sa.completeChildInstall request.requestId result now).1 = sa ∨
    ((sa.completeChildInstall request.requestId result now).1.pendingChildInstall = none ∧
      (sa.completeChildInstall request.requestId result now).1.pendingChildRemove =
        sa.pendingChildRemove ∧
      (sa.completeChildInstall request.requestId result now).1.pairs =
        if result.committed then sa.pairs ++ [(request.inbound.id, request.outbound.id)]
        else sa.pairs) := by
  unfold completeChildInstall
  split
  · exact .inl rfl
  rw [pending]
  simp only [ne_eq, settled, ↓reduceIte]
  split
  · next refused =>
    have refused : result.committed = false := by simpa using refused
    exact .inr ⟨rfl, rfl, by simp [refused, pairs]⟩
  · next taken =>
    have taken : result.committed = true := by simpa using taken
    refine .inr ?_
    generalize bound : ({ sa with
      childSas := _, pendingChildInstall := none, unansweredLivenessRequests := 0#8 } : Sa) = moved
    have children : moved.pairs = sa.pairs ++ [(request.inbound.id, request.outbound.id)] := by
      rw [← bound]
      unfold pairs
      split
      · rw [pairs_setChildState, map_append]
        rfl
      · rw [map_append]
        rfl
    have idle : moved.pendingChildInstall = none := by rw [← bound]
    have kept : moved.pendingChildRemove = sa.pendingChildRemove := by rw [← bound]
    rw [if_pos taken]
    cases waiting : moved.setLivenessDeadline now with
    | none => exact ⟨idle, kept, children⟩
    | some after =>
      obtain ⟨deadline, rfl⟩ := setLivenessDeadline_eq waiting
      exact ⟨idle, kept, children⟩

theorem completeChildDelete_cases {request : ChildSaRemoveRequest}
    (pending : sa.pendingChildRemove = some request) (result : SaPairEraseResult) :
    (sa.completeChildDelete request.requestId result).1 = sa ∨
    ((sa.completeChildDelete request.requestId result).1.pendingChildRemove = none ∧
      (sa.completeChildDelete request.requestId result).1.pendingChildInstall =
        sa.pendingChildInstall ∧
      (sa.completeChildDelete request.requestId result).1.pairs =
        if result = .erased then
          (drop (·.childSaId) request.childSaId sa.childSas).map ChildSaBinding.ids
        else sa.pairs) := by
  unfold completeChildDelete
  split
  · exact .inl rfl
  rw [pending]
  simp only [ne_eq, settled]
  by_cases erased : result = .erased
  · simp only [erased, not_true_eq_false, ↓reduceIte]
    exact .inr ⟨trivial, trivial, rfl⟩
  · simp only [erased, not_false_eq_true, ↓reduceIte]
    exact .inr ⟨trivial, trivial, pairs_setChildState ..⟩

end Children

end Sa

namespace ForwardedSa

/-- Where the one request is: nowhere, on its way out, or on its way back. A request whose
answer the SA did not take waits for ever. -/
inductive Phase (c : ForwardedSa) : Prop
  | stuck (waits : ¬c.Quiet) (request : c.request = none) (answer : c.answer = none)
  | quiet (quiet : c.Quiet) (request : c.request = none) (answer : c.answer = none)
      (accounts : Accounts c.sa.pairs c.sad c.installed)
  | installing (request : ChildSaInstallRequest)
      (waits : c.sa.pendingChildInstall = some request) (other : c.sa.pendingChildRemove = none)
      (out : c.request = some (.install request)) (answer : c.answer = none)
      (accounts : Accounts c.sa.pairs c.sad c.installed)
  | installed (request : ChildSaInstallRequest) (result : SaPairInstallResult)
      (waits : c.sa.pendingChildInstall = some request) (other : c.sa.pendingChildRemove = none)
      (out : c.request = none) (back : c.answer = some (.installed request.requestId result))
      (accounts : Accounts
        (if result.committed then c.sa.pairs ++ [(request.inbound.id, request.outbound.id)]
          else c.sa.pairs) c.sad c.installed)
  | removing (request : ChildSaRemoveRequest)
      (waits : c.sa.pendingChildRemove = some request) (other : c.sa.pendingChildInstall = none)
      (out : c.request = some (.remove request)) (answer : c.answer = none)
      (bound : c.sa.pairOf request.childSaId = some (request.inboundSaId, request.outboundSaId))
      (accounts : Accounts c.sa.pairs c.sad c.installed)
  | removed (request : ChildSaRemoveRequest) (result : SaPairEraseResult)
      (waits : c.sa.pendingChildRemove = some request) (other : c.sa.pendingChildInstall = none)
      (out : c.request = none) (back : c.answer = some (.removed request.requestId result))
      (accounts : Accounts
        (if result = .erased then
          (drop (·.childSaId) request.childSaId c.sa.childSas).map ChildSaBinding.ids
          else c.sa.pairs) c.sad c.installed)

structure Inv (c : ForwardedSa) : Prop where
  distinct : c.sad.Distinct
  phase : c.Phase

variable {c : ForwardedSa} {after : Sa}

theorem Phase.sameChildren (h : c.Phase) (same : Sa.SameChildren c.sa after) :
    Phase { c with sa := after } := by
  obtain ⟨childSas, install, remove⟩ := same
  have pairs : after.pairs = c.sa.pairs := congrArg (List.map ChildSaBinding.ids) childSas
  have quiet : Quiet { c with sa := after } ↔ c.Quiet := by
    simp [Quiet, install, remove]
  cases h with
  | stuck waits request answer => exact .stuck (mt quiet.mp waits) request answer
  | quiet idle request answer accounts =>
    exact .quiet (quiet.mpr idle) request answer (pairs.symm ▸ accounts)
  | installing request waits other out answer accounts =>
    exact .installing request (install.trans waits) (remove.trans other) out answer
      (pairs.symm ▸ accounts)
  | installed request result waits other out back accounts =>
    exact .installed request result (install.trans waits) (remove.trans other) out back
      (pairs.symm ▸ accounts)
  | removing request waits other out answer bound accounts =>
    refine .removing request (remove.trans waits) (install.trans other) out answer ?_
      (pairs.symm ▸ accounts)
    rw [← bound, Sa.pairOf, Sa.pairOf, childSas]
  | removed request result waits other out back accounts =>
    refine .removed request result (remove.trans waits) (install.trans other) out back ?_
    rw [pairs, childSas]
    exact accounts

theorem Phase.of_idle (h : c.Phase) (install : c.sa.pendingChildInstall = none)
    (remove : c.sa.pendingChildRemove = none) :
    c.request = none ∧ c.answer = none ∧ Accounts c.sa.pairs c.sad c.installed := by
  cases h with
  | stuck waits _ _ => exact absurd ⟨install, remove⟩ waits
  | quiet _ request answer accounts => exact ⟨request, answer, accounts⟩
  | installing request waits => exact absurd (install.symm.trans waits) (some_ne_none request).symm
  | installed request result waits => exact absurd (install.symm.trans waits) (some_ne_none request).symm
  | removing request waits => exact absurd (remove.symm.trans waits) (some_ne_none request).symm
  | removed request result waits => exact absurd (remove.symm.trans waits) (some_ne_none request).symm

theorem Phase.sendInstall (h : c.Phase) {made : Sa × Option ChildSaInstallRequest}
    (installs : c.sa.Installs made) : (c.sendInstall made).Phase := by
  obtain ⟨none, same⟩ | ⟨request, some, install, remove, same⟩ := installs
  · rw [show c.sendInstall made = { c with sa := made.1 } by simp only [ForwardedSa.sendInstall, none]]
    exact h.sameChildren same
  · obtain ⟨-, answer, accounts⟩ := h.of_idle install remove
    obtain ⟨childSas, waits, other⟩ := same
    refine .installing request waits (other.trans remove) ?_ answer ?_
    · simp [ForwardedSa.sendInstall, some]
    · have pairs : made.1.pairs = c.sa.pairs := congrArg (List.map ChildSaBinding.ids) childSas
      exact pairs.symm ▸ accounts

theorem Phase.sendRemove (h : c.Phase) (childSaId : BitVec 64) :
    (c.sendRemove (c.sa.beginChildDelete childSaId)).Phase := by
  obtain ⟨none, same⟩ | ⟨request, some, install, remove, other, waits, pairs, bound⟩ :=
    Sa.beginChildDelete_cases c.sa childSaId
  · rw [show c.sendRemove (c.sa.beginChildDelete childSaId) =
        { c with sa := (c.sa.beginChildDelete childSaId).1 } by
      simp [ForwardedSa.sendRemove, none]]
    exact h.sameChildren same
  · obtain ⟨-, answer, accounts⟩ := h.of_idle install remove
    refine .removing request waits other ?_ answer bound ?_
    · simp [ForwardedSa.sendRemove, some]
    · exact pairs.symm ▸ accounts

/-- Nothing happens without a request, and the database takes the request it gets once. -/
theorem Inv.execute (h : c.Inv)
    (fresh : ∀ request, c.request = some (.install request) → ∀ pair ∈ c.sa.pairs,
      ¬Names pair request.inbound.id ∧ ¬Names pair request.outbound.id) : c.execute.Inv := by
  obtain ⟨distinct, phase⟩ := h
  cases phase with
  | stuck waits request answer =>
    rw [ForwardedSa.execute, request]
    exact ⟨distinct, .stuck waits request answer⟩
  | quiet idle request answer accounts =>
    rw [ForwardedSa.execute, request]
    exact ⟨distinct, .quiet idle request answer accounts⟩
  | installed request result waits other out back accounts =>
    rw [ForwardedSa.execute, out]
    exact ⟨distinct, .installed request result waits other out back accounts⟩
  | removed request result waits other out back accounts =>
    rw [ForwardedSa.execute, out]
    exact ⟨distinct, .removed request result waits other out back accounts⟩
  | installing request waits other out answer accounts =>
    rw [ForwardedSa.execute, out]
    dsimp only
    cases committed : (c.sad.installPair request.inbound request.outbound).2.committed with
    | false =>
      have same := Ipsec.Sad.installPair_refused committed
      refine ⟨by rw [same]; exact distinct, .installed request _ waits other rfl rfl ?_⟩
      simp only [committed, same]
      exact accounts
    | true =>
      obtain ⟨inbound, outbound, -, kept, entries⟩ :=
        Ipsec.Sad.installPair_entries distinct committed
      refine ⟨kept, .installed request _ waits other rfl rfl ?_⟩
      simp only [committed]
      exact accounts.install ⟨inbound, outbound⟩ entries (fresh request out)
  | removing request waits other out answer bound accounts =>
    rw [ForwardedSa.execute, out]
    dsimp only
    by_cases erased : (c.sad.erasePair request.inboundSaId request.outboundSaId).2 = .erased
    · obtain ⟨kept, entries⟩ := Ipsec.Sad.erasePair_entries distinct erased
      refine ⟨kept, .removed request _ waits other rfl rfl ?_⟩
      simp only [erased]
      obtain ⟨binding, found, ids⟩ := map_eq_some_iff.mp bound
      obtain ⟨before, after, childSas, dropped⟩ := drop_of_lookup found
      rw [Sa.pairs, childSas, map_append, map_cons, ids] at accounts
      rw [dropped, map_append]
      exact accounts.erase entries
    · have same := Ipsec.Sad.erasePair_refused erased
      refine ⟨by rw [same]; exact distinct, .removed request _ waits other rfl rfl ?_⟩
      simp only [erased, same]
      exact accounts

/-- The SA takes the answer, or the request waits for ever. -/
theorem Phase.complete (h : c.Phase) (now : Time) : (c.complete now).Phase := by
  cases h with
  | stuck waits request answer =>
    rw [ForwardedSa.complete, answer]
    exact .stuck waits request answer
  | quiet idle request answer accounts =>
    rw [ForwardedSa.complete, answer]
    exact .quiet idle request answer accounts
  | installing request waits other out answer accounts =>
    rw [ForwardedSa.complete, answer]
    exact .installing request waits other out answer accounts
  | removing request waits other out answer bound accounts =>
    rw [ForwardedSa.complete, answer]
    exact .removing request waits other out answer bound accounts
  | installed request result waits other out back accounts =>
    rw [ForwardedSa.complete, back]
    obtain same | ⟨install, remove, pairs⟩ := Sa.completeChildInstall_cases waits result now
    · refine .stuck (fun quiet => ?_) out rfl
      have idle := quiet.1
      dsimp only at idle
      rw [same, waits] at idle
      exact some_ne_none request idle
    · refine .quiet ⟨install, remove.trans other⟩ out rfl ?_
      exact pairs.symm ▸ accounts
  | removed request result waits other out back accounts =>
    rw [ForwardedSa.complete, back]
    obtain same | ⟨remove, install, pairs⟩ := Sa.completeChildDelete_cases waits result
    · refine .stuck (fun quiet => ?_) out rfl
      have idle := quiet.2
      dsimp only at idle
      rw [same, waits] at idle
      exact some_ne_none request idle
    · refine .quiet ⟨install.trans other, remove⟩ out rfl ?_
      exact pairs.symm ▸ accounts

/-- A pair that is about to be installed has no id that a binding already has. -/
def freshIds (c : ForwardedSa) : ForwardedSaOp → Prop
  | .execute =>
    match c.request with
    | some (.install request) => ∀ pair ∈ c.sa.pairs,
      ¬Names pair request.inbound.id ∧ ¬Names pair request.outbound.id
    | _ => True
  | _ => True

instance (c : ForwardedSa) (op : ForwardedSaOp) : Decidable (c.freshIds op) := by
  unfold freshIds
  split
  · split
    · exact List.decidableBAll _ _
    · exact .isTrue trivial
  · exact .isTrue trivial

theorem Inv.step (h : c.Inv) (op : ForwardedSaOp) (fresh : c.freshIds op) : (c.step op).Inv := by
  cases op with
  | beginInitialExchange spi now =>
    exact ⟨h.distinct, h.phase.sameChildren (Sa.beginInitialExchange_children spi)⟩
  | completeInitialExchange spi keys now =>
    exact ⟨h.distinct, h.phase.sameChildren (Sa.completeInitialExchange_children spi keys)⟩
  | completeAuthentication authentication now =>
    exact ⟨h.distinct, h.phase.sameChildren (Sa.completeAuthentication_children authentication)⟩
  | beginChildInstall childSaId inbound outbound =>
    exact ⟨h.distinct,
      h.phase.sendInstall (Sa.beginChildInstallImpl_installs childSaId 0#64 inbound outbound)⟩
  | beginChildRekey replaced childSaId inbound outbound =>
    exact ⟨h.distinct,
      h.phase.sendInstall (Sa.beginChildRekey_installs replaced childSaId inbound outbound)⟩
  | beginChildDelete childSaId => exact ⟨h.distinct, h.phase.sendRemove childSaId⟩
  | execute =>
    apply h.execute
    intro request out
    rw [freshIds, out] at fresh
    exact fresh
  | complete now =>
    refine ⟨?_, h.phase.complete now⟩
    have kept : (c.complete now).sad = c.sad := by
      unfold complete
      split <;> rfl
    exact kept ▸ h.distinct
  | activity now => exact ⟨h.distinct, h.phase.sameChildren Sa.noteAuthenticatedActivity_children⟩
  | poll now => exact ⟨h.distinct, h.phase.sameChildren Sa.pollLiveness_children⟩
  | beginIkeDelete => exact ⟨h.distinct, h.phase.sameChildren Sa.beginIkeDelete_children⟩
  | completeIkeDelete => exact ⟨h.distinct, h.phase.sameChildren Sa.completeIkeDelete_children⟩

theorem distinct_install {sad : Sad} (distinct : sad.Distinct) (a : SecurityAssociation) :
    (sad.install a).1.Distinct := by
  cases accepted : (sad.install a).2.accepted with
  | false =>
    rw [Ipsec.Sad.install_refused accepted]
    exact distinct
  | true => exact (Ipsec.Sad.install_entries distinct accepted).1

theorem Inv.create (id : BitVec 64) (role : Role) (configuration : SaConfiguration)
    (capacity : Nat) (others : List SecurityAssociation) :
    (ForwardedSa.create id role configuration capacity others).Inv where
  distinct := invariant (P := Sad.Distinct) (fun _ a distinct => distinct_install distinct a)
    others nodup_nil
  phase := .quiet ⟨rfl, rfl⟩ rfl rfl (.none rfl)

/-- Whatever happens between requests and answers, once no request waits the bindings and the
database agree, as long as no installed pair takes an id that a binding already has. -/
theorem run_agrees (id : BitVec 64) (role : Role) (configuration : SaConfiguration)
    (capacity : Nat) (others : List SecurityAssociation) (ops : List ForwardedSaOp)
    (fresh : Runs.Along step freshIds (ForwardedSa.create id role configuration capacity others)
      ops) :
    (run step (ForwardedSa.create id role configuration capacity others) ops).Quiet →
      Accounts
        (run step (ForwardedSa.create id role configuration capacity others) ops).sa.pairs
        (run step (ForwardedSa.create id role configuration capacity others) ops).sad
        (run step (ForwardedSa.create id role configuration capacity others) ops).installed := by
  intro quiet
  have inv := invariant_along (P := Inv) (fun _ op h ok => h.step op ok)
    (Inv.create id role configuration capacity others) fresh
  exact (inv.phase.of_idle quiet.1 quiet.2).2.2

end ForwardedSa

section Reuse

/-- One end of an ESP pair in transport mode. -/
def espAssociation (id : BitVec 64) (spi : BitVec 32) (outbound : Bool) : SecurityAssociation :=
  { id, inboundIdentifier := { spi }, encryption := .aesGcm16_128, cryptoMaterialHandle := 1#64
    policyId := 1#32, outbound, oneWord := Ipsec.startingWindow_oneWord }

/-- The handshake and a first CHILD SA. -/
def firstChild : List ForwardedSaOp :=
  [.beginInitialExchange 11#64 0, .completeInitialExchange 22#64 33#64 0,
    .completeAuthentication .ok 0,
    .beginChildInstall 1#64 (espAssociation 10#64 5#32 false) (espAssociation 11#64 6#32 true),
    .execute, .complete 0]

/-- A second CHILD SA with the first one's inbound association. -/
def sharingChild : List ForwardedSaOp :=
  firstChild ++
    [.beginChildInstall 2#64 (espAssociation 10#64 5#32 false) (espAssociation 12#64 7#32 true),
      .execute, .complete 0]

def forwardedStart : ForwardedSa :=
  .create 7#64 .initiator
    { maximumChildSas := 4, liveness := { idleInterval := 30, maximumUnansweredRequests := 2#8 } }
    8 []

theorem first_child_agrees :
    Accounts [(10#64, 11#64)] (run ForwardedSa.step forwardedStart firstChild).sad
      [10#64, 11#64] := by
  have fresh : Runs.Along ForwardedSa.step ForwardedSa.freshIds forwardedStart firstChild := by
    decide +kernel
  have quiet : (run ForwardedSa.step forwardedStart firstChild).Quiet :=
    ⟨by decide +kernel, by decide +kernel⟩
  have pairs : (run ForwardedSa.step forwardedStart firstChild).sa.pairs =
    [(10#64, 11#64)] := by decide +kernel
  have installed : (run ForwardedSa.step forwardedStart firstChild).installed =
    [10#64, 11#64] := by decide +kernel
  rw [← pairs, ← installed]
  exact ForwardedSa.run_agrees _ _ _ _ _ firstChild fresh quiet

/-- Two bindings name the inbound entry. -/
theorem sharing_children_disagree :
    (run ForwardedSa.step forwardedStart sharingChild).Quiet ∧
      ¬Accounts (run ForwardedSa.step forwardedStart sharingChild).sa.pairs
        (run ForwardedSa.step forwardedStart sharingChild).sad
        (run ForwardedSa.step forwardedStart sharingChild).installed := by
  refine ⟨⟨by decide +kernel, by decide +kernel⟩, fun agrees => ?_⟩
  have apart := agrees.apart
  have first := (pairwise_cons.mp apart).1 (10#64, 12#64) mem_cons_self
  exact first 10#64 (.inl rfl) (.inl rfl)

end Reuse

end RouterSim.Ikev2
