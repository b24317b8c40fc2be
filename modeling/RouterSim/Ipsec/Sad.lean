import RouterSim.Ipsec.ReplayWindow
import RouterSim.Lib.Table

/-! The security association database: entries by id, the lookup of an inbound entry by the
longest identifier, and pairs that are installed and erased together. -/
namespace RouterSim.Ipsec

open List

/-- A point of the steady clock in nanoseconds. -/
abbrev Time := Int

inductive AddressFamily
  | ipv4 | ipv6
  deriving DecidableEq

/-- Sixteen octets, the first one the most significant. -/
structure Address where
  family : AddressFamily := .ipv4
  bytes : BitVec 128 := 0#128
  deriving DecidableEq

/-- An IPv4 address takes up the first four octets. -/
def validAddress (address : Address) : Bool :=
  match address.family with
  | .ipv6 => true
  | .ipv4 => address.bytes.setWidth 96 == 0#96

inductive SecurityProtocol
  | esp | ah
  deriving DecidableEq

inductive Mode
  | transport | tunnel
  deriving DecidableEq

inductive EncryptionAlgorithm
  | none | aesGcm16_128 | aesGcm16_192 | aesGcm16_256
  deriving DecidableEq

inductive IntegrityAlgorithm
  | none | hmacSha256_128 | hmacSha384_192 | hmacSha512_256 | aesXcbc96
  deriving DecidableEq

structure SaIdentifier where
  spi : BitVec 32 := 0#32
  protocol : SecurityProtocol := .esp
  destination : Option Address := .none
  source : Option Address := .none
  deriving DecidableEq

/-- Zero turns a limit off. Times are in seconds. -/
structure SaLifetime where
  softBytes : BitVec 64 := 0#64
  hardBytes : BitVec 64 := 0#64
  softPackets : BitVec 64 := 0#64
  hardPackets : BitVec 64 := 0#64
  softTime : Int := 0
  hardTime : Int := 0
  deriving DecidableEq

structure SaCounters where
  packets : BitVec 64 := 0#64
  bytes : BitVec 64 := 0#64
  replayDrops : BitVec 64 := 0#64
  integrityDrops : BitVec 64 := 0#64
  selectorDrops : BitVec 64 := 0#64
  deriving DecidableEq

structure OutboundSequence where
  current : BitVec 64 := 0#64
  extended : Bool := false
  deriving DecidableEq

theorem startingWindow_oneWord : (ReplayWindow.create 64#8 false).width ≤ 64#8 := by decide

/-- The constructor of a window keeps its width within one word. -/
structure SecurityAssociation where
  id : BitVec 64 := 0#64
  inboundIdentifier : SaIdentifier := {}
  mode : Mode := .transport
  encryption : EncryptionAlgorithm := .none
  integrity : IntegrityAlgorithm := .none
  cryptoMaterialHandle : BitVec 64 := 0#64
  policyId : BitVec 32 := 0#32
  tunnelSource : Option Address := .none
  tunnelDestination : Option Address := .none
  lifetime : SaLifetime := {}
  createdAt : Time := 0
  replay : ReplayWindow := .create 64#8 false
  outboundSequence : OutboundSequence := {}
  counters : SaCounters := {}
  outbound : Bool := false
  oneWord : replay.width ≤ 64#8 := by decide
  deriving DecidableEq

def identifierValid (identifier : SaIdentifier) : Bool :=
  if identifier.spi == 0#32 || (identifier.source.isSome && !identifier.destination.isSome) then
    false
  else if identifier.destination.any fun address => !validAddress address then false
  else if identifier.source.any fun address => !validAddress address ||
      identifier.destination.any (·.family != address.family) then false
  else true

def algorithmsValid (association : SecurityAssociation) : Bool :=
  if association.cryptoMaterialHandle == 0#64 then false
  else if association.inboundIdentifier.protocol = .ah then
    association.encryption == .none && association.integrity != .none
  else if association.encryption ≠ .none then association.integrity == .none
  else association.integrity != .none

def tunnelValid (association : SecurityAssociation) : Bool :=
  match association.mode with
  | .transport => association.tunnelSource.isNone && association.tunnelDestination.isNone
  | .tunnel =>
    match association.tunnelSource, association.tunnelDestination with
    | some source, some destination =>
      validAddress source && validAddress destination && source.family == destination.family
    | _, _ => false

inductive SaInstallResult
  | installed | replaced | invalid | identifierConflict | capacityExhausted
  deriving DecidableEq

def SaInstallResult.accepted (result : SaInstallResult) : Bool :=
  result == .installed || result == .replaced

structure SaPairInstallResult where
  inbound : SaInstallResult := .invalid
  outbound : SaInstallResult := .invalid
  committed : Bool := false

inductive SaPairEraseResult
  | erased | invalid | missing | notAPair
  deriving DecidableEq

structure Sad where
  capacity : Nat
  entries : List SecurityAssociation := []

namespace Sad

/-- An entry with the same id is replaced, in its place. -/
def install (sad : Sad) (association : SecurityAssociation) : Sad × SaInstallResult :=
  if association.id == 0#64 || association.policyId == 0#32 ||
      !identifierValid association.inboundIdentifier || !algorithmsValid association ||
      !tunnelValid association then (sad, .invalid)
  else if sad.entries.any fun entry => entry.id != association.id &&
      entry.outbound == association.outbound &&
      entry.inboundIdentifier == association.inboundIdentifier then (sad, .identifierConflict)
  else
    match sad.entries.findIdx? (·.id == association.id) with
    | some existing => ({ sad with entries := sad.entries.set existing association }, .replaced)
    | none =>
      if sad.capacity ≤ sad.entries.length then (sad, .capacityExhausted)
      else ({ sad with entries := sad.entries ++ [association] }, .installed)

/-- Both directions or neither. -/
def installPair (sad : Sad) (inbound outbound : SecurityAssociation) : Sad × SaPairInstallResult :=
  if inbound.outbound || !outbound.outbound || inbound.id == outbound.id ||
      inbound.policyId != outbound.policyId || inbound.mode != outbound.mode ||
      inbound.inboundIdentifier.protocol != outbound.inboundIdentifier.protocol ||
      inbound.encryption != outbound.encryption || inbound.integrity != outbound.integrity then
    (sad, {})
  else
    let first := sad.install inbound
    if !first.2.accepted then (sad, { inbound := first.2 })
    else
      let second := first.1.install outbound
      if !second.2.accepted then (sad, { inbound := first.2, outbound := second.2 })
      else (second.1, { inbound := first.2, outbound := second.2, committed := true })

def find (sad : Sad) (id : BitVec 64) : Option SecurityAssociation := sad.entries.find? (·.id == id)

/-- Both directions or neither. -/
def erasePair (sad : Sad) (inboundId outboundId : BitVec 64) : Sad × SaPairEraseResult :=
  if inboundId == 0#64 || outboundId == 0#64 || inboundId == outboundId then (sad, .invalid)
  else
    match sad.find inboundId, sad.find outboundId with
    | some inbound, some outbound =>
      if inbound.outbound || !outbound.outbound || inbound.policyId != outbound.policyId ||
          inbound.mode != outbound.mode ||
          inbound.inboundIdentifier.protocol != outbound.inboundIdentifier.protocol then
        (sad, .notAPair)
      else
        ({ sad with entries := sad.entries.filter fun entry =>
            !(entry.id == inboundId || entry.id == outboundId) }, .erased)
    | _, _ => (sad, .missing)

end Sad

section Entries

variable {sad : Sad}

/-- An id is in the database once. -/
def Sad.Distinct (sad : Sad) : Prop := (sad.entries.map (·.id)).Nodup

theorem Sad.install_refused {a : SecurityAssociation} (refused : (sad.install a).2.accepted = false) :
    (sad.install a).1 = sad := by
  unfold Sad.install at refused ⊢
  split
  · rfl
  split
  · rfl
  next valid apart =>
  rw [if_neg valid, if_neg apart] at refused
  split
  · next existing found =>
    rw [found] at refused
    exact Bool.noConfusion refused
  · next missing =>
    rw [missing] at refused
    split
    · rfl
    next room =>
    simp only [room] at refused
    exact Bool.noConfusion refused

theorem Sad.install_entries {a : SecurityAssociation} (distinct : sad.Distinct)
    (accepted : (sad.install a).2.accepted = true) :
    (sad.install a).1.Distinct ∧
      ∀ e, e ∈ (sad.install a).1.entries ↔ e = a ∨ (e ∈ sad.entries ∧ e.id ≠ a.id) := by
  unfold Sad.install at accepted ⊢
  split
  · next invalid =>
    rw [if_pos invalid] at accepted
    exact Bool.noConfusion accepted
  · split
    · next valid conflict =>
      rw [if_neg valid, if_pos conflict] at accepted
      exact Bool.noConfusion accepted
    · next valid apart =>
      rw [if_neg valid, if_neg apart] at accepted
      split
      · next existing found =>
        obtain ⟨row, at_existing, same⟩ := Table.row_of_findIdx? found
        have same : row.id = a.id := by simpa using same
        refine ⟨?_, fun e => ?_⟩
        · rw [Sad.Distinct, Table.keys_set at_existing same.symm]
          exact distinct
        · rw [Table.mem_set_of_nodup distinct at_existing, same]
      · next missing =>
        rw [missing] at accepted
        have fresh : ∀ e ∈ sad.entries, e.id ≠ a.id := by simpa using missing
        split
        · next full =>
          simp only [full] at accepted
          exact Bool.noConfusion accepted
        · refine ⟨?_, fun e => ?_⟩
          · simp [Sad.Distinct]
            refine nodup_append.mpr ⟨distinct, by simp, ?_⟩
            intro id mem other last
            obtain ⟨e, inside, rfl⟩ := mem_map.mp mem
            rw [mem_singleton.mp last]
            exact fresh e inside
          · rw [mem_append, mem_singleton, or_comm]
            constructor
            · rintro (rfl | inside)
              · exact .inl rfl
              · exact .inr ⟨inside, fresh e inside⟩
            · rintro (rfl | ⟨inside, -⟩)
              · exact .inl rfl
              · exact .inr inside

theorem Sad.installPair_refused {inbound outbound : SecurityAssociation}
    (refused : (sad.installPair inbound outbound).2.committed = false) :
    (sad.installPair inbound outbound).1 = sad := by
  unfold Sad.installPair at refused ⊢
  split
  · rfl
  next matching =>
  rw [if_neg matching] at refused
  dsimp only at refused ⊢
  split
  · rfl
  next first =>
  rw [if_neg first] at refused
  split
  · rfl
  next second =>
  rw [if_neg second] at refused
  exact Bool.noConfusion refused

theorem Sad.installPair_entries {inbound outbound : SecurityAssociation} (distinct : sad.Distinct)
    (committed : (sad.installPair inbound outbound).2.committed = true) :
    inbound.outbound = false ∧ outbound.outbound = true ∧ inbound.id ≠ outbound.id ∧
      (sad.installPair inbound outbound).1.Distinct ∧
      ∀ e, e ∈ (sad.installPair inbound outbound).1.entries ↔
        e = inbound ∨ e = outbound ∨
          (e ∈ sad.entries ∧ e.id ≠ inbound.id ∧ e.id ≠ outbound.id) := by
  unfold Sad.installPair at committed ⊢
  split
  · next mismatch =>
    rw [if_pos mismatch] at committed
    exact Bool.noConfusion committed
  · next matching =>
    rw [if_neg matching] at committed
    have pair : inbound.outbound = false ∧ outbound.outbound = true ∧ inbound.id ≠ outbound.id := by
      simp only [asserted, not_or, refuted] at matching
      exact ⟨matching.1.1.1.1.1.1.1, matching.1.1.1.1.1.1.2, matching.1.1.1.1.1.2⟩
    dsimp only at committed ⊢
    split
    · next refused =>
      rw [if_pos refused] at committed
      exact Bool.noConfusion committed
    · next first =>
      rw [if_neg first] at committed
      split
      · next refused =>
        rw [if_pos refused] at committed
        exact Bool.noConfusion committed
      · next second =>
        obtain ⟨kept, entries⟩ := Sad.install_entries (a := inbound) distinct (by simpa using first)
        obtain ⟨kept', entries'⟩ := Sad.install_entries (a := outbound) kept (by simpa using second)
        refine ⟨pair.1, pair.2.1, pair.2.2, kept', fun e => ?_⟩
        rw [entries', entries]
        constructor
        · rintro (rfl | ⟨rfl | ⟨old, other⟩, other'⟩)
          · exact .inr (.inl rfl)
          · exact .inl rfl
          · exact .inr (.inr ⟨old, other, other'⟩)
        · rintro (rfl | rfl | ⟨old, other, other'⟩)
          · exact .inr ⟨.inl rfl, pair.2.2⟩
          · exact .inl rfl
          · exact .inr ⟨.inr ⟨old, other⟩, other'⟩

theorem Sad.erasePair_refused {inboundId outboundId : BitVec 64}
    (refused : (sad.erasePair inboundId outboundId).2 ≠ .erased) :
    (sad.erasePair inboundId outboundId).1 = sad := by
  unfold Sad.erasePair at refused ⊢
  split
  · rfl
  next usable =>
  rw [if_neg usable] at refused
  split
  · next inbound outbound first second =>
    simp only [first, second] at refused
    split
    · rfl
    next pair =>
    rw [if_neg pair] at refused
    exact absurd rfl refused
  · rfl

theorem Sad.erasePair_entries {inboundId outboundId : BitVec 64} (distinct : sad.Distinct)
    (erased : (sad.erasePair inboundId outboundId).2 = .erased) :
    (sad.erasePair inboundId outboundId).1.Distinct ∧
      ∀ e, e ∈ (sad.erasePair inboundId outboundId).1.entries ↔
        e ∈ sad.entries ∧ e.id ≠ inboundId ∧ e.id ≠ outboundId := by
  unfold Sad.erasePair at erased ⊢
  split
  · next unusable =>
    rw [if_pos unusable] at erased
    exact SaPairEraseResult.noConfusion erased
  · next usable =>
    rw [if_neg usable] at erased
    split
    · next inbound outbound first second =>
      simp only [first, second] at erased
      split
      · next mismatch =>
        rw [if_pos mismatch] at erased
        exact SaPairEraseResult.noConfusion erased
      · refine ⟨?_, fun e => ?_⟩
        · exact distinct.sublist ((filter_sublist).map _)
        · simp
    · next missing =>
      split at erased
      · next inbound outbound first second => exact absurd second (missing inbound outbound first)
      · exact SaPairEraseResult.noConfusion erased

end Entries

/-- How many parts of the identifier took part in the match, and none without one. -/
def matchSpecificity (protocol : SecurityProtocol) (spi : BitVec 32) (destination source : Address)
    (association : SecurityAssociation) : Nat :=
  let identifier := association.inboundIdentifier
  if association.outbound || identifier.spi != spi || identifier.protocol != protocol then 0
  else if identifier.destination.any (· != destination) then 0
  else if identifier.source.any (· != source) then 0
  else if identifier.source.isSome then 3
  else if identifier.destination.isSome then 2
  else 1

/-- The first place with the most specific match so far, and the rest still to be looked at. -/
def mostSpecific (specificity : SecurityAssociation → Nat) :
    List SecurityAssociation → Nat → Option Nat → Nat → Option Nat
  | [], _, best, _ => best
  | entry :: rest, index, best, bestSpecificity =>
    if bestSpecificity < specificity entry then
      mostSpecific specificity rest (index + 1) (some index) (specificity entry)
    else mostSpecific specificity rest (index + 1) best bestSpecificity

def Sad.findInbound (sad : Sad) (protocol : SecurityProtocol) (spi : BitVec 32)
    (destination source : Address) : Option Nat :=
  if spi == 0#32 || !validAddress destination || !validAddress source ||
      destination.family != source.family then none
  else mostSpecific (matchSpecificity protocol spi destination source) sad.entries 0 none 0

end RouterSim.Ipsec
