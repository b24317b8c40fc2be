import RouterSim.Ipsec.EspProcessor
import RouterSim.Lib.Unobserved

/-! Packets the engine rejects leave every other packet's result as it is: all they change are
counters of drops, and no result depends on those. -/
namespace RouterSim.Ipsec

open List

/-- The association without its counters of drops. -/
def SecurityAssociation.visible (a : SecurityAssociation) : SecurityAssociation :=
  { a with counters := { packets := a.counters.packets, bytes := a.counters.bytes } }

def Sad.visible (sad : Sad) : Sad :=
  { sad with entries := sad.entries.map SecurityAssociation.visible }

/-- No engine opens the packet, whatever sequence number it is taken for. -/
def Rejected (dependencies : EspProcessorDependencies) (call : EspCall) : Prop :=
  ∀ handle engine, dependencies.findEngine handle = some engine →
    ∀ sequence extended room, (engine sequence extended call.packet room).status ≠ .ok

section Visible

variable {dependencies : EspProcessorDependencies} {a : SecurityAssociation} {sad : Sad}
  {call : EspCall} {low : BitVec 32}

theorem commitSaUse_visible (reservation : LifetimeReservation) :
    (commitSaUse a.visible reservation).visible = (commitSaUse a reservation).visible := by
  unfold commitSaUse
  split <;> rfl

theorem assessSaUse_visible (bytes : BitVec 64) (now : Time) :
    assessSaUse a.visible bytes now = assessSaUse a bytes now := rfl

theorem commitReplay_visible (sequence : BitVec 64) :
    a.visible.commitReplay sequence = (a.commitReplay sequence).visible := rfl

theorem deliver_visible (sequence : BitVec 64) (opened : UnprotectResult) (now : Time) :
    (deliver dependencies a.visible sequence opened now).2 =
        (deliver dependencies a sequence opened now).2 ∧
      (deliver dependencies a.visible sequence opened now).1.visible =
        (deliver dependencies a sequence opened now).1.visible := by
  unfold deliver
  have replay : a.visible.replay = a.replay := rfl
  have policy : (a.commitReplay sequence).visible.policyId =
      (a.commitReplay sequence).policyId := rfl
  simp only [replay, commitReplay_visible, policy, assessSaUse_visible]
  split
  · exact ⟨rfl, rfl⟩
  split
  · exact ⟨rfl, rfl⟩
  by_cases expired : (!accepted (assessSaUse (a.commitReplay sequence)
      (BitVec.ofNat 64 opened.plaintext.length) now).status) = true
  · simp only [expired, ↓reduceIte]
    exact ⟨trivial, rfl⟩
  · simp only [expired]
    exact ⟨rfl, commitSaUse_visible _⟩

theorem unprotectWith_visible (a : SecurityAssociation) (low : BitVec 32) (call : EspCall) :
    (unprotectWith dependencies a.visible low call).2 = (unprotectWith dependencies a low call).2 ∧
      (unprotectWith dependencies a.visible low call).1.visible =
        (unprotectWith dependencies a low call).1.visible := by
  unfold unprotectWith
  have replay : a.visible.replay = a.replay := rfl
  have handle : a.visible.cryptoMaterialHandle = a.cryptoMaterialHandle := rfl
  simp only [replay, handle]
  split
  · exact ⟨rfl, rfl⟩
  split
  · exact ⟨rfl, rfl⟩
  split
  · refine ⟨rfl, ?_⟩
    split <;> rfl
  · exact deliver_visible _ _ _

theorem mostSpecific_map {specificity : SecurityAssociation → Nat}
    (same : ∀ a, specificity a.visible = specificity a) (entries : List SecurityAssociation)
    (index : Nat) (best : Option Nat) (most : Nat) :
    mostSpecific specificity (entries.map SecurityAssociation.visible) index best most =
      mostSpecific specificity entries index best most := by
  induction entries generalizing index best most with
  | nil => rfl
  | cons entry rest ih => simp only [map_cons, mostSpecific, same, ih]

theorem findInbound_visible (protocol : SecurityProtocol) (spi : BitVec 32)
    (destination source : Address) :
    sad.visible.findInbound protocol spi destination source =
      sad.findInbound protocol spi destination source := by
  unfold Sad.findInbound Sad.visible
  rw [mostSpecific_map fun a => rfl]

theorem unprotectEsp_visible :
    (unprotectEsp dependencies sad.visible call).2 = (unprotectEsp dependencies sad call).2 ∧
      (unprotectEsp dependencies sad.visible call).1.visible =
        (unprotectEsp dependencies sad call).1.visible := by
  have idem : sad.visible.visible = sad.visible := by
    simp [Sad.visible, SecurityAssociation.visible]
  unfold unprotectEsp
  cases parseEsp call.packet with
  | none => exact ⟨rfl, idem⟩
  | some view =>
    simp only [findInbound_visible]
    cases sad.findInbound .esp view.spi call.outerDestination call.outerSource with
    | none => exact ⟨rfl, idem⟩
    | some index =>
      have entry : sad.visible.entries[index]? = sad.entries[index]?.map (·.visible) := by
        simp [Sad.visible]
      simp only [entry]
      cases sad.entries[index]? with
      | none => exact ⟨rfl, idem⟩
      | some a =>
        obtain ⟨answer, after⟩ := unprotectWith_visible a view.sequenceLow call
        refine ⟨answer, ?_⟩
        have inner := congrArg Sad.entries idem
        simp only [Sad.visible, Option.map_some] at inner ⊢
        rw [map_set, map_set, inner, after]

/-- A rejected packet changes no more than counters of drops. -/
theorem unprotectWith_rejected (rejected : Rejected dependencies call) :
    (unprotectWith dependencies a low call).1.visible = a.visible := by
  unfold unprotectWith
  dsimp only
  split
  · rfl
  split
  · rfl
  next engine found =>
  have failed := rejected _ engine found (a.replay.check low).sequence a.replay.extended call.room
  rw [if_pos failed]
  split <;> rfl

theorem unprotectEsp_rejected (rejected : Rejected dependencies call) :
    (unprotectEsp dependencies sad call).1.visible = sad.visible := by
  unfold unprotectEsp
  split
  · rfl
  split
  · rfl
  next index _ =>
  split
  · rfl
  next a at_index =>
  obtain ⟨inside, rfl⟩ := List.getElem?_eq_some_iff.mp at_index
  simp only [Sad.visible, map_set, unprotectWith_rejected rejected]
  rw [← map_set, set_getElem_self]

/-- Calls are marked; the marked ones are the packets that were put in. -/
def unprotectMarked (dependencies : EspProcessorDependencies) (sad : Sad)
    (call : Bool × EspCall) : Sad × EspUnprotectResult :=
  unprotectEsp dependencies sad call.2

theorem unprotectMarked_hides (dependencies : EspProcessorDependencies) :
    Unobserved.Hides (unprotectMarked dependencies) Sad.visible
      fun call => Rejected dependencies call.2 where
  answer sad sad' call same := by
    unfold unprotectMarked
    rw [← unprotectEsp_visible.1, same, unprotectEsp_visible.1]
  follows sad sad' call same := by
    unfold unprotectMarked
    rw [← unprotectEsp_visible.2, same, unprotectEsp_visible.2]
  unmoved sad call rejected := unprotectEsp_rejected rejected

end Visible

section Once

variable {dependencies : EspProcessorDependencies} {sad : Sad} {call : EspCall}

/-- The association a packet is for, by its place, and the sequence number it is taken for. -/
def openedAs (sad : Sad) (call : EspCall) : Option (Nat × BitVec 64) :=
  (parseEsp call.packet).bind fun view =>
    (sad.findInbound .esp view.spi call.outerDestination call.outerSource).bind fun index =>
      sad.entries[index]?.map fun association =>
        (index, (association.replay.check view.sequenceLow).sequence)

/-- The association, the sequence number and the packet of each call that returned ok. -/
def deliveries (dependencies : EspProcessorDependencies) :
    Sad → List EspCall → List (Nat × BitVec 64 × EspCall)
  | _, [] => []
  | sad, call :: rest =>
    let done := unprotectEsp dependencies sad call
    let others := deliveries dependencies done.1 rest
    match openedAs sad call with
    | none => others
    | some (index, sequence) =>
      if done.2.status = .ok then (index, sequence, call) :: others else others

/-- The sequence numbers listed for one association. -/
def sequencesOf (index : Nat) (delivered : List (Nat × BitVec 64)) : List (BitVec 64) :=
  (delivered.filter (·.1 == index)).map (·.2)

theorem mem_sequencesOf {index : Nat} {sequence : BitVec 64} {delivered : List (Nat × BitVec 64)} :
    sequence ∈ sequencesOf index delivered ↔ (index, sequence) ∈ delivered := by
  simp [sequencesOf]

/-- Every window remembers the sequence numbers listed for its association. -/
def Remembered (sad : Sad) (delivered : List (Nat × BitVec 64)) : Prop :=
  ∀ index (a : SecurityAssociation), sad.entries[index]? = some a →
    a.replay.Remembers (sequencesOf index delivered)

variable {delivered : List (Nat × BitVec 64)}

theorem Remembered.nil : Remembered sad [] :=
  fun _ a _ => .none (BitVec.le_def.mp a.oneWord)

/-- One association changes; the others keep what they remember. -/
theorem Remembered.set (h : Remembered sad delivered) {index : Nat} {a : SecurityAssociation}
    {more : List (Nat × BitVec 64)} (own : a.replay.Remembers (sequencesOf index more))
    (others : ∀ j, j ≠ index → sequencesOf j more = sequencesOf j delivered) :
    Remembered { sad with entries := sad.entries.set index a } more := by
  intro j b at_j
  rw [List.getElem?_set] at at_j
  split at at_j
  · next same =>
    split at at_j
    · cases at_j
      exact same ▸ own
    · cases at_j
  · next other =>
    rw [others j (Ne.symm other)]
    exact h j b at_j

/-- What `ok` says of a packet, and what becomes of the window in any case. -/
theorem deliver_spec (a : SecurityAssociation) (sequence : BitVec 64) (opened : UnprotectResult)
    (now : Time) :
    ((deliver dependencies a sequence opened now).1.replay = (a.replay.commit sequence).1 ∧
      (deliver dependencies a sequence opened now).1.cryptoMaterialHandle =
        a.cryptoMaterialHandle) ∧
    ((deliver dependencies a sequence opened now).2.status = .ok →
      (a.replay.commit sequence).2 = true) := by
  unfold deliver
  split
  · next refused =>
    have refused : (a.replay.commit sequence).2 = false := by simpa using refused
    exact ⟨⟨(ReplayWindow.commit_false refused).symm, rfl⟩, nofun⟩
  · next committed =>
    have committed : (a.replay.commit sequence).2 = true := by simpa using committed
    refine ⟨?_, fun _ => committed⟩
    dsimp only
    split
    · exact ⟨rfl, rfl⟩
    split
    · exact ⟨rfl, rfl⟩
    · unfold commitSaUse
      split <;> exact ⟨rfl, rfl⟩

theorem unprotectWith_spec (call : EspCall) (a : SecurityAssociation) (low : BitVec 32) :
    ((unprotectWith dependencies a low call).1.replay = a.replay ∨
        (unprotectWith dependencies a low call).1.replay =
          (a.replay.commit (a.replay.check low).sequence).1) ∧
      (unprotectWith dependencies a low call).1.cryptoMaterialHandle = a.cryptoMaterialHandle ∧
      ((unprotectWith dependencies a low call).2.status = .ok →
        (a.replay.commit (a.replay.check low).sequence).2 = true ∧
          (unprotectWith dependencies a low call).1.replay =
            (a.replay.commit (a.replay.check low).sequence).1 ∧
          ∃ engine, dependencies.findEngine a.cryptoMaterialHandle = some engine ∧
            (engine (a.replay.check low).sequence a.replay.extended call.packet
              call.room).status = .ok) := by
  unfold unprotectWith
  dsimp only
  split
  · exact ⟨.inl rfl, rfl, nofun⟩
  split
  · exact ⟨.inl rfl, rfl, nofun⟩
  next engine found =>
  split
  · next failed =>
    refine ⟨.inl ?_, ?_, fun ok => ?_⟩
    · dsimp only
      split <;> rfl
    · dsimp only
      split <;> rfl
    · dsimp only at ok
      generalize (engine (a.replay.check low).sequence a.replay.extended call.packet
        call.room).status = status at ok failed
      cases status <;> cases ok
  · next opens =>
    obtain ⟨⟨replay, handle⟩, ok⟩ := deliver_spec a
      (a.replay.check low).sequence (engine (a.replay.check low).sequence a.replay.extended
        call.packet call.room) call.now
    exact ⟨.inr replay, handle, fun h => ⟨ok h, replay, engine, found, Decidable.of_not_not opens⟩⟩

theorem unprotectEsp_step (call : EspCall) (h : Remembered sad delivered) :
    Remembered (unprotectEsp dependencies sad call).1 delivered ∧
      (∀ index : Nat, (unprotectEsp dependencies sad call).1.entries[index]?.map
          SecurityAssociation.cryptoMaterialHandle =
        sad.entries[index]?.map SecurityAssociation.cryptoMaterialHandle) ∧
      ((unprotectEsp dependencies sad call).2.status = .ok → ∃ index a sequence,
        openedAs sad call = some (index, sequence) ∧ sad.entries[index]? = some a ∧
        (index, sequence) ∉ delivered ∧
        Remembered (unprotectEsp dependencies sad call).1 ((index, sequence) :: delivered) ∧
        ∃ engine extended, dependencies.findEngine a.cryptoMaterialHandle = some engine ∧
          (engine sequence extended call.packet call.room).status = .ok) := by
  unfold unprotectEsp openedAs
  cases parseEsp call.packet with
  | none => exact ⟨h, fun _ => rfl, nofun⟩
  | some view =>
    dsimp only [Option.bind_some]
    cases sad.findInbound .esp view.spi call.outerDestination call.outerSource with
    | none => exact ⟨h, fun _ => rfl, nofun⟩
    | some index =>
      dsimp only [Option.bind_some]
      cases at_index : sad.entries[index]? with
      | none => exact ⟨h, fun _ => rfl, nofun⟩
      | some a =>
        obtain ⟨replay, handle, ok⟩ := unprotectWith_spec call a view.sequenceLow
        have own := h index a at_index
        refine ⟨?_, ?_, ?_⟩
        · refine h.set ?_ fun _ _ => rfl
          obtain same | committed := replay
          · exact same ▸ own
          · rw [committed]
            cases committing : (a.replay.commit (a.replay.check view.sequenceLow).sequence).2 with
            | false =>
              rw [ReplayWindow.commit_false committing]
              exact own
            | true => exact (own.commit committing).2.subset fun s => mem_cons_of_mem _
        · intro j
          rw [List.getElem?_set]
          split
          · next same =>
            subst same
            obtain ⟨inside, rfl⟩ := List.getElem?_eq_some_iff.mp at_index
            simp [inside, handle]
          · rfl
        · intro delivers
          obtain ⟨committing, committed, engine, found, opens⟩ := ok delivers
          obtain ⟨new, remembers⟩ := own.commit committing
          refine ⟨index, a, _, rfl, at_index, fun mem => new (mem_sequencesOf.mpr mem), ?_,
            engine, _, found, opens⟩
          refine h.set ?_ fun j other => ?_
          · rw [committed]
            simpa [sequencesOf] using remembers
          · simp [sequencesOf, Ne.symm other]

/-- What a run delivers is new, and the engine of its association opened it. -/
theorem deliveries_spec (h : Remembered sad delivered) (calls : List EspCall) :
    ((deliveries dependencies sad calls).map fun d => (d.1, d.2.1)).Nodup ∧
      ∀ d ∈ deliveries dependencies sad calls, (d.1, d.2.1) ∉ delivered ∧
        ∃ handle engine extended,
          sad.entries[d.1]?.map SecurityAssociation.cryptoMaterialHandle = some handle ∧
          dependencies.findEngine handle = some engine ∧
          (engine d.2.1 extended d.2.2.packet d.2.2.room).status = .ok := by
  induction calls generalizing sad delivered with
  | nil => exact ⟨.nil, nofun⟩
  | cons call rest ih =>
    obtain ⟨kept, handles, step⟩ := unprotectEsp_step call h
    have later := ih kept
    have others : ∀ d ∈ deliveries dependencies (unprotectEsp dependencies sad call).1 rest,
        (d.1, d.2.1) ∉ delivered ∧ ∃ handle engine extended,
          sad.entries[d.1]?.map SecurityAssociation.cryptoMaterialHandle = some handle ∧
          dependencies.findEngine handle = some engine ∧
          (engine d.2.1 extended d.2.2.packet d.2.2.room).status = .ok := by
      intro d mem
      have known := later.2 d mem
      rw [handles] at known
      exact known
    rw [deliveries]
    split
    · exact ⟨later.1, others⟩
    next index sequence opened =>
    split
    · next ok =>
      obtain ⟨i, a, s, same, at_index, new, remembered, engine, extended, found, opens⟩ := step ok
      rw [opened] at same
      obtain ⟨rfl, rfl⟩ := Prod.mk.inj (Option.some.inj same)
      have fresh := ih remembered
      refine ⟨nodup_cons.mpr ⟨fun mem => ?_, later.1⟩, ?_⟩
      · obtain ⟨d, delivered, eq⟩ := mem_map.mp mem
        exact (fresh.2 d delivered).1 (eq ▸ mem_cons_self)
      · intro d mem
        obtain rfl | mem := mem_cons.mp mem
        · exact ⟨new, _, engine, extended, by rw [at_index]; rfl, found, opens⟩
        · exact others d mem
    · exact ⟨later.1, others⟩

end Once

section Result

variable {dependencies : EspProcessorDependencies}

/-- Rejected packets change no other result, and each sequence number of an association is
delivered at most once, from a packet that is genuine under its key. -/
theorem forged_packets_unobserved (genuine : BitVec 64 → BitVec 64 → List (BitVec 8) → Prop)
    (sound : ∀ handle engine, dependencies.findEngine handle = some engine →
      ∀ sequence extended packet room, (engine sequence extended packet room).status = .ok →
        genuine handle sequence packet) (sad : Sad) (calls : List (Bool × EspCall))
    (forged : ∀ call ∈ calls, call.1 = true → Rejected dependencies call.2) :
    (Unobserved.answers (unprotectMarked dependencies) sad calls).filter (!·.1.1) =
        Unobserved.answers (unprotectMarked dependencies) sad (calls.filter (!·.1)) ∧
      ((deliveries dependencies sad (calls.map (·.2))).map fun d => (d.1, d.2.1)).Nodup ∧
      ∀ d ∈ deliveries dependencies sad (calls.map (·.2)), ∃ handle,
        sad.entries[d.1]?.map SecurityAssociation.cryptoMaterialHandle = some handle ∧
          genuine handle d.2.1 d.2.2.packet := by
  refine ⟨?_, (deliveries_spec .nil _).1, ?_⟩
  · apply (unprotectMarked_hides dependencies).answers_filter (!·.1)
    intro call mem marked
    exact forged call mem (by simpa using marked)
  · intro d mem
    obtain ⟨-, handle, engine, extended, known, found, opens⟩ := (deliveries_spec .nil _).2 d mem
    exact ⟨handle, known, sound handle engine found _ _ _ _ opens⟩

/-- SPI 5 and sequence number 1. -/
def packetOne : List (BitVec 8) := [0#8, 0#8, 0#8, 5#8, 0#8, 0#8, 0#8, 1#8, 170#8]

/-- An engine of key 7 that knows one packet. -/
def knowsPacketOne : EspProcessorDependencies where
  findEngine handle :=
    if handle = 7#64 then
      some fun sequence _ packet _ =>
        if sequence = 1#64 ∧ packet = packetOne then { status := .ok, nextHeader := 59#8 }
        else { status := .authenticationFailed }
    else none
  validateInboundSelector _ _ _ := true

theorem knowsPacketOne_opens {handle : BitVec 64} {engine : Engine}
    (found : knowsPacketOne.findEngine handle = some engine) {sequence : BitVec 64}
    {extended : Bool} {packet : List (BitVec 8)} {room : Nat}
    (ok : (engine sequence extended packet room).status = .ok) :
    handle = 7#64 ∧ sequence = 1#64 ∧ packet = packetOne := by
  simp only [knowsPacketOne] at found
  split at found
  · next key =>
    cases found
    by_cases known : sequence = 1#64 ∧ packet = packetOne
    · exact ⟨key, known⟩
    · dsimp only at ok
      rw [if_neg known] at ok
      exact GcmStatus.noConfusion ok
  · cases found

def oneInbound : Sad where
  capacity := 2
  entries := [{ id := 1#64, inboundIdentifier := { spi := 5#32 }, encryption := .aesGcm16_128,
                cryptoMaterialHandle := 7#64, policyId := 1#32, oneWord := startingWindow_oneWord }]

/-- The packet with its last octet changed comes before and between two copies of the packet. -/
def forgedAround : List (Bool × EspCall) :=
  let call (last : BitVec 8) : EspCall :=
    { outerDestination := {}, outerSource := {}, packet := packetOne.dropLast ++ [last]
      now := 0, room := 16 }
  [(true, call 0#8), (false, call 170#8), (true, call 1#8), (false, call 170#8)]

theorem forgedAround_unobserved :
    (deliveries knowsPacketOne oneInbound (forgedAround.map (·.2))).map (fun d => (d.1, d.2.1)) =
        [(0, 1#64)] ∧
      (Unobserved.answers (unprotectMarked knowsPacketOne) oneInbound forgedAround).filter
          (!·.1.1) =
        Unobserved.answers (unprotectMarked knowsPacketOne) oneInbound
          (forgedAround.filter (!·.1)) := by
  refine ⟨by decide +kernel, (forged_packets_unobserved
    (fun handle sequence packet => handle = 7#64 ∧ sequence = 1#64 ∧ packet = packetOne)
    (fun _ _ found _ _ _ _ ok => knowsPacketOne_opens found ok) oneInbound forgedAround ?_).1⟩
  intro call mem marked handle engine found sequence extended room ok
  have known := (knowsPacketOne_opens found ok).2.2
  simp only [forgedAround, mem_cons, not_mem_nil, or_false] at mem
  obtain rfl | rfl | rfl | rfl := mem
  · exact absurd known (by decide)
  · exact Bool.noConfusion marked
  · exact absurd known (by decide)
  · exact Bool.noConfusion marked

end Result

end RouterSim.Ipsec
