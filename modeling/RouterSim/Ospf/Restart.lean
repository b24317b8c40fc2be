import RouterSim.Ospf.Turn

/-! A neighbor that returns to ExStart starts its exchange anew: what a fresh row is, and
that the operations on one interface leave every neighbor in ExStart with one. -/
namespace RouterSim.Ospf

open List Table

/-- The row of a neighbor whose exchange has just been started. Its sequence number was
drawn after the neighbor last left Exchange, Loading or Full. -/
structure Restarted (neighbor : NeighborRuntime) (row : NeighborExchange) : Prop where
  negotiation : row.negotiationComplete = false
  summaryCursor : row.summaryCursor = 0
  requestCursor : row.requestCursor = 0
  updateCursor : row.updateCursor = 0
  lists : row.database.Idle
  sequence : neighbor.history.head? = some (.drew row.ddSequence)

/-- The promise for one neighbor. -/
def Kept (neighbor : NeighborRuntime) (row : NeighborExchange) : Prop :=
  neighbor.state = .exstart → Restarted neighbor row

variable {exchange exchange' : NeighborDatabaseExchange} {f : NeighborRuntime → NeighborRuntime}

section Rows

variable {neighbor neighbor' : NeighborRuntime} {row row' : NeighborExchange} {view : LocalView}
  {now : Time} {encodes : Bool}

section

variable (h : Restarted neighbor row)
include h

theorem Restarted.congr (negotiation : row'.negotiationComplete = row.negotiationComplete)
    (summaryCursor : row'.summaryCursor = row.summaryCursor)
    (requestCursor : row'.requestCursor = 0) (updateCursor : row'.updateCursor = 0)
    (lists : row'.database.Idle) (sequence : row'.ddSequence = row.ddSequence) :
    Restarted neighbor row' where
  negotiation := negotiation.trans h.negotiation
  summaryCursor := summaryCursor.trans h.summaryCursor
  requestCursor := requestCursor
  updateCursor := updateCursor
  lists := lists
  sequence := sequence ▸ h.sequence

theorem Restarted.clearAdjacency : Restarted neighbor row.clearAdjacency :=
  h.congr rfl rfl h.requestCursor h.updateCursor ⟨rfl, rfl, rfl⟩ rfl

theorem Restarted.wake : Restarted neighbor (row.wake now) :=
  h.congr rfl rfl h.requestCursor h.updateCursor h.lists rfl

theorem Restarted.endHelping : Restarted neighbor (endHelping row) := by
  unfold RouterSim.Ospf.endHelping
  split
  · exact h.congr rfl rfl h.requestCursor h.updateCursor h.lists rfl
  · exact h

end

/-- The neighbor's own row may change, if not in its state nor its history. -/
theorem Kept.of_neighbor (h : Kept neighbor row) (state : neighbor'.state = neighbor.state)
    (history : neighbor'.history = neighbor.history) : Kept neighbor' row := by
  intro exstart
  obtain ⟨negotiation, summary, request, update, lists, sequence⟩ := h (state ▸ exstart)
  exact ⟨negotiation, summary, request, update, lists, history ▸ sequence⟩

theorem beginExchange_restarted {sequence : BitVec 32}
    (h : row.beginExchange view sequence now = some row') :
    Restarted (neighbor.note (some sequence)) row' := by
  obtain ⟨database, started, rfl⟩ := Option.map_eq_some_iff.mp h
  exact ⟨rfl, rfl, rfl, rfl, NeighborDatabaseExchange.start_idle started, rfl⟩

/-- The row of the same neighbor with the same capacity. -/
def Steady (row row' : NeighborExchange) : Prop :=
  row'.routerId = row.routerId ∧ row'.database.maximumSummaries = row.database.maximumSummaries

/-- A row that can hold the summary of the database. -/
def Roomy (view : LocalView) (row : NeighborExchange) : Prop :=
  view.database.WellFormed view.version ∧
    view.database.maximumRecords ≤ row.database.maximumSummaries

theorem beginExchange_isSome {sequence : BitVec 32} (room : Roomy view row) :
    (row.beginExchange view sequence now).isSome := by
  rw [NeighborExchange.beginExchange, Option.isSome_map]
  exact NeighborDatabaseExchange.start_isSome room.1 room.2

section Actions

variable {sequence : BitVec 32} {actions : NeighborActions}

theorem applyActions_ok (room : Roomy view row) :
    (row.applyActions view sequence actions now).ok = true := by
  have isSome : ((if actions.clearAdjacency then row.clearAdjacency else row).beginExchange view
      (sequence + 1#32) now).isSome := by
    apply beginExchange_isSome
    split
    · exact room
    · exact room
  obtain ⟨begun, hbegun⟩ := Option.isSome_iff_exists.mp isSome
  simp only [NeighborExchange.applyActions, hbegun]
  split <;> rfl

/-- The actions start a new exchange, or leave the one that was started. -/
theorem applyActions_restarted (room : Roomy view row)
    (started : actions.beginDatabaseExchange = false → Restarted neighbor row) :
    Restarted (neighbor.note (row.applyActions view sequence actions now).drawn)
      (row.applyActions view sequence actions now).row := by
  have ok : (row.applyActions view sequence actions now).ok = true := applyActions_ok room
  simp only [NeighborExchange.applyActions] at ok ⊢
  split
  next keep =>
    have h := started (by simpa using keep)
    split
    · exact h.clearAdjacency
    · exact h
  next begins =>
    rw [if_neg begins] at ok
    split
    next absent => simp [absent] at ok
    next begun hbegun => exact beginExchange_restarted hbegun

theorem start_maximumSummaries {records : List LsaRecord} {version : Version} {permit : Bool}
    (h : exchange.start records version now permit = some exchange') :
    exchange'.maximumSummaries = exchange.maximumSummaries := by
  obtain ⟨_, _, rfl⟩ := Option.map_eq_some_iff.mp h
  rfl

theorem applyActions_steady : Steady row (row.applyActions view sequence actions now).row := by
  have cleared : Steady row (if actions.clearAdjacency then row.clearAdjacency else row) := by
    split
    · exact ⟨rfl, rfl⟩
    · exact ⟨rfl, rfl⟩
  simp only [NeighborExchange.applyActions]
  split
  · exact cleared
  split
  next => exact cleared
  rename_i h
  obtain ⟨database, started, rfl⟩ := Option.map_eq_some_iff.mp h
  exact ⟨cleared.1, (start_maximumSummaries started).trans cleared.2⟩

end Actions

theorem emitLinkStateAcknowledgment_restarted (h : Restarted neighbor row) :
    Restarted neighbor (row.emitLinkStateAcknowledgment view encodes).2 := by
  have none : row.database.acknowledgments.isEmpty = true := by simp [h.lists.2.2]
  rw [NeighborExchange.emitLinkStateAcknowledgment, if_pos none]
  exact h.congr rfl rfl h.requestCursor h.updateCursor h.lists rfl

theorem emitLinkStateUpdate_restarted (h : Restarted neighbor row) :
    Restarted neighbor (row.emitLinkStateUpdate view encodes now).2 := by
  have none : row.database.retransmissions.isEmpty = true := by simp [h.lists.2.1]
  simp only [NeighborExchange.emitLinkStateUpdate, none]
  exact h.congr rfl rfl h.requestCursor rfl h.lists rfl

theorem emitLinkStateRequest_restarted (h : Restarted neighbor row) :
    Restarted neighbor (row.emitLinkStateRequest view encodes now).2 := by
  have none : row.database.requests.isEmpty = true := by simp [h.lists.1]
  simp only [NeighborExchange.emitLinkStateRequest, none]
  exact h.congr rfl rfl h.requestCursor h.updateCursor h.lists rfl

theorem emitLinkStateAcknowledgment_steady :
    Steady row (row.emitLinkStateAcknowledgment view encodes).2 := by
  unfold NeighborExchange.emitLinkStateAcknowledgment
  dsimp only
  repeat' split
  all_goals exact ⟨rfl, rfl⟩

theorem emitLinkStateUpdate_steady : Steady row (row.emitLinkStateUpdate view encodes now).2 := by
  unfold NeighborExchange.emitLinkStateUpdate
  dsimp only
  repeat' split
  all_goals exact ⟨rfl, rfl⟩

theorem emitLinkStateRequest_steady : Steady row (row.emitLinkStateRequest view encodes now).2 := by
  unfold NeighborExchange.emitLinkStateRequest
  dsimp only
  repeat' split
  all_goals exact ⟨rfl, rfl⟩

theorem queue_maximumSummaries {record : LsaRecord} {version : Version}
    (h : exchange.queueRetransmission record version = some exchange') :
    exchange'.maximumSummaries = exchange.maximumSummaries := by
  simp only [NeighborDatabaseExchange.queueRetransmission] at h
  split at h
  next => cases h
  split at h
  · obtain rfl := Option.some.inj h
    rfl
  · split at h
    · cases h
    · obtain rfl := Option.some.inj h
      rfl

end Rows

section React

variable {neighbor : NeighborRuntime} {event : NeighborEvent} {required pending : Bool}

@[simp] theorem react_routerId :
    (neighbor.react event required pending).1.routerId = neighbor.routerId := by
  simp only [NeighborRuntime.react]
  split <;> rfl

@[simp] theorem note_routerId {drawn : Option (BitVec 32)} :
    (neighbor.note drawn).routerId = neighbor.routerId := by
  cases drawn <;> rfl

@[simp] theorem note_state {drawn : Option (BitVec 32)} :
    (neighbor.note drawn).state = neighbor.state := by
  cases drawn <;> rfl

@[simp] theorem react_state :
    (neighbor.react event required pending).1.state =
      (neighborTransition neighbor.state event required pending).state := by
  simp only [NeighborRuntime.react]
  split <;> rfl

/-- Outside Exchange and beyond no departure is recorded. -/
theorem recordNeighborEvent_history {transition : NeighborTransition}
    (h : neighbor.state = .exstart) :
    (recordNeighborEvent neighbor transition).history = neighbor.history := by
  simp [recordNeighborEvent, h, NeighborState.atLeast, NeighborState.rank]

theorem react_history (h : neighbor.state = .exstart) :
    (neighbor.react event required pending).1.history = neighbor.history := by
  simp only [NeighborRuntime.react]
  split <;> exact recordNeighborEvent_history h

theorem react_exstart (h : (neighbor.react event required pending).1.state = .exstart)
    (continues : event = .negotiationDone ∨ event = .exchangeDone ∨ event = .loadingDone) :
    neighbor.state = .exstart ∧ event ≠ .negotiationDone := by
  rw [react_state] at h
  revert h
  obtain rfl | rfl | rfl := continues <;> cases neighbor.state <;> cases required <;>
    cases pending <;> decide

end React

/-- One adjacency becomes another, the promise kept. -/
structure Carries (adjacency adjacency' : Adjacency) : Prop where
  neighborId : adjacency'.neighbor.routerId = adjacency.neighbor.routerId
  steady : Steady adjacency.exchange adjacency'.exchange
  kept : Kept adjacency.neighbor adjacency.exchange → Kept adjacency'.neighbor adjacency'.exchange

section Adjacencies

variable {adjacency : Adjacency} {view : LocalView} {required : Bool} {sequence : BitVec 32}
  {now : Time} {description : DatabaseDescriptionView}

theorem Carries.refl : Carries adjacency adjacency := ⟨rfl, ⟨rfl, rfl⟩, id⟩

theorem applyActions_settles {neighbor neighbor' : NeighborRuntime} {row : NeighborExchange}
    {actions : NeighborActions} (room : Roomy view row) (kept : Kept neighbor row)
    (enters : neighbor'.state = .exstart → EntersExstart neighbor.state actions)
    (history : neighbor.state = .exstart → neighbor'.history = neighbor.history) :
    Kept (neighbor'.note (row.applyActions view sequence actions now).drawn)
      (row.applyActions view sequence actions now).row := by
  intro exstart
  rw [note_state] at exstart
  apply applyActions_restarted room
  intro keep
  obtain ⟨begins, _⟩ | ⟨before, _⟩ := enters exstart
  · rw [keep] at begins
    cases begins
  · exact kept.of_neighbor (exstart.trans before.symm) (history before) exstart

theorem restart_carries (room : Roomy view adjacency.exchange) :
    Carries adjacency (adjacency.restart view required sequence now).adjacency where
  neighborId := by simp [Adjacency.restart]
  steady := applyActions_steady
  kept := by
    intro kept
    apply applyActions_settles room kept
    · intro exstart
      rw [react_state] at exstart
      exact neighborTransition_exstart exstart
    · exact react_history

theorem process_maximumSummaries {database : LinkStateDatabase}
    (h : exchange.processDatabaseDescription description database now = some exchange') :
    exchange'.maximumSummaries = exchange.maximumSummaries := by
  simp only [NeighborDatabaseExchange.processDatabaseDescription] at h
  split at h
  · cases h
  · obtain ⟨_, _, rfl⟩ := Option.map_eq_some_iff.mp h
    rfl

theorem negotiate_carries {remainMaster : Bool} :
    Carries adjacency
      (adjacency.negotiate view required remainMaster sequence description now).adjacency := by
  have leaves : ∀ row', Kept (adjacency.neighbor.react .negotiationDone required false).1 row' := by
    intro row' exstart
    exact absurd rfl (react_exstart exstart (.inl rfl)).2
  simp only [Adjacency.negotiate]
  split
  · exact ⟨react_routerId, ⟨rfl, rfl⟩, fun _ => leaves _⟩
  split
  next => exact ⟨react_routerId, ⟨rfl, rfl⟩, fun _ => leaves _⟩
  next h => exact ⟨react_routerId, ⟨rfl, process_maximumSummaries h⟩, fun _ => leaves _⟩

theorem kept_of_ne {neighbor : NeighborRuntime} {row : NeighborExchange}
    (h : neighbor.state ≠ .exstart) : Kept neighbor row := fun exstart => absurd exstart h

theorem advance_carries (exchanging : adjacency.neighbor.state ≠ .exstart) :
    Carries adjacency (adjacency.advance view required sequence description now).adjacency := by
  simp only [Adjacency.advance]
  split
  next => exact .refl
  rename_i database h
  have steady := process_maximumSummaries h
  split
  · split
    · refine ⟨react_routerId, ⟨rfl, steady⟩, fun _ => ?_⟩
      apply kept_of_ne
      intro exstart
      exact exchanging (react_exstart exstart (.inr (.inl rfl))).1
    · exact ⟨rfl, ⟨rfl, steady⟩, fun _ => kept_of_ne exchanging⟩
  · exact ⟨rfl, ⟨rfl, steady⟩, fun _ => kept_of_ne exchanging⟩

theorem receiveDatabaseDescription_carries {parsed : Option DatabaseDescriptionView}
    (room : Roomy view adjacency.exchange) :
    Carries adjacency
      (adjacency.receiveDatabaseDescription view required sequence parsed now).adjacency := by
  simp only [Adjacency.receiveDatabaseDescription]
  split
  · exact .refl
  split
  next => exact .refl
  split
  · exact .refl
  split
  · split
    · exact .refl
    · exact restart_carries room
  · split
    · split
      · exact .refl
      · split
        · exact .refl
        · exact negotiate_carries
    next hne =>
      split
      · exact restart_carries room
      · exact advance_carries hne

theorem serve_maximumSummaries {entries : List (Option LinkStateRequestEntry)}
    : (Adjacency.serve view entries exchange).2.maximumSummaries = exchange.maximumSummaries := by
  fun_induction Adjacency.serve view entries exchange with
  | case1 | case2 | case3 | case4 => rfl
  | case5 exchange entry rest record _ queued h ih => rw [ih, queue_maximumSummaries h]

/-- A request leaves the neighbor and the capacity of its row. -/
theorem receiveLinkStateRequest_steady (adjacency : Adjacency) (view : LocalView)
    (required : Bool) (parsed : Option (List (Option LinkStateRequestEntry))) (now : Time) :
    (adjacency.receiveLinkStateRequest view required parsed now).2.neighbor.routerId =
        adjacency.neighbor.routerId ∧
      Steady adjacency.exchange
        (adjacency.receiveLinkStateRequest view required parsed now).2.exchange := by
  cases parsed with
  | none => exact ⟨rfl, rfl, rfl⟩
  | some entries =>
    have steady : (Adjacency.serve view entries adjacency.exchange.database).2.maximumSummaries =
        adjacency.exchange.database.maximumSummaries := serve_maximumSummaries
    simp only [Adjacency.receiveLinkStateRequest]
    split
    next => exact ⟨rfl, rfl, steady⟩
    next => exact ⟨rfl, rfl, steady⟩
    next => exact ⟨react_routerId, rfl, steady⟩
    next => exact ⟨rfl, rfl, steady⟩

/-- A request in Exchange or beyond changes no state unless it reaches a missing
advertisement. -/
theorem receiveLinkStateRequest_carries {parsed : Option (List (Option LinkStateRequestEntry))}
    (exchanging : adjacency.neighbor.state ≠ .exstart)
    (known : ∀ entries, parsed = some entries →
      (Adjacency.serve view entries adjacency.exchange.database).1 ≠ .missing) :
    Carries adjacency (adjacency.receiveLinkStateRequest view required parsed now).2 := by
  obtain ⟨neighborId, steady⟩ := receiveLinkStateRequest_steady adjacency view required parsed now
  refine ⟨neighborId, steady, fun _ => kept_of_ne ?_⟩
  cases parsed with
  | none => exact exchanging
  | some entries =>
    simp only [Adjacency.receiveLinkStateRequest]
    split
    next => exact exchanging
    next => exact exchanging
    next h => exact absurd h (known entries rfl)
    next => exact exchanging

theorem acknowledgeAll_maximumSummaries {headers : List LsaHeaderView}
    :
    (headers.foldl (fun exchange header => (exchange.acknowledge header).2)
      exchange).maximumSummaries = exchange.maximumSummaries := by
  induction headers generalizing exchange with
  | nil => rfl
  | cons header headers ih =>
    rw [foldl_cons, ih]
    rfl

theorem receiveLinkStateAcknowledgment_carries {parsed : Option (List LsaHeaderView)}
    (exchanging : adjacency.neighbor.state ≠ .exstart) :
    Carries adjacency (adjacency.receiveLinkStateAcknowledgment parsed).2 := by
  cases parsed with
  | none => exact .refl
  | some headers =>
    have steady : Steady adjacency.exchange
        (adjacency.receiveLinkStateAcknowledgment (some headers)).2.exchange := by
      simp only [Adjacency.receiveLinkStateAcknowledgment, Adjacency.settleUpdates]
      split
      · exact ⟨rfl, acknowledgeAll_maximumSummaries⟩
      · exact ⟨rfl, acknowledgeAll_maximumSummaries⟩
    exact ⟨rfl, steady, fun _ => kept_of_ne exchanging⟩

theorem emitDatabaseDescription_carries {encodes : Bool} :
    Carries adjacency (adjacency.emitDatabaseDescription view required encodes now).2 := by
  simp only [Adjacency.emitDatabaseDescription]
  split
  · exact .refl
  split
  next done =>
    refine ⟨react_routerId, ⟨rfl, rfl⟩, fun kept exstart => ?_⟩
    -- The last answer of a slave is sent after the negotiation.
    have before := (react_exstart exstart (.inr (.inl rfl))).1
    simp [(kept before).negotiation] at done
  next =>
    refine ⟨rfl, ⟨rfl, rfl⟩, fun kept exstart => ?_⟩
    have h := kept exstart
    refine h.congr rfl ?_ h.requestCursor h.updateCursor h.lists rfl
    simp [Adjacency.ddHeaderCount, h.negotiation]

end Adjacencies

/-- What holds of an interface between operations, except that the neighbors in `pending`
still wait for their exchange to be started. -/
structure Owned (inst : Instance) (pending : BitVec 32 → Prop) (owner : InterfaceOwner) : Prop where
  keys : owner.exchanges.map (·.routerId) = owner.runtime.neighbors.map (·.routerId)
  nodup : (owner.runtime.neighbors.map (·.routerId)).Nodup
  fits : owner.runtime.neighbors.length ≤ inst.maximumNeighborsPerInterface
  room : owner.runtime.maximumNeighbors = inst.maximumNeighborsPerInterface
  summaries : ∀ row ∈ owner.exchanges, row.database.maximumSummaries = inst.maximumLsas
  kept : ∀ (id : BitVec 32) (neighbor : NeighborRuntime) (row : NeighborExchange), ¬ pending id →
    owner.runtime.neighbor? id = some neighbor → owner.exchange? id = some row → Kept neighbor row

/-- The shared part of the instance: its database is well formed and no larger than a
summary. -/
structure Sound (inst : Instance) : Prop where
  database : inst.database.WellFormed inst.version
  capacity : inst.database.maximumRecords = inst.maximumLsas

/-- Only the sequence counter has moved. -/
def Drawn (inst inst' : Instance) : Prop :=
  ∃ sequence, inst' = { inst with nextDdSequence := sequence }

theorem mem_of_neighbor? {runtime : InterfaceRuntime} {id : BitVec 32} {neighbor : NeighborRuntime}
    (found : runtime.neighbor? id = some neighbor) : id ∈ runtime.neighbors.map (·.routerId) := by
  rw [InterfaceRuntime.neighbor?] at found
  exact lookup_isSome.mp (by rw [found]; rfl)

theorem changeNeighbor_ids {runtime : InterfaceRuntime} {id : BitVec 32}
    (hf : ∀ neighbor, neighbor.routerId = id → (f neighbor).routerId = id) :
    (runtime.changeNeighbor id f).neighbors.map (·.routerId) =
      runtime.neighbors.map (·.routerId) := keys_update hf

theorem adjacency?_rows {owner : InterfaceOwner} {id : BitVec 32} {adjacency : Adjacency}
    (h : owner.adjacency? id = some adjacency) :
    owner.runtime.neighbor? id = some adjacency.neighbor ∧
      owner.exchange? id = some adjacency.exchange := by
  simp only [InterfaceOwner.adjacency?] at h
  split at h
  next exchange neighbor hr hn =>
    obtain rfl := Option.some.inj h
    exact ⟨hn, hr⟩
  next => cases h

section Owners

variable {inst inst' : Instance} {owner : InterfaceOwner} {pending pending' : BitVec 32 → Prop}
  {id : BitVec 32} {now : Time}

theorem Owned.mono (h : Owned inst pending owner) (weaker : ∀ id, pending id → pending' id) :
    Owned inst pending' owner :=
  ⟨h.keys, h.nodup, h.fits, h.room, h.summaries,
    fun id neighbor row free => h.kept id neighbor row fun p => free (weaker id p)⟩

theorem Owned.drawn (h : Owned inst pending owner) (drawn : Drawn inst inst') :
    Owned inst' pending owner := by
  obtain ⟨_, rfl⟩ := drawn
  exact ⟨h.keys, h.nodup, h.fits, h.room, h.summaries, h.kept⟩

theorem Sound.drawn (h : Sound inst) (drawn : Drawn inst inst') : Sound inst' := by
  obtain ⟨_, rfl⟩ := drawn
  exact ⟨h.database, h.capacity⟩

theorem Drawn.refl : Drawn inst inst := ⟨inst.nextDdSequence, rfl⟩

theorem Drawn.trans {inst'' : Instance} (h : Drawn inst inst') (h' : Drawn inst' inst'') :
    Drawn inst inst'' := by
  obtain ⟨_, rfl⟩ := h
  obtain ⟨sequence, rfl⟩ := h'
  exact ⟨sequence, rfl⟩

theorem Drawn.symm (h : Drawn inst inst') : Drawn inst' inst := by
  obtain ⟨_, rfl⟩ := h
  exact ⟨inst.nextDdSequence, rfl⟩

section

variable (h : Owned inst pending owner)
include h

theorem Owned.row {neighbor : NeighborRuntime} (known : owner.runtime.neighbor? id = some neighbor) :
    ∃ row, owner.exchange? id = some row := by
  have mem := mem_of_neighbor? known
  rw [← h.keys] at mem
  exact Option.isSome_iff_exists.mp (lookup_isSome.mpr mem)

theorem Owned.roomy (sound : Sound inst) {row : NeighborExchange}
    (found : owner.exchange? id = some row) : Roomy (owner.view inst) row := by
  refine ⟨sound.database, ?_⟩
  rw [h.summaries row (mem_of_lookup found)]
  exact Nat.le_of_eq sound.capacity

theorem Owned.exchange_of_mem {row : NeighborExchange} (mem : row ∈ owner.exchanges) :
    owner.exchange? row.routerId = some row :=
  lookup_of_mem (h.keys ▸ h.nodup) mem

theorem Owned.change {g : NeighborExchange → NeighborExchange}
    (hf : ∀ neighbor, neighbor.routerId = id → (f neighbor).routerId = id)
    (hg : ∀ row, row.routerId = id → (g row).routerId = id)
    (capacity : ∀ row, owner.exchange? id = some row →
      (g row).database.maximumSummaries = row.database.maximumSummaries)
    (kept : ∀ neighbor row, ¬ pending' id → owner.runtime.neighbor? id = some neighbor →
      owner.exchange? id = some row → Kept (f neighbor) (g row))
    (others : ∀ other, other ≠ id → pending other → pending' other) :
    Owned inst pending'
      { owner with
        runtime := owner.runtime.changeNeighbor id f
        exchanges := update NeighborExchange.routerId id g owner.exchanges } where
  keys := (keys_update hg).trans (h.keys.trans (keys_update hf).symm)
  nodup := by
    simp only [InterfaceRuntime.changeNeighbor, keys_update hf]
    exact h.nodup
  fits := by simpa [InterfaceRuntime.changeNeighbor] using h.fits
  room := h.room
  summaries := by
    intro row mem
    obtain same | ⟨old, hold, hid, rfl⟩ := mem_update mem
    · exact h.summaries row same
    · rw [capacity old (hid ▸ h.exchange_of_mem hold)]
      exact h.summaries old hold
  kept := by
    intro other neighbor row free hn hr
    simp only [InterfaceRuntime.neighbor?, InterfaceRuntime.changeNeighbor] at hn
    simp only [InterfaceOwner.exchange?] at hr
    by_cases heq : other = id
    · subst heq
      rw [lookup_update_same hf] at hn
      rw [lookup_update_same hg] at hr
      obtain ⟨n, foundNeighbor, rfl⟩ := Option.map_eq_some_iff.mp hn
      obtain ⟨r, foundRow, rfl⟩ := Option.map_eq_some_iff.mp hr
      exact kept n r free foundNeighbor foundRow
    · rw [lookup_update_other hf heq] at hn
      rw [lookup_update_other hg heq] at hr
      exact h.kept other neighbor row (fun p => free (others other heq p)) hn hr

theorem Owned.changeNeighbor (hf : ∀ neighbor, neighbor.routerId = id → (f neighbor).routerId = id)
    (kept : ∀ neighbor row, ¬ pending' id → owner.runtime.neighbor? id = some neighbor →
      owner.exchange? id = some row → Kept (f neighbor) row)
    (others : ∀ other, other ≠ id → pending other → pending' other) :
    Owned inst pending' { owner with runtime := owner.runtime.changeNeighbor id f } := by
  have changed := h.change (g := fun row => row) hf (fun _ hid => hid) (fun _ _ => rfl) kept others
  rw [update_id] at changed
  exact changed

theorem Owned.changeExchange {g : NeighborExchange → NeighborExchange}
    (hg : ∀ row, Steady row (g row))
    (kept : ∀ neighbor row, ¬ pending id → owner.runtime.neighbor? id = some neighbor →
      owner.exchange? id = some row → Kept neighbor row → Kept neighbor (g row)) :
    Owned inst pending (owner.changeExchange id g) := by
  have changed := h.change (f := fun neighbor => neighbor) (g := g) (fun _ hid => hid)
    (fun row hid => (hg row).1.trans hid) (fun row _ => (hg row).2)
    (fun neighbor row free hn hr =>
      kept neighbor row free hn hr (h.kept id neighbor row free hn hr)) (fun _ _ p => p)
  simp only [InterfaceRuntime.changeNeighbor, update_id] at changed
  exact changed

theorem Owned.setExchange {row row' : NeighborExchange} (found : owner.exchange? id = some row)
    (steady : Steady row row')
    (kept : ∀ neighbor, ¬ pending id → owner.runtime.neighbor? id = some neighbor →
      Kept neighbor row → Kept neighbor row') :
    Owned inst pending (owner.changeExchange id fun _ => row') := by
  have rid : row.routerId = id := key_of_lookup found
  have changed : Owned inst pending
      { owner with
        runtime := owner.runtime.changeNeighbor id fun neighbor => neighbor
        exchanges :=
          update NeighborExchange.routerId id (fun _ => row') owner.exchanges } := by
    apply h.change
    · exact fun _ hid => hid
    · exact fun _ _ => steady.1.trans rid
    · intro other hother
      rw [found] at hother
      obtain rfl := Option.some.inj hother
      exact steady.2
    · intro neighbor other free hn _
      exact kept neighbor free hn (h.kept id neighbor row free hn found)
    · exact fun _ _ p => p
  simp only [InterfaceRuntime.changeNeighbor, update_id] at changed
  exact changed

theorem Owned.setAdjacency {adjacency adjacency' : Adjacency}
    (found : owner.adjacency? id = some adjacency)
    (neighborId : adjacency'.neighbor.routerId = adjacency.neighbor.routerId)
    (steady : Steady adjacency.exchange adjacency'.exchange)
    (kept : ¬ pending id → Kept adjacency.neighbor adjacency.exchange →
      Kept adjacency'.neighbor adjacency'.exchange) :
    Owned inst pending (owner.setAdjacency id adjacency') := by
  obtain ⟨hn, hr⟩ := adjacency?_rows found
  have nid : adjacency'.neighbor.routerId = id := neighborId.trans (key_of_lookup hn)
  have rid : adjacency'.exchange.routerId = id := steady.1.trans (key_of_lookup hr)
  apply h.change
  · exact fun _ _ => nid
  · exact fun _ _ => rid
  · intro row hrow
    rw [hr] at hrow
    obtain rfl := Option.some.inj hrow
    exact steady.2
  · intro neighbor row free _ _
    exact kept free (h.kept id _ _ free hn hr)
  · exact fun _ _ p => p

theorem Owned.carry {adjacency adjacency' : Adjacency}
    (found : owner.adjacency? id = some adjacency) (carries : Carries adjacency adjacency') :
    Owned inst pending (owner.setAdjacency id adjacency') :=
  h.setAdjacency found carries.neighborId carries.steady fun _ => carries.kept

/-- An operation on an interface that succeeded. -/
structure Succeeds (inst : Instance) (pending : BitVec 32 → Prop) (owner : InterfaceOwner)
    (done : OwnerStep) : Prop where
  ok : done.ok = true
  drawn : Drawn inst done.inst
  owned : Owned inst pending done.owner
  ids : done.owner.runtime.neighbors.map (·.routerId) = owner.runtime.neighbors.map (·.routerId)

/-- A neighbor whose exchange is started waits no longer. -/
def Waits (pending : BitVec 32 → Prop) (id : BitVec 32) (actions : NeighborActions)
    (other : BitVec 32) : Prop :=
  pending other ∧ ¬ (other = id ∧ actions.beginDatabaseExchange = true)

theorem applyNeighborActions_succeeds (sound : Sound inst) {actions : NeighborActions}
    (known : id ∈ owner.runtime.neighbors.map (·.routerId)) (stays : actions.deleteNeighbor = false) :
    Succeeds inst (Waits pending id actions) owner
      (applyNeighborActions inst owner id actions now) := by
  obtain ⟨row, found⟩ : ∃ row, owner.exchange? id = some row :=
    Option.isSome_iff_exists.mp (lookup_isSome.mpr (h.keys ▸ known))
  have room := h.roomy sound found
  have rid : row.routerId = id := key_of_lookup found
  have noted : ∀ (drawn : Option (BitVec 32)) (neighbor : NeighborRuntime),
      neighbor.routerId = id → (neighbor.note drawn).routerId = id :=
    fun drawn neighbor hid => note_routerId.trans hid
  simp only [applyNeighborActions, InterfaceOwner.withExchange, found, stays]
  constructor
  · exact applyActions_ok room
  · exact ⟨_, rfl⟩
  · apply h.change
    · exact noted _
    · exact fun _ _ => applyActions_steady.1.trans rid
    · intro row' hrow
      rw [found] at hrow
      obtain rfl := Option.some.inj hrow
      exact applyActions_steady.2
    · intro neighbor row' free hn hrow
      intro exstart
      rw [note_state] at exstart
      apply applyActions_restarted room
      intro keep
      have waits : ¬ pending id := by
        intro p
        exact free ⟨p, by simp [keep]⟩
      exact h.kept id neighbor row waits hn found exstart
    · exact fun other ne p => ⟨p, fun eq => ne eq.1⟩
  · exact keys_update (noted _)

end

/-- No neighbor waits. -/
abbrev NoOne : BitVec 32 → Prop := fun _ => False

/-- The neighbors whose exchange the list of actions is going to start. -/
def Begun (works : List NeighborReconciliation) (id : BitVec 32) : Prop :=
  ∃ work ∈ works, work.routerId = id ∧ work.actions.beginDatabaseExchange = true

/-- Those that wait, and those the list of actions is going to start. -/
def Awaiting (pending : BitVec 32 → Prop) (works : List NeighborReconciliation)
    (id : BitVec 32) : Prop :=
  pending id ∨ Begun works id

theorem applyAll_succeeds {works : List NeighborReconciliation}
    (h : Owned inst (Awaiting pending works) owner) (sound : Sound inst)
    (known : ∀ work ∈ works, work.routerId ∈ owner.runtime.neighbors.map (·.routerId))
    (stay : ∀ work ∈ works, work.actions.deleteNeighbor = false) :
    Succeeds inst pending owner (applyAll now inst owner works) := by
  induction works generalizing inst owner with
  | nil =>
    refine ⟨rfl, .refl, h.mono ?_, rfl⟩
    rintro id (waits | ⟨work, mem, _⟩)
    · exact waits
    · cases mem
  | cons work works ih =>
    obtain ⟨ok, drawn, owned, ids⟩ : Succeeds inst (Waits (Awaiting pending (work :: works))
        work.routerId work.actions) owner
        (applyNeighborActions inst owner work.routerId work.actions now) :=
      applyNeighborActions_succeeds h sound (known work mem_cons_self) (stay work mem_cons_self)
    have owned' : Owned inst (Awaiting pending works)
        (applyNeighborActions inst owner work.routerId work.actions now).owner := by
      apply owned.mono
      rintro id ⟨before | ⟨other, mem, hid, begins⟩, waits⟩
      · exact .inl before
      · obtain rfl | mem := mem_cons.mp mem
        · exact absurd ⟨hid.symm, begins⟩ waits
        · exact .inr ⟨other, mem, hid, begins⟩
    have rest := ih (owned'.drawn drawn) (sound.drawn drawn)
      (fun other mem => ids ▸ known other (mem_cons_of_mem _ mem))
      (fun other mem => stay other (mem_cons_of_mem _ mem))
    rw [applyAll, if_pos ok]
    exact ⟨rest.ok, drawn.trans rest.drawn, rest.owned.drawn drawn.symm, rest.ids.trans ids⟩

/-- Of the interface's state machine only the table of neighbors matters. -/
theorem Owned.runtime (h : Owned inst pending owner) {runtime : InterfaceRuntime}
    (neighbors : runtime.neighbors = owner.runtime.neighbors)
    (maximum : runtime.maximumNeighbors = owner.runtime.maximumNeighbors) :
    Owned inst pending { owner with runtime } where
  keys := by simpa [neighbors] using h.keys
  nodup := by simpa [neighbors] using h.nodup
  fits := by simpa [neighbors] using h.fits
  room := maximum.trans h.room
  summaries := h.summaries
  kept := by
    intro id neighbor row free hn hr
    simp only [InterfaceRuntime.neighbor?, neighbors] at hn
    exact h.kept id neighbor row free hn hr

/-- After an election every neighbor that enters ExStart has a new exchange to start. -/
theorem reconciled_owned (h : Owned inst pending owner) :
    Owned inst
      (Awaiting pending (((owner.runtime.neighbors.map owner.runtime.reconcile).map (·.2)).filter
        (·.actions ≠ {})))
      { owner with
        runtime :=
          { owner.runtime with
            neighbors := (owner.runtime.neighbors.map owner.runtime.reconcile).map (·.1) } } where
  keys := by
    rw [map_map, map_map]
    exact h.keys
  nodup := by
    rw [map_map, map_map]
    exact h.nodup
  fits := by simpa using h.fits
  room := h.room
  summaries := h.summaries
  kept := by
    intro id neighbor row free hn hr exstart
    simp only [InterfaceRuntime.neighbor?] at hn
    rw [map_map, lookup_map (f := (·.1) ∘ owner.runtime.reconcile) (fun _ => rfl)] at hn
    obtain ⟨before, found, rfl⟩ := Option.map_eq_some_iff.mp hn
    obtain ⟨begins, _⟩ | ⟨was, _⟩ := neighborTransition_exstart exstart
    · have hid : before.routerId = id := key_of_lookup found
      refine absurd (.inr ⟨(owner.runtime.reconcile before).2, ?_, hid, begins⟩) free
      refine mem_filter.mpr ⟨mem_map_of_mem (mem_map_of_mem (mem_of_lookup found)), ?_⟩
      have ne : (owner.runtime.reconcile before).2.actions ≠ {} := by
        intro eq
        have flag : (owner.runtime.reconcile before).2.actions.beginDatabaseExchange = true :=
          begins
        rw [eq] at flag
        cases flag
      simpa using ne
    · have kept := h.kept id before row (fun p => free (.inl p)) found hr
      exact kept.of_neighbor (exstart.trans was.symm) (recordNeighborEvent_history was) exstart

theorem reconcileInterfaceAdjacencies_succeeds (h : Owned inst pending owner) (sound : Sound inst)
    {actions : InterfaceActions} :
    Succeeds inst pending owner (reconcileInterfaceAdjacencies inst owner actions now) := by
  have ids : ((owner.runtime.neighbors.map owner.runtime.reconcile).map (·.1)).map (·.routerId) =
      owner.runtime.neighbors.map (·.routerId) := by
    rw [map_map, map_map]
    rfl
  have from_neighbor : ∀ work ∈ ((owner.runtime.neighbors.map owner.runtime.reconcile).map
      (·.2)).filter (·.actions ≠ {}), ∃ neighbor ∈ owner.runtime.neighbors,
        (owner.runtime.reconcile neighbor).2 = work := by
    intro work mem
    have mem := (mem_filter.mp mem).1
    rw [map_map] at mem
    exact mem_map.mp mem
  simp only [reconcileInterfaceAdjacencies, InterfaceRuntime.reconcileAdjacencies]
  split
  · exact ⟨rfl, .refl, h, rfl⟩
  rw [if_neg (Nat.not_lt.mpr h.fits)]
  have known : ∀ work ∈ ((owner.runtime.neighbors.map owner.runtime.reconcile).map
      (·.2)).filter (·.actions ≠ {}), work.routerId ∈
        ((owner.runtime.neighbors.map owner.runtime.reconcile).map (·.1)).map (·.routerId) := by
    intro work mem
    obtain ⟨neighbor, hn, rfl⟩ := from_neighbor work mem
    rw [ids]
    exact mem_map_of_mem hn
  have stay : ∀ work ∈ ((owner.runtime.neighbors.map owner.runtime.reconcile).map
      (·.2)).filter (·.actions ≠ {}), work.actions.deleteNeighbor = false := by
    intro work mem
    obtain ⟨neighbor, _, rfl⟩ := from_neighbor work mem
    exact neighborTransition_delete
  have done : Succeeds inst pending _ (applyAll now inst _ _) :=
    applyAll_succeeds (reconciled_owned h) sound known stay
  exact ⟨done.ok, done.drawn, done.owned, done.ids.trans ids⟩

@[simp] theorem applyElection_neighbors {runtime : InterfaceRuntime} {actions : InterfaceActions} :
    (runtime.applyElection actions).2.neighbors = runtime.neighbors ∧
      (runtime.applyElection actions).2.maximumNeighbors = runtime.maximumNeighbors := by
  simp only [InterfaceRuntime.applyElection]
  split <;> exact ⟨rfl, rfl⟩

variable {backupSeen : Bool}

theorem neighborChange_neighbors {runtime : InterfaceRuntime} :
    (runtime.neighborChange backupSeen).2.neighbors = runtime.neighbors ∧
      (runtime.neighborChange backupSeen).2.maximumNeighbors = runtime.maximumNeighbors := by
  simp only [InterfaceRuntime.neighborChange]
  split
  · exact ⟨rfl, rfl⟩
  · exact applyElection_neighbors

/-- An election after which every neighbor is looked at again. -/
theorem elected_succeeds (h : Owned inst pending owner) (sound : Sound inst)
    {runtime : InterfaceRuntime} {actions : InterfaceActions}
    (neighbors : runtime.neighbors = owner.runtime.neighbors)
    (maximum : runtime.maximumNeighbors = owner.runtime.maximumNeighbors) :
    Succeeds inst pending owner
      (reconcileInterfaceAdjacencies inst { owner with runtime } actions now) := by
  obtain ⟨ok, drawn, owned, ids⟩ : Succeeds inst pending { owner with runtime }
      (reconcileInterfaceAdjacencies inst { owner with runtime } actions now) :=
    reconcileInterfaceAdjacencies_succeeds (h.runtime neighbors maximum) sound
  exact ⟨ok, drawn, owned, ids.trans (by rw [neighbors])⟩

theorem neighborChanged_succeeds (h : Owned inst pending owner) (sound : Sound inst)
    : Succeeds inst pending owner (neighborChanged inst owner backupSeen now) :=
  elected_succeeds h sound neighborChange_neighbors.1 neighborChange_neighbors.2

/-- One neighbor's actions, and the election they lead to. -/
theorem applyAndNotify_succeeds {work : NeighborReconciliation}
    (h : Owned inst (Awaiting pending [work]) owner) (sound : Sound inst)
    (known : work.routerId ∈ owner.runtime.neighbors.map (·.routerId))
    (stays : work.actions.deleteNeighbor = false) :
    Succeeds inst pending owner (applyAndNotify inst owner work backupSeen now) := by
  obtain ⟨ok, drawn, owned, ids⟩ : Succeeds inst (Waits (Awaiting pending [work]) work.routerId
      work.actions) owner (applyNeighborActions inst owner work.routerId work.actions now) :=
    applyNeighborActions_succeeds h sound known stays
  have owned : Owned inst pending
      (applyNeighborActions inst owner work.routerId work.actions now).owner := by
    apply owned.mono
    rintro id ⟨before | ⟨other, mem, hid, begins⟩, waits⟩
    · exact before
    · obtain rfl := mem_singleton.mp mem
      exact absurd ⟨hid.symm, begins⟩ waits
  simp only [applyAndNotify]
  split
  · have rest : Succeeds _ pending _ (neighborChanged
        (applyNeighborActions inst owner work.routerId work.actions now).inst
        (applyNeighborActions inst owner work.routerId work.actions now).owner backupSeen now) :=
      neighborChanged_succeeds (owned.drawn drawn) (sound.drawn drawn)
    exact ⟨rest.ok, drawn.trans rest.drawn, rest.owned.drawn drawn.symm, rest.ids.trans ids⟩
  · exact ⟨ok, drawn, owned, ids⟩

/-- What an operation on an interface leaves behind, whether it succeeded or not. -/
structure Leaves (inst : Instance) (pending : BitVec 32 → Prop) (done : OwnerStep) : Prop where
  drawn : Drawn inst done.inst
  owned : Owned inst pending done.owner

theorem applyNeighborActions_deletes (h : Owned inst pending owner) {actions : NeighborActions}
    (known : id ∈ owner.runtime.neighbors.map (·.routerId))
    (deletes : actions.deleteNeighbor = true) :
    Leaves inst pending (applyNeighborActions inst owner id actions now) := by
  obtain ⟨row, found⟩ : ∃ row, owner.exchange? id = some row :=
    Option.isSome_iff_exists.mp (lookup_isSome.mpr (h.keys ▸ known))
  obtain ⟨neighbor, present⟩ : ∃ neighbor, owner.runtime.neighbor? id = some neighbor :=
    Option.isSome_iff_exists.mp (lookup_isSome.mpr known)
  simp only [applyNeighborActions, InterfaceOwner.withExchange, found, deletes, if_true,
    InterfaceRuntime.eraseNeighbor, present]
  refine ⟨.refl, ?_⟩
  constructor
  · show (drop _ _ _).map _ = (drop _ _ _).map _
    rw [keys_drop, keys_drop, h.keys]
  · show ((drop _ _ _).map _).Nodup
    rw [keys_drop]
    exact h.nodup.erase id
  · exact Nat.le_trans eraseP_sublist.length_le h.fits
  · exact h.room
  · intro row mem
    exact h.summaries row (eraseP_sublist.subset mem)
  · intro other neighbor row free hn hr
    simp only [InterfaceRuntime.neighbor?] at hn
    simp only [InterfaceOwner.exchange?] at hr
    by_cases heq : other = id
    · subst heq
      rw [lookup_drop_same h.nodup] at hn
      cases hn
    · rw [lookup_drop_other heq] at hn hr
      exact h.kept other neighbor row free hn hr

/-- An event of a neighbor's state machine, its actions not applied yet. -/
theorem applyNeighborEvent_owned (h : Owned inst pending owner) {event : NeighborEvent}
    {requests : Bool} {transition : NeighborTransition}
    (reacts : (owner.runtime.applyNeighborEvent id event requests).1 = some transition) :
    Owned inst (Awaiting pending [{ routerId := id, actions := transition.actions }])
        { owner with runtime := (owner.runtime.applyNeighborEvent id event requests).2 } ∧
      id ∈ (owner.runtime.applyNeighborEvent id event requests).2.neighbors.map (·.routerId) ∧
      transition.actions.deleteNeighbor = decide (event = .killNeighbor) := by
  simp only [InterfaceRuntime.applyNeighborEvent] at reacts ⊢
  split at reacts
  next => cases reacts
  rename_i neighbor found
  obtain rfl := Option.some.inj reacts
  have nid : neighbor.routerId = id := key_of_lookup found
  have hf : ∀ other : NeighborRuntime, other.routerId = id →
      (neighbor.react event (owner.runtime.adjacencyRequired neighbor) requests).1.routerId = id :=
    fun _ _ => react_routerId.trans nid
  refine ⟨?_, ?_, neighborTransition_delete⟩
  · apply h.changeNeighbor hf
    · intro other row free hn hr exstart
      have exstart' := exstart
      rw [react_state] at exstart'
      obtain ⟨begins, _⟩ | ⟨was, _⟩ := neighborTransition_exstart exstart'
      · exact absurd (.inr ⟨_, mem_singleton_self _, rfl, begins⟩) free
      · have kept := h.kept id neighbor row (fun p => free (.inl p)) found hr
        exact kept.of_neighbor (exstart.trans was.symm) (react_history was) exstart
    · exact fun _ _ => .inl
  · rw [changeNeighbor_ids hf]
    exact mem_of_neighbor? found

end Owners

end RouterSim.Ospf
