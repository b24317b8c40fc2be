import RouterSim.Ospf.RestartProcess

/-! The retransmission lists under the operations of one interface: none of them makes a
list longer, so that what holds of every part of a list is kept. -/
namespace RouterSim.Ospf

/-- The list becomes a part of what it was. -/
structure Lessens (lists lists' : NeighborDatabaseExchange) : Prop where
  sublist : lists'.retransmissions.Sublist lists.retransmissions
  capacity : lists'.maximumRetransmissions = lists.maximumRetransmissions

/-- A property of a neighbor's lists that a new neighbor has and a shorter list keeps. -/
structure Waning (maximumLsas : Nat) (P : NeighborDatabaseExchange → Prop) : Prop where
  fresh : P (.withCapacity maximumLsas)
  lessens : ∀ lists lists', P lists → Lessens lists lists' → P lists'

/-- The property holds of the lists of every neighbor of the interface. -/
def Lists (P : NeighborDatabaseExchange → Prop) (owner : InterfaceOwner) : Prop :=
  ∀ row ∈ owner.exchanges, P row.database

variable {P : NeighborDatabaseExchange → Prop} {inst inst' : Instance} {owner : InterfaceOwner}
  {id : BitVec 32} {now : Time}

section Rows

variable {row : NeighborExchange} {lists lists' : NeighborDatabaseExchange} {view : LocalView}
  {encodes required : Bool} {sequence : BitVec 32} {adjacency : Adjacency}

theorem Lessens.refl : Lessens lists lists := ⟨.refl _, rfl⟩

theorem Lessens.trans {lists'' : NeighborDatabaseExchange} (h : Lessens lists lists')
    (h' : Lessens lists' lists'') : Lessens lists lists'' :=
  ⟨h'.sublist.trans h.sublist, h'.capacity.trans h.capacity⟩

theorem start_lessens {records : List LsaRecord} {version : Version} {permit : Bool}
    (started : lists.start records version now permit = some lists') : Lessens lists lists' := by
  obtain ⟨_, _, rfl⟩ := Option.map_eq_some_iff.mp started
  exact ⟨List.nil_sublist _, rfl⟩

theorem clearAdjacency_lessens : Lessens row.database row.clearAdjacency.database :=
  ⟨List.nil_sublist _, rfl⟩

theorem applyActions_lessens {actions : NeighborActions} :
    Lessens row.database (row.applyActions view sequence actions now).row.database := by
  have cleared : Lessens row.database
      (if actions.clearAdjacency then row.clearAdjacency else row).database := by
    split
    · exact clearAdjacency_lessens
    · exact .refl
  simp only [NeighborExchange.applyActions]
  split
  · exact cleared
  split
  next => exact cleared
  rename_i begun
  obtain ⟨database, started, rfl⟩ := Option.map_eq_some_iff.mp begun
  exact cleared.trans (start_lessens started)

theorem process_lessens {description : DatabaseDescriptionView} {database : LinkStateDatabase}
    (processed : lists.processDatabaseDescription description database now = some lists') :
    Lessens lists lists' := by
  simp only [NeighborDatabaseExchange.processDatabaseDescription] at processed
  split at processed
  · cases processed
  · obtain ⟨_, _, rfl⟩ := Option.map_eq_some_iff.mp processed
    exact ⟨.refl _, rfl⟩

theorem receiveDatabaseDescription_lessens {parsed : Option DatabaseDescriptionView} :
    Lessens adjacency.exchange.database
      (adjacency.receiveDatabaseDescription view required sequence parsed
        now).adjacency.exchange.database := by
  have restarted : Lessens adjacency.exchange.database
      (adjacency.restart view required sequence now).adjacency.exchange.database :=
    applyActions_lessens
  have negotiated : ∀ (remain : Bool) (description : DatabaseDescriptionView),
      Lessens adjacency.exchange.database
        (adjacency.negotiate view required remain sequence description
          now).adjacency.exchange.database := by
    intro remain description
    simp only [Adjacency.negotiate]
    split
    · exact .refl
    split
    next => exact .refl
    next processed => exact process_lessens processed
  have advanced : ∀ description : DatabaseDescriptionView, Lessens adjacency.exchange.database
        (adjacency.advance view required sequence description now).adjacency.exchange.database := by
    intro description
    simp only [Adjacency.advance]
    split
    next => exact .refl
    rename_i processed
    repeat' split
    all_goals exact process_lessens processed
  simp only [Adjacency.receiveDatabaseDescription]
  repeat' split
  all_goals first
    | exact .refl
    | exact restarted
    | exact negotiated _ _
    | exact advanced _

theorem acknowledge_lessens {header : LsaHeaderView} :
    Lessens lists (lists.acknowledge header).2 := ⟨List.filter_sublist, rfl⟩

theorem receiveLinkStateAcknowledgment_lessens {parsed : Option (List LsaHeaderView)} :
    Lessens adjacency.exchange.database
      (adjacency.receiveLinkStateAcknowledgment parsed).2.exchange.database := by
  cases parsed with
  | none => exact .refl
  | some headers =>
    have all : Lessens adjacency.exchange.database (headers.foldl
        (fun exchange header => (exchange.acknowledge header).2) adjacency.exchange.database) := by
      generalize adjacency.exchange.database = lists
      induction headers generalizing lists with
      | nil => exact .refl
      | cons header headers ih => exact acknowledge_lessens.trans (ih _)
    simp only [Adjacency.receiveLinkStateAcknowledgment, Adjacency.settleUpdates]
    split <;> exact all

theorem emitLinkStateAcknowledgment_lessens :
    Lessens row.database (row.emitLinkStateAcknowledgment view encodes).2.database := by
  unfold NeighborExchange.emitLinkStateAcknowledgment
  dsimp only
  repeat' split
  all_goals exact ⟨.refl _, rfl⟩

theorem emitLinkStateUpdate_lessens :
    Lessens row.database (row.emitLinkStateUpdate view encodes now).2.database := by
  unfold NeighborExchange.emitLinkStateUpdate
  dsimp only
  repeat' split
  all_goals exact .refl

theorem emitLinkStateRequest_lessens :
    Lessens row.database (row.emitLinkStateRequest view encodes now).2.database := by
  unfold NeighborExchange.emitLinkStateRequest
  dsimp only
  repeat' split
  all_goals exact .refl

theorem emitDatabaseDescription_lessens :
    Lessens adjacency.exchange.database
      (adjacency.emitDatabaseDescription view required encodes now).2.exchange.database := by
  simp only [Adjacency.emitDatabaseDescription]
  repeat' split
  all_goals exact .refl

end Rows

section Owners

theorem Waning.drawn (waning : Waning inst.maximumLsas P) (drawn : Drawn inst inst') :
    Waning inst'.maximumLsas P := by
  obtain ⟨_, rfl⟩ := drawn
  exact waning

theorem Lists.withExchange (h : Lists P owner) (waning : Waning inst.maximumLsas P)
    {owner' : InterfaceOwner} (made : owner.withExchange inst id = some owner') :
    Lists P owner' := by
  simp only [InterfaceOwner.withExchange] at made
  split at made
  · obtain rfl := Option.some.inj made
    exact h
  · split at made
    · cases made
    · obtain rfl := Option.some.inj made
      intro row mem
      obtain old | new := List.mem_append.mp mem
      · exact h row old
      · obtain rfl := List.mem_singleton.mp new
        exact waning.fresh

theorem Lists.changeExchange (h : Lists P owner) {f : NeighborExchange → NeighborExchange}
    (keeps : ∀ row, owner.exchange? id = some row → P row.database → P (f row).database) :
    Lists P (owner.changeExchange id f) := by
  intro row' mem
  obtain ⟨row, found, rfl⟩ | old : (∃ row, owner.exchange? id = some row ∧ f row = row') ∨
      row' ∈ owner.exchanges := Table.mem_update_lookup mem
  · exact keeps row found (h row (Table.mem_of_lookup found))
  · exact h row' old

theorem Lists.setAdjacency (h : Lists P owner) {adjacency adjacency' : Adjacency}
    (found : owner.adjacency? id = some adjacency)
    (keeps : P adjacency.exchange.database → P adjacency'.exchange.database) :
    Lists P (owner.setAdjacency id adjacency') := by
  have here := (adjacency?_rows found).2
  have changed : Lists P (owner.changeExchange id fun _ => adjacency'.exchange) :=
    h.changeExchange fun _ _ _ => keeps (h _ (Table.mem_of_lookup here))
  exact changed

/-- What an operation on an interface leaves of the lists. -/
structure Wanes (inst : Instance) (P : NeighborDatabaseExchange → Prop) (done : OwnerStep) :
    Prop where
  drawn : Drawn inst done.inst
  lists : Lists P done.owner

theorem applyNeighborActions_wanes (h : Lists P owner) (waning : Waning inst.maximumLsas P)
    {actions : NeighborActions} :
    Wanes inst P (applyNeighborActions inst owner id actions now) := by
  simp only [applyNeighborActions]
  split
  next => exact ⟨.refl, h⟩
  rename_i known made
  have lists := h.withExchange waning made
  split
  next => exact ⟨.refl, lists⟩
  rename_i row found
  split
  · exact ⟨.refl, fun row mem => lists row (List.eraseP_sublist.subset mem)⟩
  refine ⟨⟨_, rfl⟩, ?_⟩
  have changed : Lists P (known.changeExchange id fun _ =>
      (row.applyActions (known.view inst) inst.nextDdSequence actions now).row) :=
    lists.changeExchange fun _ _ _ =>
      waning.lessens _ _ (lists row (Table.mem_of_lookup found)) applyActions_lessens
  exact changed

theorem applyAll_wanes {works : List NeighborReconciliation} (h : Lists P owner)
    (waning : Waning inst.maximumLsas P) : Wanes inst P (applyAll now inst owner works) := by
  induction works generalizing inst owner with
  | nil => exact ⟨.refl, h⟩
  | cons work works ih =>
    obtain ⟨drawn, lists⟩ : Wanes inst P
        (applyNeighborActions inst owner work.routerId work.actions now) :=
      applyNeighborActions_wanes h waning
    simp only [applyAll]
    split
    · obtain ⟨further, rest⟩ := ih lists (waning.drawn drawn)
      exact ⟨drawn.trans further, rest⟩
    · exact ⟨drawn, lists⟩

theorem reconcileInterfaceAdjacencies_wanes (h : Lists P owner)
    (waning : Waning inst.maximumLsas P) (actions : InterfaceActions) (now : Time) :
    Wanes inst P (reconcileInterfaceAdjacencies inst owner actions now) := by
  simp only [reconcileInterfaceAdjacencies]
  split
  · exact ⟨.refl, h⟩
  split
  next => exact ⟨.refl, h⟩
  next => exact applyAll_wanes h waning

variable {backupSeen : Bool} {turn : Turn}

section

variable (h : Lists P owner)
include h

section

variable (waning : Waning inst.maximumLsas P)
include waning

theorem neighborChanged_wanes : Wanes inst P (neighborChanged inst owner backupSeen now) := by
  have changed : Lists P { owner with runtime := (owner.runtime.neighborChange backupSeen).2 } := h
  exact reconcileInterfaceAdjacencies_wanes changed waning _ _

theorem applyAndNotify_wanes {work : NeighborReconciliation} :
    Wanes inst P (applyAndNotify inst owner work backupSeen now) := by
  obtain ⟨drawn, lists⟩ : Wanes inst P
      (applyNeighborActions inst owner work.routerId work.actions now) :=
    applyNeighborActions_wanes h waning
  simp only [applyAndNotify]
  split
  · obtain ⟨further, rest⟩ : Wanes _ P (neighborChanged _ _ backupSeen now) :=
      neighborChanged_wanes lists (waning.drawn drawn)
    exact ⟨drawn.trans further, rest⟩
  · exact ⟨drawn, lists⟩

omit waning in
theorem answerPeer_lists {address : BitVec 128} : Lists P (answerPeer owner address id now) := by
  unfold answerPeer
  repeat' split
  all_goals exact h

theorem settleHello_wanes {work : NeighborReconciliation} {address : BitVec 128} :
    Drawn inst (settleHello inst owner work backupSeen address now).inst ∧
      Lists P (settleHello inst owner work backupSeen address now).owner := by
  simp only [settleHello]
  split
  · have heard : Lists P (peerHeard owner address work.routerId now) := h
    obtain ⟨drawn, lists⟩ : Wanes inst P (applyAndNotify inst
        (peerHeard owner address work.routerId now) work backupSeen now) :=
      applyAndNotify_wanes heard waning
    split
    · exact ⟨drawn, lists⟩
    · exact ⟨drawn, answerPeer_lists lists⟩
  · obtain ⟨drawn, lists⟩ : Wanes inst P (applyAndNotify inst owner work backupSeen now) :=
      applyAndNotify_wanes h waning
    split <;> exact ⟨drawn, lists⟩

theorem receiveHello_wanes (packet : PacketView) (view : Option HelloView) (source : PacketSource)
    (now : Time) :
    Drawn inst (receiveHello inst owner packet view source now).inst ∧
      Lists P (receiveHello inst owner packet view source now).owner := by
  obtain ⟨identity, hidentity⟩ : ∃ identity, identity =
    if inst.version = .two then source.ipv4 else packet.routerId := ⟨_, rfl⟩
  simp only [receiveHello, ← hidentity]
  have heard : Lists P
      { owner with runtime := (owner.runtime.receiveHello packet identity view now).2 } := h
  split
  · exact ⟨.refl, heard⟩
  split
  next => exact ⟨.refl, heard⟩
  next known made => exact settleHello_wanes (heard.withExchange waning made) waning

end

theorem keepHelped_lists : Lists P (keepHelped now owner id) := by
  simp only [keepHelped]
  split
  · exact h
  split
  · exact h
  split
  · refine h.changeExchange fun row _ kept => ?_
    unfold endHelping
    split <;> exact kept
  · exact h

end

theorem applyExpired_wanes {works : List NeighborReconciliation} (h : Lists P owner)
    (waning : Waning inst.maximumLsas P) : Wanes inst P (applyExpired now inst owner works) := by
  induction works generalizing inst owner with
  | nil => exact ⟨.refl, h⟩
  | cons work works ih =>
    obtain ⟨drawn, lists⟩ : Wanes inst P (applyAndNotify inst owner work false now) :=
      applyAndNotify_wanes h waning
    simp only [applyExpired]
    split
    · obtain ⟨further, rest⟩ := ih lists (waning.drawn drawn)
      exact ⟨drawn.trans further, rest⟩
    · exact ⟨drawn, lists⟩

theorem emitRow_lists {kind : PacketKind} {asks : NeighborExchange → Bool}
    {emit : Bool → NeighborExchange → Bool × NeighborExchange} (h : Lists P owner)
    (waning : Waning inst.maximumLsas P)
    (lessens : ∀ encodes row, Lessens row.database (emit encodes row).2.database) :
    Lists P (emitRow turn kind asks emit id owner).2 := by
  simp only [emitRow]
  split
  next => exact h
  rename_i row found
  split
  · exact h
  split
  · exact h
  · exact h.changeExchange fun _ _ _ =>
      waning.lessens _ _ (h row (Table.mem_of_lookup found)) (lessens _ row)

theorem emitDescription_lists (h : Lists P owner)
    (waning : Waning inst.maximumLsas P) : Lists P (emitDescription turn inst id owner).2 := by
  simp only [emitDescription]
  split
  next => exact h
  rename_i adjacency found
  split
  · exact h
  split
  · exact h
  · exact h.setAdjacency found fun kept => waning.lessens _ _ kept emitDatabaseDescription_lessens

theorem thenEmit_lists {done : Bool × InterfaceOwner}
    {next : InterfaceOwner → Bool × InterfaceOwner} (h : Lists P done.2)
    (keeps : ∀ owner, Lists P owner → Lists P (next owner).2) : Lists P (thenEmit done next).2 := by
  unfold thenEmit
  split
  · exact keeps _ h
  · exact h

theorem emitNeighbor_lists (h : Lists P owner) (waning : Waning inst.maximumLsas P) :
    Lists P (emitNeighbor turn inst id owner).2 := by
  have woken : Lists P (owner.changeExchange id (·.wake turn.now)) :=
    h.changeExchange fun _ _ kept => kept
  apply thenEmit_lists
  · apply thenEmit_lists
    · apply thenEmit_lists
      · exact emitRow_lists woken waning fun _ _ => emitLinkStateAcknowledgment_lessens
      · exact fun _ lists => emitDescription_lists lists waning
    · exact fun _ lists => emitRow_lists lists waning fun _ _ => emitLinkStateUpdate_lessens
  · exact fun _ lists => emitRow_lists lists waning fun _ _ => emitLinkStateRequest_lessens

theorem emitInterface_lists (h : Lists P owner)
    (waning : Waning inst.maximumLsas P) : Lists P (emitInterface turn inst owner).2 := by
  have greeted : Lists P (sendHello turn owner).2 := by
    unfold sendHello
    repeat' split
    all_goals exact h
  have all : ∀ (ids : List (BitVec 32)) (owner : InterfaceOwner), Lists P owner →
      Lists P (emitAll turn inst ids owner).2 := by
    intro ids
    induction ids with
    | nil => exact fun _ h => h
    | cons id ids ih =>
      exact fun _ h => thenEmit_lists (emitNeighbor_lists h waning) ih
  apply thenEmit_lists
  · apply thenEmit_lists greeted
    intro owner lists
    unfold pollPeers
    split <;> exact lists
  · exact all _

theorem runInterface_wanes (h : Lists P owner) (waning : Waning inst.maximumLsas P) :
    Wanes inst P (runInterface turn inst owner) := by
  have helped : ∀ (ids : List (BitVec 32)) (owner : InterfaceOwner), Lists P owner →
      Lists P (ids.foldl (keepHelped turn.now) owner) := by
    intro ids
    induction ids with
    | nil => exact fun _ h => h
    | cons id ids ih => exact fun _ h => ih _ (keepHelped_lists h)
  obtain ⟨kept, hkept⟩ : ∃ kept, kept =
    (owner.exchanges.map (·.routerId)).foldl (keepHelped turn.now) owner := ⟨_, rfl⟩
  have lists : Lists P { kept with
      runtime := (kept.runtime.processDeadlines turn.now
        NeighborExchange.workBudgetPackets).1 } := hkept ▸ helped _ owner h
  obtain ⟨expired, hexpired⟩ : ∃ expired, expired = applyExpired turn.now inst
      { kept with
        runtime := (kept.runtime.processDeadlines turn.now NeighborExchange.workBudgetPackets).1 }
      (kept.runtime.processDeadlines turn.now NeighborExchange.workBudgetPackets).2.1 := ⟨_, rfl⟩
  obtain ⟨drawn, left⟩ : Wanes inst P expired := hexpired ▸ applyExpired_wanes lists waning
  have waited : Lists P { expired.owner with
      runtime := (expired.owner.runtime.processInterfaceDeadline turn.now).2 } := left
  obtain ⟨further, elected⟩ := reconcileInterfaceAdjacencies_wanes waited (waning.drawn drawn)
    (expired.owner.runtime.processInterfaceDeadline turn.now).1 turn.now
  simp only [runInterface, ← hkept, ← hexpired]
  split
  · exact ⟨drawn, left⟩
  split
  · exact ⟨drawn.trans further, elected⟩
  · exact ⟨drawn.trans further, emitInterface_lists elected (waning.drawn (drawn.trans further))⟩

theorem runInterfaces_wanes (turn : Turn) {owners : List InterfaceOwner}
    (h : ∀ owner ∈ owners, Lists P owner) (waning : Waning inst.maximumLsas P) :
    Drawn inst (runInterfaces turn inst owners).2.1 ∧
      ∀ owner ∈ (runInterfaces turn inst owners).2.2, Lists P owner :=
  runInterfaces_keeps turn (fun drawn lists =>
    have wanes := runInterface_wanes lists (waning.drawn drawn)
    ⟨wanes.drawn, wanes.lists⟩) .refl h

open InstanceProcess

theorem killNeighbor_wanes (h : Lists P owner) (waning : Waning inst.maximumLsas P)
    (id : BitVec 32) (now : Time) :
    Drawn inst (killNeighbor now (inst, owner) id).1 ∧
      Lists P (killNeighbor now (inst, owner) id).2 := by
  simp only [killNeighbor]
  split
  next => exact ⟨.refl, h⟩
  rename_i transition _
  have reacted : Lists P
      { owner with runtime := (owner.runtime.applyNeighborEvent id .killNeighbor false).2 } := h
  obtain ⟨drawn, left⟩ : Wanes inst P (applyAndNotify inst
      { owner with runtime := (owner.runtime.applyNeighborEvent id .killNeighbor false).2 }
      { routerId := id, actions := transition.actions } false now) :=
    applyAndNotify_wanes reacted waning
  exact ⟨drawn, left⟩

theorem killNeighbors_wanes {owners : List InterfaceOwner} (h : ∀ owner ∈ owners, Lists P owner)
    (waning : Waning inst.maximumLsas P) (interfaceId neighborId : BitVec 32) (now : Time) :
    Drawn inst (killNeighbors interfaceId neighborId now inst owners).1 ∧
      ∀ owner ∈ (killNeighbors interfaceId neighborId now inst owners).2, Lists P owner :=
  killNeighbors_keeps interfaceId neighborId now
    (fun id drawn lists => killNeighbor_wanes lists (waning.drawn drawn) id now) .refl h

end Owners

end RouterSim.Ospf
