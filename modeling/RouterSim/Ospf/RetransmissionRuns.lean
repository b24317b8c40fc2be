import RouterSim.Ospf.RestartRuns
import RouterSim.Ospf.RetransmissionReceive

/-! Over whole runs, the retransmission lists stay inside the database as long as every new
instance of an advertisement gets to the lists that name it, and a reset of the database
finds no received advertisement on a list it does not clear. -/
namespace RouterSim.Ospf

open List Table LinkStateDatabase

variable {process : InstanceProcess} {inst inst' : Instance} {owner : InterfaceOwner}
  {interfaceId id : BitVec 32} {now : Time} {turn : Turn}

section Conditions

/-- A list that names a received advertisement is of a neighbor that a reset regresses. -/
def clearsReceived (process : InstanceProcess) : Bool :=
  process.interfaces.all fun owner => owner.exchanges.all fun row =>
    row.database.retransmissions.all (·.key.advertisingRouter == process.routerId) ||
      (owner.runtime.neighbor? row.routerId).any (·.state.atLeast .exstart)

/-- What an operation has to meet for the lists to stay inside the database. -/
def keepsLists (process : InstanceProcess) : InstanceProcess.Op → Bool
  | .receive interfaceId packet source now =>
    match packet.body with
    | .linkStateUpdate (some advertisements) =>
      !exchanging process interfaceId packet source ||
        packetRefreshes interfaceId packet.routerId source now advertisements process
    | _ => true
  | .runReady turn =>
    let maintained := maintainDatabase process turn.now
    !maintained.1 || originationsRefresh turn.now turn.originations maintained.2
  | .resetDatabase _ => clearsReceived process
  | _ => true

/-- Every entry of every retransmission list names a record of the database and carries its
sequence number and checksum. -/
def ListsCurrent (process : InstanceProcess) : Prop :=
  ∀ owner ∈ process.interfaces, ∀ row ∈ owner.exchanges, ∀ entry ∈ row.database.retransmissions,
    EntryCurrent process.database process.version entry

instance {process : InstanceProcess} : Decidable (ListsCurrent process) :=
  inferInstanceAs (Decidable (∀ owner ∈ process.interfaces, ∀ row ∈ owner.exchanges,
    ∀ entry ∈ row.database.retransmissions, EntryCurrent process.database process.version entry))

end Conditions

variable {P : NeighborDatabaseExchange → Prop}

section Steps

section

variable (h : Retains NoKey process)
include h

theorem Retains.setInterface (lists : Lists (Listed process.database process.version NoKey) owner) :
    Retains NoKey (process.setInterface owner) := by
  refine ⟨h.sound, fun other mem => ?_⟩
  obtain old | ⟨_, _, _, rfl⟩ := mem_update mem
  · exact h.lists other old
  · exact lists

theorem Retains.interface (found : process.interface? interfaceId = some owner) :
    Lists (Listed process.database process.version NoKey) owner :=
  h.lists owner (mem_of_lookup found)

/-- The shared part has only drawn sequence numbers, and the interfaces are as good as they
were. -/
theorem Retains.drawn (drawn : Drawn process.toInstance inst) {interfaces : List InterfaceOwner}
    (lists : ∀ owner ∈ interfaces, Lists (Listed process.database process.version NoKey) owner) :
    Retains NoKey { process with toInstance := inst, interfaces } := by
  obtain ⟨_, rfl⟩ := drawn
  exact ⟨⟨h.sound.database, h.sound.capacity⟩, lists⟩

theorem Retains.finish {done : OwnerReceive} (drawn : Drawn process.toInstance done.inst)
    (lists : Lists (Listed process.database process.version NoKey) done.owner) :
    Retains NoKey (process.finish done).2 := by
  have shared := h.drawn drawn h.lists
  obtain ⟨_, same⟩ := drawn
  apply shared.setInterface
  rw [same]
  exact lists

end

/-- Requested advertisements are queued as the database has them. -/
theorem serve_listed (view : LocalView) (entries : List (Option LinkStateRequestEntry))
    {lists : NeighborDatabaseExchange} (h : Listed view.database view.version NoKey lists)
    (wellFormed : view.database.WellFormed view.version) :
    Listed view.database view.version NoKey (Adjacency.serve view entries lists).2 := by
  fun_induction Adjacency.serve view entries lists with
  | case1 | case2 | case3 | case4 => exact h
  | case5 lists entry rest record found queued done ih =>
    obtain ⟨queued', done', listed⟩ := queueRetransmission_refreshes
      (h.mono fun _ _ => False.elim) wellFormed found
    rw [done] at done'
    obtain rfl := Option.some.inj done'
    exact ih listed

theorem finishLoading_lists (h : Lists P owner) : Lists P (finishLoading owner id) := by
  unfold finishLoading
  split
  next => exact h
  rename_i found
  split
  · exact h.setAdjacency found fun kept => kept
  · exact h

variable {source : PacketSource}

theorem receiveLinkStateUpdate_retains
    {advertisements : List (List (BitVec 8))} (h : Retains NoKey process)
    (meets : packetRefreshes interfaceId id source now advertisements process = true) :
    Retains NoKey
      (receiveLinkStateUpdate process interfaceId id source (some advertisements) now).2 := by
  have received := receiveAdvertisements_retains h meets
  simp only [receiveLinkStateUpdate]
  split
  · exact received
  split
  next => exact received
  next owner found => exact received.setInterface (finishLoading_lists (received.interface found))

variable (h : Retains NoKey process)
include h

theorem receiveExchange_retains {adjacency : Adjacency} {packet : PacketView}
    (here : process.interface? interfaceId = some owner)
    (found : owner.adjacency? packet.routerId = some adjacency)
    (meets : ∀ advertisements, packet.body = .linkStateUpdate (some advertisements) →
      adjacency.neighbor.state.atLeast .exchange = true →
      packetRefreshes interfaceId packet.routerId source now advertisements process = true) :
    Retains NoKey (process.receiveExchange owner adjacency packet source now).2 := by
  have lists := h.interface here
  have waning := listed_waning NoKey h.sound
  have own : owner.interfaceId = interfaceId := key_of_lookup here
  unfold InstanceProcess.receiveExchange
  dsimp only
  split
  next => exact h
  next =>
    refine h.finish ⟨_, rfl⟩ (lists.setAdjacency found fun kept => ?_)
    exact waning.lessens _ _ kept receiveDatabaseDescription_lessens
  next entries _ =>
    split
    · exact h
    refine h.finish .refl (lists.setAdjacency found fun kept => ?_)
    cases entries with
    | none => exact kept
    | some entries =>
      have served := serve_listed (owner.view process.toInstance) entries kept h.sound.database
      simp only [Adjacency.receiveLinkStateRequest]
      split <;> exact served
  next advertisements body =>
    split
    · exact h
    rename_i state
    cases advertisements with
    | none => exact h
    | some advertisements =>
      rw [own]
      exact receiveLinkStateUpdate_retains h (meets advertisements body (by simpa using state))
  next =>
    split
    · exact h
    · exact h.setInterface (lists.setAdjacency found fun kept =>
        waning.lessens _ _ kept receiveLinkStateAcknowledgment_lessens)

theorem receiveValidated_retains {packet : PacketView}
    (meets : keepsLists process (.receive interfaceId packet source now) = true) :
    Retains NoKey (process.receiveValidated interfaceId packet source now).2 := by
  unfold InstanceProcess.receiveValidated
  split
  next => exact h
  rename_i owner found
  split
  · exact h
  rename_i version
  split
  · exact h
  rename_i admits
  split
  next =>
    obtain ⟨drawn, lists⟩ := receiveHello_wanes (h.interface found)
      (listed_waning NoKey h.sound) packet _ source now
    exact h.finish drawn lists
  next =>
    split
    next => exact h
    rename_i adjacency known
    apply receiveExchange_retains h found known
    intro advertisements body state
    have looked := exchanging_of_known found (by simpa using version)
      (by simpa using admits) known state
    simpa [keepsLists, body, looked] using meets

theorem maintainDatabase_retains : Retains NoKey (maintainDatabase process now).2 := by
  apply maintainDatabase_keeps (fun _ => True) (fun _ _ _ _ _ => trivial) _ _ _ h
  · intro process sample h
    simp only [verifyDue]
    split
    · exact h.changeDatabase verifyChecksumAt_persists
        (verifyChecksumAt_wellFormed h.sound.database) verifyChecksumAt_maximumRecords
    · exact h
  · exact fun _ _ h _ => flushKey_keeps h
  · intro process key h safe
    refine ⟨⟨erase_wellFormed h.sound.database,
      erase_maximumRecords.trans h.sound.capacity⟩, fun owner mem row listed => ?_⟩
    apply (h.lists owner mem row listed).erase
    have unlisted := (Bool.and_eq_true_iff.mp (all_eq_true.mp safe owner mem)).2
    simpa using any_eq_false.mp (by simpa using unlisted) row listed

/-- The state the interfaces of a turn run on. -/
def readied (process : InstanceProcess) (turn : Turn) : InstanceProcess :=
  (originateAll turn.now turn.originations (maintainDatabase process turn.now).2).2

theorem readied_retains (meets : keepsLists process (.runReady turn) = true)
    (maintained : (maintainDatabase process turn.now).1 = true) :
    Retains NoKey (readied process turn) := by
  apply originateAll_retains (maintainDatabase_retains h)
  simpa [keepsLists, maintained] using meets

theorem runReady_retains (meets : keepsLists process (.runReady turn) = true) :
    Retains NoKey (process.runReady turn) := by
  unfold InstanceProcess.runReady
  dsimp only
  split
  next => exact maintainDatabase_retains h
  rename_i maintained
  have ready : Retains NoKey (readied process turn) :=
    readied_retains h meets (by simpa using maintained)
  split
  · exact ready
  obtain ⟨drawn, lists⟩ := runInterfaces_wanes turn ready.lists (listed_waning NoKey ready.sound)
  exact ready.drawn drawn lists

end Steps

section Reset

open InstanceProcess

/-- Only the advertisements of the router itself are listed. -/
def OwnOnly (routerId : BitVec 32) (row : NeighborExchange) : Prop :=
  ∀ entry ∈ row.database.retransmissions, entry.key.advertisingRouter = routerId

/-- A list with a received advertisement is of a neighbor still to be regressed. -/
def ToRegress (routerId : BitVec 32) (ids : List (BitVec 32)) (owner : InterfaceOwner) : Prop :=
  ∀ row ∈ owner.exchanges, OwnOnly routerId row ∨
    row.routerId ∈ ids ∧
      (owner.runtime.neighbor? row.routerId).any (·.state.atLeast .exstart) = true

variable {ids : List (BitVec 32)} {routerId : BitVec 32} {pending : BitVec 32 → Prop}

theorem ToRegress.tail (h : ToRegress routerId (id :: ids) owner)
    (below : (owner.runtime.neighbor? id).any (·.state.atLeast .exstart) = false) :
    ToRegress routerId ids owner := by
  intro row mem
  obtain own | ⟨listed, beyond⟩ := h row mem
  · exact .inl own
  · obtain rfl | later := mem_cons.mp listed
    · rw [below] at beyond
      cases beyond
    · exact .inr ⟨later, beyond⟩

/-- A neighbor in ExStart or beyond that goes back to one-way loses its lists. -/
theorem oneWay_clears {state : NeighborState} (required requests : Bool)
    (beyond : state.atLeast .exstart = true) :
    (neighborTransition state .oneWayReceived required requests).actions.clearAdjacency = true ∧
      (neighborTransition state .oneWayReceived required requests).actions.beginDatabaseExchange =
        false := by
  revert beyond
  cases state <;> cases required <;> cases requests <;> decide

theorem regressed_toRegress (inst : Instance) (now : Time) (h : Owned inst pending owner)
    (waits : ToRegress routerId (id :: ids) owner) {neighbor : NeighborRuntime}
    (known : owner.runtime.neighbor? id = some neighbor)
    (beyond : neighbor.state.atLeast .exstart = true) {transition : NeighborTransition}
    (reacts : (owner.runtime.applyNeighborEvent id .oneWayReceived false).1 = some transition) :
    ToRegress routerId ids (applyNeighborActions inst
      { owner with runtime := (owner.runtime.applyNeighborEvent id .oneWayReceived false).2 } id
      transition.actions now).owner := by
  obtain ⟨before, found⟩ := h.row known
  obtain rfl : (neighborTransition neighbor.state .oneWayReceived
      (owner.runtime.adjacencyRequired neighbor) false) = transition := by
    simpa [InterfaceRuntime.applyNeighborEvent, known, NeighborRuntime.react] using reacts
  obtain ⟨clears, begins⟩ := oneWay_clears (owner.runtime.adjacencyRequired neighbor) false beyond
  have stays : (neighborTransition neighbor.state .oneWayReceived
      (owner.runtime.adjacencyRequired neighbor) false).actions.deleteNeighbor = false :=
    neighborTransition_delete
  obtain ⟨reacted, hreacted⟩ : ∃ reacted, reacted =
    (owner.runtime.applyNeighborEvent id .oneWayReceived false).2 := ⟨_, rfl⟩
  have found' : InterfaceOwner.exchange? { owner with runtime := reacted } id = some before := found
  have others : ∀ other, other ≠ id → reacted.neighbor? other = owner.runtime.neighbor? other := by
    intro other ne
    rw [hreacted]
    simp only [InterfaceRuntime.applyNeighborEvent, known]
    exact lookup_update_other (fun _ _ => react_routerId.trans (key_of_lookup known)) ne
  rw [← hreacted]
  simp only [applyNeighborActions, InterfaceOwner.withExchange, found', stays, settled]
  intro row mem
  obtain ⟨old, here, rfl⟩ | ⟨mem, ne⟩ := mem_update_nodup (h.keys ▸ h.nodup) mem
  · -- The list of the neighbor itself is cleared.
    left
    simp only [NeighborExchange.applyActions, clears, begins]
    exact fun _ inside => absurd inside not_mem_nil
  · obtain own | ⟨listed, beyond⟩ := waits row mem
    · exact .inl own
    · refine .inr ⟨(mem_cons.mp listed).resolve_left ne, ?_⟩
      have noted : ∀ drawn : Option (BitVec 32), ∀ other : NeighborRuntime, other.routerId = id →
          (other.note drawn).routerId = id := fun _ _ own => note_routerId.trans own
      rw [InterfaceRuntime.neighbor?, InterfaceRuntime.changeNeighbor,
        lookup_update_other (noted _) ne]
      exact (congrArg (Option.any _) (others _ ne)).trans beyond

theorem regress_clears
    (h : Owned inst pending owner) (sound : Sound inst) (waits : ToRegress routerId ids owner)
    (now : Time) : ∀ row ∈ (regress now ids inst owner).owner.exchanges, OwnOnly routerId row := by
  induction ids generalizing inst owner with
  | nil => exact fun row mem => (waits row mem).resolve_right fun waits => not_mem_nil waits.1
  | cons id ids ih =>
    simp only [regress]
    split
    next absent =>
      apply ih h sound
      apply waits.tail
      rw [absent]
      rfl
    next neighbor known =>
      split
      next below =>
        apply ih h sound
        apply waits.tail
        rw [known]
        simpa using below
      next beyond =>
        obtain ⟨transition, reacts⟩ : ∃ transition,
            (owner.runtime.applyNeighborEvent id .oneWayReceived false).1 = some transition := by
          simp only [InterfaceRuntime.applyNeighborEvent, known]
          exact ⟨_, rfl⟩
        have further := regressed_toRegress inst now h waits known (by simpa using beyond) reacts
        obtain ⟨ok, drawn, left⟩ := regressOne_succeeds h sound reacts now
        simp only [reacts, ok]
        exact ih (left.drawn drawn) (sound.drawn drawn) further

theorem regressAll_clears
    {owners : List InterfaceOwner} (h : ∀ owner ∈ owners, Owned inst pending owner)
    (sound : Sound inst)
    (waits : ∀ owner ∈ owners,
      ToRegress routerId (owner.runtime.neighbors.map (·.routerId)) owner) (now : Time) :
    ∀ owner ∈ (regressAll now inst owners).2.2, ∀ row ∈ owner.exchanges, OwnOnly routerId row := by
  induction owners generalizing inst with
  | nil => exact fun _ mem => absurd mem not_mem_nil
  | cons owner owners ih =>
    have owned := h owner mem_cons_self
    obtain ⟨ok, drawn, _⟩ := regress_succeeds (owner.runtime.neighbors.map (·.routerId)) owned
      sound now
    have cleared := regress_clears owned sound (waits owner mem_cons_self) now
    simp only [regressAll, ok]
    intro other mem
    obtain rfl | mem := mem_cons.mp mem
    · exact cleared
    · exact ih (fun other mem => (h other (mem_cons_of_mem _ mem)).drawn drawn)
        (sound.drawn drawn) (fun other mem => waits other (mem_cons_of_mem _ mem)) other mem

theorem regress_wanes (ids : List (BitVec 32))
    (h : Lists P owner) (waning : Waning inst.maximumLsas P) (now : Time) :
    Wanes inst P (regress now ids inst owner) := by
  induction ids generalizing inst owner with
  | nil => exact ⟨.refl, h⟩
  | cons id ids ih =>
    simp only [regress]
    split
    next => exact ih h waning
    split
    · exact ih h waning
    split
    next => exact ⟨.refl, h⟩
    rename_i transition _
    have reacted : Lists P { owner with
        runtime := (owner.runtime.applyNeighborEvent id .oneWayReceived false).2 } := h
    obtain ⟨drawn, lists⟩ : Wanes inst P (applyNeighborActions inst
        { owner with
          runtime := (owner.runtime.applyNeighborEvent id .oneWayReceived false).2 }
        id transition.actions now) :=
      applyNeighborActions_wanes reacted waning
    split
    · obtain ⟨further, rest⟩ := ih lists (waning.drawn drawn)
      exact ⟨drawn.trans further, rest⟩
    · exact ⟨drawn, lists⟩

theorem regressAll_wanes {owners : List InterfaceOwner}
    (inst : Instance) (h : ∀ owner ∈ owners, Lists P owner) (waning : Waning inst.maximumLsas P)
    (now : Time) :
    Drawn inst (regressAll now inst owners).2.1 ∧
      ∀ owner ∈ (regressAll now inst owners).2.2, Lists P owner :=
  regressAll_keeps now (fun ids drawn lists =>
    have wanes := regress_wanes ids lists (waning.drawn drawn) now
    ⟨wanes.drawn, wanes.lists⟩) .refl h

/-- The advertisements of the router itself outlive a reset. -/
theorem eraseReceived_own {database : LinkStateDatabase} {key : LsaKey}
    (own : key.advertisingRouter = routerId) :
    (eraseReceived routerId database).find key = database.find key := by
  unfold eraseReceived
  have received : ∀ other ∈ (database.records.map (·.key)).filter (·.advertisingRouter != routerId),
      key ≠ other := by
    rintro other mem rfl
    simpa [own] using (mem_filter.mp mem).2
  generalize (database.records.map (·.key)).filter (·.advertisingRouter != routerId) = keys at *
  induction keys generalizing database with
  | nil => rfl
  | cons other keys ih =>
    have kept : (database.erase other).2.find key = database.find key := by
      unfold LinkStateDatabase.erase
      split
      · rfl
      · exact lookup_drop_other (received other mem_cons_self)
    exact (ih fun other mem => received other (mem_cons_of_mem _ mem)).trans kept

theorem resetDatabase_retains (h : Retains NoKey process)
    (standing : Standing pending process) (meets : clearsReceived process = true) :
    Retains NoKey (process.resetDatabase now) := by
  obtain ⟨wellFormed, capacity⟩ := eraseReceived_wellFormed process.routerId h.sound.database
  have erased := standing.database wellFormed capacity
  have waits : ∀ owner ∈ process.interfaces,
      ToRegress process.routerId (owner.runtime.neighbors.map (·.routerId)) owner := by
    intro owner mem row listed
    have either := all_eq_true.mp (all_eq_true.mp meets owner mem) row listed
    obtain own | beyond := Bool.or_eq_true_iff.mp either
    · exact .inl fun entry inside => by simpa using all_eq_true.mp own entry inside
    · obtain ⟨neighbor, known, _⟩ := (Option.any_eq_true _ _).mp beyond
      exact .inr ⟨mem_of_neighbor? known, beyond⟩
  have own := regressAll_clears erased.owned erased.sound waits now
  obtain ⟨drawn, lists⟩ := regressAll_wanes
    { process.toInstance with database := eraseReceived process.routerId process.database }
    h.lists (listed_waning NoKey h.sound) now
  obtain ⟨_, same⟩ := drawn
  unfold InstanceProcess.resetDatabase
  dsimp only
  rw [same]
  refine ⟨⟨wellFormed, capacity.trans h.sound.capacity⟩, fun owner mem row listed => ?_⟩
  have kept := lists owner mem row listed
  have mine := own owner mem row listed
  refine ⟨kept.nodup, fun entry inside => ?_, fun entry inside fresh => ?_,
    kept.room.trans capacity.symm⟩
  · rw [eraseReceived_own (mine entry inside)]
    exact kept.present entry inside
  · unfold EntryCurrent
    rw [eraseReceived_own (mine entry inside)]
    exact kept.current entry inside fresh

end Reset

section Runs

open InstanceProcess

/-- Every neighbor is left out: only the tables are kept in order. -/
abbrev Everyone : BitVec 32 → Prop := fun _ => True

theorem Retains.instance (h : Retains NoKey process) {interfaces : List InterfaceOwner}
    (lists : ∀ owner ∈ interfaces, Lists (Listed process.database process.version NoKey) owner) :
    Retains NoKey { process with interfaces } := ⟨h.sound, lists⟩

theorem addInterface_retains (h : Retains NoKey process)
    {configuration : ProcessInterfaceConfiguration} :
    Retains NoKey (process.addInterface configuration now).2 := by
  simp only [addInterface]
  split
  · exact h
  apply h.instance
  intro owner mem
  obtain old | new := mem_append.mp mem
  · exact h.lists owner old
  · obtain rfl := mem_singleton.mp new
    exact fun _ inside => absurd inside not_mem_nil

theorem dropInterface_retains (h : Retains NoKey process) :
    Retains NoKey (process.dropInterface id) :=
  h.instance fun owner mem => h.lists owner (eraseP_sublist.subset mem)

theorem step_retains {op : Op} (h : Retains NoKey process) (standing : Standing Everyone process)
    (meets : keepsLists process op = true) : Retains NoKey (process.step op) := by
  cases op with
  | receive interfaceId packet source now => exact receiveValidated_retains h meets
  | runReady turn => exact runReady_retains h meets
  | addInterface configuration now => exact addInterface_retains h
  | removeInterface id =>
    simp only [step, removeInterface]
    split
    · exact h
    · exact dropInterface_retains h
  | replaceVirtualInterface configuration now =>
    simp only [step, replaceVirtualInterface]
    repeat' split
    · exact h
    · exact addInterface_retains h
    · exact h
    · exact h
    · exact addInterface_retains (dropInterface_retains h)
  | removeVirtualInterface id =>
    simp only [step, removeVirtualInterface]
    repeat' split
    · exact h
    · exact h
    · exact dropInterface_retains h
  | addNbmaNeighbor interfaceId address priority interval now =>
    simp only [step, addNbmaNeighbor]
    split
    next => exact h
    rename_i owner found
    split
    · exact h
    · have lists := h.interface found
      exact h.setInterface lists
  | resetNeighbors interfaceId neighborId now =>
    obtain ⟨drawn, lists⟩ := killNeighbors_wanes h.lists (listed_waning NoKey h.sound) interfaceId
      neighborId now
    exact h.drawn drawn lists
  | resetDatabase now => exact resetDatabase_retains h standing meets
  | setGracefulRestartHelper enabled => exact ⟨⟨h.sound.database, h.sound.capacity⟩, h.lists⟩

theorem Retains.current (h : Retains NoKey process) : ListsCurrent process :=
  fun owner mem row listed entry inside => (h.lists owner mem row listed).current entry inside id

theorem updateCount_isSome {view : LocalView} {capacity budget written : Nat}
    {entries : List RetransmissionEntry}
    (found : ∀ entry ∈ entries, (view.database.find entry.key).isSome) :
    (NeighborExchange.updateCount view capacity budget written entries).isSome := by
  fun_induction NeighborExchange.updateCount view capacity budget written entries with
  | case1 | case2 => rfl
  | case3 budget written entry rest missing =>
    have present := found entry mem_cons_self
    rw [missing] at present
    cases present
  | case4 => rfl
  | case5 budget written entry rest record _ _ ih =>
    rw [Option.isSome_map]
    exact ih fun other mem => found other (mem_cons_of_mem _ mem)

/-- In every run whose operations meet `keepsLists`, every list names only records of the
database with the sequence number and the checksum they have, after every operation and when
the interfaces of a turn send, and no update finds a record missing. -/
theorem retransmissions_stay_current (routerId areaId : BitVec 32) (version : Version)
    (instanceId : BitVec 8) (sequence : BitVec 32) (interfaces neighbors lsas : Nat) (ops : List Op)
    (meets : Runs.Along step (fun process op => keepsLists process op = true)
      (create routerId areaId version instanceId sequence interfaces neighbors lsas) ops)
    (process : InstanceProcess)
    (reached : process = Runs.run step
      (create routerId areaId version instanceId sequence interfaces neighbors lsas) ops) :
    ListsCurrent process ∧
      (∀ owner ∈ process.interfaces, ∀ row ∈ owner.exchanges, ∀ capacity budget written cursor,
        (NeighborExchange.updateCount (owner.view process.toInstance) capacity budget written
          (row.database.retransmissions.drop cursor)).isSome) ∧
      ∀ turn, keepsLists process (.runReady turn) = true →
        (maintainDatabase process turn.now).1 = true → ListsCurrent (readied process turn) := by
  have start : Standing Everyone
      (create routerId areaId version instanceId sequence interfaces neighbors lsas) :=
    create_standing
  obtain ⟨retains, _⟩ : Retains NoKey process ∧ Standing Everyone process := by
    rw [reached]
    apply Runs.invariant_along (P := fun process => Retains NoKey process ∧
      Standing Everyone process) _ _ meets
    · intro process op ⟨retains, standing⟩ meets
      exact ⟨step_retains retains standing meets, step_standing standing (.inr fun _ => trivial)⟩
    · exact ⟨⟨start.sound, fun _ mem => absurd mem not_mem_nil⟩, start⟩
  refine ⟨retains.current, fun owner mem row listed _ _ _ _ => ?_, fun turn meets maintained =>
    (readied_retains retains meets maintained).current⟩
  apply updateCount_isSome
  exact fun entry inside =>
    (retains.lists owner mem row listed).present entry (mem_of_mem_drop inside)

/-- A packet of router 4.4.4.4 on the second interface. -/
def fromSecond (body : PacketBody) (at' : Nat) : Op :=
  .receive 2#32 { routerId := 0x04040404#32, areaId := 0#32, version := .two, body }
    { ipv4 := 0x0a000102#32 } (seconds at')

/-- Two instances of the router advertisement of 3.3.3.3. -/
def firstInstance : List (BitVec 8) :=
  [0, 1, 2, 1, 3, 3, 3, 3, 3, 3, 3, 3, 128, 0, 0, 1, 154, 176, 0, 24, 0, 0, 0, 0].map
    (BitVec.ofNat 8)

def secondInstance : List (BitVec 8) :=
  [0, 1, 2, 1, 3, 3, 3, 3, 3, 3, 3, 3, 128, 0, 0, 2, 152, 177, 0, 24, 0, 0, 0, 0].map
    (BitVec.ofNat 8)

/-- Router 1.1.1.1, and two neighbors that begin to exchange databases with it. -/
def betweenTwo : InstanceProcess := create 0x01010101#32 0#32 .two 0#8 100#32 2 4 16

def twoExchanges : List Op :=
  [.addInterface (linkOf 1#32 0x0a000001#32) (seconds 1),
    .addInterface (linkOf 2#32 0x0a000101#32) (seconds 1),
    fromFirst heardHello 2, fromSecond heardHello 2,
    fromFirst masterDescription 3, fromSecond masterDescription 3,
    fromFirst (.linkStateUpdate (some [firstInstance])) 4]

/-- The second neighbor acknowledges what it was flooded before it sends a newer instance. -/
def acknowledgedUpdate : List Op :=
  twoExchanges ++
    [fromSecond (.linkStateAcknowledgment (some
        [{ linkStateId := 0x03030303#32, advertisingRouter := 0x03030303#32,
           sequenceNumber := 0x80000001#32, type := 1#16, checksum := 0x9ab0#16,
           length := 24#16 }])) 5,
      fromSecond (.linkStateUpdate (some [secondInstance])) 6,
      .runReady { now := seconds 7 }]

theorem acknowledged_update_current : ListsCurrent (Runs.run step betweenTwo acknowledgedUpdate) :=
  (retransmissions_stay_current 0x01010101#32 0#32 .two 0#8 100#32 2 4 16 acknowledgedUpdate
    (by decide +kernel) _ rfl).1

/-- The newer instance crosses the older one on its way to the second neighbor, whose list
keeps the older one. -/
theorem crossed_update_stays_listed :
    ¬ ListsCurrent (Runs.run step betweenTwo
      (twoExchanges ++ [fromSecond (.linkStateUpdate (some [secondInstance])) 6])) := by
  decide +kernel

end Runs

end RouterSim.Ospf
