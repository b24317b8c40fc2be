import RouterSim.Ospf.RestartFlood

/-! The operations of an instance keep what holds of each of its interfaces. -/
namespace RouterSim.Ospf

open List Table LinkStateDatabase

variable {process : InstanceProcess} {inst inst' : Instance} {owner : InterfaceOwner}
  {pending : BitVec 32 → Prop} {id interfaceId : BitVec 32} {now : Time}

section Receive

/-- Every neighbor of the interface is in the state it was in. -/
def SameStates (owner owner' : InterfaceOwner) : Prop :=
  ∀ id neighbor', owner'.runtime.neighbor? id = some neighbor' →
    ∃ neighbor, owner.runtime.neighbor? id = some neighbor ∧ neighbor'.state = neighbor.state

theorem SameStates.refl : SameStates owner owner := fun _ neighbor found => ⟨neighbor, found, rfl⟩

/-- The sender of a packet does not wait in ExStart, unless it is in `pending`. -/
def Negotiated (pending : BitVec 32 → Prop) (id : BitVec 32) (owner : InterfaceOwner) : Prop :=
  ¬ pending id → ∀ neighbor, owner.runtime.neighbor? id = some neighbor → neighbor.state ≠ .exstart

variable {owner' : InterfaceOwner} {source : PacketSource} {packet : PacketView}

theorem Negotiated.same (h : Negotiated pending id owner)
    (same : SameStates owner owner') : Negotiated pending id owner' := by
  intro free neighbor' found'
  obtain ⟨neighbor, found, state⟩ := same id neighbor' found'
  exact state ▸ h free neighbor found

/-- What holds of an instance while it looks at a packet. -/
structure Hearing (pending : BitVec 32 → Prop) (interfaceId id : BitVec 32)
    (process : InstanceProcess) : Prop extends Standing pending process where
  negotiated : ∀ owner, process.interface? interfaceId = some owner → Negotiated pending id owner

section

variable (h : Hearing pending interfaceId id process)
include h

theorem Hearing.interfaces {interfaces : List InterfaceOwner}
    (owned : ∀ owner ∈ interfaces, Owned process.toInstance pending owner)
    (same : ∀ owner', lookup InterfaceOwner.interfaceId interfaceId interfaces =
      some owner' → ∃ owner, process.interface? interfaceId = some owner ∧
        SameStates owner owner') : Hearing pending interfaceId id { process with interfaces } := by
  refine ⟨h.toStanding.interfaces owned, ?_⟩
  intro owner' found'
  obtain ⟨owner, found, states⟩ := same owner' found'
  exact (h.negotiated owner found).same states

omit h in
theorem setInterface_same (found : process.interface? interfaceId = some owner)
    (id_same : owner'.interfaceId = owner.interfaceId) :
    (process.setInterface owner').interface? interfaceId = some owner' := by
  have here : owner.interfaceId = interfaceId := key_of_lookup found
  have own : owner'.interfaceId = interfaceId := id_same.trans here
  show lookup InterfaceOwner.interfaceId interfaceId (update InterfaceOwner.interfaceId
    owner'.interfaceId (fun _ => owner') process.interfaces) = some owner'
  rw [own, lookup_update_same fun _ _ => own]
  exact congrArg (Option.map fun _ => owner') found

theorem Hearing.setInterface (found : process.interface? interfaceId = some owner)
    (owned : Owned process.toInstance pending owner')
    (id_same : owner'.interfaceId = owner.interfaceId) (same : SameStates owner owner') :
    Hearing pending interfaceId id (process.setInterface owner') := by
  refine ⟨h.toStanding.setInterface owned, ?_⟩
  intro other found'
  rw [setInterface_same found id_same] at found'
  obtain rfl := Option.some.inj found'
  exact (h.negotiated owner found).same same

theorem Hearing.instance (sound : Sound inst)
    (neighbors : inst.maximumNeighborsPerInterface = process.maximumNeighborsPerInterface)
    (lsas : inst.maximumLsas = process.maximumLsas) :
    Hearing pending interfaceId id { process with toInstance := inst } :=
  ⟨h.toStanding.instance sound neighbors lsas, h.negotiated⟩

end

theorem deferInactivity_sameStates {other : BitVec 32} {deadline : Time} :
    SameStates owner { owner with runtime := owner.runtime.deferInactivity other deadline } := by
  intro id neighbor' found'
  have keeps : ∀ neighbor : NeighborRuntime,
      (if neighbor.state = .down ∨ deadline = 0 then neighbor
        else if neighbor.inactivityDeadline < deadline then
          { neighbor with inactivityDeadline := deadline }
        else neighbor).routerId = neighbor.routerId := by
    intro neighbor
    repeat' split
    all_goals rfl
  by_cases here : id = other
  · subst here
    simp only [InterfaceRuntime.neighbor?, InterfaceRuntime.deferInactivity,
      InterfaceRuntime.changeNeighbor] at found'
    rw [lookup_update_same fun neighbor own => (keeps neighbor).trans own] at found'
    obtain ⟨neighbor, found, rfl⟩ := Option.map_eq_some_iff.mp found'
    refine ⟨neighbor, found, ?_⟩
    repeat' split
    all_goals rfl
  · simp [InterfaceRuntime.neighbor?, InterfaceRuntime.deferInactivity,
      InterfaceRuntime.changeNeighbor] at found'
    rw [lookup_update_other (fun neighbor own => (keeps neighbor).trans own) here] at found'
    exact ⟨neighbor', found', rfl⟩

/-- What a Grace-LSA leaves of the interface. -/
structure Heard (inst : Instance) (pending : BitVec 32 → Prop) (owner heard : InterfaceOwner) :
    Prop where
  owned : Owned inst pending heard
  interfaceId : heard.interfaceId = owner.interfaceId
  states : SameStates owner heard

theorem receiveGrace_heard (h : Owned inst pending owner)
    {encoded : List (BitVec 8)} {header : LsaHeaderView} {heard : InterfaceOwner}
    (received : receiveGrace inst owner id source encoded header now = some heard) :
    Heard inst pending owner heard := by
  simp only [receiveGrace] at received
  split at received
  next => cases received
  split at received
  · cases received
  split at received
  · obtain rfl := Option.some.inj received
    exact ⟨h.endHelping, rfl, .refl⟩
  · split at received
    next =>
      obtain rfl := Option.some.inj received
      exact ⟨h, rfl, .refl⟩
    next =>
      split at received
      · obtain rfl := Option.some.inj received
        refine ⟨?_, rfl, deferInactivity_sameStates⟩
        apply Owned.deferInactivity
        apply h.changeExchange
        · exact fun _ => ⟨rfl, rfl⟩
        · intro _ _ _ _ _ kept exstart
          have started := kept exstart
          exact started.congr rfl rfl started.requestCursor started.updateCursor started.lists rfl
      · obtain rfl := Option.some.inj received
        exact ⟨h, rfl, .refl⟩

theorem queueFightBack_limits {encoded : List (BitVec 8)} {header : LsaHeaderView}
    (queued : queueFightBack inst encoded header = some inst') :
    ∃ pendingFightBacks, inst' = { inst with pendingFightBacks } := by
  simp only [queueFightBack] at queued
  split at queued
  · repeat' split at queued
    all_goals
      obtain rfl := Option.some.inj queued
      exact ⟨_, rfl⟩
  · split at queued
    · cases queued
    · obtain rfl := Option.some.inj queued
      exact ⟨_, rfl⟩

theorem fightBack_limits {needed : Prop} [Decidable needed] {encoded : List (BitVec 8)}
    {header : LsaHeaderView}
    (queued : (if needed then queueFightBack inst encoded header else some inst) = some inst') :
    ∃ pendingFightBacks, inst' = { inst with pendingFightBacks } := by
  split at queued
  · exact queueFightBack_limits queued
  · obtain rfl := Option.some.inj queued
    exact ⟨_, rfl⟩

theorem receivedLsa_maximumSummaries (exchange : NeighborDatabaseExchange)
    (header : LsaHeaderView) (result : InstallResult) :
    (exchange.receivedLsa header result).maximumSummaries = exchange.maximumSummaries := by
  unfold NeighborDatabaseExchange.receivedLsa
  split <;> rfl

theorem queueDelayedAcknowledgment_queues {exchange queued : NeighborDatabaseExchange}
    {header : LsaHeaderView} (h : exchange.queueDelayedAcknowledgment header = some queued) :
    ∃ acknowledgments, queued = { exchange with acknowledgments } := by
  simp only [NeighborDatabaseExchange.queueDelayedAcknowledgment] at h
  split at h
  · obtain rfl := Option.some.inj h
    exact ⟨_, rfl⟩
  · split at h
    · cases h
    · obtain rfl := Option.some.inj h
      exact ⟨_, rfl⟩

theorem answerSender_steady (header : LsaHeaderView) (result : InstallResult)
    (row : NeighborExchange) : Steady row (answerSender header result row).2 := by
  have satisfied := receivedLsa_maximumSummaries row.database header result
  simp only [answerSender]
  split
  · unfold Adjacency.settleUpdates
    split <;> exact ⟨rfl, satisfied⟩
  · split
    next => split <;> exact ⟨rfl, satisfied⟩
    next queued =>
      obtain ⟨_, rfl⟩ := queueDelayedAcknowledgment_queues queued
      refine ⟨rfl, ?_⟩
      split <;> exact satisfied

variable {encoded : List (BitVec 8)} {header : LsaHeaderView}

section

variable (h : Hearing pending interfaceId id process)
include h

theorem terminateGraceHelpers_hearing :
    Hearing pending interfaceId id (terminateGraceHelpers process) := by
  have keeps : ∀ row, (endHelping row).routerId = row.routerId := fun _ => endHelping_steady.1
  apply h.interfaces
  · intro owner' mem
    obtain ⟨owner, old, rfl⟩ := mem_map.mp mem
    have owned := h.owned owner old
    constructor
    · simp [Function.comp_def, keeps]
      exact owned.keys
    · exact owned.nodup
    · exact owned.fits
    · exact owned.room
    · intro row' mem
      obtain ⟨row, row_old, rfl⟩ := mem_map.mp mem
      exact endHelping_steady.2.trans (owned.summaries row row_old)
    · intro other neighbor row' free hn hr
      have hr : lookup NeighborExchange.routerId other (owner.exchanges.map endHelping) =
        some row' := hr
      rw [lookup_map keeps] at hr
      obtain ⟨row, found, rfl⟩ := Option.map_eq_some_iff.mp hr
      exact fun exstart => (owned.kept other neighbor row free hn found exstart).endHelping
  · intro owner' found'
    rw [lookup_map (f := fun owner : InterfaceOwner =>
      { owner with exchanges := owner.exchanges.map endHelping }) fun _ => rfl] at found'
    obtain ⟨owner, found, rfl⟩ := Option.map_eq_some_iff.mp found'
    exact ⟨owner, found, .refl⟩

theorem reflood_hearing :
    Hearing pending interfaceId id (reflood process interfaceId id header now).2 := by
  simp only [reflood]
  split
  next => exact h
  rename_i record _
  have calm : ∀ owner ∈ process.interfaces,
      Calm pending owner (refloodReaches interfaceId id owner record.key.scope) := by
    intro owner _ row _ reaches _ neighbor found exstart
    have exchanging := (Bool.and_eq_true_iff.mp reaches).2
    rw [found] at exchanging
    simp [exstart, NeighborState.atLeast, NeighborState.rank] at exchanging
  apply h.interfaces
  · exact (h.toStanding.flood calm).owned
  · intro owner' found'
    obtain ⟨owner, found, rfl | rfl⟩ := lookup_sweep (fun _ => rfl) found'
    · exact ⟨_, found, .refl⟩
    · exact ⟨owner, found, .refl⟩

theorem installAdvertisement_hearing (found : process.interface? interfaceId = some owner) :
    Hearing pending interfaceId id
      (installAdvertisement process owner id encoded header now).2 := by
  have here : owner.interfaceId = interfaceId := key_of_lookup found
  have stored : Hearing pending interfaceId id
      { process with
        database :=
          (process.database.install encoded process.version now process.routerId true).2 } :=
    h.instance ⟨install_wellFormed h.sound.database,
        install_maximumRecords.trans h.sound.capacity⟩ rfl rfl
  simp only [installAdvertisement]
  generalize process.database.install encoded process.version now process.routerId true =
    installed at stored ⊢
  split
  · exact stored
  split
  · exact stored
  split
  · exact stored
  split
  next => exact stored
  rename_i inst queued
  obtain ⟨pendingFightBacks, rfl⟩ := fightBack_limits queued
  have kept : Hearing pending interfaceId id
      { process with database := installed.2, pendingFightBacks } :=
    stored.instance ⟨stored.sound.database, stored.sound.capacity⟩ rfl rfl
  split
  next => exact kept
  rename_i row present
  have answers := (kept.interface found).setExchange present
    (answerSender_steady header installed.1 row) fun neighbor free known _ =>
      kept_of_ne (kept.negotiated owner found free neighbor known)
  have answered := kept.setInterface found answers rfl .refl
  split
  · exact answered
  split
  · exact answered
  rw [here]
  apply reflood_hearing
  split
  · exact terminateGraceHelpers_hearing answered
  · exact answered

theorem receiveAdvertisement_hearing (source : PacketSource) (encoded : List (BitVec 8))
    (now : Time) :
    Hearing pending interfaceId id
      (receiveAdvertisement process interfaceId id source encoded now).2 := by
  simp only [receiveAdvertisement]
  split
  next => exact h
  rename_i owner found
  split
  next => exact h
  split
  next => exact h
  rename_i heard received
  have hears : Heard process.toInstance pending owner heard := by
    split at received
    · exact receiveGrace_heard (h.interface found) received
    · obtain rfl := Option.some.inj received
      exact ⟨h.interface found, rfl, .refl⟩
  have written := h.setInterface found hears.owned hears.interfaceId hears.states
  split
  · exact written
  · exact installAdvertisement_hearing written (setInterface_same found hears.interfaceId)

end

theorem receiveAdvertisements_hearing (source : PacketSource) (now : Time)
    (advertisements : List (List (BitVec 8))) (h : Hearing pending interfaceId id process) :
    Hearing pending interfaceId id
      (receiveAdvertisements interfaceId id source now advertisements process).2 := by
  induction advertisements generalizing process with
  | nil => exact h
  | cons encoded rest ih =>
    have first := receiveAdvertisement_hearing h source encoded now
    simp only [receiveAdvertisements]
    split
    · exact first
    · exact ih first

theorem exchanging_ne {state : NeighborState} (exchanging : state.atLeast .exchange = true) :
    state ≠ .exstart := by
  rintro rfl
  cases exchanging

theorem finishLoading_owned (h : Owned inst pending owner) :
    Owned inst pending (finishLoading owner id) := by
  unfold finishLoading
  split
  next => exact h
  rename_i adjacency found
  split
  next done =>
    apply h.setAdjacency found
    · exact react_routerId
    · exact ⟨rfl, rfl⟩
    · intro _ _ exstart
      have before := (react_exstart exstart (.inr (.inr rfl))).1
      rw [done.1] at before
      cases before
  next => exact h

theorem receiveLinkStateUpdate_standing
    {parsed : Option (List (List (BitVec 8)))} (h : Hearing pending interfaceId id process) :
    Standing pending (receiveLinkStateUpdate process interfaceId id source parsed now).2 := by
  unfold receiveLinkStateUpdate
  split
  next => exact h.toStanding
  rename_i advertisements
  have received := receiveAdvertisements_hearing source now advertisements h
  dsimp only
  split
  · exact received.toStanding
  split
  next => exact received.toStanding
  next owner found =>
    exact received.toStanding.setInterface (finishLoading_owned (received.interface found))

theorem Standing.finish (h : Standing pending process) {done : OwnerReceive}
    (receives : Receives process.toInstance pending done) :
    Standing pending (process.finish done).2 := by
  have drawn := h.drawn receives.drawn
  exact drawn.setInterface (receives.owned.drawn receives.drawn)

/-- A neighbor that exchanges databases asks for no advertisement that is missing. -/
def Served (process : InstanceProcess) (owner : InterfaceOwner) (adjacency : Adjacency)
    (packet : PacketView) : Prop :=
  ∀ entries, packet.body = .linkStateRequest (some entries) →
    adjacency.neighbor.state.atLeast .exchange = true →
      (Adjacency.serve (owner.view process.toInstance) entries
        adjacency.exchange.database).1 ≠ .missing

theorem receiveExchange_standing (h : Standing pending process) {adjacency : Adjacency}
    (here : process.interface? interfaceId = some owner)
    (found : owner.adjacency? packet.routerId = some adjacency)
    (served : Served process owner adjacency packet ∨ ∀ id, pending id) :
    Standing pending (process.receiveExchange owner adjacency packet source now).2 := by
  have owned := h.interface here
  obtain ⟨known, exchange⟩ := adjacency?_rows found
  have room : Roomy (owner.view process.toInstance) adjacency.exchange :=
    owned.roomy h.sound exchange
  unfold InstanceProcess.receiveExchange
  dsimp only
  split
  next => exact h
  next view _ =>
    apply h.finish
    refine ⟨⟨_, rfl⟩, ?_⟩
    exact owned.carry found (receiveDatabaseDescription_carries room)
  next entries body =>
    split
    · exact h
    rename_i state
    have state : adjacency.neighbor.state.atLeast .exchange = true := by simpa using state
    have exchanging := exchanging_ne state
    apply h.finish
    refine ⟨.refl, ?_⟩
    obtain ⟨neighborId, steady⟩ := receiveLinkStateRequest_steady adjacency
      (owner.view process.toInstance) (owner.runtime.adjacencyRequired adjacency.neighbor) entries
      now
    apply owned.setAdjacency found neighborId steady
    intro free
    refine (receiveLinkStateRequest_carries exchanging ?_).kept
    rintro asked rfl
    obtain served | everyone := served
    · exact served asked body state
    · exact absurd (everyone _) free
  next advertisements _ =>
    split
    · exact h
    rename_i exchanging
    have exchanging := exchanging_ne (by simpa using exchanging)
    apply receiveLinkStateUpdate_standing
    refine ⟨h, ?_⟩
    have own : owner.interfaceId = interfaceId := key_of_lookup here
    intro other found' _ neighbor known'
    rw [own, here] at found'
    obtain rfl := Option.some.inj found'
    rw [known] at known'
    obtain rfl := Option.some.inj known'
    exact exchanging
  next headers _ =>
    split
    · exact h
    rename_i exchanging
    have exchanging := exchanging_ne (by simpa using exchanging)
    exact h.setInterface (owned.carry found (receiveLinkStateAcknowledgment_carries exchanging))

theorem exchanging_of_known {adjacency : Adjacency}
    (found : process.interface? interfaceId = some owner)
    (version : packet.version = process.version)
    (admits : process.admits owner packet source = true)
    (known : owner.adjacency? packet.routerId = some adjacency)
    (state : adjacency.neighbor.state.atLeast .exchange = true) :
    exchanging process interfaceId packet source = true := by
  simp only [exchanging, found, known, Option.any_some, state, settled, asserted]
  exact ⟨version, admits⟩

theorem receiveValidated_standing (h : Standing pending process)
    (meets : keepsRestarts process (.receive interfaceId packet source now) = true ∨
      ∀ id, pending id) :
    Standing pending (process.receiveValidated interfaceId packet source now).2 := by
  unfold InstanceProcess.receiveValidated
  split
  next => exact h
  rename_i owner found
  split
  next => exact h
  rename_i version
  split
  next => exact h
  rename_i admits
  split
  next => exact h.finish (receiveHello_receives (h.interface found) h.sound)
  split
  next => exact h
  rename_i adjacency known
  apply receiveExchange_standing h found known
  refine meets.imp_left fun meets entries body state => ?_
  have looked := exchanging_of_known found (by simpa using version)
    (by simpa using admits) known state
  obtain ⟨_, exchange⟩ := adjacency?_rows known
  simpa [keepsRestarts, body, looked, asksMissing, found, exchange] using meets

end Receive

section Steps

open InstanceProcess

theorem runReady_standing {turn : Turn} (h : Standing pending process)
    (meets : keepsRestarts process (.runReady turn) = true ∨ ∀ id, pending id) :
    Standing pending (process.runReady turn) := by
  have maintained := maintainDatabase_standing h
    (meets.imp_left fun meets => (Bool.and_eq_true_iff.mp meets).1)
  unfold InstanceProcess.runReady
  dsimp only
  split
  next => exact maintained
  rename_i done
  have originated := originateAll_standing turn.originations maintained
    (meets.imp_left fun meets => by simpa [done] using (Bool.and_eq_true_iff.mp meets).2)
  split
  · exact originated
  · obtain ⟨drawn, owned⟩ := runInterfaces_leaves turn originated.owned originated.sound
    exact (originated.interfaces owned).drawn drawn

variable {configuration : ProcessInterfaceConfiguration}

theorem create_owned {inst : Instance} :
    Owned inst pending
      { configuration
        runtime := .create configuration.protocol inst.maximumNeighborsPerInterface now } := by
  have empty : (InterfaceRuntime.create configuration.protocol inst.maximumNeighborsPerInterface
      now).neighbors = [] := by
    unfold InterfaceRuntime.create
    split <;> rfl
  have room : (InterfaceRuntime.create configuration.protocol inst.maximumNeighborsPerInterface
      now).maximumNeighbors = inst.maximumNeighborsPerInterface := by
    unfold InterfaceRuntime.create
    split <;> rfl
  constructor
  · rw [empty]
    rfl
  · rw [empty]
    exact nodup_nil
  · rw [empty]
    exact Nat.zero_le _
  · exact room
  · exact fun _ mem => absurd mem not_mem_nil
  · intro id neighbor row _ _ found
    cases found

section

variable (h : Standing pending process)
include h

theorem addInterface_standing : Standing pending (process.addInterface configuration now).2 := by
  simp only [addInterface]
  split
  · exact h
  apply h.interfaces
  intro owner mem
  obtain old | new := mem_append.mp mem
  · exact h.owned owner old
  · obtain rfl := mem_singleton.mp new
    exact create_owned

theorem dropInterface_standing : Standing pending (process.dropInterface id) :=
  h.interfaces fun owner mem => h.owned owner (eraseP_sublist.subset mem)

theorem replaceVirtualInterface_standing :
    Standing pending (process.replaceVirtualInterface configuration now).2 := by
  simp only [replaceVirtualInterface]
  split
  · exact h
  split
  · exact addInterface_standing h
  split
  · exact h
  split
  · exact h
  · exact addInterface_standing (dropInterface_standing h)

theorem addNbmaNeighbor_standing {address : BitVec 128} {priority : BitVec 8} {interval : BitVec 16} :
    Standing pending (process.addNbmaNeighbor interfaceId address priority interval now).2 := by
  simp only [addNbmaNeighbor]
  split
  next => exact h
  rename_i owner found
  split
  · exact h
  · exact h.setInterface (h.interface found).peers

end

section Each

variable {Q : InterfaceOwner → Prop} {owners : List InterfaceOwner}

/-- What the loss of a neighbor keeps of an interface the loss of all of them keeps of each. -/
theorem killNeighbors_keeps (interfaceId neighborId : BitVec 32) (now : Time)
    (keeps : ∀ {inst' owner} id, Drawn inst inst' → Q owner →
      Drawn inst' (killNeighbor now (inst', owner) id).1 ∧ Q (killNeighbor now (inst', owner) id).2)
    (drawn : Drawn inst inst') (h : ∀ owner ∈ owners, Q owner) :
    Drawn inst (killNeighbors interfaceId neighborId now inst' owners).1 ∧
      ∀ owner ∈ (killNeighbors interfaceId neighborId now inst' owners).2, Q owner := by
  have kills : ∀ (ids : List (BitVec 32)) inst' owner, Drawn inst inst' → Q owner →
      Drawn inst (ids.foldl (killNeighbor now) (inst', owner)).1 ∧
        Q (ids.foldl (killNeighbor now) (inst', owner)).2 := by
    intro ids
    induction ids with
    | nil => exact fun _ _ drawn holds => ⟨drawn, holds⟩
    | cons id ids ih =>
      intro inst' owner drawn holds
      obtain ⟨further, left⟩ := keeps id drawn holds
      exact ih _ _ (drawn.trans further) left
  induction owners generalizing inst' with
  | nil => exact ⟨drawn, h⟩
  | cons owner owners ih =>
    obtain ⟨first, others⟩ := forall_mem_cons.mp h
    obtain ⟨further, left⟩ := kills _ _ _ drawn first
    obtain ⟨all, rest⟩ := ih further others
    exact ⟨all, forall_mem_cons.mpr ⟨left, rest⟩⟩

/-- The same of the neighbors that go back to one-way, up to the first that fails. -/
theorem regressAll_keeps (now : Time)
    (keeps : ∀ {inst' owner} ids, Drawn inst inst' → Q owner →
      Drawn inst' (regress now ids inst' owner).inst ∧ Q (regress now ids inst' owner).owner)
    (drawn : Drawn inst inst') (h : ∀ owner ∈ owners, Q owner) :
    Drawn inst (regressAll now inst' owners).2.1 ∧
      ∀ owner ∈ (regressAll now inst' owners).2.2, Q owner := by
  induction owners generalizing inst' with
  | nil => exact ⟨drawn, h⟩
  | cons owner owners ih =>
    obtain ⟨first, others⟩ := forall_mem_cons.mp h
    obtain ⟨further, left⟩ := keeps (owner.runtime.neighbors.map (·.routerId)) drawn first
    simp only [regressAll]
    split
    · exact ⟨drawn.trans further, forall_mem_cons.mpr ⟨left, others⟩⟩
    · obtain ⟨all, rest⟩ := ih (drawn.trans further) others
      exact ⟨all, forall_mem_cons.mpr ⟨left, rest⟩⟩

end Each

theorem killNeighbors_owned {owners : List InterfaceOwner}
    (h : ∀ owner ∈ owners, Owned inst pending owner) (sound : Sound inst)
    (interfaceId neighborId : BitVec 32) (now : Time) :
    Drawn inst (killNeighbors interfaceId neighborId now inst owners).1 ∧
      ∀ owner ∈ (killNeighbors interfaceId neighborId now inst owners).2,
        Owned inst pending owner := by
  refine killNeighbors_keeps interfaceId neighborId now (fun id drawn owned => ?_) .refl h
  obtain ⟨further, left⟩ := killNeighbor_leaves (owned.drawn drawn) (sound.drawn drawn) id now
  exact ⟨further, left.drawn drawn.symm⟩

theorem regressOne_succeeds (h : Owned inst pending owner) (sound : Sound inst)
    {transition : NeighborTransition}
    (reacts : (owner.runtime.applyNeighborEvent id .oneWayReceived false).1 = some transition)
    (now : Time) :
    (applyNeighborActions inst
        { owner with runtime := (owner.runtime.applyNeighborEvent id .oneWayReceived false).2 } id
        transition.actions now).ok = true ∧
      Leaves inst pending (applyNeighborActions inst
        { owner with runtime := (owner.runtime.applyNeighborEvent id .oneWayReceived false).2 } id
        transition.actions now) := by
  obtain ⟨owned, mem, stays⟩ := applyNeighborEvent_quiet h (.inr rfl) reacts
  obtain ⟨ok, drawn, left, _⟩ : Succeeds inst (Waits pending id transition.actions) _
      (applyNeighborActions inst _ id transition.actions now) :=
    applyNeighborActions_succeeds owned sound mem (by simpa using stays)
  exact ⟨ok, drawn, left.mono fun _ waits => waits.1⟩

/-- The neighbors in ExStart or beyond go back to one-way. -/
theorem regress_succeeds (ids : List (BitVec 32)) (h : Owned inst pending owner)
    (sound : Sound inst) (now : Time) :
    (regress now ids inst owner).ok = true ∧ Leaves inst pending (regress now ids inst owner) := by
  induction ids generalizing inst owner with
  | nil => exact ⟨rfl, .refl, h⟩
  | cons id ids ih =>
    simp only [regress]
    split
    next => exact ih h sound
    rename_i neighbor known
    split
    · exact ih h sound
    obtain ⟨transition, reacts⟩ : ∃ transition,
        (owner.runtime.applyNeighborEvent id .oneWayReceived false).1 = some transition := by
      simp only [InterfaceRuntime.applyNeighborEvent, known]
      exact ⟨_, rfl⟩
    obtain ⟨ok, drawn, left⟩ := regressOne_succeeds h sound reacts now
    simp only [reacts, ok]
    obtain ⟨done, further, rest⟩ := ih (left.drawn drawn) (sound.drawn drawn)
    exact ⟨done, drawn.trans further, rest.drawn drawn.symm⟩

theorem regressAll_owned {owners : List InterfaceOwner}
    (h : ∀ owner ∈ owners, Owned inst pending owner) (sound : Sound inst) (now : Time) :
    Drawn inst (regressAll now inst owners).2.1 ∧
      ∀ owner ∈ (regressAll now inst owners).2.2, Owned inst pending owner := by
  refine regressAll_keeps now (fun ids drawn owned => ?_) .refl h
  obtain ⟨-, further, left⟩ := regress_succeeds ids (owned.drawn drawn) (sound.drawn drawn) now
  exact ⟨further, left.drawn drawn.symm⟩

theorem eraseReceived_wellFormed (routerId : BitVec 32) {version : Version}
    {database : LinkStateDatabase} (h : database.WellFormed version) :
    (eraseReceived routerId database).WellFormed version ∧
      (eraseReceived routerId database).maximumRecords = database.maximumRecords := by
  unfold eraseReceived
  generalize (database.records.map (·.key)).filter (·.advertisingRouter != routerId) = keys
  induction keys generalizing database with
  | nil => exact ⟨h, rfl⟩
  | cons key keys ih =>
    have erased : (database.erase key).2.WellFormed version := erase_wellFormed h
    obtain ⟨wellFormed, capacity⟩ := ih erased
    exact ⟨wellFormed, capacity.trans erase_maximumRecords⟩

theorem resetDatabase_standing (h : Standing pending process) :
    Standing pending (process.resetDatabase now) := by
  obtain ⟨wellFormed, capacity⟩ := eraseReceived_wellFormed process.routerId h.sound.database
  have erased := h.database wellFormed capacity
  obtain ⟨drawn, owned⟩ := regressAll_owned erased.owned erased.sound now
  exact (erased.interfaces owned).drawn drawn

theorem step_standing {op : Op} (h : Standing pending process)
    (meets : keepsRestarts process op = true ∨ ∀ id, pending id) :
    Standing pending (process.step op) := by
  cases op with
  | receive interfaceId packet source now => exact receiveValidated_standing h meets
  | runReady turn => exact runReady_standing h meets
  | addInterface configuration now => exact addInterface_standing h
  | removeInterface id =>
    simp only [step, removeInterface]
    split
    · exact h
    · exact dropInterface_standing h
  | replaceVirtualInterface configuration now => exact replaceVirtualInterface_standing h
  | removeVirtualInterface id =>
    simp only [step, removeVirtualInterface]
    split
    · exact h
    split
    · exact h
    · exact dropInterface_standing h
  | addNbmaNeighbor interfaceId address priority interval now => exact addNbmaNeighbor_standing h
  | resetNeighbors interfaceId neighborId now =>
    obtain ⟨drawn, owned⟩ := killNeighbors_owned h.owned h.sound interfaceId neighborId now
    exact (h.interfaces owned).drawn drawn
  | resetDatabase now => exact resetDatabase_standing h
  | setGracefulRestartHelper enabled =>
    exact h.instance ⟨h.sound.database, h.sound.capacity⟩ rfl rfl

theorem create_standing {routerId areaId : BitVec 32} {version : Version}
    {instanceId : BitVec 8} {sequence : BitVec 32} {interfaces neighbors lsas : Nat} :
    Standing pending
      (create routerId areaId version instanceId sequence interfaces neighbors lsas) where
  sound := ⟨⟨Nat.zero_le _, fun _ mem => absurd mem not_mem_nil⟩, rfl⟩
  owned := fun _ mem => absurd mem not_mem_nil

end Steps

end RouterSim.Ospf
