import RouterSim.Ospf.RetransmissionFlood

/-! When a new instance of an advertisement replaces the old one, the lists that name its key
have to be brought up to date: what a packet and the router's own originations do to them. -/
namespace RouterSim.Ospf

open List Table LinkStateDatabase Option

/-- Every list that names the key of the new instance is one that is reached, or holds that
instance already. -/
def refreshed (process : InstanceProcess) (header : LsaHeaderView)
    (reaches : InterfaceOwner → NeighborExchange → Bool) : Bool :=
  process.interfaces.all fun owner => owner.exchanges.all fun row =>
    row.database.retransmissions.all fun entry =>
      entry.key != lsaKey header || reaches owner row ||
        entry.sequenceNumber == header.sequenceNumber && entry.checksum == header.checksum

/-- The interface and the header of an advertisement that gets to the database. -/
def offered (process : InstanceProcess) (interfaceId id : BitVec 32) (source : PacketSource)
    (encoded : List (BitVec 8)) (now : Time) : Option (InterfaceOwner × LsaHeaderView) :=
  (process.interface? interfaceId).bind fun owner =>
    (lsaHeader encoded process.version).bind fun header =>
      (if graceIdentity header process.version then
          receiveGrace process.toInstance owner id source encoded header now
        else some owner).bind fun heard =>
          if crossesVirtualLink heard (lsaKey header).scope then none else some (heard, header)

/-- The sender's row has room for the acknowledgment. -/
def acknowledgeable (owner : InterfaceOwner) (id : BitVec 32) (header : LsaHeaderView) : Bool :=
  (owner.exchange? id).any fun row =>
    row.database.acknowledgments.any (NeighborDatabaseExchange.sameInstance header) ||
      row.database.acknowledgments.length != row.database.maximumAcknowledgments

/-- A received advertisement that is installed is acknowledged, and flooded to every neighbor
whose list names its key. -/
def advertisementRefreshes (process : InstanceProcess) (interfaceId id : BitVec 32)
    (source : PacketSource) (encoded : List (BitVec 8)) (now : Time) : Bool :=
  (offered process interfaceId id source encoded now).all fun (sender, header) =>
    (process.database.install encoded process.version now process.routerId true).1 != .installed ||
      refreshed process header fun owner row => acknowledgeable sender id header &&
        refloodReaches interfaceId id owner (lsaKey header).scope row

/-- The same for the advertisements of a packet, each in the state it is looked at. -/
def packetRefreshes (interfaceId id : BitVec 32) (source : PacketSource) (now : Time) :
    List (List (BitVec 8)) → InstanceProcess → Bool
  | [], _ => true
  | encoded :: rest, process =>
    let done := receiveAdvertisement process interfaceId id source encoded now
    advertisementRefreshes process interfaceId id source encoded now &&
      (done.1.isSome || packetRefreshes interfaceId id source now rest done.2)

/-- An advertisement the router installs itself is flooded to every neighbor whose list names
its key. -/
def originationRefreshes (process : InstanceProcess) (bytes : List (BitVec 8))
    (linkInterface : Option (BitVec 32)) (now : Time) : Bool :=
  (lsaHeader bytes process.version).all fun header =>
    (process.database.install bytes process.version now process.routerId false).1 != .installed ||
      refreshed process header fun owner row =>
        floodReaches owner (lsaKey header).scope linkInterface now row

/-- The same for the originations of a turn. An advertisement that is only stored is flushed
next. -/
def originationsRefresh (now : Time) : List LocalOrigination → InstanceProcess → Bool
  | [], _ => true
  | .store bytes :: .flush key :: rest, process =>
    let stored := originate process now (.store bytes)
    let flushed := originate stored.2 now (.flush key)
    (lsaHeader bytes process.version).all (lsaKey · == key) &&
      originationRefreshes process bytes none now &&
      (!stored.1 || !flushed.1 || originationsRefresh now rest flushed.2)
  | .store bytes :: rest, process =>
    let stored := originate process now (.store bytes)
    (process.database.install bytes process.version now process.routerId false).1 != .installed &&
      (!stored.1 || originationsRefresh now rest stored.2)
  | .advertise bytes linkInterface :: rest, process =>
    let done := originate process now (.advertise bytes linkInterface)
    originationRefreshes process bytes linkInterface now &&
      (!done.1 || originationsRefresh now rest done.2)
  | .flush key :: rest, process =>
    let done := originate process now (.flush key)
    !done.1 || originationsRefresh now rest done.2
  | .settleFightBacks :: rest, process =>
    originationsRefresh now rest (originate process now .settleFightBacks).2

variable {process : InstanceProcess} {owner owner' : InterfaceOwner} {stale : LsaKey → Prop}
  {interfaceId id : BitVec 32} {now : Time} {key : LsaKey} {header : LsaHeaderView}
  {encoded : List (BitVec 8)}

/-- What installing an advertisement gives. -/
abbrev InstanceProcess.installs (process : InstanceProcess) (encoded : List (BitVec 8)) (now : Time)
    (received : Bool) : InstallResult × LinkStateDatabase :=
  process.database.install encoded process.version now process.routerId received

section Install

/-- An advertisement that is installed leaves stale entries only where `refreshed` says that
the flood that follows reaches. -/
theorem install_retains (h : Retains NoKey process)
    (read : lsaHeader encoded process.version = some header) {received : Bool}
    {reaches : InterfaceOwner → NeighborExchange → Bool}
    (meets : refreshed process header reaches = true)
    (installed : (process.installs encoded now received).1 = .installed) :
    Retains (· = lsaKey header)
        { process with database := (process.installs encoded now received).2 } ∧
      ∀ owner ∈ process.interfaces, ∀ row ∈ owner.exchanges, reaches owner row = false →
        Listed (process.installs encoded now received).2 process.version NoKey row.database := by
  have stored : Retains (· = lsaKey header)
      { process with database := (process.installs encoded now received).2 } :=
    (h.mono fun _ => False.elim).changeDatabase (install_persists read)
      (install_wellFormed h.sound.database) install_maximumRecords
  refine ⟨stored, fun owner mem row listed unreached => ?_⟩
  obtain ⟨refused, _⟩ | ⟨_, record, found, bytes⟩ :=
    process.database.install_cases read now process.routerId received
  · exact absurd installed refused
  · apply (stored.lists owner mem row listed).mono
    intro entry inside same
    -- An entry that is not flooded is of the new instance already.
    have whole := all_eq_true.mp (all_eq_true.mp
      (all_eq_true.mp meets owner mem) row listed) entry inside
    simp only [same, unreached, bne_self_eq_false, settled, asserted] at whole
    refine .inr ⟨record, ?_, header, ?_, whole.1, whole.2⟩
    · rw [same]
      exact found
    · rw [bytes]
      exact read

end Install

section Originate

theorem floodKey_keeps (h : Retains NoKey process) {linkInterface : Option (BitVec 32)} :
    Retains NoKey (floodKey process key linkInterface now).2 := by
  unfold floodKey
  split
  · exact h
  rename_i record found
  exact floodRecord_retains (h.mono fun _ => False.elim) found
    fun owner mem row listed _ => h.lists owner mem row listed

theorem flushKey_keeps (h : Retains NoKey process) :
    Retains NoKey (flushKey process key now).2 := by
  simp only [flushKey]
  split
  · exact floodKey_keeps (h.changeDatabase prematureAge_persists
      (prematureAge_wellFormed h.sound.database) prematureAge_maximumRecords)
  · exact h

theorem install_unread {version : Version} (unread : lsaHeader encoded version = none)
    (database : LinkStateDatabase) (now : Time) (router : BitVec 32) (received : Bool) :
    database.install encoded version now router received = (.malformed, database) := by
  unfold LinkStateDatabase.install
  rw [unread]

theorem refused_retains (h : Retains NoKey process) {received : Bool}
    (refused : (process.installs encoded now received).1 ≠ .installed) :
    Retains NoKey { process with database := (process.installs encoded now received).2 } := by
  have same : (process.installs encoded now received).2 = process.database := by
    cases read : lsaHeader encoded process.version with
    | none => rw [InstanceProcess.installs, install_unread read]
    | some header =>
      obtain ⟨_, same⟩ | ⟨installed, _⟩ :=
        process.database.install_cases read now process.routerId received
      · exact same
      · exact absurd installed refused
  rw [same]
  exact h

/-- What is stored is as it was, or stale only where the flood that follows reaches. -/
theorem storeLocal_retains (h : Retains NoKey process) {linkInterface : Option (BitVec 32)}
    (meets : originationRefreshes process encoded linkInterface now = true) :
    Retains NoKey (storeLocal process encoded now).2 ∨
      ∃ header, lsaHeader encoded process.version = some header ∧
        (storeLocal process encoded now).1 = true ∧
        Retains (· = lsaKey header) (storeLocal process encoded now).2 ∧
        ((storeLocal process encoded now).2.database.find (lsaKey header)).isSome ∧
        ∀ owner ∈ process.interfaces, ∀ row ∈ owner.exchanges,
          floodReaches owner (lsaKey header).scope linkInterface now row = false →
          Listed (storeLocal process encoded now).2.database process.version NoKey row.database := by
  by_cases installed : (process.installs encoded now false).1 = .installed
  · cases read : lsaHeader encoded process.version with
    | none =>
      rw [InstanceProcess.installs, install_unread read] at installed
      cases installed
    | some header =>
      obtain ⟨refused, _⟩ | ⟨_, record, found, _⟩ :=
        process.database.install_cases read now process.routerId false
      · exact absurd installed refused
      · obtain ⟨stored, others⟩ := install_retains h read
          (by simpa [originationRefreshes, read, installed] using meets) installed
        exact .inr ⟨header, rfl, by simp [storeLocal, installed], stored,
          isSome_iff_exists.mpr ⟨record, found⟩, others⟩
  · exact .inl (refused_retains h installed)

theorem advertise_retains (h : Retains NoKey process) {linkInterface : Option (BitVec 32)}
    (meets : originationRefreshes process encoded linkInterface now = true) :
    Retains NoKey (originate process now (.advertise encoded linkInterface)).2 := by
  simp only [originate]
  obtain kept | ⟨header, read, ok, stored, present, others⟩ := storeLocal_retains h meets
  · split
    · exact kept
    · split
      · exact floodKey_keeps kept
      · exact kept
  · simp [read, ok]
    exact floodKey_retains stored others present

theorem prematureAge_succeeds {database : LinkStateDatabase} {version : Version}
    {record : LsaRecord} (wellFormed : database.WellFormed version)
    (found : database.find key = some record) (now : Time) :
    (database.prematureAge key now).1 = true := by
  have reads := wellFormed.headers record (mem_of_lookup found)
  have long : ¬ record.bytes.length < lsaHeaderOctets := by
    intro short
    simp [lsaHeader, short] at reads
  simp [LinkStateDatabase.prematureAge, found, if_neg long]

/-- An advertisement that is stored and flushed at once. -/
theorem flush_retains (h : Retains (· = key) process) (present : (process.database.find key).isSome)
    (others : ∀ owner ∈ process.interfaces, ∀ row ∈ owner.exchanges,
      floodReaches owner key.scope none now row = false →
      Listed process.database process.version NoKey row.database) :
    Retains NoKey (flushKey process key now).2 := by
  obtain ⟨record, found⟩ := isSome_iff_exists.mp present
  have ages := prematureAge_succeeds h.sound.database found now
  have persists : ∀ stale, Persists process.version stale process.database
      (process.database.prematureAge key now).2 := fun _ => prematureAge_persists
  obtain ⟨aged, found', _⟩ := persists (· = key) key record found
  simp only [flushKey, ages]
  apply floodKey_retains
  · exact h.changeDatabase (persists _) (prematureAge_wellFormed h.sound.database)
      prematureAge_maximumRecords
  · intro owner mem row listed unreached
    exact (others owner mem row listed unreached).persist (persists _) prematureAge_maximumRecords
  · exact isSome_iff_exists.mpr ⟨aged, found'⟩

theorem storeFlush_retains (h : Retains NoKey process)
    (same : (lsaHeader encoded process.version).all (lsaKey · == key) = true)
    (meets : originationRefreshes process encoded none now = true) :
    Retains NoKey (flushKey (storeLocal process encoded now).2 key now).2 := by
  obtain kept | ⟨header, read, -, stored, present, others⟩ := storeLocal_retains h meets
  · exact flushKey_keeps kept
  · obtain rfl : lsaKey header = key := by simpa [read] using same
    exact flush_retains stored present others

theorem store_refused (h : Retains NoKey process)
    (fails : (storeLocal process encoded now).1 = false) :
    Retains NoKey (storeLocal process encoded now).2 := by
  apply refused_retains h
  intro installed
  simp [storeLocal, installed] at fails

/-- One origination of a turn, and what follows it if it succeeds. -/
theorem originateAll_cons {origination : LocalOrigination} {rest : List LocalOrigination}
    (first : Retains NoKey (originate process now origination).2)
    (then' : (originate process now origination).1 = true →
      Retains NoKey (originateAll now rest (originate process now origination).2).2) :
    Retains NoKey (originateAll now (origination :: rest) process).2 := by
  simp only [originateAll]
  split
  next succeeded => exact then' succeeded
  next => exact first

theorem originateAll_retains {originations : List LocalOrigination} (h : Retains NoKey process)
    (meets : originationsRefresh now originations process = true) :
    Retains NoKey (originateAll now originations process).2 := by
  fun_induction originationsRefresh now originations process with
  | case1 process => exact h
  | case2 bytes key rest process stored flushed ih =>
    simp only [asserted] at meets
    obtain ⟨⟨same, refreshes⟩, further⟩ := meets
    have done : Retains NoKey flushed.2 := storeFlush_retains h same refreshes
    simp only [originateAll]
    split
    next stores =>
      split
      next flushes =>
        obtain (dead | dead) | meets := further
        · cases stores.symm.trans dead
        · cases flushes.symm.trans dead
        · exact ih done meets
      next => exact done
    next fails => exact store_refused h (Bool.eq_false_iff.mpr fails)
  | case3 bytes rest process _ stored ih =>
    simp only [asserted] at meets
    obtain ⟨refused, further⟩ := meets
    have first : Retains NoKey stored.2 := refused_retains h refused
    apply originateAll_cons first
    intro succeeded
    obtain dead | meets := further
    · cases succeeded.symm.trans dead
    · exact ih first meets
  | case4 bytes linkInterface rest process done ih =>
    simp only [asserted] at meets
    obtain ⟨refreshes, further⟩ := meets
    have first : Retains NoKey done.2 := advertise_retains h refreshes
    apply originateAll_cons first
    intro succeeded
    obtain dead | meets := further
    · cases succeeded.symm.trans dead
    · exact ih first meets
  | case5 key rest process done ih =>
    simp only [asserted] at meets
    have first : Retains NoKey done.2 := flushKey_keeps h
    apply originateAll_cons first
    intro succeeded
    obtain dead | meets := meets
    · cases succeeded.symm.trans dead
    · exact ih first meets
  | case6 rest process ih =>
    have first : Retains NoKey (originate process now .settleFightBacks).2 :=
      ⟨⟨h.sound.database, h.sound.capacity⟩, h.lists⟩
    apply originateAll_cons first
    intro _
    exact ih first meets

end Originate

section Receive

/-- The interface as a flood sees it: it reaches the same neighbors, and no list is longer. -/
structure Follows (owner owner' : InterfaceOwner) : Prop where
  configuration : owner'.configuration = owner.configuration
  states : ∀ id, (owner'.runtime.neighbor? id).map (·.state) =
    (owner.runtime.neighbor? id).map (·.state)
  rows : ∀ row' ∈ owner'.exchanges, ∃ row ∈ owner.exchanges, row'.routerId = row.routerId ∧
    Lessens row.database row'.database

theorem Follows.refl : Follows owner owner :=
  ⟨rfl, fun _ => rfl, fun row mem => ⟨row, mem, rfl, .refl⟩⟩

theorem Follows.trans {owner'' : InterfaceOwner} (h : Follows owner owner')
    (h' : Follows owner' owner'') : Follows owner owner'' where
  configuration := h'.configuration.trans h.configuration
  states := fun id => (h'.states id).trans (h.states id)
  rows := by
    intro row'' mem
    obtain ⟨row', mem', same', lessens'⟩ := h'.rows row'' mem
    obtain ⟨row, old, same, lessens⟩ := h.rows row' mem'
    exact ⟨row, old, same'.trans same, lessens.trans lessens'⟩

variable {row : NeighborExchange} {deadline : Time} {source : PacketSource}

theorem refloodReaches_follows (follows : Follows owner owner') {scope : FloodingScope}
    {row' : NeighborExchange} (same : row'.routerId = row.routerId) :
    refloodReaches interfaceId id owner' scope row' =
      refloodReaches interfaceId id owner scope row := by
  have states : (owner'.runtime.neighbor? row.routerId).any (·.state.atLeast .exchange) =
      (owner.runtime.neighbor? row.routerId).any (·.state.atLeast .exchange) := by
    have mapped := congrArg (Option.any (NeighborState.atLeast · .exchange))
      (follows.states row.routerId)
    rw [Option.any_map, Option.any_map] at mapped
    exact mapped
  simp [refloodReaches, crossesVirtualLink, InterfaceOwner.interfaceId,
    InterfaceOwner.networkType, follows.configuration, same, states]

theorem changeExchange_follows {f : NeighborExchange → NeighborExchange}
    (same : ∀ row, owner.exchange? id = some row → (f row).routerId = row.routerId)
    (lessens : ∀ row, owner.exchange? id = some row → Lessens row.database (f row).database) :
    Follows owner (owner.changeExchange id f) where
  configuration := rfl
  states := fun _ => rfl
  rows := by
    intro row' mem
    obtain ⟨row, found, rfl⟩ | old : (∃ row, owner.exchange? id = some row ∧ f row = row') ∨
        row' ∈ owner.exchanges := mem_update_lookup mem
    · exact ⟨row, mem_of_lookup found, same row found, lessens row found⟩
    · exact ⟨row', old, rfl, .refl⟩

theorem endHelping_lessens :
    (endHelping row).routerId = row.routerId ∧ Lessens row.database (endHelping row).database := by
  unfold endHelping
  split <;> exact ⟨rfl, .refl⟩

theorem deferInactivity_states {runtime : InterfaceRuntime} {other : BitVec 32} :
    ((runtime.deferInactivity other deadline).neighbor? id).map (·.state) =
      (runtime.neighbor? id).map (·.state) := by
  have keeps : ∀ neighbor : NeighborRuntime, neighbor.routerId = other →
      (if neighbor.state = .down ∨ deadline = 0 then neighbor
        else if neighbor.inactivityDeadline < deadline then
          { neighbor with inactivityDeadline := deadline }
        else neighbor).routerId = other := by
    intro neighbor own
    repeat' split
    all_goals exact own
  simp only [InterfaceRuntime.neighbor?, InterfaceRuntime.deferInactivity,
    InterfaceRuntime.changeNeighbor]
  by_cases here : id = other
  · subst here
    rw [lookup_update_same keeps, Option.map_map]
    congr 1
    funext neighbor
    simp only [Function.comp_apply]
    repeat' split
    all_goals rfl
  · rw [lookup_update_other keeps here]

theorem Follows.deferInactivity (h : Follows owner owner') {other : BitVec 32} :
    Follows owner { owner' with runtime := owner.runtime.deferInactivity other deadline } :=
  ⟨h.configuration, fun _ => deferInactivity_states, h.rows⟩

theorem help_follows {inst : Instance} :
    Follows owner (help inst owner id source deadline now) := by
  apply Follows.deferInactivity
  apply changeExchange_follows
  · exact fun _ _ => rfl
  · exact fun _ _ => .refl

theorem receiveGrace_follows {inst : Instance} {heard : InterfaceOwner}
    (received : receiveGrace inst owner id source encoded header now = some heard) :
    Follows owner heard := by
  simp only [receiveGrace] at received
  split at received
  next => cases received
  split at received
  · cases received
  split at received
  · obtain rfl := some.inj received
    exact changeExchange_follows (fun _ _ => endHelping_lessens.1) fun _ _ => endHelping_lessens.2
  · split at received
    next =>
      obtain rfl := some.inj received
      exact .refl
    next =>
      split at received
      · obtain rfl := some.inj received
        exact help_follows
      · obtain rfl := some.inj received
        exact .refl

/-- The lists of interfaces that follow those of an instance. -/
theorem Retains.follow (h : Retains stale process) {interfaces : List InterfaceOwner}
    (follows : ∀ owner' ∈ interfaces, ∃ owner ∈ process.interfaces, Follows owner owner') :
    Retains stale { process with interfaces } := by
  refine ⟨h.sound, fun owner' mem row' listed' => ?_⟩
  obtain ⟨owner, old, follow⟩ := follows owner' mem
  obtain ⟨row, listed, _, lessens⟩ := follow.rows row' listed'
  exact (h.lists owner old row listed).lessen lessens

theorem setInterface_follows (found : process.interface? interfaceId = some owner)
    (follows : Follows owner owner') :
    ∀ after ∈ (process.setInterface owner').interfaces,
      ∃ before ∈ process.interfaces, Follows before after := by
  intro after mem
  obtain old | ⟨_, _, _, rfl⟩ := mem_update mem
  · exact ⟨after, old, .refl⟩
  · exact ⟨owner, mem_of_lookup found, follows⟩

theorem terminateGraceHelpers_follows :
    ∀ after ∈ (terminateGraceHelpers process).interfaces,
      ∃ before ∈ process.interfaces, Follows before after := by
  intro after mem
  obtain ⟨before, old, rfl⟩ := mem_map.mp mem
  refine ⟨before, old, rfl, fun _ => rfl, fun row' mem => ?_⟩
  obtain ⟨row, listed, rfl⟩ := mem_map.mp mem
  exact ⟨row, listed, endHelping_lessens.1, endHelping_lessens.2⟩

theorem answerSender_lessens {result : InstallResult} :
    Lessens row.database (answerSender header result row).2.database := by
  have satisfied : Lessens row.database (row.database.receivedLsa header result) := by
    unfold NeighborDatabaseExchange.receivedLsa
    split <;> exact ⟨.refl _, rfl⟩
  have acknowledged : Lessens row.database
      ((row.database.receivedLsa header result).acknowledge header).2 :=
    satisfied.trans acknowledge_lessens
  simp only [answerSender]
  split
  · unfold Adjacency.settleUpdates
    split <;> exact acknowledged
  · split
    next =>
      split <;> assumption
    next queued =>
      obtain ⟨_, rfl⟩ := queueDelayedAcknowledgment_queues queued
      split
      · exact ⟨acknowledged.sublist, acknowledged.capacity⟩
      · exact ⟨satisfied.sublist, satisfied.capacity⟩

/-- An advertisement just installed is answered if there is room for the acknowledgment. -/
theorem answerSender_succeeds
    (room : (row.database.acknowledgments.any (NeighborDatabaseExchange.sameInstance header) ||
      row.database.acknowledgments.length != row.database.maximumAcknowledgments) = true) :
    (answerSender header .installed row).1 = true := by
  have same : (row.database.receivedLsa header .installed).acknowledgments =
      row.database.acknowledgments := by
    unfold NeighborDatabaseExchange.receivedLsa
    split <;> rfl
  have capacity : (row.database.receivedLsa header .installed).maximumAcknowledgments =
      row.database.maximumAcknowledgments := by
    unfold NeighborDatabaseExchange.receivedLsa
    split <;> rfl
  simp only [answerSender, NeighborDatabaseExchange.queueDelayedAcknowledgment, same, capacity,
    reduceCtorEq, settled]
  by_cases known : row.database.acknowledgments.any
      (NeighborDatabaseExchange.sameInstance header) = true
  · simp [known]
  · simp only [refuted] at known
    simp only [known, settled, asserted] at room
    simp [known, room]

theorem refreshed_follows {process' : InstanceProcess}
    {reaches : InterfaceOwner → NeighborExchange → Bool}
    (follows : ∀ after ∈ process'.interfaces, ∃ before ∈ process.interfaces, Follows before after)
    (same : ∀ before after row row', Follows before after → row'.routerId = row.routerId →
      reaches after row' = reaches before row) (meets : refreshed process header reaches = true) :
    refreshed process' header reaches = true := by
  refine all_eq_true.mpr fun after mem => all_eq_true.mpr fun row' listed' =>
    all_eq_true.mpr fun entry inside => ?_
  obtain ⟨before, old, follow⟩ := follows after mem
  obtain ⟨row, listed, id_same, lessens⟩ := follow.rows row' listed'
  rw [same before after row row' follow id_same]
  exact all_eq_true.mp (all_eq_true.mp (all_eq_true.mp meets before old) row listed)
    entry (lessens.sublist.subset inside)

theorem answer_follows (header : LsaHeaderView) (result : InstallResult)
    (present : owner.exchange? id = some row) :
    Follows owner (owner.changeExchange id fun _ => (answerSender header result row).2) := by
  apply changeExchange_follows
  · intro other here
    obtain rfl := some.inj (present.symm.trans here)
    exact (answerSender_steady _ _ _).1
  · intro other here
    obtain rfl := some.inj (present.symm.trans here)
    exact answerSender_lessens

theorem reflood_retains (h : Retains (· = lsaKey header) process)
    (present : (process.database.find (lsaKey header)).isSome)
    (others : ∀ owner ∈ process.interfaces, ∀ row ∈ owner.exchanges,
      refloodReaches interfaceId id owner (lsaKey header).scope row = false →
      Listed process.database process.version NoKey row.database) :
    Retains NoKey (reflood process interfaceId id header now).2 := by
  obtain ⟨record, found⟩ := isSome_iff_exists.mp present
  simp only [reflood, found]
  rw [key_of_find found]
  exact (h.flood now found others).2

theorem refused_advertisement (h : Retains NoKey process)
    (found : process.interface? interfaceId = some owner)
    (refused : (process.installs encoded now true).1 ≠ .installed) :
    Retains NoKey (installAdvertisement process owner id encoded header now).2 := by
  have kept := refused_retains h refused
  simp only [installAdvertisement]
  unfold InstanceProcess.installs at kept refused
  generalize process.database.install encoded process.version now process.routerId true =
    installed at kept refused ⊢
  split
  · exact kept
  split
  · exact kept
  split
  · exact kept
  split
  next => exact kept
  rename_i inst queued
  obtain ⟨pendingFightBacks, rfl⟩ := fightBack_limits queued
  have waits : Retains NoKey { process with database := installed.2, pendingFightBacks } :=
    ⟨⟨kept.sound.database, kept.sound.capacity⟩, kept.lists⟩
  split
  next => exact waits
  rename_i row present
  split
  · exact waits.follow (setInterface_follows found (answer_follows _ _ present))
  · exact waits.follow (setInterface_follows found (answer_follows _ _ present))

theorem installed_advertisement (h : Retains NoKey process)
    (found : process.interface? interfaceId = some owner)
    (read : lsaHeader encoded process.version = some header)
    (installed : (process.installs encoded now true).1 = .installed)
    (meets : refreshed process header (fun other row => acknowledgeable owner id header &&
      refloodReaches interfaceId id other (lsaKey header).scope row) = true) :
    Retains NoKey (installAdvertisement process owner id encoded header now).2 := by
  have here : owner.interfaceId = interfaceId := key_of_lookup found
  obtain ⟨stored, others⟩ := install_retains h read meets installed
  -- Without room for the acknowledgment nothing is flooded, and no list may be stale.
  have unflooded : acknowledgeable owner id header = false →
      Retains NoKey { process with database := (process.installs encoded now true).2 } :=
    fun full => ⟨stored.sound, fun other mem row listed => others other mem row listed (by
      simp [full])⟩
  simp only [installAdvertisement, installed, reduceCtorEq, ne_eq, settled]
  split
  next absent =>
    apply unflooded
    simp [acknowledgeable, absent]
  next row present =>
    have follows := setInterface_follows found (answer_follows header .installed present)
    split
    next fails =>
      have full : acknowledgeable owner id header = false := by
        apply Bool.eq_false_iff.mpr
        intro room
        rw [acknowledgeable, present] at room
        rw [answerSender_succeeds room] at fails
        cases fails
      exact (unflooded full).follow follows
    next =>
      have flooded : ∀ interfaces : List InterfaceOwner,
          (∀ after ∈ interfaces, ∃ before ∈ process.interfaces, Follows before after) →
          Retains NoKey (reflood
            { process with
              database := (process.installs encoded now true).2
              interfaces } interfaceId id header now).2 := by
        intro interfaces follows
        apply reflood_retains (stored.follow follows)
        · obtain ⟨refused, _⟩ | ⟨_, record, found, _⟩ :=
            process.database.install_cases read now process.routerId true
          · exact absurd installed refused
          · exact isSome_iff_exists.mpr ⟨record, found⟩
        · intro after mem row' listed' unreached
          obtain ⟨before, old, follow⟩ := follows after mem
          obtain ⟨row, listed, same, lessens⟩ := follow.rows row' listed'
          rw [refloodReaches_follows follow same] at unreached
          exact (others before old row listed (by simp [unreached])).lessen lessens
      rw [here]
      split
      · apply flooded
        intro after mem
        obtain ⟨middle, old, follow⟩ := terminateGraceHelpers_follows after mem
        obtain ⟨before, oldest, follow'⟩ := follows middle old
        exact ⟨before, oldest, follow'.trans follow⟩
      · exact flooded _ follows

theorem receiveAdvertisement_retains (h : Retains NoKey process)
    (meets : advertisementRefreshes process interfaceId id source encoded now = true) :
    Retains NoKey (receiveAdvertisement process interfaceId id source encoded now).2 := by
  unfold receiveAdvertisement
  split
  next => exact h
  rename_i owner found
  split
  next => exact h
  rename_i header read
  split
  next => exact h
  rename_i heard received
  have follows : Follows owner heard := by
    split at received
    · exact receiveGrace_follows received
    · obtain rfl := some.inj received
      exact .refl
  have same : heard.interfaceId = owner.interfaceId :=
    congrArg (·.protocol.interfaceId) follows.configuration
  have written := h.follow (setInterface_follows found follows)
  have found' := setInterface_same found same
  split
  · exact written
  rename_i crosses
  by_cases installed : (process.database.install encoded process.version now
      process.routerId true).1 = .installed
  · apply installed_advertisement written found' read installed
    apply refreshed_follows (setInterface_follows found follows)
    · intro before after row row' follow id_same
      rw [refloodReaches_follows follow id_same]
    · have offers : offered process interfaceId id source encoded now = some (heard, header) := by
        simp only [offered, found, read, received, bind_some, crosses]
        rfl
      simpa [advertisementRefreshes, offers, installed] using meets
  · exact refused_advertisement written found' installed

theorem receiveAdvertisements_retains
    {advertisements : List (List (BitVec 8))} (h : Retains NoKey process)
    (meets : packetRefreshes interfaceId id source now advertisements process = true) :
    Retains NoKey (receiveAdvertisements interfaceId id source now advertisements process).2 := by
  induction advertisements generalizing process with
  | nil => exact h
  | cons encoded rest ih =>
    simp only [packetRefreshes, asserted] at meets
    obtain ⟨first, further⟩ := meets
    have received := receiveAdvertisement_retains h first
    simp only [receiveAdvertisements]
    split
    next => exact received
    rename_i goes
    obtain stops | meets := further
    · rw [goes] at stops
      cases stops
    · exact ih received meets

end Receive

end RouterSim.Ospf
