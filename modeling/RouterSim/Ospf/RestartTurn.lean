import RouterSim.Ospf.Restart

/-! The operations of one interface keep the promise: Hellos, expired neighbors, elections,
and the packets that are sent. -/
namespace RouterSim.Ospf

open List

variable {inst inst' : Instance} {owner : InterfaceOwner} {pending : BitVec 32 → Prop}
  {id : BitVec 32} {now : Time}

variable {neighbor : NeighborRuntime} {runtime : InterfaceRuntime}

section Hello

theorem helloDisposition_refuses {packet : PacketView}
    {identity : BitVec 32} {view : Option HelloView} {disposition : HelloDisposition}
    (h : runtime.helloDisposition packet identity view = .inl disposition) :
    disposition ≠ .accepted := by
  simp only [InterfaceRuntime.helloDisposition] at h
  repeat' split at h
  all_goals first
    | (obtain rfl := Sum.inl.inj h; decide)
    | cases h

/-- What an accepted Hello leaves of the table of neighbors. -/
theorem receiveHello_cases (runtime : InterfaceRuntime) (packet : PacketView)
    (identity : BitVec 32) (view : Option HelloView) (now : Time) :
    (runtime.receiveHello packet identity view now).1.disposition ≠ .accepted ∧
        (runtime.receiveHello packet identity view now).2 = runtime ∨
      ∃ known before hello notify,
        runtime.withNeighbor packet.routerId = some known ∧
        known.neighbor? packet.routerId = some before ∧
        (runtime.receiveHello packet identity view now).1.disposition = .accepted ∧
        (runtime.receiveHello packet identity view now).1.neighborRouterId = packet.routerId ∧
        (runtime.receiveHello packet identity view now).1.actions =
          (known.greet hello (known.learn packet.version identity hello now before)).2.union
            { notifyInterface := notify } ∧
        (runtime.receiveHello packet identity view now).2 =
          known.changeNeighbor packet.routerId fun _ =>
            (known.greet hello (known.learn packet.version identity hello now before)).1 := by
  simp only [InterfaceRuntime.receiveHello]
  split
  next disposition hd =>
    exact .inl ⟨helloDisposition_refuses hd, rfl⟩
  next hello _ =>
    split
    next => exact .inl ⟨by simp, rfl⟩
    rename_i known hknown
    split
    next => exact .inl ⟨by simp, rfl⟩
    next before hbefore =>
      exact .inr ⟨known, before, hello, _, hknown, hbefore, rfl, rfl, rfl, rfl⟩

variable {hello : HelloView}

/-- A Hello from a neighbor in ExStart that stays there. -/
theorem greet_history (h : neighbor.state = .exstart) :
    (runtime.greet hello neighbor).1.history = neighbor.history := by
  have stays : (recordNeighborEvent neighbor (neighborTransition neighbor.state .helloReceived
        (runtime.adjacencyRequired neighbor) false)).state = .exstart := by
    rw [h]
    cases runtime.adjacencyRequired neighbor <;> rfl
  exact (recordNeighborEvent_history stays).trans (recordNeighborEvent_history h)

theorem greet_exstart (h : (runtime.greet hello neighbor).1.state = .exstart) :
    EntersExstart neighbor.state (runtime.greet hello neighbor).2 := by
  apply neighborTransition_exstart_union h
  split
  · exact .inl rfl
  · exact .inr rfl

theorem greet_delete : (runtime.greet hello neighbor).2.deleteNeighbor = false := by
  simp only [InterfaceRuntime.greet, NeighborActions.union, neighborTransition_delete]
  split <;> rfl

theorem greet_delete_union {notify : Bool} :
    ((runtime.greet hello neighbor).2.union { notifyInterface := notify }).deleteNeighbor =
      false := by
  simp [NeighborActions.union, greet_delete]

section

variable (h : Owned inst pending owner)
include h

/-- The interface with both rows of the sender, added if it is new. -/
theorem Owned.enroll {known : InterfaceRuntime}
    (enrolled : owner.runtime.withNeighbor id = some known) :
    ∃ exchanges : List NeighborExchange,
      Owned inst pending { owner with runtime := known, exchanges } ∧
      ∀ runtime : InterfaceRuntime, { owner with runtime }.withExchange inst id =
        some { owner with runtime, exchanges } := by
  simp only [InterfaceRuntime.withNeighbor] at enrolled
  split at enrolled
  next neighbor found =>
    obtain rfl := Option.some.inj enrolled
    obtain ⟨row, hrow⟩ := h.row found
    refine ⟨owner.exchanges, h, fun runtime => ?_⟩
    simp only [InterfaceOwner.exchange?] at hrow
    simp [InterfaceOwner.withExchange, InterfaceOwner.exchange?, hrow]
  next absent =>
    split at enrolled
    next => cases enrolled
    obtain rfl := Option.some.inj enrolled
    have fresh : id ∉ owner.runtime.neighbors.map (·.routerId) := Table.lookup_none.mp absent
    have noRow : Table.lookup NeighborExchange.routerId id owner.exchanges = none :=
      Table.lookup_none.mpr (h.keys ▸ fresh)
    have lengths : owner.exchanges.length = owner.runtime.neighbors.length := by
      have := congrArg List.length h.keys
      simpa using this
    have fits := h.fits
    have room := h.room
    refine ⟨owner.exchanges ++ [.create id inst.maximumLsas], ?_, fun runtime => ?_⟩
    · constructor
      · simp [h.keys, NeighborExchange.create]
      · simp
        exact nodup_append.mpr ⟨h.nodup, by simp, by
          intro a ha b hb
          obtain rfl := mem_singleton.mp hb
          exact fun eq => fresh (eq ▸ ha)⟩
      · simp
        omega
      · exact h.room
      · intro row mem
        obtain mem | mem := mem_append.mp mem
        · exact h.summaries row mem
        · obtain rfl := mem_singleton.mp mem
          rfl
      · intro other neighbor row free hn hr
        simp only [InterfaceRuntime.neighbor?, Table.lookup_append] at hn
        simp only [InterfaceOwner.exchange?, Table.lookup_append] at hr
        cases old : Table.lookup NeighborRuntime.routerId other owner.runtime.neighbors with
        | some before =>
          obtain ⟨oldRow, hrow⟩ := h.row old
          have found := hrow
          simp only [InterfaceOwner.exchange?] at found
          rw [old, Option.some_or] at hn
          rw [found, Option.some_or] at hr
          obtain rfl := Option.some.inj hn
          obtain rfl := Option.some.inj hr
          exact h.kept other before oldRow free old hrow
        | none =>
          -- A neighbor just added is down.
          rw [old, Option.none_or] at hn
          obtain rfl := mem_singleton.mp (Table.mem_of_lookup hn)
          exact kept_of_ne (by simp)
    · have space : owner.exchanges.length ≠ inst.maximumNeighborsPerInterface := by omega
      simp [InterfaceOwner.withExchange, InterfaceOwner.exchange?, noRow, space]

theorem Owned.peers {peers : List NbmaPeer} : Owned inst pending { owner with nbmaPeers := peers } :=
  ⟨h.keys, h.nodup, h.fits, h.room, h.summaries, h.kept⟩

theorem Owned.answerPeer {address : BitVec 128} :
    Owned inst pending (answerPeer owner address id now) := by
  simp only [RouterSim.Ospf.answerPeer]
  split
  · exact h
  split
  · exact h.peers
  · exact h

/-- What a receive leaves of an interface. -/
structure Receives (inst : Instance) (pending : BitVec 32 → Prop) (done : OwnerReceive) : Prop where
  drawn : Drawn inst done.inst
  owned : Owned inst pending done.owner

/-- The sender of an accepted Hello, its actions not applied yet. -/
theorem Owned.greet {before learned : NeighborRuntime} {notify : Bool}
    (found : owner.runtime.neighbor? id = some before) (same : learned.routerId = id)
    (state : learned.state = before.state) (history : learned.history = before.history) :
    Owned inst
      (Awaiting pending
        [{ routerId := id, actions := (owner.runtime.greet hello learned).2.union
             { notifyInterface := notify } }])
      { owner with
        runtime := owner.runtime.changeNeighbor id fun _ =>
          (owner.runtime.greet hello learned).1 } := by
  apply h.changeNeighbor
  · exact fun _ _ => same
  · intro neighbor row free hn hr exstart
    obtain ⟨begins, _⟩ | ⟨was, _⟩ := greet_exstart exstart
    · refine absurd (.inr ⟨_, mem_singleton_self _, rfl, ?_⟩) free
      simp [NeighborActions.union, begins]
    · have kept := h.kept id before row (fun p => free (.inl p)) found hr
      exact kept.of_neighbor (exstart.trans (was.symm.trans state))
        ((greet_history was).trans history) exstart
  · exact fun _ _ => .inl

end

theorem settleHello_receives {work : NeighborReconciliation} {backupSeen : Bool}
    {address : BitVec 128} (h : Owned inst (Awaiting pending [work]) owner) (sound : Sound inst)
    (known : work.routerId ∈ owner.runtime.neighbors.map (·.routerId))
    (stays : work.actions.deleteNeighbor = false) :
    Receives inst pending (settleHello inst owner work backupSeen address now) := by
  simp only [settleHello]
  split
  · obtain ⟨ok, drawn, owned, _⟩ : Succeeds inst pending _
        (applyAndNotify inst (peerHeard owner address work.routerId now) work backupSeen now) :=
      applyAndNotify_succeeds h.peers sound known stays
    rw [if_neg (by simp [ok])]
    exact ⟨drawn, owned.answerPeer⟩
  · obtain ⟨ok, drawn, owned, _⟩ : Succeeds inst pending owner
        (applyAndNotify inst owner work backupSeen now) :=
      applyAndNotify_succeeds h sound known stays
    rw [if_neg (by simp [ok])]
    exact ⟨drawn, owned⟩

theorem receiveHello_receives (h : Owned inst pending owner) (sound : Sound inst)
    {packet : PacketView} {view : Option HelloView} {source : PacketSource} :
    Receives inst pending (receiveHello inst owner packet view source now) := by
  obtain ⟨identity, hidentity⟩ : ∃ identity, identity =
    if inst.version = .two then source.ipv4 else packet.routerId := ⟨_, rfl⟩
  simp only [receiveHello, ← hidentity]
  obtain ⟨refused, same⟩ | ⟨known, before, hello, notify, enrolled, found, accepted, sender, asks,
      heard⟩ := receiveHello_cases owner.runtime packet identity view now
  · rw [if_pos refused, same]
    exact ⟨.refl, h⟩
  · obtain ⟨exchanges, enrolledOwned, creates⟩ := h.enroll enrolled
    have hid : before.routerId = packet.routerId := Table.key_of_lookup found
    obtain ⟨learned, hlearned⟩ : ∃ learned, learned =
      known.learn packet.version identity hello now before := ⟨_, rfl⟩
    have lid : learned.routerId = packet.routerId := by rw [hlearned]; exact hid
    have state : learned.state = before.state := by rw [hlearned]; rfl
    have history : learned.history = before.history := by rw [hlearned]; rfl
    rw [← hlearned] at asks heard
    have owned : Owned inst
        (Awaiting pending
          [{ routerId := packet.routerId
             actions := (known.greet hello learned).2.union { notifyInterface := notify } }])
        { owner with
          runtime := known.changeNeighbor packet.routerId fun _ => (known.greet hello learned).1
          exchanges } := enrolledOwned.greet found lid state history
    have mem : packet.routerId ∈ (known.changeNeighbor packet.routerId fun _ =>
        (known.greet hello learned).1).neighbors.map (·.routerId) := by
      have greeted : (known.greet hello learned).1.routerId = packet.routerId := lid
      rw [changeNeighbor_ids (fun _ _ => greeted)]
      exact mem_of_neighbor? found
    rw [if_neg (by simp [accepted]), sender, asks, heard, creates]
    exact settleHello_receives owned sound mem greet_delete_union

end Hello

section Deadlines

variable {budget : Nat} {rows : List NeighborRuntime}

theorem expireAll_ids :
    (runtime.expireAll now budget rows).1.map (·.routerId) = rows.map (·.routerId) := by
  fun_induction InterfaceRuntime.expireAll runtime now budget rows with
  | case1 => rfl
  | case2 _ neighbor rest _ _ ih => exact congrArg (neighbor.routerId :: ·) ih
  | case3 => rfl
  | case4 neighbor rest _ budget _ _ ih => exact congrArg (neighbor.routerId :: ·) ih

theorem expireAll_lookup
    (found : Table.lookup NeighborRuntime.routerId id (runtime.expireAll now budget rows).1 =
      some neighbor) :
    Table.lookup NeighborRuntime.routerId id rows = some neighbor ∨ neighbor.state ≠ .exstart := by
  fun_induction InterfaceRuntime.expireAll runtime now budget rows with
  | case1 => exact .inl found
  | case2 _ other rest _ _ ih =>
    rw [Table.lookup_cons] at found ⊢
    by_cases here : other.routerId = id
    · rw [if_pos here] at found ⊢
      exact .inl found
    · rw [if_neg here] at found ⊢
      exact ih found
  | case3 => exact .inl found
  | case4 other rest _ budget expired _ ih =>
    have same : expired.1.routerId = other.routerId := rfl
    rw [Table.lookup_cons] at found ⊢
    rw [same] at found
    by_cases here : other.routerId = id
    · rw [if_pos here] at found
      obtain rfl := Option.some.inj found
      exact .inr nofun
    · rw [if_neg here] at found ⊢
      exact ih found

theorem expireAll_works :
    ∀ work ∈ (runtime.expireAll now budget rows).2.1,
      work.routerId ∈ rows.map (·.routerId) ∧ work.actions.deleteNeighbor = false := by
  fun_induction InterfaceRuntime.expireAll runtime now budget rows with
  | case1 => exact nofun
  | case2 _ other rest _ _ ih =>
    intro work mem
    exact ⟨mem_cons_of_mem _ (ih work mem).1, (ih work mem).2⟩
  | case3 => exact nofun
  | case4 other rest _ budget expired _ ih =>
    intro work mem
    obtain rfl | mem := mem_cons.mp mem
    · exact ⟨mem_cons_self, neighborTransition_delete⟩
    · exact ⟨mem_cons_of_mem _ (ih work mem).1, (ih work mem).2⟩

theorem Owned.processDeadlines (h : Owned inst pending owner) :
    Owned inst pending { owner with runtime := (owner.runtime.processDeadlines now budget).1 } where
  keys := h.keys.trans expireAll_ids.symm
  nodup := by
    simp only [InterfaceRuntime.processDeadlines, expireAll_ids]
    exact h.nodup
  fits := by
    have ids : (owner.runtime.expireAll now budget owner.runtime.neighbors).1.map (·.routerId) =
        owner.runtime.neighbors.map (·.routerId) := expireAll_ids
    have lengths := congrArg List.length ids
    rw [length_map, length_map] at lengths
    exact lengths ▸ h.fits
  room := h.room
  summaries := h.summaries
  kept := by
    intro id neighbor row free hn hr
    obtain same | other := expireAll_lookup hn
    · exact h.kept id neighbor row free same hr
    · exact kept_of_ne other

theorem applyExpired_succeeds {works : List NeighborReconciliation} (h : Owned inst pending owner)
    (sound : Sound inst)
    (known : ∀ work ∈ works, work.routerId ∈ owner.runtime.neighbors.map (·.routerId) ∧
      work.actions.deleteNeighbor = false) :
    Succeeds inst pending owner (applyExpired now inst owner works) := by
  induction works generalizing inst owner with
  | nil => exact ⟨rfl, .refl, h, rfl⟩
  | cons work works ih =>
    obtain ⟨mem, stays⟩ := known work mem_cons_self
    obtain ⟨ok, drawn, owned, ids⟩ : Succeeds inst pending owner
        (applyAndNotify inst owner work false now) :=
      applyAndNotify_succeeds (h.mono fun _ => .inl) sound mem stays
    have rest := ih (owned.drawn drawn) (sound.drawn drawn)
      (fun other mem => ids ▸ known other (mem_cons_of_mem _ mem))
    rw [applyExpired, if_pos ok]
    exact ⟨rest.ok, drawn.trans rest.drawn, rest.owned.drawn drawn.symm, rest.ids.trans ids⟩

theorem processInterfaceDeadline_neighbors :
    (runtime.processInterfaceDeadline now).2.neighbors = runtime.neighbors ∧
      (runtime.processInterfaceDeadline now).2.maximumNeighbors = runtime.maximumNeighbors := by
  simp only [InterfaceRuntime.processInterfaceDeadline]
  split
  · exact ⟨rfl, rfl⟩
  · exact applyElection_neighbors

theorem endHelping_steady {row : NeighborExchange} : Steady row (endHelping row) := by
  unfold endHelping
  split <;> exact ⟨rfl, rfl⟩

variable (h : Owned inst pending owner)
include h

theorem Owned.endHelping : Owned inst pending (owner.changeExchange id endHelping) := by
  apply h.changeExchange
  · exact fun _ => endHelping_steady
  · exact fun _ _ _ _ _ kept exstart => (kept exstart).endHelping

theorem Owned.deferInactivity {deadline : Time} : Owned inst pending { owner with runtime := owner.runtime.deferInactivity id deadline } := by
  apply h.changeNeighbor
  · intro neighbor hid
    split
    · exact hid
    · split <;> exact hid
  · intro neighbor row free hn hr
    have kept := h.kept id neighbor row free hn hr
    split
    · exact kept
    split
    · exact kept.of_neighbor rfl rfl
    · exact kept
  · exact fun _ _ p => p

theorem Owned.keepHelped : Owned inst pending (keepHelped now owner id) := by
  simp only [RouterSim.Ospf.keepHelped]
  split
  next => exact h
  split
  · exact h
  split
  · exact h.endHelping
  · exact h.deferInactivity

theorem Owned.keepAllHelped {ids : List (BitVec 32)} :
    Owned inst pending (ids.foldl (RouterSim.Ospf.keepHelped now) owner) := by
  induction ids generalizing owner with
  | nil => exact h
  | cons id ids ih => exact ih h.keepHelped

end Deadlines

section Emission

variable {turn : Turn}

theorem emitRow_owned (h : Owned inst pending owner) {kind : PacketKind}
    {asks : NeighborExchange → Bool} {emit : Bool → NeighborExchange → Bool × NeighborExchange}
    (steady : ∀ encodes row, Steady row (emit encodes row).2)
    (restarted : ∀ encodes neighbor row, Restarted neighbor row →
      Restarted neighbor (emit encodes row).2) :
    Owned inst pending (emitRow turn kind asks emit id owner).2 := by
  simp only [emitRow]
  split
  next => exact h
  rename_i row found
  split
  · exact h
  split
  · exact h
  apply h.setExchange found (steady _ row)
  intro neighbor _ _ kept exstart
  exact restarted _ _ _ (kept exstart)

theorem emitDescription_owned (h : Owned inst pending owner) :
    Owned inst pending (emitDescription turn inst id owner).2 := by
  simp only [emitDescription]
  split
  next => exact h
  rename_i adjacency found
  split
  · exact h
  split
  · exact h
  · exact h.carry found emitDatabaseDescription_carries

theorem thenEmit_owned {done : Bool × InterfaceOwner}
    {next : InterfaceOwner → Bool × InterfaceOwner} (h : Owned inst pending done.2)
    (keeps : ∀ owner, Owned inst pending owner → Owned inst pending (next owner).2) :
    Owned inst pending (thenEmit done next).2 := by
  unfold thenEmit
  split
  · exact keeps _ h
  · exact h

variable (h : Owned inst pending owner)
include h

theorem Owned.wake : Owned inst pending (owner.changeExchange id (·.wake now)) := by
  apply h.changeExchange
  · exact fun _ => ⟨rfl, rfl⟩
  · exact fun _ _ _ _ _ kept exstart => (kept exstart).wake

theorem emitNeighbor_owned : Owned inst pending (emitNeighbor turn inst id owner).2 := by
  apply thenEmit_owned
  · apply thenEmit_owned
    · apply thenEmit_owned
      · exact emitRow_owned h.wake (fun _ _ => emitLinkStateAcknowledgment_steady)
          fun _ _ _ => emitLinkStateAcknowledgment_restarted
      · exact fun _ => emitDescription_owned
    · exact fun _ owned => emitRow_owned owned (fun _ _ => emitLinkStateUpdate_steady)
        fun _ _ _ => emitLinkStateUpdate_restarted
  · exact fun _ owned => emitRow_owned owned (fun _ _ => emitLinkStateRequest_steady)
      fun _ _ _ => emitLinkStateRequest_restarted

theorem emitAll_owned {ids : List (BitVec 32)} :
    Owned inst pending (emitAll turn inst ids owner).2 := by
  induction ids generalizing owner with
  | nil => exact h
  | cons id ids ih => exact thenEmit_owned (emitNeighbor_owned h) fun _ owned => ih owned

theorem sendHello_owned : Owned inst pending (sendHello turn owner).2 := by
  unfold sendHello
  split
  · exact h
  split
  · exact h
  · exact h.runtime rfl rfl

theorem pollPeers_owned : Owned inst pending (pollPeers turn inst owner).2 := by
  unfold pollPeers
  split
  · exact h
  · exact h.peers

theorem emitInterface_owned : Owned inst pending (emitInterface turn inst owner).2 := by
  apply thenEmit_owned
  · exact thenEmit_owned (sendHello_owned h) fun _ => pollPeers_owned
  · exact fun _ owned => emitAll_owned owned

end Emission

theorem runInterface_leaves {turn : Turn} (h : Owned inst pending owner) (sound : Sound inst) :
    Leaves inst pending (runInterface turn inst owner) := by
  obtain ⟨helped, hhelped⟩ : ∃ helped, helped =
    (owner.exchanges.map (·.routerId)).foldl (keepHelped turn.now) owner := ⟨_, rfl⟩
  have helpedOwned : Owned inst pending helped := hhelped ▸ h.keepAllHelped
  have ids : (helped.runtime.processDeadlines turn.now
      NeighborExchange.workBudgetPackets).1.neighbors.map (·.routerId) =
      helped.runtime.neighbors.map (·.routerId) := expireAll_ids
  obtain ⟨ok, drawn, owned, _⟩ : Succeeds inst pending _ (applyExpired turn.now inst _
      (helped.runtime.processDeadlines turn.now NeighborExchange.workBudgetPackets).2.1) :=
    applyExpired_succeeds helpedOwned.processDeadlines sound (by
      intro work mem
      rw [ids]
      exact expireAll_works work mem)
  obtain ⟨expired, hexpired⟩ : ∃ expired, expired = applyExpired turn.now inst
      { helped with
        runtime := (helped.runtime.processDeadlines turn.now NeighborExchange.workBudgetPackets).1 }
      (helped.runtime.processDeadlines turn.now NeighborExchange.workBudgetPackets).2.1 :=
    ⟨_, rfl⟩
  rw [← hexpired] at ok drawn owned
  obtain ⟨elects, electedDrawn, electedOwned, _⟩ : Succeeds expired.inst pending expired.owner
      (reconcileInterfaceAdjacencies expired.inst
        { expired.owner with
          runtime := (expired.owner.runtime.processInterfaceDeadline turn.now).2 }
        (expired.owner.runtime.processInterfaceDeadline turn.now).1 turn.now) :=
    elected_succeeds (owned.drawn drawn) (sound.drawn drawn)
      processInterfaceDeadline_neighbors.1 processInterfaceDeadline_neighbors.2
  simp only [runInterface, ← hhelped, ← hexpired, ok, elects]
  exact ⟨drawn.trans electedDrawn,
    (emitInterface_owned (electedOwned.drawn electedDrawn)).drawn (drawn.trans electedDrawn).symm⟩

section Each

variable {Q : InterfaceOwner → Prop} {owners : List InterfaceOwner}

/-- What a turn keeps of one interface it keeps of each, up to the first that fails. -/
theorem runInterfaces_keeps (turn : Turn)
    (keeps : ∀ {inst' owner}, Drawn inst inst' → Q owner →
      Drawn inst' (runInterface turn inst' owner).inst ∧ Q (runInterface turn inst' owner).owner)
    (drawn : Drawn inst inst') (h : ∀ owner ∈ owners, Q owner) :
    Drawn inst (runInterfaces turn inst' owners).2.1 ∧
      ∀ owner ∈ (runInterfaces turn inst' owners).2.2, Q owner := by
  induction owners generalizing inst' with
  | nil => exact ⟨drawn, h⟩
  | cons owner owners ih =>
    obtain ⟨first, others⟩ := forall_mem_cons.mp h
    obtain ⟨further, left⟩ := keeps drawn first
    simp only [runInterfaces]
    split
    · exact ⟨drawn.trans further, forall_mem_cons.mpr ⟨left, others⟩⟩
    · obtain ⟨all, rest⟩ := ih (drawn.trans further) others
      exact ⟨all, forall_mem_cons.mpr ⟨left, rest⟩⟩

end Each

theorem runInterfaces_leaves (turn : Turn) {owners : List InterfaceOwner}
    (h : ∀ owner ∈ owners, Owned inst pending owner) (sound : Sound inst) :
    Drawn inst (runInterfaces turn inst owners).2.1 ∧
      ∀ owner ∈ (runInterfaces turn inst owners).2.2, Owned inst pending owner := by
  refine runInterfaces_keeps turn (fun drawn owned => ?_) .refl h
  obtain ⟨further, left⟩ : Leaves _ pending (runInterface turn _ _) :=
    runInterface_leaves (owned.drawn drawn) (sound.drawn drawn)
  exact ⟨further, left.drawn drawn.symm⟩

section Resets

open InstanceProcess

/-- An event that starts no exchange leaves no neighbor waiting. -/
theorem applyNeighborEvent_quiet (h : Owned inst pending owner) {event : NeighborEvent}
    (quiet : event = .killNeighbor ∨ event = .oneWayReceived) {transition : NeighborTransition}
    (reacts : (owner.runtime.applyNeighborEvent id event false).1 = some transition) :
    Owned inst pending
        { owner with runtime := (owner.runtime.applyNeighborEvent id event false).2 } ∧
      id ∈ (owner.runtime.applyNeighborEvent id event false).2.neighbors.map (·.routerId) ∧
      transition.actions.deleteNeighbor = decide (event = .killNeighbor) := by
  obtain ⟨waiting, known, deletes⟩ := applyNeighborEvent_owned h reacts
  refine ⟨waiting.mono ?_, known, deletes⟩
  rintro other (before | ⟨work, mem, _, begins⟩)
  · exact before
  obtain rfl := mem_singleton.mp mem
  simp only [InterfaceRuntime.applyNeighborEvent] at reacts
  split at reacts
  next => cases reacts
  rename_i neighbor _
  obtain rfl := Option.some.inj reacts
  have silent : (neighborTransition neighbor.state event
      (owner.runtime.adjacencyRequired neighbor) false).actions.beginDatabaseExchange = false := by
    obtain rfl | rfl := quiet <;> cases neighbor.state <;>
      cases owner.runtime.adjacencyRequired neighbor <;> rfl
  exact absurd (silent.symm.trans begins) Bool.false_ne_true

theorem killed_leaves {actions : NeighborActions} (h : Owned inst pending owner)
    (sound : Sound inst) (known : id ∈ owner.runtime.neighbors.map (·.routerId))
    (deletes : actions.deleteNeighbor = true) :
    Leaves inst pending (applyAndNotify inst owner { routerId := id, actions } false now) := by
  obtain ⟨drawn, left⟩ : Leaves inst pending (applyNeighborActions inst owner id actions now) :=
    applyNeighborActions_deletes h known deletes
  unfold applyAndNotify
  dsimp only
  split
  · obtain ⟨_, restDrawn, rest, _⟩ : Succeeds _ pending _ (neighborChanged
        (applyNeighborActions inst owner id actions now).inst
        (applyNeighborActions inst owner id actions now).owner false now) :=
      neighborChanged_succeeds (left.drawn drawn) (sound.drawn drawn)
    exact ⟨drawn.trans restDrawn, rest.drawn drawn.symm⟩
  · exact ⟨drawn, left⟩

theorem killNeighbor_leaves (h : Owned inst pending owner) (sound : Sound inst)
    (id : BitVec 32) (now : Time) :
    Drawn inst (killNeighbor now (inst, owner) id).1 ∧
      Owned inst pending (killNeighbor now (inst, owner) id).2 := by
  cases reacts : (owner.runtime.applyNeighborEvent id .killNeighbor false).1 with
  | none =>
    simp only [killNeighbor, reacts]
    exact ⟨.refl, h⟩
  | some transition =>
    obtain ⟨owned, known, deletes⟩ := applyNeighborEvent_quiet h (.inl rfl) reacts
    have left : Leaves inst pending (applyAndNotify inst
        { owner with runtime := (owner.runtime.applyNeighborEvent id .killNeighbor false).2 }
        { routerId := id, actions := transition.actions } false now) :=
      killed_leaves owned sound known (by simpa using deletes)
    simp only [killNeighbor, reacts]
    exact ⟨left.drawn, left.owned⟩

end Resets

end RouterSim.Ospf
