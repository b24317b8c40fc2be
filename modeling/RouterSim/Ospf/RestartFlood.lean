import RouterSim.Ospf.RestartTurn

/-! Floods, originations and the maintenance keep what holds of each interface of an
instance, where they reach no neighbor that waits in ExStart. -/
namespace RouterSim.Ospf

open Table LinkStateDatabase Bool

/-- What holds of an instance between operations, apart from the restarts of the neighbors
in `pending`. -/
structure Standing (pending : BitVec 32 → Prop) (process : InstanceProcess) : Prop where
  sound : Sound process.toInstance
  owned : ∀ owner ∈ process.interfaces, Owned process.toInstance pending owner

variable {process : InstanceProcess} {inst inst' : Instance} {owner : InterfaceOwner}
  {pending : BitVec 32 → Prop} {id interfaceId : BitVec 32} {now : Time}

/-- Of the instance only its limits matter to an interface. -/
theorem Owned.limits (h : Owned inst pending owner)
    (neighbors : inst'.maximumNeighborsPerInterface = inst.maximumNeighborsPerInterface)
    (lsas : inst'.maximumLsas = inst.maximumLsas) : Owned inst' pending owner :=
  ⟨h.keys, h.nodup, neighbors ▸ h.fits, neighbors ▸ h.room, lsas ▸ h.summaries, h.kept⟩

section

variable (h : Standing pending process)
include h

theorem Standing.interface (found : process.interface? interfaceId = some owner) :
    Owned process.toInstance pending owner :=
  h.owned owner (mem_of_lookup found)

theorem Standing.setInterface (owned : Owned process.toInstance pending owner) :
    Standing pending (process.setInterface owner) where
  sound := h.sound
  owned := by
    intro other mem
    obtain mem | ⟨_, _, _, rfl⟩ := mem_update mem
    · exact h.owned other mem
    · exact owned

theorem Standing.instance (sound : Sound inst)
    (neighbors : inst.maximumNeighborsPerInterface = process.maximumNeighborsPerInterface)
    (lsas : inst.maximumLsas = process.maximumLsas) : Standing pending { process with toInstance := inst } :=
  ⟨sound, fun owner mem => (h.owned owner mem).limits neighbors lsas⟩

theorem Standing.drawn (drawn : Drawn process.toInstance inst) :
    Standing pending { process with toInstance := inst } := by
  obtain ⟨_, rfl⟩ := drawn
  exact h.instance ⟨h.sound.database, h.sound.capacity⟩ rfl rfl

theorem Standing.database {database : LinkStateDatabase}
    (wellFormed : database.WellFormed process.version)
    (capacity : database.maximumRecords = process.database.maximumRecords) :
    Standing pending { process with database } :=
  h.instance ⟨wellFormed, capacity.trans h.sound.capacity⟩ rfl rfl

theorem Standing.interfaces {interfaces : List InterfaceOwner}
    (owned : ∀ owner ∈ interfaces, Owned process.toInstance pending owner) :
    Standing pending { process with interfaces } := ⟨h.sound, owned⟩

end

section Flooding

variable {version : Version} {record : LsaRecord} {reaches : NeighborExchange → Bool}

theorem queueFlood_steady {row : NeighborExchange} :
    Steady row (queueFlood version record now row).2 := by
  unfold queueFlood
  split
  next => exact ⟨rfl, rfl⟩
  next queued => exact ⟨rfl, queue_maximumSummaries queued⟩

/-- No neighbor a flood reaches is in ExStart, unless it is in `pending`. -/
def Calm (pending : BitVec 32 → Prop) (owner : InterfaceOwner)
    (reaches : NeighborExchange → Bool) : Prop :=
  ∀ row ∈ owner.exchanges, reaches row = true → ¬ pending row.routerId →
    ∀ neighbor, owner.runtime.neighbor? row.routerId = some neighbor → neighbor.state ≠ .exstart

theorem floodRows_owned (h : Owned inst pending owner) (calm : Calm pending owner reaches) :
    Owned inst pending (floodRows version record now reaches owner).2 := by
  have steady : ∀ row, Steady row
      (if reaches row then queueFlood version record now row else (true, row)).2 := by
    intro row
    split
    · exact queueFlood_steady
    · exact ⟨rfl, rfl⟩
  constructor
  · exact (keys_sweep fun row => (steady row).1).trans h.keys
  · exact h.nodup
  · exact h.fits
  · exact h.room
  · intro row' mem
    obtain ⟨row, old, rfl | rfl⟩ := mem_sweep mem
    · exact h.summaries _ old
    · exact (steady row).2.trans (h.summaries row old)
  · intro id neighbor row' free hn hr
    obtain ⟨row, found, same⟩ := lookup_sweep (fun row => (steady row).1) hr
    have rid : row.routerId = id := key_of_lookup found
    have kept : Kept neighbor row := h.kept id neighbor row free hn found
    obtain rfl | rfl := same
    · exact kept
    · split
      next reached =>
        apply kept_of_ne
        rw [← rid] at hn free
        exact calm row (mem_of_lookup found) reached free neighbor hn
      next => exact kept

/-- Flooding over the interfaces, whichever neighbors of each it reaches. -/
theorem Standing.flood (h : Standing pending process)
    {reaches : InterfaceOwner → NeighborExchange → Bool}
    (calm : ∀ owner ∈ process.interfaces, Calm pending owner (reaches owner)) :
    Standing pending
      { process with
        interfaces := (Table.sweep (fun owner => floodRows version record now (reaches owner) owner)
          process.interfaces).2 } := by
  apply h.interfaces
  intro owner' mem
  obtain ⟨owner, old, rfl | rfl⟩ := mem_sweep mem
  · exact h.owned _ old
  · exact floodRows_owned (h.owned owner old) (calm owner old)

end Flooding

section Conditions

/-- A flood of the scope queues nothing for a neighbor that waits in ExStart. -/
def sparesExstart (process : InstanceProcess) (scope : FloodingScope)
    (linkInterface : Option (BitVec 32)) (now : Time) : Bool :=
  process.interfaces.all fun owner => owner.exchanges.all fun row =>
    !floodReaches owner scope linkInterface now row ||
      (owner.runtime.neighbor? row.routerId).all (·.state != .exstart)

/-- The same for the flood of an origination, where there is one. -/
def originationSpares (process : InstanceProcess) (now : Time) : LocalOrigination → Bool
  | .advertise bytes linkInterface =>
    !(storeLocal process bytes now).1 || (lsaHeader bytes process.version).all fun header =>
      sparesExstart process (lsaKey header).scope linkInterface now
  | .flush key =>
    !(process.database.prematureAge key now).1 || sparesExstart process key.scope none now
  | _ => true

def originationsSpare (now : Time) : List LocalOrigination → InstanceProcess → Bool
  | [], _ => true
  | origination :: rest, process =>
    let done := originate process now origination
    originationSpares process now origination && (!done.1 || originationsSpare now rest done.2)

/-- The same for the records a turn finds at their maximum age. -/
def maintenanceSpares (process : InstanceProcess) (now : Time) : Bool :=
  process.database.records.all fun record =>
    !floodDue record now || sparesExstart process record.key.scope none now

/-- The packet is looked at as one of a neighbor that exchanges databases. -/
def exchanging (process : InstanceProcess) (interfaceId : BitVec 32) (packet : PacketView)
    (source : PacketSource) : Bool :=
  (process.interface? interfaceId).any fun owner =>
    packet.version == process.version && process.admits owner packet source &&
      (owner.adjacency? packet.routerId).any (·.neighbor.state.atLeast .exchange)

/-- A request names an advertisement the database does not have. -/
def asksMissing (process : InstanceProcess) (interfaceId id : BitVec 32)
    (entries : List (Option LinkStateRequestEntry)) : Bool :=
  (process.interface? interfaceId).any fun owner => (owner.exchange? id).any fun row =>
    (Adjacency.serve (owner.view process.toInstance) entries row.database).1 == .missing

/-- What an operation has to meet for every neighbor in ExStart to have a fresh exchange: no
neighbor that exchanges databases asks for a missing advertisement, and no turn floods to a
neighbor in ExStart. -/
def keepsRestarts (process : InstanceProcess) : InstanceProcess.Op → Bool
  | .receive interfaceId packet source _ =>
    match packet.body with
    | .linkStateRequest (some entries) =>
      !exchanging process interfaceId packet source ||
        !asksMissing process interfaceId packet.routerId entries
    | _ => true
  | .runReady turn =>
    let maintained := maintainDatabase process turn.now
    maintenanceSpares process turn.now &&
      (!maintained.1 || originationsSpare turn.now turn.originations maintained.2)
  | _ => true

end Conditions

section Origination

/-- What holds of an instance while it floods: the floods it may still make reach no neighbor
that waits in ExStart, unless it is in `pending`. -/
structure Flooding (pending : BitVec 32 → Prop) (now : Time)
    (floods : FloodingScope → Option (BitVec 32) → Prop) (process : InstanceProcess) : Prop
    extends Standing pending process where
  calm : ∀ scope linkInterface, floods scope linkInterface → ∀ owner ∈ process.interfaces,
    Calm pending owner (floodReaches owner scope linkInterface now)

variable {floods : FloodingScope → Option (BitVec 32) → Prop}

theorem Flooding.database (h : Flooding pending now floods process)
    {database : LinkStateDatabase} (wellFormed : database.WellFormed process.version)
    (capacity : database.maximumRecords = process.database.maximumRecords) :
    Flooding pending now floods { process with database } :=
  ⟨h.toStanding.database wellFormed capacity, h.calm⟩

variable {linkInterface : Option (BitVec 32)}

theorem sparesExstart_calm {scope : FloodingScope}
    (spares : sparesExstart process scope linkInterface now = true ∨ ∀ id, pending id) :
    ∀ owner ∈ process.interfaces,
      Calm pending owner (floodReaches owner scope linkInterface now) := by
  intro owner mem row row_mem reached free neighbor found
  obtain spares | everyone := spares
  · have either := List.all_eq_true.mp (List.all_eq_true.mp spares owner mem) row row_mem
    rw [reached, Bool.not_true, Bool.false_or, found] at either
    simpa using either
  · exact absurd (everyone _) free

variable {version : Version} {record : LsaRecord} {reaches : NeighborExchange → Bool}

theorem queueFlood_helper {row : NeighborExchange} :
    (queueFlood version record now row).2.helperActive = row.helperActive ∧
      (queueFlood version record now row).2.helperDeadline = row.helperDeadline := by
  unfold queueFlood
  split <;> exact ⟨rfl, rfl⟩

theorem advertisedFull_floodRows {at' : Time}
    (full : (floodRows version record now reaches owner).2.advertisedFull id at' = true) :
    owner.advertisedFull id at' = true := by
  obtain neighbor | helped := or_eq_true_iff.mp full
  · exact or_eq_true_iff.mpr (.inl neighbor)
  · obtain ⟨row', found', active⟩ := (Option.any_eq_true _ _).mp helped
    have keeps : ∀ row : NeighborExchange,
        (if reaches row then queueFlood version record now row else (true, row)).2.routerId =
          row.routerId := by
      intro row
      split
      · exact queueFlood_steady.1
      · rfl
    obtain ⟨row, found, same⟩ := lookup_sweep keeps found'
    refine or_eq_true_iff.mpr (.inr ((Option.any_eq_true _ _).mpr ⟨row, found, ?_⟩))
    obtain rfl | rfl := same
    · exact active
    · split at active
      · rw [queueFlood_helper.1, queueFlood_helper.2] at active
        exact active
      · exact active

/-- A flood reaches after another one only what it reached before. -/
theorem calm_floodRows {scope : FloodingScope}
    (calm : Calm pending owner (floodReaches owner scope linkInterface now)) :
    Calm pending (floodRows version record now reaches owner).2
      (floodReaches (floodRows version record now reaches owner).2 scope linkInterface now) := by
  intro row' row_mem reached free neighbor found
  obtain ⟨others, full⟩ := and_eq_true_iff.mp reached
  have reached : floodReaches owner scope linkInterface now row' = true :=
    and_eq_true_iff.mpr ⟨others, advertisedFull_floodRows full⟩
  obtain ⟨row, row_old, rfl | rfl⟩ := mem_sweep row_mem
  · exact calm _ row_old reached free neighbor found
  · have same : (if reaches row then queueFlood version record now row
        else (true, row)).2.routerId = row.routerId := by
      split
      · exact queueFlood_steady.1
      · rfl
    unfold floodReaches at reached
    rw [same] at reached free found
    exact calm row row_old reached free neighbor found

section

variable (h : Flooding pending now floods process)
include h

theorem floodRecord_flooding (may : floods record.key.scope linkInterface) :
    Flooding pending now floods (floodRecord process record linkInterface now).2 := by
  have flooded : Flooding pending now floods
      { process with
        interfaces := (Table.sweep
          (fun owner => floodRows process.version record now
            (floodReaches owner record.key.scope linkInterface now) owner)
          process.interfaces).2 } := by
    refine ⟨h.toStanding.flood (h.calm _ _ may), ?_⟩
    intro scope link allowed owner' mem
    obtain ⟨owner, old, rfl | rfl⟩ := mem_sweep mem
    · exact h.calm scope link allowed _ old
    · exact calm_floodRows (h.calm scope link allowed owner old)
  simp only [floodRecord]
  split
  · exact flooded
  split
  · exact flooded.database (markMaxAgeFlooded_wellFormed h.sound.database)
      markMaxAgeFlooded_maximumRecords
  · exact flooded

theorem floodKey_flooding {key : LsaKey} (may : floods key.scope linkInterface) :
    Flooding pending now floods (floodKey process key linkInterface now).2 := by
  unfold floodKey
  split
  next => exact h
  rename_i record found
  obtain rfl : record.key = key := key_of_lookup found
  exact floodRecord_flooding h may

theorem flushKey_flooding {key : LsaKey}
    (may : (process.database.prematureAge key now).1 = true → floods key.scope none) :
    Flooding pending now floods (flushKey process key now).2 := by
  simp only [flushKey]
  split
  next aged =>
    exact floodKey_flooding (h.database (prematureAge_wellFormed h.sound.database)
      prematureAge_maximumRecords) (may aged)
  next => exact h

theorem storeLocal_flooding {bytes : List (BitVec 8)} :
    Flooding pending now floods (storeLocal process bytes now).2 :=
  h.database (install_wellFormed h.sound.database) install_maximumRecords

end

theorem originate_standing (h : Standing pending process) {origination : LocalOrigination}
    (spares : originationSpares process now origination = true ∨ ∀ id, pending id) :
    Standing pending (originate process now origination).2 := by
  have floods : Flooding pending now
      (fun scope link => sparesExstart process scope link now = true ∨ ∀ id, pending id) process :=
    ⟨h, fun _ _ => sparesExstart_calm⟩
  cases origination with
  | advertise bytes linkInterface =>
    simp only [originate]
    split
    next => exact (storeLocal_flooding floods).toStanding
    rename_i header read
    split
    next stored =>
      refine (floodKey_flooding (storeLocal_flooding floods) ?_).toStanding
      refine spares.imp_left fun spares => ?_
      simpa [originationSpares, stored, read] using spares
    next => exact (storeLocal_flooding floods).toStanding
  | store bytes => exact (storeLocal_flooding floods).toStanding
  | flush key =>
    refine (flushKey_flooding floods fun aged => spares.imp_left fun spares => ?_).toStanding
    simpa [originationSpares, aged] using spares
  | settleFightBacks => exact h.instance ⟨h.sound.database, h.sound.capacity⟩ rfl rfl

theorem originateAll_standing (originations : List LocalOrigination) (h : Standing pending process)
    (spare : originationsSpare now originations process = true ∨ ∀ id, pending id) :
    Standing pending (originateAll now originations process).2 := by
  induction originations generalizing process with
  | nil => exact h
  | cons origination rest ih =>
    have first : Standing pending (originate process now origination).2 :=
      originate_standing h (spare.imp_left fun spare => (and_eq_true_iff.mp spare).1)
    simp only [originateAll]
    split
    next done =>
      apply ih first
      refine spare.imp_left fun spare => ?_
      simpa [done] using (and_eq_true_iff.mp spare).2
    next => exact first

/-- What the maintenance keeps: it verifies checksums, flushes records that are due, and
erases those that are safe to remove. -/
theorem maintainDatabase_keeps {P : InstanceProcess → Prop} (due : LsaKey → Prop)
    (covers : ∀ process, P process → ∀ sample ∈ process.database.records,
      floodDue sample now = true → due sample.key)
    (verifies : ∀ process sample, P process → P (verifyDue process sample now).2)
    (flushes : ∀ process key, P process → due key → P (flushKey process key now).2)
    (erases : ∀ process key, P process → maxAgeRemovalSafe process key = true →
      P { process with database := (process.database.erase key).2 })
    (h : P process) : P (maintainDatabase process now).2 := by
  have record : ∀ process sample, P process → sample ∈ process.database.records →
      P (maintainRecord process sample now).2.2 := by
    intro process sample h mem
    have verified := verifies process sample h
    obtain ⟨flooded, hflooded⟩ : ∃ flooded, flooded =
      (if floodDue sample now then flushKey (verifyDue process sample now).2 sample.key now
        else (true, (verifyDue process sample now).2)) := ⟨_, rfl⟩
    have kept : P flooded.2 := by
      rw [hflooded]
      split
      next dated => exact flushes _ _ verified (covers process h sample mem dated)
      next => exact verified
    simp only [maintainRecord, ← hflooded]
    split
    · exact verified
    split
    · exact kept
    split
    · exact kept
    split
    next removable => exact erases _ _ kept removable.2.2
    next => exact kept
  have all : ∀ (steps index : Nat) (process : InstanceProcess), P process →
      P (maintainFrom now steps index process).2 := by
    intro steps
    induction steps with
    | zero => exact fun _ _ h => h
    | succ steps ih =>
      intro index process h
      simp only [maintainFrom]
      split
      next => exact h
      rename_i sample at_index
      have mem := List.mem_of_getElem? at_index
      split
      · exact record _ _ h mem
      · exact ih _ _ (record _ _ h mem)
  exact all _ _ _ h

/-- Every record still to be flushed is under one of the keys. -/
def DueUnder (now : Time) (due : LsaKey → Prop) (database : LinkStateDatabase) : Prop :=
  ∀ record ∈ database.records, floodDue record now = true → due record.key

section Due

variable {due : LsaKey → Prop} {database : LinkStateDatabase} {key : LsaKey}

section

variable (h : DueUnder now due database)
include h

/-- A record under the key changes, in a way that makes it due only where it may be. -/
theorem DueUnder.change {f : LsaRecord → LsaRecord} (keyed : ∀ record, (f record).key = record.key)
    (dated : ∀ record ∈ database.records, record.key = key → floodDue (f record) now = true →
      due key ∨ floodDue record now = true) : DueUnder now due (database.change key f) := by
  intro record mem late
  obtain old | ⟨before, old, same, rfl⟩ := mem_update mem
  · exact h record old late
  · rw [keyed]
    obtain named | early := dated before old same late
    · exact same ▸ named
    · exact h before old early

theorem DueUnder.verify : DueUnder now due (database.verifyChecksumAt key now).2 := by
  unfold LinkStateDatabase.verifyChecksumAt
  split
  · exact h
  split
  · exact h
  · exact h.change (fun _ => rfl) fun _ _ _ late => .inr late

theorem DueUnder.age (named : due key) : DueUnder now due (database.prematureAge key now).2 := by
  unfold LinkStateDatabase.prematureAge
  repeat' split
  · exact h
  · exact h
  · exact h.change (fun _ => rfl) fun _ _ _ _ => .inl named

theorem DueUnder.mark : DueUnder now due (database.markMaxAgeFlooded key).2 := by
  unfold LinkStateDatabase.markMaxAgeFlooded
  repeat' split
  · exact h
  · exact h
  · exact h.change (fun _ => rfl) fun _ _ _ late => by simp [floodDue] at late

theorem DueUnder.erase : DueUnder now due (database.erase key).2 := by
  unfold LinkStateDatabase.erase
  split
  · exact h
  · exact fun record mem => h record (List.mem_of_mem_eraseP mem)

end

theorem flushKey_due (h : DueUnder now due process.database) (named : due key) :
    DueUnder now due (flushKey process key now).2.database := by
  simp only [flushKey, floodKey]
  split
  · split
    · exact h.age named
    · simp [floodRecord]
      split
      · exact h.age named
      split
      · exact (h.age named).mark
      · exact h.age named
  · exact h

end Due

theorem maintainDatabase_standing (h : Standing pending process)
    (spares : maintenanceSpares process now = true ∨ ∀ id, pending id) :
    Standing pending (maintainDatabase process now).2 := by
  let floods := fun scope link => sparesExstart process scope link now = true ∨ ∀ id, pending id
  let Maintained := fun other : InstanceProcess => Flooding pending now floods other ∧
    DueUnder now (fun key => floods key.scope none) other.database
  have start : Maintained process := by
    refine ⟨⟨h, fun _ _ => sparesExstart_calm⟩, fun record mem late => ?_⟩
    refine spares.imp_left fun spares => ?_
    simpa [late] using List.all_eq_true.mp spares record mem
  have done : Maintained (maintainDatabase process now).2 := by
    apply maintainDatabase_keeps (P := Maintained) (fun key => floods key.scope none)
      (fun _ h => h.2) _ _ _ start
    · rintro other sample ⟨flooding, due⟩
      simp only [verifyDue]
      split
      · exact ⟨flooding.database (verifyChecksumAt_wellFormed flooding.sound.database)
          verifyChecksumAt_maximumRecords, due.verify⟩
      · exact ⟨flooding, due⟩
    · rintro other key ⟨flooding, due⟩ named
      exact ⟨flushKey_flooding flooding fun _ => named, flushKey_due due named⟩
    · rintro other key ⟨flooding, due⟩ _
      exact ⟨flooding.database (erase_wellFormed flooding.sound.database)
        erase_maximumRecords, due.erase⟩
  exact done.1.toStanding

end Origination

end RouterSim.Ospf
