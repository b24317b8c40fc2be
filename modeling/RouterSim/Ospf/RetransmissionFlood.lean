import RouterSim.Ospf.RetransmissionList

/-! The retransmission lists and the database: an entry names a record and is of the
instance the record holds, and a flood brings the lists it reaches up to date. -/
namespace RouterSim.Ospf

open List Table LinkStateDatabase

/-- The database has a record under the key of the entry, of the same instance. -/
def EntryCurrent (database : LinkStateDatabase) (version : Version) (entry : RetransmissionEntry) :
    Prop :=
  ∃ record ∈ database.find entry.key, ∃ header ∈ lsaHeader record.bytes version,
    entry.sequenceNumber = header.sequenceNumber ∧ entry.checksum = header.checksum

instance {database : LinkStateDatabase} {version : Version} {entry : RetransmissionEntry} :
    Decidable (EntryCurrent database version entry) :=
  inferInstanceAs (Decidable (∃ record ∈ database.find entry.key,
    ∃ header ∈ lsaHeader record.bytes version,
      entry.sequenceNumber = header.sequenceNumber ∧ entry.checksum = header.checksum))

/-- What holds of the lists of a neighbor: no key twice, and every entry names a record, of
the instance it holds unless the key is in `stale`. -/
structure Listed (database : LinkStateDatabase) (version : Version) (stale : LsaKey → Prop)
    (lists : NeighborDatabaseExchange) : Prop where
  nodup : (lists.retransmissions.map (·.key)).Nodup
  present : ∀ entry ∈ lists.retransmissions, (database.find entry.key).isSome
  current : ∀ entry ∈ lists.retransmissions, ¬ stale entry.key → EntryCurrent database version entry
  room : lists.maximumRetransmissions = database.maximumRecords

/-- No key is stale. -/
abbrev NoKey : LsaKey → Prop := fun _ => False

variable {database database' : LinkStateDatabase} {version : Version}
  {stale stale' : LsaKey → Prop} {lists : NeighborDatabaseExchange} {record : LsaRecord}
  {key : LsaKey} {now : Time}

section Lists

section

variable (h : Listed database version stale lists)
include h

theorem Listed.mono (weaker : ∀ entry ∈ lists.retransmissions, stale entry.key →
      stale' entry.key ∨ EntryCurrent database version entry) :
    Listed database version stale' lists := by
  refine ⟨h.nodup, h.present, fun entry mem fresh => ?_, h.room⟩
  by_cases was : stale entry.key
  · obtain still | names := weaker entry mem was
    · exact absurd still fresh
    · exact names
  · exact h.current entry mem was

theorem Listed.lessen {lists' : NeighborDatabaseExchange} (lessens : Lessens lists lists') :
    Listed database version stale lists' where
  nodup := (lessens.sublist.map _).nodup h.nodup
  present := fun entry mem => h.present entry (lessens.sublist.subset mem)
  current := fun entry mem => h.current entry (lessens.sublist.subset mem)
  room := lessens.capacity.trans h.room

omit h in
theorem listed_waning {inst : Instance} (stale : LsaKey → Prop) (sound : Sound inst) :
    Waning inst.maximumLsas (Listed inst.database inst.version stale) where
  fresh :=
    { nodup := nodup_nil, present := fun _ mem => absurd mem not_mem_nil,
      current := fun _ mem => absurd mem not_mem_nil, room := sound.capacity.symm }
  lessens := fun _ _ h lessens => h.lessen lessens

/-- The records stay under their keys, and those that are not stale stay the same instance. -/
def Persists (version : Version) (stale : LsaKey → Prop) (database database' : LinkStateDatabase) :
    Prop :=
  ∀ key record, database.find key = some record → ∃ record', database'.find key = some record' ∧
    (¬ stale key → ∀ header, lsaHeader record.bytes version = some header →
      ∃ header', lsaHeader record'.bytes version = some header' ∧
        header'.sequenceNumber = header.sequenceNumber ∧ header'.checksum = header.checksum)

theorem Listed.persist (persists : Persists version stale database database')
    (capacity : database'.maximumRecords = database.maximumRecords) :
    Listed database' version stale lists where
  nodup := h.nodup
  present := by
    intro entry mem
    obtain ⟨record, found⟩ := Option.isSome_iff_exists.mp (h.present entry mem)
    obtain ⟨record', found', _⟩ := persists entry.key record found
    exact Option.isSome_iff_exists.mpr ⟨record', found'⟩
  current := by
    intro entry mem fresh
    obtain ⟨record, found, header, read, sequence, checksum⟩ := h.current entry mem fresh
    obtain ⟨record', found', same⟩ := persists entry.key record found
    obtain ⟨header', read', sequence', checksum'⟩ := same fresh header read
    exact ⟨record', found', header', read', sequence.trans sequence'.symm,
      checksum.trans checksum'.symm⟩
  room := h.room.trans capacity.symm

omit h in
theorem key_of_find (found : database.find key = some record) : record.key = key :=
  key_of_lookup found

/-- A neighbor's list has room for every record of the database. -/
theorem room_of_listed (fits : database.records.length ≤ database.maximumRecords)
    (found : database.find key = some record) (absent : key ∉ lists.retransmissions.map (·.key)) :
    lists.retransmissions.length ≠ lists.maximumRetransmissions := by
  have present : ∀ other, (database.find other).isSome → other ∈ database.records.map (·.key) :=
    fun other some => lookup_isSome.mp some
  have bound : (key :: lists.retransmissions.map (·.key)).length ≤
      (database.records.map (·.key)).length := by
    apply Nodup.length_le_of_subset (nodup_cons.mpr ⟨absent, h.nodup⟩)
    intro other mem
    obtain rfl | mem := mem_cons.mp mem
    · exact present _ (by rw [found]; rfl)
    · obtain ⟨entry, listed, rfl⟩ := mem_map.mp mem
      exact present _ (h.present entry listed)
  have room := h.room
  simp only [length_cons, length_map] at bound
  omega

end

/-- Queueing a record brings the entry under its key up to date. -/
theorem queueRetransmission_refreshes (h : Listed database version (· = key) lists)
    (wellFormed : database.WellFormed version) (found : database.find key = some record) :
    ∃ queued, lists.queueRetransmission record version = some queued ∧
      Listed database version NoKey queued := by
  obtain rfl := key_of_find found
  obtain ⟨header, read⟩ := Option.isSome_iff_exists.mp
    (wellFormed.headers record (mem_of_lookup found))
  obtain ⟨entry, hentry⟩ : ∃ entry : RetransmissionEntry, entry =
    { key := record.key, sequenceNumber := header.sequenceNumber,
      checksum := header.checksum } := ⟨_, rfl⟩
  have named : EntryCurrent database version entry := by
    rw [hentry]
    exact ⟨record, found, header, read, rfl, rfl⟩
  have entry_key : entry.key = record.key := by rw [hentry]
  simp only [NeighborDatabaseExchange.queueRetransmission, read, ← hentry]
  by_cases listed : (lookup RetransmissionEntry.key record.key lists.retransmissions).isSome
  · have keys : (update RetransmissionEntry.key record.key (fun _ => entry)
        lists.retransmissions).map (·.key) = lists.retransmissions.map (·.key) :=
      keys_update fun _ _ => entry_key
    refine ⟨_, if_pos listed, ?_, ?_, ?_, h.room⟩
    · exact keys ▸ h.nodup
    · intro other mem
      obtain old | ⟨_, _, _, rfl⟩ := mem_update mem
      · exact h.present other old
      · rw [entry_key, found]
        rfl
    · intro other mem _
      -- With no key twice, the entry under the key is the new one.
      have unique := lookup_of_mem (keys ▸ h.nodup) mem
      by_cases here : other.key = record.key
      · rw [here, lookup_update_same fun _ _ => entry_key] at unique
        obtain ⟨_, _, rfl⟩ := Option.map_eq_some_iff.mp unique
        exact named
      · obtain old | ⟨_, _, _, rfl⟩ := mem_update mem
        · exact h.current other old here
        · exact named
  · have absent : record.key ∉ lists.retransmissions.map (·.key) :=
      fun mem => listed (lookup_isSome.mpr mem)
    have room := room_of_listed h wellFormed.fits found absent
    rw [if_neg listed, if_neg room]
    refine ⟨_, rfl, ?_, ?_, ?_, h.room⟩
    · simp
      rw [nodup_append]
      refine ⟨h.nodup, by simp, fun a left b right => ?_⟩
      obtain rfl := mem_singleton.mp right
      rintro rfl
      exact absent (entry_key ▸ left)
    · intro other mem
      obtain old | new := mem_append.mp mem
      · exact h.present other old
      · obtain rfl := mem_singleton.mp new
        rw [entry_key, found]
        rfl
    · intro other mem _
      obtain old | new := mem_append.mp mem
      · refine h.current other old fun same => absent ?_
        exact same ▸ mem_map_of_mem old
      · obtain rfl := mem_singleton.mp new
        exact named

end Lists

section Database

theorem Persists.refl : Persists version stale database database :=
  fun _ record found => ⟨record, found, fun _ header read => ⟨header, read, rfl, rfl⟩⟩

theorem change_persists {f : LsaRecord → LsaRecord} (keeps : ∀ record, (f record).key = record.key)
    (same : ∀ record header, lsaHeader record.bytes version = some header →
      ∃ header', lsaHeader (f record).bytes version = some header' ∧
        header'.sequenceNumber = header.sequenceNumber ∧ header'.checksum = header.checksum) :
    Persists version stale database (database.change key f) := by
  intro other record found
  by_cases here : other = key
  · subst here
    refine ⟨f record, ?_, fun _ => same record⟩
    show lookup _ _ (update _ _ _ _) = _
    rw [lookup_update_same fun record own => (keeps record).trans own]
    exact congrArg (Option.map f) found
  · refine ⟨record, ?_, fun _ header read => ⟨header, read, rfl, rfl⟩⟩
    rw [find_change_other (fun record own => (keeps record).trans own) here]
    exact found

theorem markMaxAgeFlooded_persists :
    Persists version stale database (database.markMaxAgeFlooded key).2 := by
  unfold LinkStateDatabase.markMaxAgeFlooded
  repeat' split
  · exact .refl
  · exact .refl
  · exact change_persists (fun _ => rfl) fun _ header read => ⟨header, read, rfl, rfl⟩

theorem verifyChecksumAt_persists :
    Persists version stale database (database.verifyChecksumAt key now).2 := by
  unfold LinkStateDatabase.verifyChecksumAt
  repeat' split
  · exact .refl
  · exact .refl
  · exact change_persists (fun _ => rfl) fun _ header read => ⟨header, read, rfl, rfl⟩

theorem prematureAge_persists :
    Persists version stale database (database.prematureAge key now).2 := by
  unfold LinkStateDatabase.prematureAge
  repeat' split
  · exact .refl
  · exact .refl
  · apply change_persists
    · exact fun _ => rfl
    · intro record header read
      refine ⟨{ header with ageSeconds := maxAgeSeconds }, ?_, rfl, rfl⟩
      rw [LsaRecord.prematureAge, lsaHeader_write_age, read]
      rfl

/-- An advertisement that is installed makes its own key stale and no other. -/
theorem install_persists {bytes : List (BitVec 8)} {header : LsaHeaderView}
    (read : lsaHeader bytes version = some header) {router : BitVec 32} {received : Bool} :
    Persists version (· = lsaKey header) database
      (database.install bytes version now router received).2 := by
  intro other record found
  by_cases here : other = lsaKey header
  · subst here
    obtain ⟨_, same⟩ | ⟨_, installed, found', _⟩ := database.install_cases read now router received
    · rw [same]
      exact ⟨record, found, fun fresh => absurd rfl fresh⟩
    · exact ⟨installed, found', fun fresh => absurd rfl fresh⟩
  · refine ⟨record, ?_, fun _ header read => ⟨header, read, rfl, rfl⟩⟩
    rw [find_install_other read here]
    exact found

theorem Listed.erase (h : Listed database version stale lists)
    (unlisted : lists.retransmits key = false) :
    Listed (database.erase key).2 version stale lists := by
  have other : ∀ entry ∈ lists.retransmissions,
      (database.erase key).2.find entry.key = database.find entry.key := by
    intro entry mem
    have ne : entry.key ≠ key := by
      simpa using any_eq_false.mp unlisted entry mem
    unfold LinkStateDatabase.erase
    split
    · rfl
    · exact lookup_drop_other ne
  constructor
  · exact h.nodup
  · intro entry mem
    rw [other entry mem]
    exact h.present entry mem
  · intro entry mem fresh
    unfold EntryCurrent
    rw [other entry mem]
    exact h.current entry mem fresh
  · rw [erase_maximumRecords]
    exact h.room

end Database

section Floods

variable {owner : InterfaceOwner} {reaches : NeighborExchange → Bool}

/-- A flood of the record under a stale key never fails, and leaves no list stale that it
reaches. -/
theorem floodRows_listed (now : Time) (h : Lists (Listed database version (· = key)) owner)
    (wellFormed : database.WellFormed version) (found : database.find key = some record)
    (others : ∀ row ∈ owner.exchanges, reaches row = false →
      Listed database version NoKey row.database) :
    (floodRows version record now reaches owner).1 = true ∧
      Lists (Listed database version NoKey) (floodRows version record now reaches owner).2 := by
  have one : ∀ row ∈ owner.exchanges,
      (if reaches row then queueFlood version record now row else (true, row)).1 = true ∧
        Listed database version NoKey
          (if reaches row then queueFlood version record now row else (true, row)).2.database := by
    intro row mem
    split
    next =>
      obtain ⟨queued, done, listed⟩ := queueRetransmission_refreshes (h row mem) wellFormed found
      simp only [queueFlood, done]
      exact ⟨trivial, listed⟩
    next unreached => exact ⟨rfl, others row mem (by simpa using unreached)⟩
  have swept := sweep_all fun row mem => (one row mem).1
  simp only [floodRows, swept]
  refine ⟨trivial, fun row mem => ?_⟩
  obtain ⟨before, old, rfl⟩ := mem_map.mp mem
  exact (one before old).2

/-- What holds of an instance: its database is sound, and so is what every list names. -/
structure Retains (stale : LsaKey → Prop) (process : InstanceProcess) : Prop where
  sound : Sound process.toInstance
  lists : ∀ owner ∈ process.interfaces, Lists (Listed process.database process.version stale) owner

variable {process : InstanceProcess} {interfaceId id : BitVec 32}

theorem Retains.changeDatabase (h : Retains stale process)
    (persists : Persists process.version stale process.database database)
    (wellFormed : database.WellFormed process.version)
    (capacity : database.maximumRecords = process.database.maximumRecords) :
    Retains stale { process with database } where
  sound := ⟨wellFormed, capacity.trans h.sound.capacity⟩
  lists := fun owner mem row listed => (h.lists owner mem row listed).persist persists capacity

theorem Retains.mono (h : Retains stale process) (weaker : ∀ key, stale key → stale' key) :
    Retains stale' process :=
  ⟨h.sound, fun owner mem row listed =>
    (h.lists owner mem row listed).mono fun _ _ was => .inl (weaker _ was)⟩

variable (h : Retains (· = key) process)
include h

theorem Retains.flood (now : Time) (found : process.database.find key = some record)
    {reaches : InterfaceOwner → NeighborExchange → Bool}
    (others : ∀ owner ∈ process.interfaces, ∀ row ∈ owner.exchanges, reaches owner row = false →
      Listed process.database process.version NoKey row.database) :
    (sweep (fun owner => floodRows process.version record now (reaches owner) owner)
        process.interfaces).1 = true ∧
      Retains NoKey
        { process with
          interfaces := (sweep
            (fun owner => floodRows process.version record now (reaches owner) owner)
            process.interfaces).2 } := by
  have one := fun owner mem => floodRows_listed now (h.lists owner mem)
    h.sound.database found (others owner mem)
  rw [sweep_all fun owner mem => (one owner mem).1]
  refine ⟨rfl, h.sound, fun owner mem => ?_⟩
  obtain ⟨before, old, rfl⟩ := mem_map.mp mem
  exact (one before old).2

theorem floodRecord_retains (found : process.database.find key = some record)
    {linkInterface : Option (BitVec 32)}
    (others : ∀ owner ∈ process.interfaces, ∀ row ∈ owner.exchanges,
      floodReaches owner key.scope linkInterface now row = false →
      Listed process.database process.version NoKey row.database) :
    Retains NoKey (floodRecord process record linkInterface now).2 := by
  obtain rfl := key_of_find found
  obtain ⟨_, flooded⟩ := h.flood now found others
  simp only [floodRecord]
  split
  · exact flooded
  split
  · exact flooded.changeDatabase markMaxAgeFlooded_persists
      (markMaxAgeFlooded_wellFormed h.sound.database) markMaxAgeFlooded_maximumRecords
  · exact flooded

theorem floodKey_retains {linkInterface : Option (BitVec 32)}
    (others : ∀ owner ∈ process.interfaces, ∀ row ∈ owner.exchanges,
      floodReaches owner key.scope linkInterface now row = false →
      Listed process.database process.version NoKey row.database)
    (present : (process.database.find key).isSome) :
    Retains NoKey (floodKey process key linkInterface now).2 := by
  obtain ⟨record, found⟩ := Option.isSome_iff_exists.mp present
  simp only [floodKey, found]
  exact floodRecord_retains h found others

end Floods

end RouterSim.Ospf
