import RouterSim.Ospf.DatabaseExchange

/-! Which instance an acknowledgment stands for. A retransmission entry keeps the sequence
number and the checksum it was queued with, and an acknowledgment is matched to these; the order
of instances also looks at the age, which a flush changes alone. -/
namespace RouterSim.Ospf

variable {exchange : NeighborDatabaseExchange} {db : LinkStateDatabase} {version : Version}
  {now : Time} {header : LsaHeaderView} {entry : RetransmissionEntry}

/-- The header of the copy the database holds, with the age it has now. -/
def LinkStateDatabase.copyHeader (db : LinkStateDatabase) (key : LsaKey) (version : Version)
    (now : Time) : Option LsaHeaderView :=
  (db.find key).bind fun record =>
    (lsaHeader record.bytes version).map fun header => { header with ageSeconds := record.age now }

/-- Two ages that the order of instances does not tell apart: both MaxAge, or neither and not
more than MaxAgeDiff from each other. -/
def SameAge (a b : BitVec 16) : Prop :=
  a = maxAgeSeconds ∧ b = maxAgeSeconds ∨
    a ≠ maxAgeSeconds ∧ b ≠ maxAgeSeconds ∧ a.toNat ≤ b.toNat + 900 ∧ b.toNat ≤ a.toNat + 900

def ageDifference (candidate current : BitVec 16) : Nat :=
  if current < candidate then candidate.toNat - current.toNat else current.toNat - candidate.toNat

theorem difference_le_iff {a b : BitVec 16} :
    ageDifference a b ≤ 900 ↔ a.toNat ≤ b.toNat + 900 ∧ b.toNat ≤ a.toNat + 900 := by
  simp only [ageDifference, BitVec.lt_def]
  split <;> omega

theorem compare_identical_iff {candidate current : LsaHeaderView} :
    compareLsaHeaders candidate current = .identical ↔
      candidate.sequenceNumber = current.sequenceNumber ∧
        candidate.checksum = current.checksum ∧
        SameAge candidate.ageSeconds current.ageSeconds := by
  by_cases hsequence : candidate.sequenceNumber = current.sequenceNumber
  case neg =>
    simp only [compareLsaHeaders, hsequence, ne_eq, settled]
    split <;> simp
  by_cases hchecksum : candidate.checksum = current.checksum
  case neg =>
    simp only [compareLsaHeaders, hsequence, hchecksum, ne_eq, settled]
    split <;> simp
  simp only [compareLsaHeaders, hsequence, hchecksum, ne_eq, settled, SameAge]
  by_cases hcandidate : candidate.ageSeconds = maxAgeSeconds
  · by_cases hcurrent : current.ageSeconds = maxAgeSeconds
    · simp [hcandidate, hcurrent]
    · simp [hcandidate, hcurrent]
  · by_cases hcurrent : current.ageSeconds = maxAgeSeconds
    · simp [hcandidate, hcurrent]
    · simp only [hcandidate, hcurrent, settled]
      rw [← difference_le_iff]
      constructor
      · intro h
        by_cases far : 900 < ageDifference candidate.ageSeconds current.ageSeconds
        · rw [ageDifference] at far
          rw [if_pos far] at h
          split at h <;> cases h
        · omega
      · intro near
        apply if_neg
        rw [ageDifference] at near
        omega

/-- The header names the advertisement of the entry, by type, link-state id and router. -/
def NamesKey (header : LsaHeaderView) (key : LsaKey) : Prop :=
  key.type = header.type ∧ key.linkStateId = header.linkStateId ∧
    key.advertisingRouter = header.advertisingRouter

/-- The header names the advertisement, and carries the sequence number and the checksum the
entry was queued with. -/
def NamesEntry (header : LsaHeaderView) (entry : RetransmissionEntry) : Prop :=
  NamesKey header entry.key ∧ entry.sequenceNumber = header.sequenceNumber ∧
    entry.checksum = header.checksum

theorem acknowledges_iff :
    NeighborDatabaseExchange.acknowledges header entry = true ↔ NamesEntry header entry := by
  simp [NeighborDatabaseExchange.acknowledges, NamesEntry, NamesKey, and_assoc]

/-- An acknowledgment removes the entries it names and no others. -/
theorem removed_iff (listed : entry ∈ exchange.retransmissions) :
    entry ∉ (exchange.acknowledge header).2.retransmissions ↔ NamesEntry header entry := by
  rw [← acknowledges_iff]
  simp [NeighborDatabaseExchange.acknowledge, listed]

/-- Whatever the acknowledgment removes is, by the order of instances, the copy the database
holds now. -/
def AcknowledgesCopies (exchange : NeighborDatabaseExchange) (db : LinkStateDatabase)
    (version : Version) (now : Time) (header : LsaHeaderView) : Prop :=
  ∀ entry ∈ exchange.retransmissions,
    entry ∉ (exchange.acknowledge header).2.retransmissions →
      ∃ copy, db.copyHeader entry.key version now = some copy ∧
        compareLsaHeaders header copy = .identical

/-- The entries the header names are the database's current instances, and the header is of
their age. -/
def NamesCurrent (exchange : NeighborDatabaseExchange) (db : LinkStateDatabase)
    (version : Version) (now : Time) (header : LsaHeaderView) : Prop :=
  ∀ entry ∈ exchange.retransmissions, NamesEntry header entry →
    ∃ copy, db.copyHeader entry.key version now = some copy ∧
      copy.sequenceNumber = entry.sequenceNumber ∧ copy.checksum = entry.checksum ∧
      SameAge header.ageSeconds copy.ageSeconds

/-- An acknowledgment removes current instances only, exactly when the entries it names are the
database's and its age belongs to them. -/
theorem acknowledgesCopies_iff (exchange : NeighborDatabaseExchange) (db : LinkStateDatabase)
    (version : Version) (now : Time) (header : LsaHeaderView) :
    AcknowledgesCopies exchange db version now header ↔
      NamesCurrent exchange db version now header := by
  constructor
  · intro h entry listed named
    obtain ⟨copy, held, same⟩ := h entry listed ((removed_iff listed).mpr named)
    obtain ⟨hsequence, hchecksum, hage⟩ := compare_identical_iff.mp same
    have ⟨_, sequence, checksum⟩ := named
    exact ⟨copy, held, hsequence.symm.trans sequence.symm, hchecksum.symm.trans checksum.symm, hage⟩
  · intro h entry listed removed
    have named := (removed_iff listed).mp removed
    have ⟨_, sequence, checksum⟩ := named
    obtain ⟨copy, held, hsequence, hchecksum, hage⟩ := h entry listed named
    refine ⟨copy, held, compare_identical_iff.mpr ⟨?_, ?_, hage⟩⟩
    · rw [hsequence, sequence]
    · rw [hchecksum, checksum]

/-- A router advertisement of age one. -/
def flushedLsa : List (BitVec 8) :=
  [0, 1, 2, 1, 10, 0, 0, 1, 10, 0, 0, 1, 0x80, 0, 0, 1, 138, 198, 0, 20].map (BitVec.ofNat 8)

def flushedKey : LsaKey :=
  { linkStateId := 0x0a000001#32, advertisingRouter := 0x0a000001#32, type := 1#16, scope := .area }

def flushedHeader : LsaHeaderView :=
  { linkStateId := 0x0a000001#32, advertisingRouter := 0x0a000001#32,
    sequenceNumber := 0x80000001#32, ageSeconds := 1#16, type := 1#16, checksum := 0x8ac6#16,
    length := 20#16, options := 2#32 }

def installedDatabase : LinkStateDatabase :=
  (({ maximumRecords := 1 } : LinkStateDatabase).install flushedLsa .two 0 0x0a000001#32 false).2

def flushedDatabase : LinkStateDatabase := (installedDatabase.prematureAge flushedKey (seconds 1)).2

/-- The neighbor the advertisement was sent to, and then its flush. -/
def flushedExchange : NeighborDatabaseExchange :=
  { NeighborDatabaseExchange.withCapacity 1 with
    retransmissions := [⟨flushedKey, 0x80000001#32, 0x8ac6#16⟩] }

theorem flushedExchange_queued :
    ((do
      let installed ← installedDatabase.find flushedKey
      let sent ← (NeighborDatabaseExchange.withCapacity 1).queueRetransmission installed .two
      let flushed ← flushedDatabase.find flushedKey
      sent.queueRetransmission flushed .two) : Option NeighborDatabaseExchange) =
        some flushedExchange := rfl

/-- The acknowledgment of the advertisement as it was before the flush removes the entry of the
flush, which is newer. -/
theorem flush_acknowledged_by_older :
    lsaHeader flushedLsa .two = some flushedHeader ∧
      (flushedDatabase.copyHeader flushedKey .two (seconds 1)).map
        (compareLsaHeaders flushedHeader) = some .older ∧
      (flushedExchange.acknowledge flushedHeader).2.retransmissions = [] ∧
      ¬ AcknowledgesCopies flushedExchange flushedDatabase .two (seconds 1) flushedHeader := by
  have older : (flushedDatabase.copyHeader flushedKey .two (seconds 1)).map
      (compareLsaHeaders flushedHeader) = some .older := by decide
  refine ⟨by decide, older, by decide, ?_⟩
  intro h
  obtain ⟨copy, held, same⟩ := h ⟨flushedKey, 0x80000001#32, 0x8ac6#16⟩ (by decide) (by decide)
  rw [show flushedDatabase.copyHeader flushedKey .two (seconds 1) = some copy from held,
    Option.map_some, same] at older
  cases older

end RouterSim.Ospf
