import RouterSim.Ospf.Lsdb

/-! Databases that take the same advertisements come to hold the same records, whatever order
the advertisements come in and however often each of them comes. -/
namespace RouterSim.Ospf

open List BitVec

namespace LsaHeaderView

/-- The signed sequence number decides, then the checksum. -/
def AtMost (a b : LsaHeaderView) : Prop :=
  a.sequenceNumber.toInt < b.sequenceNumber.toInt ∨
    a.sequenceNumber.toInt = b.sequenceNumber.toInt ∧ a.checksum.toNat ≤ b.checksum.toNat

/-- With both the same, an instance of the maximum age is the newer one, else one that is
younger by more than the greatest difference of one instance's copies. -/
def NewerThan (a b : LsaHeaderView) : Prop :=
  ¬ a.AtMost b ∨ a.AtMost b ∧ b.AtMost a ∧ b.ageSeconds.toNat ≠ 3600 ∧
    (a.ageSeconds.toNat = 3600 ∨ a.ageSeconds.toNat + 900 < b.ageSeconds.toNat)

variable {a b c : LsaHeaderView}

theorem compareLsaHeaders_iff : (compareLsaHeaders a b = .newer ↔ a.NewerThan b) ∧
    (compareLsaHeaders a b = .older ↔ b.NewerThan a) := by
  simp only [compareLsaHeaders, ← toInt_inj, ← toNat_inj (n := 16), lt_def,
    ne_eq, toNat_ofNat, NewerThan, AtMost]
  repeat' split
  all_goals simp only [reduceCtorEq, false_iff, true_iff]; omega

theorem compareLsaHeaders_newer_trans (first : compareLsaHeaders a b = .newer)
    (second : compareLsaHeaders b c = .newer) : compareLsaHeaders a c = .newer := by
  rw [compareLsaHeaders_iff.1, NewerThan, AtMost, AtMost] at *
  omega

theorem atMost_of_compare : if compareLsaHeaders a b = .newer then b.AtMost a else a.AtMost b := by
  split
  all_goals
    next order =>
      rw [compareLsaHeaders_iff.1, NewerThan, AtMost, AtMost] at order
      rw [AtMost]
      omega

theorem AtMost.trans (ab : a.AtMost b) (bc : b.AtMost c) : a.AtMost c := by
  rw [AtMost] at *
  omega

theorem AtMost.antisymm (ab : a.AtMost b) (ba : b.AtMost a) :
    a.sequenceNumber = b.sequenceNumber ∧ a.checksum = b.checksum := by
  rw [AtMost] at ab ba
  exact ⟨eq_of_toInt_eq (by omega), eq_of_toNat_eq (by omega)⟩

end LsaHeaderView

/-- The types that a database keeps. -/
def keepsType (version : Version) (type : BitVec 16) : Prop :=
  match version with
  | .two => knownVersionTwoType type = true
  | .three => (type >>> 13) &&& 3#16 ≠ 3#16

/-- A well-formed advertisement of another router, not yet of the maximum age. -/
structure Advertisement (version : Version) (localRouterId : BitVec 32) where
  bytes : List (BitVec 8)
  header : LsaHeaderView
  read : lsaHeader bytes version = some header
  length : header.length.toNat = bytes.length
  checksum : verifyLsaChecksum bytes = true
  sequence : header.sequenceNumber ≠ 0x80000000#32
  young : header.ageSeconds < maxAgeSeconds
  foreign : header.advertisingRouter ≠ localRouterId

variable {version : Version} {router : BitVec 32}

namespace Advertisement

def key (lsa : Advertisement version router) : LsaKey := lsaKey lsa.header

/-- The record of an advertisement that is installed. -/
def record (lsa : Advertisement version router) (now : Time) : LsaRecord :=
  { key := lsa.key, bytes := lsa.bytes, installedAt := now, ageAtInstall := lsa.header.ageSeconds,
    lastChecksumCheckAge := lsa.header.ageSeconds }

/-- No instance that has come is above this one. -/
structure Greatest (arrivals : List (Advertisement version router))
    (lsa : Advertisement version router) : Prop where
  mem : lsa ∈ arrivals
  kept : keepsType version lsa.header.type
  most : ∀ other ∈ arrivals, other.key = lsa.key → other.header.AtMost lsa.header

end Advertisement

open Advertisement LinkStateDatabase

/-- What a database holds once the advertisements have come, each from a neighbor or not. -/
def installAll (version : Version) (router : BitVec 32) (now : Time) (db : LinkStateDatabase) :
    List (Advertisement version router × Bool) → LinkStateDatabase
  | [] => db
  | (lsa, received) :: rest =>
    installAll version router now (db.install lsa.bytes version now router received).2 rest

/-- Each key has the greatest instance that has come under it. -/
structure Holds (now : Time) (arrivals : List (Advertisement version router))
    (db : LinkStateDatabase) : Prop where
  distinct : (db.records.map LsaRecord.key).Nodup
  found : ∀ key record, db.find key = some record →
    ∃ lsa, Greatest arrivals lsa ∧ lsa.key = key ∧ lsa.record now = record
  complete : ∀ lsa ∈ arrivals, keepsType version lsa.header.type → (db.find lsa.key).isSome

variable {now : Time} {db : LinkStateDatabase} {arrivals : List (Advertisement version router)}
  {lsa : Advertisement version router} {received : Bool}

/-- An advertisement is put in the database or has a type that is not kept or an instance in it
that is at least as great. -/
theorem install_advertisement (h : Holds now arrivals db)
    (room : db.find lsa.key = none → db.records.length ≠ db.maximumRecords) :
    (db.install lsa.bytes version now router received).2 = db ∧
        (keepsType version lsa.header.type → ∃ other, Greatest arrivals other ∧
          other.key = lsa.key ∧ lsa.header.AtMost other.header) ∨
      (db.install lsa.bytes version now router received).2 = db.put (lsa.record now) ∧
        keepsType version lsa.header.type ∧
          ∀ record, db.find lsa.key = some record → ∃ other, Greatest arrivals other ∧
            other.key = lsa.key ∧ other.header.AtMost lsa.header := by
  obtain ⟨bytes, header, read, length, checksum, sequence, young, foreign⟩ := lsa
  have well : ¬(header.length.toNat ≠ bytes.length ∨ maxAgeSeconds < header.ageSeconds ∨
      header.sequenceNumber = 0x80000000#32 ∨ verifyLsaChecksum bytes = false) := by
    simp only [length, checksum, sequence, BitVec.not_lt.mpr (BitVec.le_of_lt young)]
    simp
  simp only [install, read, if_neg well]
  have kept : keepsType version header.type ↔ ¬(version = .two ∧ !knownVersionTwoType header.type) ∧
        ¬(version = .three ∧ (header.type >>> 13) &&& 3#16 = 3#16) := by
    cases version <;> simp [keepsType]
  have other_router : (received && header.advertisingRouter == router) = false := by simp [foreign]
  split
  · next ignored => exact .inl ⟨rfl, fun keeps => absurd ignored (kept.mp keeps).1⟩
  split
  · next ignored => exact .inl ⟨rfl, fun keeps => absurd ignored (kept.mp keeps).2⟩
  next first second =>
  have keeps := kept.mpr ⟨first, second⟩
  cases found : db.find (lsaKey header) with
  | none =>
    have free := room found
    simp only [refusal, found, free, other_router]
    exact .inr ⟨rfl, keeps, fun _ absurd => by rw [key, found] at absurd; cases absurd⟩
  | some record =>
    obtain ⟨other, greatest, same, rfl⟩ := h.found _ _ found
    have age : (other.record now).age now = other.header.ageSeconds := if_pos (Int.le_refl _)
    have aged : { other.header with ageSeconds := (other.record now).age now } = other.header := by
      rw [age]
    have order := @LsaHeaderView.atMost_of_compare header other.header
    have stored : lsaHeader (other.record now).bytes version = some other.header := other.read
    have instant : decide ((other.record now).installedAt < now) = false :=
      decide_eq_false (Int.lt_irrefl now)
    simp only [refusal, found, stored, aged, other_router, instant, settled]
    cases compared : compareLsaHeaders header other.header with
    | newer =>
      rw [compared, if_pos rfl] at order
      exact .inr ⟨rfl, keeps, fun _ _ => ⟨other, greatest, same, order⟩⟩
    | older =>
      rw [compared, if_neg LsaRecency.noConfusion] at order
      exact .inl ⟨rfl, fun _ => ⟨other, greatest, same, order⟩⟩
    | identical =>
      rw [compared, if_neg LsaRecency.noConfusion] at order
      exact .inl ⟨rfl, fun _ => ⟨other, greatest, same, order⟩⟩

theorem put_distinct (distinct : (db.records.map LsaRecord.key).Nodup) (record : LsaRecord) :
    ((db.put record).records.map LsaRecord.key).Nodup := by
  unfold put
  cases found : db.find record.key with
  | some _ =>
    show ((Table.update LsaRecord.key record.key _ db.records).map LsaRecord.key).Nodup
    rwa [Table.keys_update fun _ _ => rfl]
  | none =>
    rw [map_append, nodup_append]
    refine ⟨distinct, by simp, fun key mem other last => ?_⟩
    rw [mem_singleton.mp last]
    rintro rfl
    exact Table.lookup_none.mp found mem

theorem keepsType_of_key {a b : Advertisement version router} (same : a.key = b.key)
    (kept : keepsType version b.header.type) : keepsType version a.header.type := by
  have types : a.header.type = b.header.type := congrArg LsaKey.type same
  rwa [types]

theorem record_eq {a b : Advertisement version router} (same : a.bytes = b.bytes) :
    a.record now = b.record now := by
  obtain rfl : a = b := by
    obtain ⟨_, _, read⟩ := a
    obtain ⟨_, _, other⟩ := b
    obtain rfl : _ = _ := same
    obtain rfl := Option.some.inj (read.symm.trans other)
    rfl
  rfl

/-- A greatest instance stays greatest when what comes is not above it. -/
theorem Advertisement.Greatest.later {best : Advertisement version router}
    (h : Greatest arrivals best) (below : lsa.key = best.key → lsa.header.AtMost best.header) :
    Greatest (arrivals ++ [lsa]) best where
  mem := mem_append_left _ h.mem
  kept := h.kept
  most := by
    intro other mem same
    obtain mem | mem := mem_append.mp mem
    · exact h.most other mem same
    · obtain rfl := mem_singleton.mp mem
      exact below same

theorem Holds.install (h : Holds now arrivals db)
    (room : db.find lsa.key = none → db.records.length ≠ db.maximumRecords) :
    Holds now (arrivals ++ [lsa]) (db.install lsa.bytes version now router received).2 := by
  obtain ⟨same, covered⟩ | ⟨same, kept, below⟩ := install_advertisement h room
  · rw [same]
    refine ⟨h.distinct, fun key record found => ?_, fun other mem kept => ?_⟩
    · obtain ⟨best, greatest, rfl, rfl⟩ := h.found key record found
      refine ⟨best, greatest.later fun same => ?_, rfl, rfl⟩
      obtain ⟨other, above, other_key, least⟩ := covered (keepsType_of_key same greatest.kept)
      exact least.trans (greatest.most other above.mem (other_key.trans same))
    · obtain mem | mem := mem_append.mp mem
      · exact h.complete other mem kept
      · obtain rfl := mem_singleton.mp mem
        obtain ⟨above, greatest, same, -⟩ := covered kept
        exact same ▸ h.complete above greatest.mem greatest.kept
  · rw [same]
    have stored : (db.put (lsa.record now)).find lsa.key = some (lsa.record now) := find_put_same
    have others : ∀ key, key ≠ lsa.key → (db.put (lsa.record now)).find key = db.find key :=
      fun key ne => find_put_other ne
    refine ⟨put_distinct h.distinct _, fun key record found => ?_, fun other mem kept => ?_⟩
    · by_cases here : key = lsa.key
      · subst here
        obtain rfl := Option.some.inj (stored.symm.trans found)
        refine ⟨lsa, ⟨by simp, kept, fun other mem same => ?_⟩, rfl, rfl⟩
        obtain mem | mem := mem_append.mp mem
        · have held := h.complete other mem (keepsType_of_key same kept)
          obtain ⟨record, found⟩ := Option.isSome_iff_exists.mp (same ▸ held)
          obtain ⟨best, greatest, best_key, least⟩ := below record found
          exact (greatest.most other mem (same.trans best_key.symm)).trans least
        · exact mem_singleton.mp mem ▸ .inr ⟨rfl, Nat.le_refl _⟩
      · rw [others key here] at found
        obtain ⟨best, greatest, rfl, rfl⟩ := h.found key record found
        exact ⟨best, greatest.later fun same => absurd same.symm here, rfl, rfl⟩
    · by_cases here : other.key = lsa.key
      · rw [here, stored]
        rfl
      · rw [others _ here]
        obtain mem | mem := mem_append.mp mem
        · exact h.complete other mem kept
        · exact absurd (congrArg key (mem_singleton.mp mem)) here

theorem Holds.installAll {rest : List (Advertisement version router × Bool)} {places : List LsaKey}
    (h : Holds now arrivals db) (room : places.length ≤ db.maximumRecords)
    (seen : ∀ lsa ∈ arrivals, lsa.key ∈ places) (coming : ∀ lsa ∈ rest, lsa.1.key ∈ places) :
    Holds now (arrivals ++ rest.map Prod.fst) (installAll version router now db rest) := by
  induction rest generalizing arrivals db with
  | nil =>
    rw [map_nil, append_nil]
    exact h
  | cons first rest ih =>
    obtain ⟨lsa, received⟩ := first
    have key_mem : lsa.key ∈ places := coming (lsa, received) mem_cons_self
    have free : db.find lsa.key = none → db.records.length ≠ db.maximumRecords := by
      intro absent
      have fresh := nodup_cons.mpr ⟨Table.lookup_none.mp absent, h.distinct⟩
      have inside : lsa.key :: db.records.map LsaRecord.key ⊆ places := by
        intro key mem
        obtain rfl | mem := mem_cons.mp mem
        · exact key_mem
        · obtain ⟨record, stored, rfl⟩ := mem_map.mp mem
          obtain ⟨other, greatest, same, -⟩ := h.found _ _ (Table.lookup_of_mem h.distinct stored)
          exact same ▸ seen other greatest.mem
      have few := fresh.length_le_of_subset inside
      rw [length_cons, length_map] at few
      omega
    rw [map_cons, append_cons]
    refine ih (h.install free) (by simpa using room) ?_ fun lsa mem => coming lsa (.tail _ mem)
    intro other mem
    obtain mem | mem := mem_append.mp mem
    · exact seen other mem
    · exact mem_singleton.mp mem ▸ key_mem

theorem install_converges {arrivals : List (Advertisement version router × Bool)}
    {places : List LsaKey} {maximumRecords : Nat} (room : places.length ≤ maximumRecords)
    (coming : ∀ lsa ∈ arrivals, lsa.1.key ∈ places)
    (different : ∀ a ∈ arrivals, ∀ b ∈ arrivals, a.1.key = b.1.key →
      a.1.header.sequenceNumber = b.1.header.sequenceNumber →
        a.1.header.checksum = b.1.header.checksum → a.1.bytes = b.1.bytes) :
    Holds now (arrivals.map Prod.fst) (installAll version router now { maximumRecords } arrivals) ∧
      (∀ lsa, Greatest (arrivals.map Prod.fst) lsa →
        (installAll version router now { maximumRecords } arrivals).find lsa.key =
          some (lsa.record now)) ∧
      (∀ a b, compareLsaHeaders a b = .newer ↔ compareLsaHeaders b a = .older) ∧
        ∀ a b c, compareLsaHeaders a b = .newer → compareLsaHeaders b c = .newer →
          compareLsaHeaders a c = .newer := by
  have start : Holds now ([] : List (Advertisement version router)) { maximumRecords } := by
    refine ⟨nodup_nil, fun _ _ found => ?_, fun _ absent => ?_⟩
    · cases found
    · cases absent
  have ends := start.installAll room (fun _ absent => by cases absent) coming
  refine ⟨ends, fun lsa greatest => ?_, fun a b => ?_, fun a b c => ?_⟩
  · have held := ends.complete lsa greatest.mem greatest.kept
    obtain ⟨record, found⟩ := Option.isSome_iff_exists.mp held
    obtain ⟨best, best_greatest, same, rfl⟩ := ends.found _ _ found
    have above := best_greatest.most lsa greatest.mem same.symm
    have below := greatest.most best best_greatest.mem same
    obtain ⟨first, first_mem, rfl⟩ := mem_map.mp greatest.mem
    obtain ⟨second, second_mem, rfl⟩ := mem_map.mp best_greatest.mem
    have equal := below.antisymm above
    rw [found, record_eq (different second second_mem first first_mem same equal.1 equal.2)]
  · rw [LsaHeaderView.compareLsaHeaders_iff.1, LsaHeaderView.compareLsaHeaders_iff.2]
  · exact LsaHeaderView.compareLsaHeaders_newer_trans

/-- The advertisement of a router, of the given type and sequence number. -/
def sampleOctets (type sequence high low : BitVec 8) : List (BitVec 8) :=
  [0, 1, 2, type, 9, 9, 9, 9, 1, 1, 1, 1, 0x80, 0, 0, sequence, high, low, 0, 20]

def sampleHeader (type sequence high low : BitVec 8) : LsaHeaderView :=
  { linkStateId := 0x09090909#32, advertisingRouter := 0x01010101#32
    sequenceNumber := 0x800000#24 ++ sequence, ageSeconds := 1#16, type := type.setWidth 16
    checksum := high ++ low, length := 20#16, options := 2#32 }

def olderSample : Advertisement .two 7#32 :=
  ⟨sampleOctets 1 1 0xb9 0x85, sampleHeader 1 1 0xb9 0x85, by decide, by decide, by decide,
    by decide, by decide, by decide⟩

def newerSample : Advertisement .two 7#32 :=
  ⟨sampleOctets 1 2 0xb7 0x86, sampleHeader 1 2 0xb7 0x86, by decide, by decide, by decide,
    by decide, by decide, by decide⟩

/-- The older instance that comes late and again changes nothing. -/
theorem install_converges_late : Holds 0 [newerSample, olderSample, newerSample]
    (installAll .two 7#32 0 { maximumRecords := 1 }
      [(newerSample, true), (olderSample, true), (newerSample, false)]) :=
  (@install_converges .two 7#32 0 [(newerSample, true), (olderSample, true),
    (newerSample, false)] [olderSample.key] 1 (by decide) (by decide) (by decide)).1

/-- An advertisement of a type that is not known is well formed and not kept. -/
theorem unknown_type_ignored : ∃ lsa : Advertisement .two 7#32,
    (installAll .two 7#32 0 { maximumRecords := 1 } [(lsa, true)]).find lsa.key = none :=
  ⟨⟨sampleOctets 8 1 0x57 0xe0, sampleHeader 8 1 0x57 0xe0, by decide, by decide, by decide,
    by decide, by decide, by decide⟩, by decide⟩

end RouterSim.Ospf
