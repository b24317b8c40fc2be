import RouterSim.Dns.NsecProof
import RouterSim.Dns.Nodata

/-! What a resolver concludes about missing types from authenticated NSEC records, against what
the server of the zone would have said. -/
namespace RouterSim.Dns.Zone

open List

variable {zone : Zone} {nsecs : List AuthenticatedNsec} {nsec : AuthenticatedNsec}
  {name next : Name} {type : BitVec 16} {path : List (List (BitVec 8))}

theorem shown_iff (accepted : zone.Accepted) :
    type ∈ nsecTypes zone.origin zone.records name ↔ type = typeNsec ∨ type = typeRrsig ∨
      zone.Owns name.key type ∧ generated type = false ∧
        (zone.Delegated name.key → type = typeNs ∨ type = typeDs) := by
  rw [mem_nsecTypes, atCut_iff accepted]
  constructor
  · rintro (nsec | rrsig | ⟨record, mem, same, kind, plain⟩)
    · exact .inl nsec
    · exact .inr (.inl rrsig)
    · exact .inr (.inr ⟨⟨record, mem, same, kind⟩, plain⟩)
  · rintro (nsec | rrsig | ⟨⟨record, mem, same, kind⟩, plain⟩)
    · exact .inl nsec
    · exact .inr (.inl rrsig)
    · exact .inr (.inr ⟨record, mem, same, kind, plain⟩)

/-- What a bitmap without a type and without an alias says of the zone. -/
theorem hidden_of_lacks (accepted : zone.Accepted)
    (shown : lacks (nsecTypes zone.origin zone.records name) type = true) :
    (zone.Owns name.key type → zone.Delegated name.key ∨ type = typeNsec3) ∧
      (zone.Owns name.key typeCname → zone.Delegated name.key) := by
  simp only [lacks, asserted, ← Bool.not_eq_true, contains_iff_mem, shown_iff accepted] at shown
  obtain ⟨absent, aliased⟩ := shown
  have cname : generated typeCname = false := by decide
  constructor
  · intro owns
    cases made : generated type with
    | false =>
      refine .inl (Decidable.byContradiction fun uncut => ?_)
      exact absent (.inr (.inr ⟨owns, by simp [made], fun cut => absurd cut uncut⟩))
    | true =>
      simp only [generated, asserted] at made
      obtain (rrsig | nsec) | nsec3 := made
      · exact absurd (.inr (.inl rrsig)) absent
      · exact absurd (.inl nsec) absent
      · exact .inr nsec3
  · intro owns
    refine Decidable.byContradiction fun uncut => ?_
    exact aliased (.inr (.inr ⟨owns, by simp [cname], fun cut => absurd cut uncut⟩))

/-- What the bitmap at a name does not show of the name: that it is a delegation, that a query
may be for any type, and an NSEC3 record of the zone itself. -/
def HidesType (zone : Zone) (path : List (List (BitVec 8))) (type : BitVec 16) : Prop :=
  zone.Delegated path ∨ type = typeAny ∨ type = typeNsec3 ∧ zone.Owns path typeNsec3

/-- At a name of the chain whose bitmap lacks the type, the zone lacks it unless it hides it. -/
theorem lacking_iff (accepted : zone.Accepted) (chained : Chained zone.origin zone.records name.key)
    (shown : lacks (nsecTypes zone.origin zone.records name) type = true) :
    zone.Lacking name.key type ↔ ¬ zone.HidesType name.key type := by
  have owner := chained_owner chained
  have exist : Paths.Exist zone.owners name.key := ⟨_, owner, suffix_refl _⟩
  obtain ⟨own, cname⟩ := hidden_of_lacks accepted shown
  constructor
  · rintro lacking (cut | any | ⟨rfl, nsec3⟩)
    · obtain ⟨⟨record, mem, same, server⟩, apex⟩ := cut
      exact lacking.uncut ⟨record, mem, server, same ▸ apex, same ▸ suffix_refl _⟩
    · exact lacking.here exist (.inr (.inr ⟨any, owner⟩))
    · exact lacking.here exist (.inl nsec3)
  · intro plain
    have uncut : ¬ zone.Delegated name.key := fun cut => plain (.inl cut)
    refine ⟨fun cut => uncut (chained_cuts accepted chained cut), fun _ => ?_,
      fun absent => absurd exist absent⟩
    rintro (owns | aliased | ⟨any, _⟩)
    · obtain cut | nsec3 := own owns
      · exact uncut cut
      · exact plain (.inr (.inr ⟨nsec3, nsec3 ▸ owns⟩))
    · exact uncut (cname aliased)
    · exact plain (.inr (.inl any))

/-- The name is below a gap by so many labels, and no name in between owns a record. -/
structure Below (nsecs : List AuthenticatedNsec) (name : Name) (n : Nat) : Prop extends
    NextCloser nsecs (name.suffix n) where
  unowned : ∀ m ≤ n, nsecAt nsecs (name.suffix m) = none

/-- What the records beside a gap do not show of a name below it. Where the next closer name does
exist, they show nothing of what is there. -/
def HidesWildcard (zone : Zone) (next name : Name) (type : BitVec 16) : Prop :=
  if Paths.Exist zone.owners next.key then ¬ zone.Lacking name.key type
  else
    zone.Delegated (next.suffix 1).key ∨ zone.Owns (next.suffix 1).key typeDname ∨
      zone.Answers (asterisk :: (next.suffix 1).key) type

theorem NextCloser.lacking_iff (accepted : zone.Accepted) (genuine : zone.Genuine nsecs)
    (closer : NextCloser nsecs next) (above : next.key <:+ name.key)
    (wildcard : Chained zone.origin zone.records (asterisk :: (next.suffix 1).key)) :
    zone.Lacking name.key type ↔ ¬ zone.HidesWildcard next name type := by
  rw [HidesWildcard]
  split
  next => exact Classical.not_not.symm
  rename_i absent
  obtain ⟨closest, cuts⟩ := genuine.encloser accepted closer absent
  have gone : ¬ Paths.Exist zone.owners name.key := fun exist => absent (exist.above above)
  have closest := closest.below absent above
  have cuts : zone.Cuts name.key ↔ zone.Delegated (next.suffix 1).key := by
    rw [← cuts]
    constructor
    · rintro ⟨cut, mem, server, apex, suffix⟩
      refine ⟨cut, mem, server, apex, ?_⟩
      obtain within | beyond := suffix_or_suffix_of_suffix suffix above
      · exact within
      · exact absurd ⟨_, mem_map_of_mem mem, beyond⟩ absent
    · rintro ⟨cut, mem, server, apex, suffix⟩
      exact ⟨cut, mem, server, apex, suffix.trans above⟩
  constructor
  · rintro lacking (cut | dname | answers)
    · exact lacking.uncut (cuts.mpr cut)
    · exact (lacking.wildcard gone _ closest).1 dname
    · exact (lacking.wildcard gone _ closest).2.2 answers
  · intro plain
    refine ⟨fun cut => plain (.inl (cuts.mp cut)), fun exist => absurd exist gone, fun _ c hc => ?_⟩
    obtain rfl := hc.unique closest
    exact ⟨fun dname => plain (.inr (.inl dname)), chained_owner wildcard,
      fun answers => plain (.inr (.inr answers))⟩

theorem nsecTypes_congr {left right : Name} (same : left.key = right.key)
    (origin : Name) (records : List ZoneRecord) :
    nsecTypes origin records left = nsecTypes origin records right := by
  have equal : ∀ name : Name, equalCaseInsensitive name left = equalCaseInsensitive name right :=
    fun _ => (equal_congr same).1
  simp [nsecTypes, atCut, equal]

/-- The records show, at the name, neither the type nor an alias. -/
def Shows (nsecs : List AuthenticatedNsec) (path : List (List (BitVec 8))) (type : BitVec 16) :
    Prop :=
  ∃ nsec ∈ nsecs, nsec.record.owner.key = path ∧ lacks nsec.value.types type = true

section

variable (genuine : zone.Genuine nsecs)
include genuine

theorem Genuine.types_at (mem : nsec ∈ nsecs) (same : nsec.record.owner.key = name.key) :
    nsec.value.types = nsecTypes zone.origin zone.records name :=
  (genuine.spec mem name).2.1.trans (nsecTypes_congr same _ _)

theorem Genuine.proves_iff :
    proveNsecNodata nsecs name type = true ↔ Shows nsecs name.key type := by
  rw [proveNsecNodata]
  cases found : nsecAt nsecs name with
  | none =>
    simp only [Option.any_none, settled, false_iff]
    rintro ⟨nsec, mem, same, _⟩
    exact List.find?_eq_none.mp found nsec mem (equal_iff.mpr same)
  | some nsec =>
    obtain ⟨mem, same⟩ := nsecAt_key found
    simp only [Option.any_some]
    constructor
    · exact fun shown => ⟨nsec, mem, same, shown⟩
    · rintro ⟨other, mem', same', shown⟩
      rw [genuine.types_at mem' same'] at shown
      rw [genuine.types_at mem same]
      exact shown

theorem Shows.chained (h : Shows nsecs path type) : Chained zone.origin zone.records path := by
  obtain ⟨nsec, mem, rfl, _⟩ := h
  exact (genuine.spec mem nsec.record.owner).1

theorem Genuine.proves_wildcard_iff :
    proveNsecWildcardNodata nsecs name type = true ↔
      ∃ n, Below nsecs name n ∧ Shows nsecs (asterisk :: (name.suffix (n + 1)).key) type := by
  have up : ∀ n, (name.suffix n).suffix 1 = name.suffix (n + 1) := fun n =>
    Name.suffix_suffix name n 1
  constructor
  · intro proved
    simp only [proveNsecWildcardNodata] at proved
    split at proved
    · cases proved
    split at proved
    next => cases proved
    next => cases proved
    rename_i n found
    obtain ⟨inside, owner, before⟩ := enclosure_iff.mp found
    split at proved
    next => cases proved
    rename_i wildcard spelled
    obtain ⟨gap, shown⟩ := Bool.and_eq_true_iff.mp proved
    have shows := genuine.proves_iff.mp shown
    rw [wildcardName_key spelled] at shows
    refine ⟨n, ⟨⟨?_, up n ▸ owner, gap⟩, fun m le => before m (by omega)⟩, shows⟩
    simp only [Name.suffix, length_drop]
    omega
  · rintro ⟨n, below, shows⟩
    have longer : n + 1 < name.labels.length := by
      have parent := below.parent
      simp only [Name.suffix, length_drop] at parent
      omega
    have found : enclosure nsecs name = some (n + 1) := by
      refine enclosure_iff.mpr ⟨longer, up n ▸ below.encloser, fun m lt => ?_⟩
      exact below.unowned m (by omega)
    have room : (name.suffix (n + 1)).octets + 2 ≤ maximumNameOctets := by
      obtain ⟨label, key⟩ := below.toNextCloser.key
      rw [up] at key
      apply octets_room (key ▸ suffix_cons ..)
      rw [key]
      intro same
      have := congrArg List.length same
      simp at this
    obtain ⟨wildcard, spelled⟩ := wildcardName_isSome room
    have key := wildcardName_key spelled
    have shown : proveNsecNodata nsecs wildcard type = true := by
      rw [genuine.proves_iff, key]
      exact shows
    have labels : name.labels ≠ [] := by
      intro empty
      rw [empty] at longer
      simp at longer
    simp [proveNsecWildcardNodata, labels, found, spelled, below.gap, shown]

end

section Samples

end Samples

end RouterSim.Dns.Zone
