import RouterSim.Dns.NsecProof

/-! The chain of NSEC records of an accepted zone partitions its names. -/
namespace RouterSim.Dns

open List

namespace Zone

/-- The zone has data of its own at the name: a record that no signing makes, and no cut
above it. -/
def Authoritative (zone : Zone) (path : List (List (BitVec 8))) : Prop :=
  (∃ record ∈ zone.records, record.owner.key = path ∧ record.type ≠ typeRrsig ∧
    record.type ≠ typeNsec ∧ record.type ≠ typeNsec3) ∧
  ∀ cut ∈ zone.records, cut.type = typeNs → cut.owner.key ≠ zone.origin.key →
    cut.owner.key <:+ path → cut.owner.key = path

/-- The records have the names with data for owners, in order, each with the next one, the last
with the first. A name of the zone is one of the owners or lies in one of the gaps. -/
structure Partitioned (zone : Zone) (nsecs : List AuthenticatedNsec) : Prop where
  owners : ∀ path, path ∈ nsecs.map (·.record.owner.key) ↔ zone.Authoritative path
  sorted : nsecs.Pairwise fun nsec later =>
    canonicalNameCompare nsec.record.owner later.record.owner = .lt
  ring : ∀ (i : Nat) nsec, nsecs[i]? = some nsec →
    nsecs[(i + 1) % nsecs.length]?.map (·.record.owner) = some nsec.value.nextDomain
  places : ∀ name, isSubdomain name zone.origin = true →
    nsecs.countP (equalCaseInsensitive ·.record.owner name) + nsecs.countP (·.covers name) = 1

section Partition

variable {zone : Zone} {path : List (List (BitVec 8))}

section

variable (accepted : zone.Accepted)
include accepted

theorem belowCut_iff {name : Name} :
    belowCut name (delegationCuts zone.origin zone.records) = false ↔
      ∀ cut ∈ zone.records, cut.type = typeNs → cut.owner.key ≠ zone.origin.key →
        cut.owner.key <:+ name.key → cut.owner.key = name.key := by
  constructor
  · intro clear cut mem server apex above
    apply Decidable.byContradiction
    intro ne
    exact Bool.false_ne_true (clear.symm.trans (belowCut_of accepted mem server apex above ne))
  · intro clear
    apply Bool.eq_false_iff.mpr
    intro below
    obtain ⟨known, listed, strict⟩ := any_eq_true.mp below
    obtain ⟨cut, mem, server, apex, _, same⟩ :=
      delegationCuts_iff.mp (mem_map_of_mem (f := (·.key)) listed)
    simp only [asserted, ← Bool.not_eq_true, equal_iff, isSubdomain_iff] at strict
    exact strict.1 (same ▸ clear cut mem server apex (same ▸ strict.2)).symm

theorem chained_iff : Chained zone.origin zone.records path ↔ zone.Authoritative path := by
  have plain : ∀ type : BitVec 16, generated type = false ↔
      type ≠ typeRrsig ∧ type ≠ typeNsec ∧ type ≠ typeNsec3 := by
    intro type
    simp [generated, and_assoc]
  constructor
  · rintro ⟨record, mem, ok, rfl⟩
    simp only [authoritative, asserted] at ok
    exact ⟨⟨record, mem, rfl, (plain _).mp ok.2⟩, (belowCut_iff accepted).mp ok.1.2⟩
  · rintro ⟨⟨record, mem, rfl, made⟩, clear⟩
    refine ⟨record, mem, ?_, rfl⟩
    simp [authoritative, isSubdomain_iff.mpr (accepted.inside mem),
      (belowCut_iff accepted).mpr clear, (plain _).mpr made]

theorem authoritative_origin : zone.Authoritative zone.origin.key := by
  obtain ⟨soa, mem, owner, type⟩ := accepted.apex typeSoa (.inl rfl)
  refine ⟨⟨soa, mem, owner, ?_⟩, fun cut mem _ apex above => ?_⟩
  · rw [type]
    decide
  · exact absurd ((accepted.inside mem).eq_of_length
      (Nat.le_antisymm (accepted.inside mem).length_le above.length_le)).symm apex


omit accepted in
theorem nsecRecord_made (zone : Zone) (ttl : BitVec 32) (owner next : Name) :
    ∃ nsec : AuthenticatedNsec,
      nsecRecord zone.origin zone.records ttl owner next = some nsec.record ∧
        nsec.record.owner = owner ∧ nsec.value.nextDomain = next := by
  have some : nsecTypes zone.origin zone.records owner ≠ [] :=
    ne_nil_of_mem (mem_nsecTypes.mpr (.inl rfl))
  let value : Nsec := ⟨next, nsecTypes zone.origin zone.records owner⟩
  have sorted : value.types.Pairwise (· < ·) := nsecTypes_sorted
  obtain ⟨rdata, encoded⟩ := Option.isSome_iff_exists.mp (encodeNsec_isSome sorted some)
  refine ⟨⟨{ owner, type := typeNsec, ttl, rdata }, value, rfl,
    decodeNsec_encode sorted encoded⟩, ?_, rfl, rfl⟩
  rw [nsecRecord, encoded]
  rfl

/-- The chain of an accepted zone is built, a record for each owner in order. -/
theorem chain_built (ttl : BitVec 32) :
    ∃ nsecs : List AuthenticatedNsec,
      buildNsecChain zone.origin zone.records ttl = some (nsecs.map (·.record)) ∧
      nsecs.map (·.record.owner) = canonicalOwners zone.origin zone.records ∧
      ∀ (i : Nat) nsec, nsecs[i]? = some nsec →
        nsecs[(i + 1) % nsecs.length]?.map (·.record.owner) = some nsec.value.nextDomain := by
  have apex : zone.origin.key ∈ (nsecOwners zone.origin zone.records).map (·.key) :=
    (nsecOwners_spec _).2.mpr ((chained_iff accepted).mpr (authoritative_origin accepted))
  obtain ⟨name, known, key⟩ := mem_map.mp apex
  have listed : (nsecOwners zone.origin zone.records).any (equalCaseInsensitive · zone.origin) =
      true := any_eq_true.mpr ⟨name, known, equal_iff.mpr key⟩
  have some : zone.records.isEmpty = false := by
    obtain ⟨soa, mem, -⟩ := accepted.apex typeSoa (.inl rfl)
    exact isEmpty_eq_false_iff.mpr (ne_nil_of_mem mem)
  obtain ⟨row, made⟩ := Classical.skolem.mp fun index =>
    nsecRecord_made zone ttl ((canonicalOwners zone.origin zone.records).getD index zone.origin)
      ((canonicalOwners zone.origin zone.records).getD
        ((index + 1) % (canonicalOwners zone.origin zone.records).length) zone.origin)
  have owners : ((List.range (canonicalOwners zone.origin zone.records).length).map row).map
      (·.record.owner) = canonicalOwners zone.origin zone.records := by
    apply ext_getElem (by simp)
    intro i _ inside
    simp [(made i).2.1, inside]
  refine ⟨(List.range (canonicalOwners zone.origin zone.records).length).map row, ?_, owners, ?_⟩
  · simp only [buildNsecChain, validName_eq_true, some, listed]
    apply Table.mapM_iff.mpr
    rw [map_map, map_map]
    exact map_congr_left fun index _ => (made index).1
  · intro i nsec here
    rw [← List.getElem?_map, owners, length_map, length_range]
    obtain ⟨index, place, rfl⟩ := List.getElem?_eq_some_iff.mp here
    have inside : i < (canonicalOwners zone.origin zone.records).length := by simpa using index
    have wrap := Nat.mod_lt (i + 1) (Nat.lt_of_le_of_lt (Nat.zero_le _) inside)
    simp [(made i).2.2, wrap]

theorem partitioned_of_rows {nsecs : List AuthenticatedNsec}
    (owners : nsecs.map (·.record.owner) = canonicalOwners zone.origin zone.records)
    (ring : ∀ (i : Nat) nsec, nsecs[i]? = some nsec →
      nsecs[(i + 1) % nsecs.length]?.map (·.record.owner) = some nsec.value.nextDomain) :
    zone.Partitioned nsecs := by
  have canonical : nsecs.map (·.record.owner.canonical) =
      (canonicalOwners zone.origin zone.records).map Name.canonical := by
    rw [← owners, map_map]
    rfl
  have sorted : ((canonicalOwners zone.origin zone.records).map Name.canonical).Pairwise _ :=
    canonicalOwners_sorted
  rw [← canonical] at sorted
  refine ⟨fun path => ?_, ?_, ring, fun name _ => ?_⟩
  · rw [← chained_iff accepted, ← mem_canonicalOwners, ← canonical]
    simp [Name.canonical]
  · simpa only [pairwise_map, ← canonicalNameCompare_eq] using sorted
  · have some : nsecs ≠ [] := by
      rintro rfl
      have apex := mem_canonicalOwners.mpr
        ((chained_iff accepted).mpr (authoritative_origin accepted))
      rw [← canonical] at apex
      cases apex
    have whole := Gaps.rows_partition canonicalCompare
      (fun nsec : AuthenticatedNsec => nsec.record.owner.canonical)
      (fun nsec => nsec.value.nextDomain.canonical) some sorted
      (fun i nsec here => by
        have next := congrArg (Option.map Name.canonical) (ring i nsec here)
        rwa [Option.map_map] at next) name.canonical
    have equal : ∀ nsec : AuthenticatedNsec, equalCaseInsensitive nsec.record.owner name =
        (canonicalCompare nsec.record.owner.canonical name.canonical == .eq) := by
      intro nsec
      rw [Bool.eq_iff_iff, equal_iff, beq_iff_eq, Std.LawfulEqCmp.compare_eq_iff_eq, canonical_inj]
    simpa only [equal, covers_eq] using whole

end

/-- The chain of an accepted zone partitions its names. -/
theorem nsec_chain_partitions (zone : Zone) (ttl : BitVec 32) (accepted : zone.Accepted) :
    ∃ chain nsecs, buildNsecChain zone.origin zone.records ttl = some chain ∧
      nsecs.map (·.record) = chain ∧ zone.Partitioned nsecs := by
  obtain ⟨nsecs, built, owners, ring⟩ := chain_built accepted ttl
  exact ⟨_, nsecs, built, rfl, partitioned_of_rows accepted owners ring⟩

theorem plain_zone_partitioned :
    (sampleZone []).Accepted ∧
      ∃ chain nsecs, buildNsecChain sampleOrigin (sampleZone []).records 0#32 = some chain ∧
        nsecs.map (·.record) = chain ∧ (sampleZone []).Partitioned nsecs :=
  ⟨sampleZone_accepted (by decide +kernel),
    nsec_chain_partitions (sampleZone []) 0#32 (sampleZone_accepted (by decide +kernel))⟩

/-- With the whole chain the proof succeeds for exactly the names of the zone without data of
their own whose nearest name with data above them, the root apart, has no wildcard with data. -/
theorem whole_chain_proves_iff (zone : Zone) (ttl : BitVec 32) (accepted : zone.Accepted) :
    ∃ nsecs : List AuthenticatedNsec,
      buildNsecChain zone.origin zone.records ttl = some (nsecs.map (·.record)) ∧
      ∀ name, isSubdomain name zone.origin = true → (proveNsecNameError nsecs name = true ↔
        ∃ n wildcard, n + 1 < name.labels.length ∧ zone.Authoritative (name.suffix (n + 1)).key ∧
          (∀ m ≤ n, ¬ zone.Authoritative (name.suffix m).key) ∧
          wildcardName (name.suffix (n + 1)) = some wildcard ∧
          ¬ zone.Authoritative wildcard.key) := by
  obtain ⟨nsecs, built, owners, ring⟩ := chain_built accepted ttl
  have whole := partitioned_of_rows accepted owners ring
  have owned : ∀ name, (nsecAt nsecs name).isSome = true ↔ zone.Authoritative name.key := by
    intro name
    simp [← whole.owners, nsecAt, equal_iff]
  have gap : ∀ name, zone.origin.key <:+ name.key →
      (covered nsecs name = true ↔ ¬ zone.Authoritative name.key) := by
    intro name inside
    have places := whole.places name (isSubdomain_iff.mpr inside)
    have gaps : covered nsecs name = true ↔ 0 < nsecs.countP (·.covers name) := by
      simp [covered, countP_pos_iff]
    have member : zone.Authoritative name.key ↔
        0 < nsecs.countP (equalCaseInsensitive ·.record.owner name) := by
      simp [← owned, nsecAt, countP_pos_iff]
    rw [gaps, member]
    omega
  refine ⟨nsecs, built, fun name inside => ?_⟩
  have found : ∀ n, enclosure nsecs name = some n ↔ n < name.labels.length ∧
      zone.Authoritative (name.suffix n).key ∧
        ∀ m < n, ¬ zone.Authoritative (name.suffix m).key := by
    simp only [enclosure_iff, ← owned, Option.not_isSome_iff_eq_none, implies_true]
  have within : ∀ n wildcard, zone.Authoritative (name.suffix (n + 1)).key →
      wildcardName (name.suffix (n + 1)) = some wildcard →
        zone.origin.key <:+ (name.suffix n).key ∧ zone.origin.key <:+ wildcard.key := by
    rintro n wildcard ⟨⟨record, mem, owner, _⟩, _⟩ spelled
    have above := owner ▸ accepted.inside mem
    refine ⟨above.trans ?_, above.trans (wildcardName_key spelled ▸ suffix_cons ..)⟩
    rw [Name.key_suffix, Name.key_suffix, ← drop_drop]
    exact drop_suffix 1 _
  constructor
  · intro proved
    simp only [proveNsecNameError] at proved
    split at proved
    · cases proved
    split at proved
    next => cases proved
    next => cases proved
    next n here =>
      obtain ⟨longer, own, before⟩ := (found _).mp here
      split at proved
      · cases proved
      next wildcard spelled =>
        have beside := (Bool.and_eq_true_iff.mp proved).2
        exact ⟨n, wildcard, longer, own, fun m le => before m (by omega), spelled,
          (gap _ (within n _ own spelled).2).mp beside⟩
  · rintro ⟨n, wildcard, longer, own, before, spelled, beside⟩
    have here := (found (n + 1)).mpr ⟨longer, own, fun m lt => before m (by omega)⟩
    have self : (nsecAt nsecs name).isSome ≠ true := fun is => before 0 (by omega) ((owned _).mp is)
    obtain ⟨next, wild⟩ := within n _ own spelled
    have labels : name.labels ≠ [] := ne_nil_of_length_pos (by omega)
    simp [proveNsecNameError, self, labels, here, spelled, (gap _ next).mpr (before n (by omega)),
      (gap _ wild).mpr beside]

theorem plain_zone_proves : ∃ nsecs : List AuthenticatedNsec,
    buildNsecChain sampleOrigin (sampleZone []).records 0#32 = some (nsecs.map (·.record)) := by
  obtain ⟨nsecs, built, -⟩ := whole_chain_proves_iff (sampleZone []) 0#32
    (sampleZone_accepted (by decide +kernel))
  exact ⟨nsecs, built⟩

end Partition

end Zone

end RouterSim.Dns
