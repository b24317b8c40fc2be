import RouterSim.Dns.NsecChain
import RouterSim.Dns.Existence

/-! What a resolver concludes from authenticated NSEC records, against what the server of the
zone would have said. -/
namespace RouterSim.Dns

open List Option

inductive ValidationState
  | secure | bogus | indeterminate
  deriving DecidableEq

/-- A record whose signature was good, with what it says. -/
structure AuthenticatedNsec where
  record : ZoneRecord
  value : Nsec
  denial : record.type = typeNsec
  decoded : decodeNsec record.rdata = some value

def authenticateNsec (record : ZoneRecord) (state : ValidationState) : Option AuthenticatedNsec :=
  if state ≠ .secure then none
  else if denial : record.type = typeNsec then
    match decoded : decodeNsec record.rdata with
    | none => none
    | some value => some ⟨record, value, denial, decoded⟩
  else none

section Verify

variable (nsecs : List AuthenticatedNsec)

def nsecAt (name : Name) : Option AuthenticatedNsec :=
  nsecs.find? fun nsec => equalCaseInsensitive nsec.record.owner name

def AuthenticatedNsec.covers (nsec : AuthenticatedNsec) (name : Name) : Bool :=
  Gaps.covers canonicalNameCompare nsec.record.owner nsec.value.nextDomain name

def covered (name : Name) : Bool := nsecs.any (·.covers name)

/-- How far above the name the first owner of a record is. The root is not looked at. -/
def enclosure (name : Name) : Option Nat :=
  (List.range name.labels.length).find? fun n => (nsecAt nsecs (name.suffix n)).isSome

/-- Neither the type nor an alias, by the bitmap. Its types are in ascending order. -/
def lacks (types : List (BitVec 16)) (type : BitVec 16) : Bool :=
  !types.contains type && !types.contains typeCname

def proveNsecNodata (name : Name) (type : BitVec 16) : Bool :=
  (nsecAt nsecs name).any fun nsec => lacks nsec.value.types type

def proveNsecNameError (name : Name) : Bool :=
  if name.labels.isEmpty || (nsecAt nsecs name).isSome then false
  else
    match enclosure nsecs name with
    | none => false
    | some 0 => false
    | some (n + 1) =>
      match wildcardName (name.suffix (n + 1)) with
      | none => false
      | some wildcard => covered nsecs (name.suffix n) && covered nsecs wildcard

def proveNsecWildcardNodata (name : Name) (type : BitVec 16) : Bool :=
  if name.labels.isEmpty then false
  else
    match enclosure nsecs name with
    | none => false
    | some 0 => false
    | some (n + 1) =>
      match wildcardName (name.suffix (n + 1)) with
      | none => false
      | some wildcard => covered nsecs (name.suffix n) && proveNsecNodata nsecs wildcard type

end Verify

namespace Zone

/-- Another zone has the data at the name. -/
def Delegated (zone : Zone) (path : List (List (BitVec 8))) : Prop :=
  zone.Owns path typeNs ∧ path ≠ zone.origin.key

instance decidableDelegated (zone : Zone) (path : List (List (BitVec 8))) :
    Decidable (zone.Delegated path) :=
  inferInstanceAs (Decidable (zone.Owns path typeNs ∧ path ≠ zone.origin.key))

/-- The records are some of those of the zone's chain. -/
def Genuine (zone : Zone) (nsecs : List AuthenticatedNsec) : Prop :=
  ∃ ttl chain, buildNsecChain zone.origin zone.records ttl = some chain ∧
    ∀ nsec ∈ nsecs, nsec.record ∈ chain

section Genuine

variable {zone : Zone} {nsecs : List AuthenticatedNsec} {nsec : AuthenticatedNsec} {name : Name}
  {path : List (List (BitVec 8))}

theorem chained_owner (h : Chained zone.origin zone.records path) : path ∈ zone.owners := by
  obtain ⟨record, mem, _, rfl⟩ := h
  exact mem_map_of_mem mem

theorem atCut_iff (accepted : zone.Accepted) :
    atCut name (delegationCuts zone.origin zone.records) = true ↔ zone.Delegated name.key := by
  have listed : atCut name (delegationCuts zone.origin zone.records) = true ↔
      name.key ∈ (delegationCuts zone.origin zone.records).map (·.key) := by
    simp [atCut, equal_iff]
  rw [listed, delegationCuts_iff]
  constructor
  · rintro ⟨record, mem, server, apex, _, same⟩
    exact ⟨⟨record, mem, same, server⟩, same ▸ apex⟩
  · rintro ⟨⟨record, mem, same, server⟩, apex⟩
    exact ⟨record, mem, server, same ▸ apex, accepted.inside mem, same⟩

theorem belowCut_of (accepted : zone.Accepted) {cut : ZoneRecord} (mem : cut ∈ zone.records)
    (server : cut.type = typeNs) (apex : cut.owner.key ≠ zone.origin.key)
    (above : cut.owner.key <:+ name.key) (ne : cut.owner.key ≠ name.key) :
    belowCut name (delegationCuts zone.origin zone.records) = true := by
  have listed : cut.owner.key ∈ (delegationCuts zone.origin zone.records).map (·.key) :=
    delegationCuts_iff.mpr ⟨cut, mem, server, apex, accepted.inside mem, rfl⟩
  obtain ⟨known, listed, key⟩ := mem_map.mp listed
  apply any_eq_true.mpr
  refine ⟨known, listed, Bool.and_eq_true_iff.mpr ⟨?_, isSubdomain_iff.mpr (key ▸ above)⟩⟩
  rw [Bool.not_eq_true', ← Bool.not_eq_true, equal_iff, key]
  exact fun eq => ne eq.symm

theorem chained_cuts (accepted : zone.Accepted) (h : Chained zone.origin zone.records path)
    (cuts : zone.Cuts path) : zone.Delegated path := by
  obtain ⟨record, _, ok, rfl⟩ := h
  obtain ⟨cut, mem, server, apex, above⟩ := cuts
  by_cases same : cut.owner.key = record.owner.key
  · exact ⟨⟨cut, mem, same, server⟩, same ▸ apex⟩
  · have below := belowCut_of accepted mem server apex above fun eq => same eq
    simp [authoritative, below] at ok

theorem covers_eq : nsec.covers name = Gaps.covers canonicalCompare nsec.record.owner.canonical
    nsec.value.nextDomain.canonical name.canonical := by
  simp [AuthenticatedNsec.covers, Gaps.covers, canonicalNameCompare_eq]

theorem Genuine.spec (h : zone.Genuine nsecs) (mem : nsec ∈ nsecs) (name : Name) :
    Chained zone.origin zone.records nsec.record.owner.key ∧
      nsec.value.types = nsecTypes zone.origin zone.records nsec.record.owner ∧
      (nsec.covers name = true → ¬ Chained zone.origin zone.records name.key) := by
  obtain ⟨ttl, chain, built, all⟩ := h
  obtain ⟨index, next, here, there, encoded⟩ := mem_chain built (all nsec mem)
  have decoded := nsec.decoded
  rw [decodeNsec_encode nsecTypes_sorted encoded] at decoded
  have value := some.inj decoded
  have ring : ((canonicalOwners zone.origin zone.records).map Name.canonical)[index]? =
      some nsec.record.owner.canonical := by
    rw [List.getElem?_map, here]
    rfl
  refine ⟨?_, congrArg Nsec.types value.symm, fun covers chained => ?_⟩
  · exact mem_canonicalOwners.mp (mem_of_getElem? ring)
  · have member : name.canonical ∈ (canonicalOwners zone.origin zone.records).map Name.canonical :=
      mem_canonicalOwners.mpr chained
    have after : ((canonicalOwners zone.origin zone.records).map Name.canonical)[(index + 1) %
        ((canonicalOwners zone.origin zone.records).map Name.canonical).length]? =
        some next.canonical := by
      rw [length_map, List.getElem?_map, there]
      rfl
    rw [covers_eq, ← value] at covers
    exact Bool.false_ne_true
      ((Gaps.covers_of_mem canonicalCompare canonicalOwners_sorted ring after member).symm.trans
        covers)

theorem nsecAt_key (h : nsecAt nsecs name = some nsec) :
    nsec ∈ nsecs ∧ nsec.record.owner.key = name.key := by
  have same : equalCaseInsensitive nsec.record.owner name = true :=
    List.find?_some (p := fun nsec : AuthenticatedNsec =>
      equalCaseInsensitive nsec.record.owner name) h
  exact ⟨mem_of_find?_eq_some h, equal_iff.mp same⟩

theorem Genuine.chained (h : zone.Genuine nsecs) (owner : (nsecAt nsecs name).isSome = true) :
    Chained zone.origin zone.records name.key := by
  obtain ⟨nsec, found⟩ := isSome_iff_exists.mp owner
  obtain ⟨mem, key⟩ := nsecAt_key found
  exact key ▸ (h.spec mem name).1

theorem Genuine.unchained (h : zone.Genuine nsecs) (gap : covered nsecs name = true) :
    ¬ Chained zone.origin zone.records name.key := by
  obtain ⟨nsec, mem, covers⟩ := any_eq_true.mp gap
  exact (h.spec mem name).2.2 covers

end Genuine

section NameError

variable {zone : Zone} {nsecs : List AuthenticatedNsec} {name next : Name}

/-- The records show the parent of a name, and a gap where the name would be. -/
structure NextCloser (nsecs : List AuthenticatedNsec) (next : Name) : Prop where
  parent : 1 < next.labels.length
  encloser : (nsecAt nsecs (next.suffix 1)).isSome = true
  gap : covered nsecs next = true

/-- Besides, they show a gap where the wildcard beside the name would be. -/
structure Gap (nsecs : List AuthenticatedNsec) (next : Name) : Prop extends
    NextCloser nsecs next where
  wildcard : ∃ wildcard, wildcardName (next.suffix 1) = some wildcard ∧
    covered nsecs wildcard = true

/-- What the records of a gap do not show: that the parent is a delegation or owns a DNAME, that
something is owned below the name, or that the wildcard owns what no chain lists. -/
def Misleading (zone : Zone) (next : Name) : Prop :=
  zone.Delegated (next.suffix 1).key ∨ zone.Owns (next.suffix 1).key typeDname ∨
    Paths.Exist zone.owners next.key ∨ asterisk :: (next.suffix 1).key ∈ zone.owners

theorem Name.suffix_suffix (name : Name) (n m : Nat) :
    (name.suffix n).suffix m = name.suffix (n + m) := by
  simp [Name.suffix]

theorem NextCloser.key (h : NextCloser nsecs next) :
    ∃ label, next.key = label :: (next.suffix 1).key := by
  have parent := h.parent
  rw [Name.key_suffix]
  have length : next.key.length = next.labels.length := length_map ..
  cases key : next.key with
  | nil =>
    rw [key, length_nil] at length
    omega
  | cons label rest => exact ⟨label, rfl⟩

/-- Where the name does not exist, its parent is the closest encloser, with no cut above it. -/
theorem Genuine.encloser (accepted : zone.Accepted) (genuine : zone.Genuine nsecs)
    (h : NextCloser nsecs next) (absent : ¬ Paths.Exist zone.owners next.key) :
    Paths.Closest zone.owners next.key (next.suffix 1).key ∧
      (zone.Cuts next.key ↔ zone.Delegated (next.suffix 1).key) := by
  have chained := genuine.chained h.encloser
  have owner := chained_owner chained
  obtain ⟨label, key⟩ := h.key
  have above : (next.suffix 1).key <:+ next.key := key ▸ suffix_cons ..
  constructor
  · rw [key] at absent ⊢
    exact Paths.closest_parent absent ⟨_, owner, suffix_refl _⟩
  · constructor
    · rintro ⟨cut, mem, server, apex, suffix⟩
      apply chained_cuts accepted chained
      refine ⟨cut, mem, server, apex, ?_⟩
      rw [key] at suffix
      obtain same | suffix := suffix_cons_iff.mp suffix
      · exact absurd ⟨_, mem_map_of_mem mem, same ▸ key ▸ suffix_refl _⟩ absent
      · exact suffix
    · rintro ⟨⟨cut, mem, same, server⟩, apex⟩
      exact ⟨cut, mem, server, same ▸ apex, same ▸ above⟩

theorem NextCloser.inside (h : NextCloser nsecs next) (accepted : zone.Accepted)
    (genuine : zone.Genuine nsecs) : zone.origin.key <:+ next.key := by
  obtain ⟨record, mem, _, owner⟩ := genuine.chained h.encloser
  obtain ⟨label, key⟩ := h.key
  have above : (next.suffix 1).key <:+ next.key := key ▸ suffix_cons ..
  exact (owner ▸ accepted.inside mem).trans above

/-- A gap of genuine records is a denial when nothing misleads. -/
theorem Gap.denied_iff (accepted : zone.Accepted) (genuine : zone.Genuine nsecs)
    (gap : Gap nsecs next) : zone.Denied next.key ↔ ¬ zone.Misleading next := by
  constructor
  · rintro denied (cut | dname | exist | wildcard)
    · exact denied.uncut ((genuine.encloser accepted gap.toNextCloser denied.absent).2.mpr cut)
    · exact (denied.closest _ (genuine.encloser accepted gap.toNextCloser denied.absent).1).1 dname
    · exact denied.absent exist
    · exact (denied.closest _
        (genuine.encloser accepted gap.toNextCloser denied.absent).1).2 wildcard
  · intro plain
    have absent : ¬ Paths.Exist zone.owners next.key := fun exist => plain (.inr (.inr (.inl exist)))
    obtain ⟨closest, cuts⟩ := genuine.encloser accepted gap.toNextCloser absent
    refine ⟨fun cut => plain (.inl (cuts.mp cut)), absent, fun c hc => ?_⟩
    obtain rfl := hc.unique closest
    exact ⟨fun dname => plain (.inr (.inl dname)),
      fun wildcard => plain (.inr (.inr (.inr wildcard)))⟩

/-- The search finds the closest name that owns a record. -/
theorem enclosure_iff {n : Nat} :
    enclosure nsecs name = some n ↔ n < name.labels.length ∧
      (nsecAt nsecs (name.suffix n)).isSome = true ∧
      ∀ m < n, nsecAt nsecs (name.suffix m) = none := by
  rw [enclosure, List.find?_range_eq_some]
  simp only [asserted, isSome_eq_false_iff, isNone_iff_eq_none]
  grind

theorem gap_of_proved (h : proveNsecNameError nsecs name = true) :
    ∃ n, Gap nsecs (name.suffix n) := by
  simp only [proveNsecNameError] at h
  split at h
  · cases h
  split at h
  next => cases h
  next => cases h
  rename_i n found
  obtain ⟨inside, owner, _⟩ := enclosure_iff.mp found
  split at h
  next => cases h
  rename_i wildcard spelled
  have up : (name.suffix n).suffix 1 = name.suffix (n + 1) := Name.suffix_suffix name n 1
  obtain ⟨gap, beside⟩ := Bool.and_eq_true_iff.mp h
  refine ⟨n, ⟨?_, up ▸ owner, gap⟩, wildcard, up ▸ spelled, beside⟩
  simp only [Name.suffix, length_drop]
  omega

theorem proved_of_gap (genuine : zone.Genuine nsecs) (gap : Gap nsecs next) :
    proveNsecNameError nsecs next = true := by
  have none : nsecAt nsecs next = none := by
    rw [← not_isSome_iff_eq_none]
    exact fun owner => genuine.unchained gap.gap (genuine.chained owner)
  have self : next.suffix 0 = next := rfl
  have found : enclosure nsecs next = some 1 := by
    refine enclosure_iff.mpr ⟨gap.parent, gap.encloser, fun m lt => ?_⟩
    obtain rfl : m = 0 := by omega
    exact self ▸ none
  have labels : next.labels ≠ [] := by
    intro empty
    have parent := gap.parent
    rw [empty] at parent
    simp at parent
  obtain ⟨wildcard, spelled, beside⟩ := gap.wildcard
  simp [proveNsecNameError, none, labels, found, spelled, self, gap.gap, beside]

/-- The proof is sound for the names of the zone exactly where no gap of the records misleads. -/
theorem nsec_name_error_sound_iff (accepted : zone.Accepted) (genuine : zone.Genuine nsecs) :
    (∀ name, isSubdomain name zone.origin = true → proveNsecNameError nsecs name = true →
      ∀ type, (zone.answer (query name type)).rcode = .nameError) ↔
    ∀ next, isSubdomain next zone.origin = true → Gap nsecs next → ¬ zone.Misleading next := by
  constructor
  · intro sound next inside gap
    have denied := sound next inside (proved_of_gap genuine gap) typeA
    rw [answer_nameError (isSubdomain_iff.mp inside) rfl] at denied
    exact (gap.denied_iff accepted genuine).mp denied
  · intro plain name inside proved type
    have inside := isSubdomain_iff.mp inside
    rw [answer_nameError inside rfl]
    obtain ⟨n, gap⟩ := gap_of_proved proved
    have within := gap.toNextCloser.inside accepted genuine
    have denied := (gap.denied_iff accepted genuine).mpr (plain _ (isSubdomain_iff.mpr within) gap)
    have below : (name.suffix n).key <:+ name.key := by
      rw [Name.key_suffix]
      exact drop_suffix _ _
    exact denied.descendant below (accepted.encloser within)

end NameError

section Samples

/-- Every record of the sample's chain, as one with good signatures. -/
def sampleNsecs (zone : Zone) : List AuthenticatedNsec :=
  ((buildNsecChain zone.origin zone.records 0#32).getD []).filterMap (authenticateNsec · .secure)

theorem sampleNsecs_genuine {zone : Zone}
    (built : (buildNsecChain zone.origin zone.records 0#32).isSome = true) :
    zone.Genuine (sampleNsecs zone) := by
  obtain ⟨chain, eq⟩ := isSome_iff_exists.mp built
  refine ⟨0#32, chain, eq, fun nsec mem => ?_⟩
  rw [sampleNsecs, eq, getD_some] at mem
  obtain ⟨record, known, made⟩ := mem_filterMap.mp mem
  simp only [authenticateNsec, ne_eq, settled] at made
  split at made
  next =>
    split at made
    · cases made
    · obtain rfl := some.inj made
      exact known
  next => cases made

theorem plain_zone_name_error_sound :
    (sampleZone []).Accepted ∧ (sampleZone []).Genuine (sampleNsecs (sampleZone [])) ∧
      ((∀ name, isSubdomain name sampleOrigin = true →
          proveNsecNameError (sampleNsecs (sampleZone [])) name = true →
          ∀ type, ((sampleZone []).answer (query name type)).rcode = .nameError) ↔
        ∀ next, isSubdomain next sampleOrigin = true → Gap (sampleNsecs (sampleZone [])) next →
          ¬ (sampleZone []).Misleading next) :=
  ⟨sampleZone_accepted (by decide +kernel), sampleNsecs_genuine (by decide +kernel),
    nsec_name_error_sound_iff (sampleZone_accepted (by decide +kernel))
      (sampleNsecs_genuine (by decide +kernel))⟩

/-- Only `b.a.e` is owned below the apex. The records prove that there is no `a.e`, and the
server answers that it has no data of its type. -/
theorem empty_non_terminal_proved_absent :
    let zone := sampleZone [sampleText [[98#8], [97#8]]]
    let name := sampleName [[97#8]]
    zone.Accepted ∧ zone.Genuine (sampleNsecs zone) ∧ isSubdomain name zone.origin = true ∧
      proveNsecNameError (sampleNsecs zone) name = true ∧
      (zone.answer (query name typeA)).rcode ≠ .nameError :=
  ⟨sampleZone_accepted (by decide +kernel), sampleNsecs_genuine (by decide +kernel),
    by decide +kernel, by decide +kernel, by decide +kernel⟩

end Samples

end Zone

end RouterSim.Dns
