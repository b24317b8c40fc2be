import RouterSim.Dns.Nsec3Chain
import RouterSim.Dns.NsecProof

/-! What a resolver concludes from authenticated NSEC3 records, against what the server of the
zone would have said. -/
namespace RouterSim.Dns

open List Bool

/-- A record whose signature was good, with what it says. -/
structure AuthenticatedNsec3 where
  record : ZoneRecord
  value : Nsec3
  denial : record.type = typeNsec3
  decoded : decodeNsec3 record.rdata = some value

def authenticateNsec3 (record : ZoneRecord) (state : ValidationState) : Option AuthenticatedNsec3 :=
  if state ≠ .secure then none
  else if denial : record.type = typeNsec3 then
    match decoded : decodeNsec3 record.rdata with
    | none => none
    | some value => some ⟨record, value, denial, decoded⟩
  else none

section Verify

/-- The hash that the first label of the owner spells, if the owner is directly under the zone. -/
def ownerHash (zone : Name) (nsec : AuthenticatedNsec3) : Option (List (BitVec 8)) :=
  match nsec.record.owner.labels with
  | [] => none
  | label :: _ =>
    if !equalCaseInsensitive (nsec.record.owner.suffix 1) zone then none
    else Base32.decodeBase32hex label

def compatibleParameters (left right : Nsec3) : Bool :=
  left.hashAlgorithm == right.hashAlgorithm && left.iterations == right.iterations &&
    left.salt == right.salt

structure Nsec3SetView where
  parameters : Nsec3
  owners : List (List (BitVec 8))

def preparedOwner (zone : Name) (parameters : Nsec3) (nsec : AuthenticatedNsec3) :
    Option (List (BitVec 8)) :=
  if !compatibleParameters parameters nsec.value || nsec.value.flags &&& ~~~1#8 != 0#8 ||
      nsec.value.nextHashedOwner.length != 20 then none
  else (ownerHash zone nsec).filter (·.length == 20)

def prepareNsec3Set (zone : Name) (maximum : BitVec 16) (nsecs : List AuthenticatedNsec3) :
    Except Nsec3ProofState Nsec3SetView :=
  match nsecs with
  | [] => .error .notProved
  | first :: _ =>
    if first.value.hashAlgorithm ≠ 1#8 ∨ maximum < first.value.iterations then
      .error (if maximum < first.value.iterations then .unsupportedIterations else .malformed)
    else
      match nsecs.mapM (preparedOwner zone first.value) with
      | none => .error .malformed
      | some owners => .ok ⟨first.value, owners⟩

variable (view : Nsec3SetView) (nsecs : List AuthenticatedNsec3)

/-- The first record with the hash. -/
def exactHash (hash : List (BitVec 8)) : Option AuthenticatedNsec3 :=
  ((view.owners.zip nsecs).find? fun pair => pair.1 == hash).map (·.2)

def coveringHash (hash : List (BitVec 8)) : Option AuthenticatedNsec3 :=
  ((view.owners.zip nsecs).find? fun pair =>
    hashCovers pair.1 pair.2.value.nextHashedOwner hash).map (·.2)

/-- No delegation and no DNAME. -/
def validNsec3ClosestEncloser (nsec : Nsec3) : Bool :=
  !nsec.types.contains typeDname && (!nsec.types.contains typeNs || nsec.types.contains typeSoa)

/-- The first of the names, so many labels up, that has a record. -/
def hashedEncloser (digests : DigestCalculator) (maximum : BitVec 16) (name : Name) :
    List Nat → Except Nsec3ProofState (Option (Nat × AuthenticatedNsec3))
  | [] => .ok none
  | n :: rest =>
    match nsec3Hash digests maximum view.parameters (name.suffix n) with
    | .error _ => .error .malformed
    | .ok hash =>
      match exactHash view nsecs hash with
      | some nsec => .ok (some (n, nsec))
      | none => hashedEncloser digests maximum name rest

def proveNsec3NameError (digests : DigestCalculator) (maximum : BitVec 16) (zone : Name)
    (name : Name) : Nsec3ProofState :=
  match prepareNsec3Set zone maximum nsecs with
  | .error state => state
  | .ok view =>
    let depth := name.labels.length - zone.labels.length
    if name.labels.length ≤ zone.labels.length ∨
        !equalCaseInsensitive (name.suffix depth) zone then .malformed
    else
      match hashedEncloser view nsecs digests maximum name (List.range (depth + 1)) with
      | .error state => state
      | .ok none => .notProved
      | .ok (some (0, _)) => .notProved
      | .ok (some (n + 1, nsec)) =>
        if !validNsec3ClosestEncloser nsec.value then .notProved
        else
          match wildcardName (name.suffix (n + 1)) with
          | none => .malformed
          | some wildcard =>
            match nsec3Hash digests maximum view.parameters (name.suffix n),
              nsec3Hash digests maximum view.parameters wildcard with
            | .ok nextHash, .ok wildcardHash =>
              if (coveringHash view nsecs nextHash).isSome &&
                  (coveringHash view nsecs wildcardHash).isSome then .proved
              else .notProved
            | _, _ => .malformed

end Verify

variable {hash : List (BitVec 8)}

section Plain

variable {digests : DigestCalculator} {maximum : BitVec 16} {parameters : Nsec3} {name : Name}

/-- The parameters of every publisher. -/
def Nsec3.Plain (value : Nsec3) : Prop :=
  value.hashAlgorithm = 1#8 ∧ value.iterations = 0#16 ∧ value.salt = []

theorem nsec3Hash_plain (plain : parameters.Plain) :
    (nsec3Hash digests maximum parameters name).toOption = publisherHash digests name := by
  obtain ⟨algorithm, iterations, salt⟩ := plain
  simp [publisherHash, nsec3Hash, publisherParameters, algorithm, iterations, salt]

theorem nsec3Hash_ok (plain : parameters.Plain) :
    nsec3Hash digests maximum parameters name = .ok hash ↔
      publisherHash digests name = some hash := by
  rw [← nsec3Hash_plain plain]
  cases nsec3Hash digests maximum parameters name with
  | ok digest => simp [Except.toOption]
  | error state => simp [Except.toOption]

theorem publisherHash_congr {left right : Name} (same : left.key = right.key) :
    publisherHash digests left = publisherHash digests right := by
  simp [publisherHash, nsec3Hash, same]

end Plain

namespace Zone

/-- The records are some of those of the zone's chain. -/
def Hashed (zone : Zone) (optOut : Bool) (digests : DigestCalculator)
    (nsecs : List AuthenticatedNsec3) : Prop :=
  ∃ ttl chain, buildNsec3Chain zone.origin zone.records optOut ttl digests = some chain ∧
    ∀ nsec ∈ nsecs, nsec.record ∈ chain.records

/-- A record read back: the entry of the ring it was made of, and the next one. -/
structure Stands (zone : Zone) (ring : List HashedName) (nsec : AuthenticatedNsec3) (index : Nat)
    (entry next : HashedName) : Prop where
  here : ring[index]? = some entry
  there : ring[(index + 1) % ring.length]? = some next
  owner : ownerHash zone.origin nsec = some entry.hash
  next : nsec.value.nextHashedOwner = next.hash
  types : nsec.value.types = entry.types
  plain : nsec.value.Plain
  flags : nsec.value.flags &&& ~~~1#8 = 0#8

/-- The ring a set of records comes from. -/
structure Ring (zone : Zone) (digests : DigestCalculator) (nsecs : List AuthenticatedNsec3)
    (ring : List HashedName) : Prop where
  entries : ∀ entry ∈ ring, Entry zone.origin zone.records digests entry
  strict : (ring.map (·.hash)).Pairwise fun left right => compareHash left right = .lt
  stands : ∀ nsec ∈ nsecs, ∃ index entry next, Stands zone ring nsec index entry next

section Ring

variable {zone : Zone} {optOut : Bool} {digests : DigestCalculator}
  {nsecs : List AuthenticatedNsec3} {nsec : AuthenticatedNsec3} {ring : List HashedName}
  {name : Name} {maximum : BitVec 16}

theorem ownerHash_hashedOwner (h : hashedOwner hash zone.origin = some nsec.record.owner) :
    ownerHash zone.origin nsec = some hash := by
  have labels : nsec.record.owner.labels = Base32.base32hex hash :: zone.origin.labels := by
    simp only [hashedOwner, Name.ofLabels] at h
    split at h
    · rw [← Option.some.inj h]
    · cases h
  have same : equalCaseInsensitive (nsec.record.owner.suffix 1) zone.origin = true := by
    rw [equal_iff]
    simp [Name.suffix, labels]
  simp only [ownerHash, labels, same]
  exact Base32.decode_base32hex hash

theorem Hashed.hasRing (h : zone.Hashed optOut digests nsecs) :
    ∃ ring, Ring zone digests nsecs ring := by
  obtain ⟨ttl, chain, built, all⟩ := h
  obtain ⟨ring, entries, strict, omitted, made⟩ := buildNsec3Chain_ring built
  refine ⟨ring, entries, strict, fun nsec mem => ?_⟩
  obtain ⟨index, entry, next, flags, here, there, zeroOne, spelled, encoded⟩ :=
    mem_nsec3Records made (all nsec mem)
  have known := entries entry (mem_of_getElem? here)
  have sorted : entry.types.Pairwise (· < ·) := known.types ▸ nsec3Types_sorted
  have decoded := nsec.decoded
  rw [decodeNsec3_encode sorted encoded] at decoded
  have value := Option.some.inj decoded
  refine ⟨index, entry, next, here, there, ownerHash_hashedOwner spelled, ?_, ?_, ?_, ?_⟩
  · rw [← value]
  · rw [← value]
  · rw [← value]
    exact ⟨rfl, rfl, rfl⟩
  · rw [← value]
    obtain rfl | rfl := zeroOne
    · exact (by decide : 0#8 &&& ~~~1#8 = 0#8)
    · exact (by decide : 1#8 &&& ~~~1#8 = 0#8)

/-- The hash a record stands at. -/
def standing (zone : Zone) (nsec : AuthenticatedNsec3) : List (BitVec 8) :=
  (ownerHash zone.origin nsec).getD []

theorem Stands.standing {index : Nat} {entry next : HashedName}
    (h : Stands zone ring nsec index entry next) : zone.standing nsec = entry.hash := by
  rw [Zone.standing, h.owner, Option.getD_some]

variable (h : Ring zone digests nsecs ring)
include h

theorem Ring.length {entry : HashedName} (mem : entry ∈ ring) : entry.hash.length = 20 := publisherHash_length (h.entries entry mem).hashed

theorem Ring.prepare (some : nsecs ≠ []) :
    ∃ parameters, parameters.Plain ∧ prepareNsec3Set zone.origin maximum nsecs =
      .ok ⟨parameters, nsecs.map zone.standing⟩ := by
  have owners : ∀ parameters : Nsec3, parameters.Plain → ∀ more : List AuthenticatedNsec3,
      (∀ nsec ∈ more, nsec ∈ nsecs) →
      more.mapM (preparedOwner zone.origin parameters) = Option.some (more.map zone.standing) := by
    intro parameters plain more
    induction more with
    | nil => exact fun _ => rfl
    | cons nsec more ih =>
      intro all
      obtain ⟨index, entry, next, stands⟩ := h.stands nsec (all nsec mem_cons_self)
      have first : preparedOwner zone.origin parameters nsec = Option.some (zone.standing nsec) := by
        have size := h.length (mem_of_getElem? stands.here)
        have size' : nsec.value.nextHashedOwner.length = 20 :=
          stands.next ▸ h.length (mem_of_getElem? stands.there)
        have compatible : compatibleParameters parameters nsec.value = true := by
          simp [compatibleParameters, plain.1, plain.2.1, plain.2.2, stands.plain.1,
            stands.plain.2.1, stands.plain.2.2]
        have flags : nsec.value.flags &&& 254#8 = 0#8 := stands.flags
        simp [preparedOwner, compatible, flags, size', stands.owner, stands.standing, size]
      rw [mapM_cons, first, ih fun other mem => all other (mem_cons_of_mem _ mem)]
      rfl
  cases nsecs with
  | nil => exact absurd rfl some
  | cons first rest =>
    obtain ⟨index, entry, next, stands⟩ := h.stands first mem_cons_self
    refine ⟨first.value, stands.plain, ?_⟩
    rw [prepareNsec3Set, if_neg, owners first.value stands.plain _ fun _ mem => mem]
    rw [stands.plain.1, stands.plain.2.1]
    simp

omit h in
theorem zip_standing :
    (nsecs.map zone.standing).zip nsecs = nsecs.map fun nsec => (zone.standing nsec, nsec) := by
  induction nsecs with
  | nil => rfl
  | cons nsec nsecs ih => rw [map_cons, zip_cons_cons, ih, map_cons]

omit h in
theorem exactHash_eq {parameters : Nsec3} :
    exactHash ⟨parameters, nsecs.map zone.standing⟩ nsecs hash =
      nsecs.find? fun nsec => zone.standing nsec == hash := by
  have same : (fun nsec : AuthenticatedNsec3 => (zone.standing nsec, nsec).2) = id := rfl
  simp only [exactHash, zip_standing, List.find?_map, Option.map_map, Function.comp_def, same,
    Option.map_id, id]

omit h in
theorem coveringHash_eq {parameters : Nsec3} :
    (coveringHash ⟨parameters, nsecs.map zone.standing⟩ nsecs hash).isSome = true ↔
      ∃ nsec ∈ nsecs, hashCovers (zone.standing nsec) nsec.value.nextHashedOwner hash = true := by
  simp only [coveringHash, zip_standing, List.find?_map, Option.isSome_map, List.find?_isSome,
    Function.comp_def]

/-- The records show a gap where the hash of the name would be. -/
def HashCovered (zone : Zone) (digests : DigestCalculator) (nsecs : List AuthenticatedNsec3)
    (name : Name) : Prop :=
  ∃ hash, publisherHash digests name = some hash ∧ ∃ nsec ∈ nsecs,
    hashCovers (zone.standing nsec) nsec.value.nextHashedOwner hash = true

/-- A record stands at the hash of the name. -/
def Matches (zone : Zone) (digests : DigestCalculator) (name : Name) (nsec : AuthenticatedNsec3) :
    Prop :=
  publisherHash digests name = some (zone.standing nsec)

theorem Ring.uncovered (gap : HashCovered zone digests nsecs name) (mem : nsec ∈ nsecs) :
    ¬ Matches zone digests name nsec := by
  intro found
  obtain ⟨hash, hashed, other, known, covers⟩ := gap
  obtain rfl := Option.some.inj (hashed.symm.trans found)
  obtain ⟨index, entry, next, stands⟩ := h.stands other known
  obtain ⟨index', entry', next', stands'⟩ := h.stands nsec mem
  have here : (ring.map (·.hash))[index]? = some entry.hash := by
    rw [List.getElem?_map, stands.here]
    rfl
  have there : (ring.map (·.hash))[(index + 1) % (ring.map (·.hash)).length]? = some next.hash := by
    rw [length_map, List.getElem?_map, stands.there]
    rfl
  have member : zone.standing nsec ∈ ring.map (·.hash) := by
    rw [stands'.standing]
    exact mem_map_of_mem (mem_of_getElem? stands'.here)
  rw [stands.standing, stands.next, hashCovers,
    Gaps.covers_of_mem compareHash h.strict here there member] at covers
  cases covers

theorem Ring.types_eq {other : AuthenticatedNsec3} (mem : nsec ∈ nsecs) (mem' : other ∈ nsecs)
    (same : zone.standing nsec = zone.standing other) : nsec.value.types = other.value.types := by
  obtain ⟨index, entry, next, stands⟩ := h.stands nsec mem
  obtain ⟨index', entry', next', stands'⟩ := h.stands other mem'
  rw [stands.standing, stands'.standing] at same
  have irrefl : ∀ (i j : Nat) (a b : HashedName), i < j → ring[i]? = some a → ring[j]? = some b →
      a.hash ≠ b.hash := by
    intro i j a b lt ha hb eq
    obtain ⟨hi, rfl⟩ := List.getElem?_eq_some_iff.mp ha
    obtain ⟨hj, rfl⟩ := List.getElem?_eq_some_iff.mp hb
    have less := pairwise_iff_getElem.mp (pairwise_map.mp h.strict) i j hi hj lt
    have self : compareHash ring[j].hash ring[j].hash = .eq := Std.ReflCmp.compare_self
    rw [eq, self] at less
    cases less
  have place : index = index' := by
    obtain lt | eq | gt := Nat.lt_trichotomy index index'
    · exact absurd same (irrefl _ _ _ _ lt stands.here stands'.here)
    · exact eq
    · exact absurd same.symm (irrefl _ _ _ _ gt stands'.here stands.here)
  subst place
  obtain rfl := Option.some.inj (stands.here.symm.trans stands'.here)
  rw [stands.types, stands'.types]

end Ring

section NameError

variable {zone : Zone} {optOut : Bool} {digests : DigestCalculator}
  {nsecs : List AuthenticatedNsec3} {nsec : AuthenticatedNsec3} {ring : List HashedName}
  {name next : Name} {maximum : BitVec 16}

/-- The records show the parent of a name, as one that is neither a delegation nor a DNAME, and
gaps where the name and the wildcard beside it would be. -/
structure HashGap (zone : Zone) (digests : DigestCalculator) (nsecs : List AuthenticatedNsec3)
    (next : Name) : Prop where
  parent : zone.origin.labels.length < next.labels.length
  encloser : ∃ nsec ∈ nsecs, Matches zone digests (next.suffix 1) nsec ∧
    validNsec3ClosestEncloser nsec.value = true
  gap : HashCovered zone digests nsecs next
  wildcard : ∃ wildcard, wildcardName (next.suffix 1) = some wildcard ∧
    HashCovered zone digests nsecs wildcard

/-- No name above the one asked for has the hash of another name of the zone. -/
def Apart (zone : Zone) (digests : DigestCalculator) (name : Name) : Prop :=
  ∀ above ∈ name.suffixes, ∀ record ∈ zone.records, ∀ other ∈ record.owner.suffixes,
    publisherHash digests above ≠ none → publisherHash digests above = publisherHash digests other →
      above.key = other.key

/-- What no record shows: something owned at or below the name, or by the wildcard. -/
def Unlisted (zone : Zone) (next : Name) : Prop :=
  Paths.Exist zone.owners next.key ∨ asterisk :: (next.suffix 1).key ∈ zone.owners

theorem mem_suffixes {n : Nat} (h : n ≤ name.labels.length) : name.suffix n ∈ name.suffixes :=
  mem_map_of_mem (mem_range.mpr (by omega))

theorem exists_suffix {path : List (List (BitVec 8))} (h : path <:+ name.key) :
    ∃ above ∈ name.suffixes, above.key = path := by
  have length : name.key.length = name.labels.length := length_map ..
  refine ⟨name.suffix (name.key.length - path.length), mem_suffixes (by omega), ?_⟩
  rw [Name.key_suffix]
  exact (suffix_iff_eq_drop.mp h).symm

theorem nsec3Types_congr {left right : Name} (same : left.key = right.key)
    {origin : Name} {records : List ZoneRecord} :
    nsec3Types origin records left = nsec3Types origin records right := by
  have right' : ∀ name : Name, equalCaseInsensitive name left = equalCaseInsensitive name right :=
    fun _ => (equal_congr same).1
  have left' : ∀ name : Name, equalCaseInsensitive left name = equalCaseInsensitive right name :=
    fun _ => (equal_congr same).2
  simp [nsec3Types, atCut, right', left']

/-- A name at whose hash a record stands is the name the record was made of. -/
theorem Ring.original (h : Ring zone digests nsecs ring) (apart : Apart zone digests name)
    (mem : nsec ∈ nsecs) {n : Nat} (below : n ≤ name.labels.length)
    (found : Matches zone digests (name.suffix n) nsec) :
    Sourced zone.origin zone.records (name.suffix n) ∧
      nsec.value.types = nsec3Types zone.origin zone.records (name.suffix n) := by
  obtain ⟨index, entry, next, stands⟩ := h.stands nsec mem
  obtain ⟨hashed, types, record, known, ok, above⟩ := h.entries entry (mem_of_getElem? stands.here)
  obtain ⟨other, suffix, key⟩ := exists_suffix above
  rw [Matches, stands.standing] at found
  have same : (name.suffix n).key = entry.original.key := by
    rw [← key]
    apply apart _ (mem_suffixes below) record known other suffix
    · rw [found]
      exact Option.some_ne_none _
    · rw [found, publisherHash_congr key, hashed]
  refine ⟨⟨record, known, ok, same ▸ above⟩, ?_⟩
  rw [stands.types, types, nsec3Types_congr same]

/-- A valid closest encloser exists, with no cut at or above it, and owns no DNAME. -/
theorem encloser_plain (accepted : zone.Accepted) (sourced : Sourced zone.origin zone.records name)
    (types : nsec.value.types = nsec3Types zone.origin zone.records name)
    (valid : validNsec3ClosestEncloser nsec.value = true) :
    Paths.Exist zone.owners name.key ∧ ¬ zone.Cuts name.key ∧ ¬ zone.Owns name.key typeDname := by
  obtain ⟨record, mem, ok, above⟩ := sourced
  simp only [validNsec3ClosestEncloser, types, asserted, ← not_eq_true, contains_iff_mem] at valid
  obtain ⟨noDname, server⟩ := valid
  have undelegated : ¬ zone.Delegated name.key := by
    intro cut
    have atCut := (atCut_iff accepted).mpr cut
    obtain ⟨⟨other, known, same, type⟩, _⟩ := cut
    obtain none | soa := server
    · apply none
      rw [← type]
      exact mem_nsec3Types known same (type ▸ by decide) fun _ => .inl type
    · exact soa_not_mem atCut soa
  refine ⟨⟨_, mem_map_of_mem mem, above⟩, fun cuts => ?_, ?_⟩
  · obtain ⟨cut, known, type, apex, suffix⟩ := cuts
    have same : cut.owner.key = name.key := by
      refine Decidable.byContradiction fun ne => ?_
      have below : belowCut record.owner (delegationCuts zone.origin zone.records) = true := by
        apply belowCut_of accepted known type apex (suffix.trans above)
        intro eq
        exact ne (Paths.suffix_antisymm suffix (eq ▸ above))
      simp [nsec3Authoritative, below] at ok
    exact undelegated ⟨⟨cut, known, same, type⟩, same ▸ apex⟩
  · rintro ⟨other, known, same, type⟩
    apply noDname
    rw [← type]
    refine mem_nsec3Types known same (type ▸ by decide) fun cut => ?_
    exact absurd ((atCut_iff accepted).mp cut) undelegated

theorem HashGap.key (gap : HashGap zone digests nsecs next) :
    ∃ label, next.key = label :: (next.suffix 1).key := by
  have parent := gap.parent
  have length : next.key.length = next.labels.length := length_map ..
  rw [Name.key_suffix]
  cases key : next.key with
  | nil =>
    rw [key, length_nil] at length
    omega
  | cons label rest => exact ⟨label, rfl⟩

/-- A gap of genuine records is a denial where nothing is unlisted. -/
theorem HashGap.denied_iff (accepted : zone.Accepted) (ring : Ring zone digests nsecs ring)
    (apart : Apart zone digests next) (gap : HashGap zone digests nsecs next) :
    zone.Denied next.key ↔ ¬ zone.Unlisted next := by
  obtain ⟨nsec, mem, found, valid⟩ := gap.encloser
  have parent := gap.parent
  obtain ⟨sourced, types⟩ := ring.original apart mem (by omega) found
  obtain ⟨exist, uncut, dname⟩ := encloser_plain accepted sourced types valid
  obtain ⟨label, key⟩ := gap.key
  constructor
  · intro denied
    have closest : Paths.Closest zone.owners next.key (next.suffix 1).key := by
      have absent := denied.absent
      rw [key] at absent ⊢
      exact Paths.closest_parent absent exist
    rintro (here | wildcard)
    · exact denied.absent here
    · exact (denied.closest _ closest).2 wildcard
  · intro listed
    have absent : ¬ Paths.Exist zone.owners next.key := fun here => listed (.inl here)
    have closest : Paths.Closest zone.owners next.key (next.suffix 1).key := by
      rw [key] at absent ⊢
      exact Paths.closest_parent absent exist
    refine ⟨?_, absent, fun c hc => ?_⟩
    · rintro ⟨cut, known, server, apex, suffix⟩
      rw [key] at suffix
      obtain same | suffix := suffix_cons_iff.mp suffix
      · exact absent ⟨_, mem_map_of_mem known, same ▸ key ▸ suffix_refl _⟩
      · exact uncut ⟨cut, known, server, apex, suffix⟩
    · obtain rfl := hc.unique closest
      exact ⟨dname, fun wildcard => listed (.inr wildcard)⟩

theorem hashedEncloser_spec {parameters : Nsec3} (plain : parameters.Plain) {levels : List Nat}
    {n : Nat} (h : hashedEncloser ⟨parameters, nsecs.map zone.standing⟩ nsecs digests maximum name
      levels = .ok (some (n, nsec))) :
    n ∈ levels ∧ nsec ∈ nsecs ∧ Matches zone digests (name.suffix n) nsec := by
  induction levels with
  | nil => cases h
  | cons level levels ih =>
    rw [hashedEncloser] at h
    split at h
    next => cases h
    rename_i hash hashed
    rw [exactHash_eq] at h
    split at h
    next found exact =>
      cases h
      refine ⟨mem_cons_self, mem_of_find?_eq_some exact, ?_⟩
      have same := List.find?_some exact
      rw [Matches, (nsec3Hash_ok plain).mp hashed, eq_of_beq same]
    next =>
      obtain ⟨mem, rest⟩ := ih h
      exact ⟨mem_cons_of_mem _ mem, rest⟩

theorem hashedEncloser_error {view : Nsec3SetView} {levels : List Nat} {state : Nsec3ProofState}
    (h : hashedEncloser view nsecs digests maximum name levels = .error state) :
    state = .malformed := by
  induction levels with
  | nil => cases h
  | cons level levels ih =>
    rw [hashedEncloser] at h
    split at h
    · cases h
      rfl
    · split at h
      · cases h
      · exact ih h

theorem hashGap_of_proved (ring : Ring zone digests nsecs ring)
    (h : proveNsec3NameError nsecs digests maximum zone.origin name = .proved) :
    ∃ n, HashGap zone digests nsecs (name.suffix n) := by
  have some : nsecs ≠ [] := by
    rintro rfl
    cases h
  obtain ⟨parameters, plain, prepared⟩ :
      ∃ parameters : Nsec3, parameters.Plain ∧ prepareNsec3Set zone.origin maximum nsecs =
        .ok ⟨parameters, nsecs.map zone.standing⟩ := ring.prepare some
  simp only [proveNsec3NameError, prepared] at h
  split at h
  · cases h
  split at h
  next state failed =>
    rw [hashedEncloser_error failed] at h
    cases h
  next => cases h
  next => cases h
  next n nsec searched =>
    obtain ⟨level, mem, found⟩ := hashedEncloser_spec plain searched
    have level := mem_range.mp level
    split at h
    · cases h
    rename_i valid
    split at h
    next => cases h
    rename_i wildcard spelled
    split at h
    next nextHash wildcardHash next beside =>
      split at h
      next both =>
        obtain ⟨gap, gap'⟩ := and_eq_true_iff.mp both
        have up : (name.suffix n).suffix 1 = name.suffix (n + 1) := Name.suffix_suffix name n 1
        refine ⟨n, ?_, ⟨nsec, mem, up ▸ found, by simpa using valid⟩,
          ⟨nextHash, (nsec3Hash_ok plain).mp next, coveringHash_eq.mp gap⟩,
          wildcard, up ▸ spelled, wildcardHash, (nsec3Hash_ok plain).mp beside,
          coveringHash_eq.mp gap'⟩
        simp only [Name.suffix, length_drop]
        omega
      next => cases h
    next => cases h

theorem proved_of_hashGap (ring : Ring zone digests nsecs ring)
    (inside : zone.origin.key <:+ next.key) (gap : HashGap zone digests nsecs next) :
    proveNsec3NameError nsecs digests maximum zone.origin next = .proved := by
  obtain ⟨nsec, mem, found, valid⟩ := gap.encloser
  obtain ⟨hash, hashed, covered⟩ := gap.gap
  obtain ⟨wildcard, spelled, beside, hashed', covered'⟩ := gap.wildcard
  have parent := gap.parent
  obtain ⟨parameters, plain, prepared⟩ :
      ∃ parameters : Nsec3, parameters.Plain ∧ prepareNsec3Set zone.origin maximum nsecs =
        .ok ⟨parameters, nsecs.map zone.standing⟩ := ring.prepare (ne_nil_of_mem mem)
  have known : equalCaseInsensitive
      (next.suffix (next.labels.length - zone.origin.labels.length)) zone.origin = true := by
    have lengths : next.key.length = next.labels.length ∧
        zone.origin.key.length = zone.origin.labels.length := ⟨length_map .., length_map ..⟩
    rw [equal_iff, Name.key_suffix, ← lengths.1, ← lengths.2]
    exact (suffix_iff_eq_drop.mp inside).symm
  have self : next.suffix 0 = next := rfl
  obtain ⟨other, exact, same⟩ : ∃ other, (nsecs.find? fun candidate =>
      zone.standing candidate == zone.standing nsec) = some other ∧
      other.value.types = nsec.value.types := by
    have some : (nsecs.find? fun candidate =>
        zone.standing candidate == zone.standing nsec).isSome = true :=
      List.find?_isSome.mpr ⟨nsec, mem, by simp⟩
    obtain ⟨other, exact⟩ := Option.isSome_iff_exists.mp some
    have equal := List.find?_some exact
    exact ⟨other, exact, ring.types_eq (mem_of_find?_eq_some exact) mem (eq_of_beq equal)⟩
  have valid' : validNsec3ClosestEncloser other.value = true := by
    rw [validNsec3ClosestEncloser, same]
    exact valid
  have missing : (nsecs.find? fun candidate => zone.standing candidate == hash) = none := by
    apply List.find?_eq_none.mpr
    intro candidate listed equal
    apply ring.uncovered gap.gap listed
    rw [Matches, hashed, eq_of_beq equal]
  have searched : hashedEncloser ⟨parameters, nsecs.map zone.standing⟩ nsecs digests maximum next
      (List.range (next.labels.length - zone.origin.labels.length + 1)) =
      .ok (some (1, other)) := by
    obtain ⟨depth, levels⟩ : ∃ depth, next.labels.length - zone.origin.labels.length = depth + 1 :=
      ⟨next.labels.length - zone.origin.labels.length - 1, by omega⟩
    rw [levels, range_succ_eq_map, range_succ_eq_map, map_cons]
    have first : nsec3Hash digests maximum parameters next = .ok hash :=
      (nsec3Hash_ok plain).mpr hashed
    have second : nsec3Hash digests maximum parameters (next.suffix 1) =
        .ok (zone.standing nsec) := (nsec3Hash_ok plain).mpr found
    simp [hashedEncloser, self, first, exactHash_eq, missing, second, exact]
  have outside : ¬ (next.labels.length ≤ zone.origin.labels.length ∨
      (!equalCaseInsensitive (next.suffix (next.labels.length - zone.origin.labels.length))
        zone.origin) = true) := by
    rw [known]
    simp
    omega
  have first : nsec3Hash digests maximum parameters next = .ok hash :=
    (nsec3Hash_ok plain).mpr hashed
  have second : nsec3Hash digests maximum parameters wildcard = .ok beside :=
    (nsec3Hash_ok plain).mpr hashed'
  have gaps : ((coveringHash ⟨parameters, nsecs.map zone.standing⟩ nsecs hash).isSome &&
      (coveringHash ⟨parameters, nsecs.map zone.standing⟩ nsecs beside).isSome) = true :=
    and_eq_true_iff.mpr ⟨coveringHash_eq.mpr covered, coveringHash_eq.mpr covered'⟩
  simp only [proveNsec3NameError, prepared, outside, settled, searched, valid', spelled, self,
    first, second, gaps]

/-- The proof is sound for the names of the zone exactly where no gap of the records has
something unlisted in it. -/
theorem nsec3_name_error_sound_iff (accepted : zone.Accepted)
    (genuine : zone.Hashed optOut digests nsecs) (maximum : BitVec 16) :
    (∀ name, isSubdomain name zone.origin = true → Apart zone digests name →
      proveNsec3NameError nsecs digests maximum zone.origin name = .proved →
      ∀ type, (zone.answer (query name type)).rcode = .nameError) ↔
    ∀ next, isSubdomain next zone.origin = true → Apart zone digests next →
      HashGap zone digests nsecs next → ¬ zone.Unlisted next := by
  obtain ⟨ring, genuine⟩ := genuine.hasRing
  constructor
  · intro sound next inside apart gap
    have inside' := isSubdomain_iff.mp inside
    have denied := sound next inside apart (proved_of_hashGap genuine inside' gap) typeA
    rw [answer_nameError inside' rfl] at denied
    exact (gap.denied_iff accepted genuine apart).mp denied
  · intro plain name inside apart proved type
    have inside := isSubdomain_iff.mp inside
    rw [answer_nameError inside rfl]
    obtain ⟨n, gap⟩ := hashGap_of_proved genuine proved
    have below : (name.suffix n).key <:+ name.key := by
      rw [Name.key_suffix]
      exact drop_suffix _ _
    have parent := gap.parent
    have within : zone.origin.key <:+ (name.suffix n).key := by
      apply suffix_of_suffix_length_le inside below
      simp only [Name.key, length_map]
      omega
    have apart' : Apart zone digests (name.suffix n) := by
      intro above mem
      obtain ⟨m, few, rfl⟩ := mem_map.mp mem
      have few := mem_range.mp few
      simp only [Name.suffix, length_drop] at few parent
      rw [Name.suffix_suffix]
      exact apart _ (mem_suffixes (by omega))
    have denied := (gap.denied_iff accepted genuine apart').mpr
      (plain _ (isSubdomain_iff.mpr within) apart' gap)
    exact denied.descendant below (accepted.encloser within)

end NameError

section Samples

/-- The twenty octets of a SHA-1 digest. -/
def sha1Octets (value : BitVec 160) : List (BitVec 8) :=
  (List.range 20).map fun i => (value >>> (8 * (19 - i))).setWidth 8

/-- SHA-1 on the root, `e`, `a.e` and `*.e`. -/
def sampleDigests : DigestCalculator where
  supportsDigest := (· == 1#8)
  calculateDigest := fun _ input =>
    ([([0#8], 0x5ba93c9db0cff93f52b521d7420e43f6eda2784f#160),
        ([1#8, 101#8, 0#8], 0xe752bcc4541310fa037564aaf3999135140c9de1#160),
        ([1#8, 97#8, 1#8, 101#8, 0#8], 0x3391ecfdb8379d6a0e911ed2ee3c34a15fefb8d5#160),
        ([1#8, 42#8, 1#8, 101#8, 0#8], 0x5e3a2861f9d59ed30d0d4f31941d2dffd8e4948b#160)].find?
      fun row => row.1 == input).map fun row => sha1Octets row.2

/-- Every record of the sample's chain, as one with good signatures. -/
def sampleNsec3s (zone : Zone) (optOut : Bool) : List AuthenticatedNsec3 :=
  match buildNsec3Chain zone.origin zone.records optOut 0#32 sampleDigests with
  | none => []
  | some chain => chain.records.filterMap (authenticateNsec3 · .secure)

theorem sampleNsec3s_hashed {zone : Zone} {optOut : Bool}
    (built : (buildNsec3Chain zone.origin zone.records optOut 0#32 sampleDigests).isSome = true) :
    zone.Hashed optOut sampleDigests (sampleNsec3s zone optOut) := by
  obtain ⟨chain, eq⟩ := Option.isSome_iff_exists.mp built
  refine ⟨0#32, chain, eq, fun nsec mem => ?_⟩
  simp only [sampleNsec3s, eq] at mem
  obtain ⟨record, known, made⟩ := mem_filterMap.mp mem
  simp only [authenticateNsec3, ne_eq, settled] at made
  split at made
  next =>
    split at made
    · cases made
    · obtain rfl := Option.some.inj made
      exact known
  next => cases made

instance (zone : Zone) (digests : DigestCalculator) (name : Name) :
    Decidable (Apart zone digests name) :=
  inferInstanceAs (Decidable (∀ above ∈ name.suffixes, ∀ record ∈ zone.records,
    ∀ other ∈ record.owner.suffixes, publisherHash digests above ≠ none →
      publisherHash digests above = publisherHash digests other → above.key = other.key))

theorem plain_zone_hashed_name_error_sound :
    (sampleZone []).Accepted ∧
      (sampleZone []).Hashed false sampleDigests (sampleNsec3s (sampleZone []) false) ∧
      ((∀ name, isSubdomain name sampleOrigin = true →
          Apart (sampleZone []) sampleDigests name →
          proveNsec3NameError (sampleNsec3s (sampleZone []) false) sampleDigests 0#16 sampleOrigin
            name = .proved →
          ∀ type, ((sampleZone []).answer (query name type)).rcode = .nameError) ↔
        ∀ next, isSubdomain next sampleOrigin = true → Apart (sampleZone []) sampleDigests next →
          HashGap (sampleZone []) sampleDigests (sampleNsec3s (sampleZone []) false) next →
          ¬ (sampleZone []).Unlisted next) :=
  ⟨sampleZone_accepted (by decide +kernel), sampleNsec3s_hashed (by decide +kernel),
    nsec3_name_error_sound_iff (sampleZone_accepted (by decide +kernel))
      (sampleNsec3s_hashed (by decide +kernel)) 0#16⟩

/-- The zone opts out and delegates `a.e` without signing it. The only record proves that there
is no `a.e`, and the server answers with a referral to it. -/
theorem omitted_delegation_proved_absent :
    let zone := sampleZone
      [{ owner := sampleName [[97#8]], type := typeNs, ttl := 0#32, rdata := [0#8] }]
    let name := sampleName [[97#8]]
    zone.Accepted ∧ zone.Hashed true sampleDigests (sampleNsec3s zone true) ∧
      isSubdomain name zone.origin = true ∧ Apart zone sampleDigests name ∧
      proveNsec3NameError (sampleNsec3s zone true) sampleDigests 0#16 zone.origin name = .proved ∧
      (zone.answer (query name typeA)).rcode ≠ .nameError :=
  ⟨sampleZone_accepted (by decide +kernel), sampleNsec3s_hashed (by decide +kernel),
    by decide +kernel, by decide +kernel, by decide +kernel, by decide +kernel⟩

end Samples

end Zone

end RouterSim.Dns
