import RouterSim.Dns.NsecChain
import RouterSim.Lib.Base32

/-! The chain of NSEC3 records of a zone: the hashes of its names in order, with the next hash
and the types at each name. -/
namespace RouterSim.Dns

open List Octets Sorting

section Record

structure Nsec3 where
  hashAlgorithm : BitVec 8
  flags : BitVec 8
  iterations : BitVec 16
  salt : List (BitVec 8)
  nextHashedOwner : List (BitVec 8)
  types : List (BitVec 16)

def encodeNsec3 (value : Nsec3) : Option (List (BitVec 8)) :=
  if 255 < value.salt.length ∨ value.nextHashedOwner = [] ∨ 255 < value.nextHashedOwner.length then
    none
  else
    match encodeTypeBitmap value.types true with
    | none => none
    | some bitmap =>
      publish
        (value.hashAlgorithm :: value.flags :: (value.iterations >>> 8).setWidth 8 ::
          value.iterations.setWidth 8 :: BitVec.ofNat 8 value.salt.length ::
          (value.salt ++ BitVec.ofNat 8 value.nextHashedOwner.length ::
            (value.nextHashedOwner ++ bitmap)))

def decodeNsec3 (rdata : List (BitVec 8)) : Option Nsec3 :=
  if rdata.length < 7 then none
  else
    let saltLength := (get rdata 4).toNat
    if rdata.length < 6 + saltLength then none
    else
      let hashLength := (get rdata (5 + saltLength)).toNat
      let bitmapOffset := 6 + saltLength + hashLength
      if hashLength = 0 ∨ rdata.length < bitmapOffset then none
      else
        match decodeTypeBitmap (rdata.drop bitmapOffset) true with
        | none => none
        | some types =>
          some
            { hashAlgorithm := get rdata 0, flags := get rdata 1, iterations := read16 rdata 2,
              salt := (rdata.drop 5).take saltLength
              nextHashedOwner := (rdata.drop (6 + saltLength)).take hashLength, types }

theorem decodeNsec3_encode {value : Nsec3} {rdata : List (BitVec 8)}
    (sorted : value.types.Pairwise (· < ·)) (h : encodeNsec3 value = some rdata) :
    decodeNsec3 rdata = some value := by
  simp only [encodeNsec3] at h
  split at h
  · cases h
  rename_i fits
  split at h
  next => cases h
  rename_i bitmap encoded
  simp only [publish] at h
  split at h
  · cases h
  obtain rfl := Option.some.inj h
  have back := decodeTypeBitmap_encode sorted encoded
  obtain ⟨hashAlgorithm, flags, iterations, salt, next, types⟩ := value
  dsimp only at back fits ⊢
  have some : 0 < next.length := length_pos_iff.mpr fun empty => fits (.inr (.inl empty))
  have saltOctet : (BitVec.ofNat 8 salt.length).toNat = salt.length := by
    exact Nat.mod_eq_of_lt (by omega)
  have hashOctet : (BitVec.ofNat 8 next.length).toNat = next.length := by
    exact Nat.mod_eq_of_lt (by omega)
  generalize whole : hashAlgorithm :: flags :: (iterations >>> 8).setWidth 8 ::
    iterations.setWidth 8 :: BitVec.ofNat 8 salt.length ::
    (salt ++ BitVec.ofNat 8 next.length :: (next ++ bitmap)) = rdata
  have afterHeader : rdata.drop 5 = salt ++ BitVec.ofNat 8 next.length :: (next ++ bitmap) := by
    rw [← whole]
    rfl
  have afterSalt : rdata.drop (6 + salt.length) = next ++ bitmap := by
    have step : 6 + salt.length = 5 + (salt.length + 1) := by omega
    rw [step, ← drop_drop, afterHeader]
    simp
  have afterHash : rdata.drop (6 + salt.length + next.length) = bitmap := by
    rw [← drop_drop, afterSalt, drop_left]
  have saltLength : (get rdata 4).toNat = salt.length := by
    rw [← whole]
    exact saltOctet
  have hashLength : (get rdata (5 + salt.length)).toNat = next.length := by
    rw [← get_drop, afterHeader, get_append_right (Nat.le_refl _), Nat.sub_self]
    exact hashOctet
  have total : rdata.length = 6 + salt.length + next.length + bitmap.length := by
    rw [← whole]
    simp
    omega
  have counted : read16 rdata 2 = iterations := by
    rw [← whole]
    exact append_halves iterations
  have header : get rdata 0 = hashAlgorithm ∧ get rdata 1 = flags := by
    rw [← whole]
    exact ⟨rfl, rfl⟩
  rw [decodeNsec3, if_neg (by omega)]
  simp only [saltLength, hashLength]
  rw [if_neg (by omega), if_neg (by omega), afterHash, back, afterHeader, afterSalt]
  simp [counted, header.1, header.2]

end Record

section Hash

inductive Nsec3ProofState
  | proved | notProved | unsupportedIterations | malformed | resourceExhausted
  deriving DecidableEq

/-- The cryptographic library. -/
structure DigestCalculator where
  supportsDigest : BitVec 8 → Bool
  calculateDigest : BitVec 8 → List (BitVec 8) → Option (List (BitVec 8))

variable (digests : DigestCalculator)

def digestOnce (input : List (BitVec 8)) : Option (List (BitVec 8)) :=
  (digests.calculateDigest 1#8 input).filter (·.length == 20)

/-- The additional hashes, each over the last one and the salt. -/
def rehash (salt : List (BitVec 8)) : Nat → List (BitVec 8) → Option (List (BitVec 8))
  | 0, digest => some digest
  | iterations + 1, digest =>
    match digestOnce digests (digest ++ salt) with
    | none => none
    | some next => rehash salt iterations next

/-- The hash of a name in lower case. -/
def nsec3Hash (maximum : BitVec 16) (parameters : Nsec3) (name : Name) :
    Except Nsec3ProofState (List (BitVec 8)) :=
  if parameters.hashAlgorithm ≠ 1#8 ∨ !digests.supportsDigest 1#8 then .error .malformed
  else if maximum < parameters.iterations then .error .unsupportedIterations
  else if !validName name then .error .malformed
  else
    match digestOnce digests (encodeLabels name.key ++ parameters.salt) with
    | none => .error .malformed
    | some digest =>
      match rehash digests parameters.salt parameters.iterations.toNat digest with
      | none => .error .malformed
      | some digest => .ok digest

/-- The parameters of a publisher: no salt and no additional hash. -/
def publisherParameters : Nsec3 where
  hashAlgorithm := 1#8
  flags := 0#8
  iterations := 0#16
  salt := []
  nextHashedOwner := List.replicate 20 0#8
  types := []

/-- The hash of a name by the publisher's parameters. -/
def publisherHash (name : Name) : Option (List (BitVec 8)) :=
  (nsec3Hash digests 0#16 publisherParameters name).toOption

end Hash

section Build

variable (origin : Name) (records : List ZoneRecord) (optOut : Bool)

def hasDs (cut : Name) : Bool :=
  records.any fun record => record.type == typeDs && equalCaseInsensitive record.owner cut

def nsec3Generated (type : BitVec 16) : Bool := generated type || type == typeNsec3param

/-- The owner of a record is in the authoritative part of the zone. -/
def nsec3Authoritative (record : ZoneRecord) : Bool :=
  validName record.owner && isSubdomain record.owner origin &&
    !belowCut record.owner (delegationCuts origin records) && !nsec3Generated record.type

/-- Opting out leaves the unsigned delegations away. -/
def leavesOut (record : ZoneRecord) : Bool :=
  optOut && atCut record.owner (delegationCuts origin records) && !hasDs records record.owner

def explicitOwners : List Name :=
  records.foldl
    (fun owners record =>
      if nsec3Authoritative origin records record && !leavesOut origin records optOut record then
        appendUnique owners record.owner
      else owners) []

def omittedUnsignedCuts : List Name :=
  records.foldl
    (fun cuts record =>
      if nsec3Authoritative origin records record && leavesOut origin records optOut record then
        appendUnique cuts record.owner
      else cuts) []

/-- The names between an owner and the apex. -/
def appendEmptyNonTerminals (names : List Name) (owner : Name) : List Name :=
  if equalCaseInsensitive owner origin then names
  else
    let above := (List.range owner.labels.length).map fun n => owner.suffix (n + 1)
    (above.takeWhile fun suffix => !equalCaseInsensitive suffix origin).foldl appendUnique names

def nsec3Owners : List Name :=
  (explicitOwners origin records optOut).foldl (appendEmptyNonTerminals origin)
    (explicitOwners origin records optOut)

/-- The types a bitmap shows of the records of a name. The NS records of a delegation are not
signed. -/
def shownTypes (owned : List ZoneRecord) (cut apex : Bool) : List (BitVec 16) :=
  let present := owned.filter fun record =>
    !nsec3Generated record.type && !(cut && record.type != typeNs && record.type != typeDs)
  let signed := apex || present.any fun record => !cut || record.type == typeDs
  unique
    (sort (fun left right => decide (left < right))
      (present.map (·.type) ++ (if apex then [typeNsec3param] else []) ++
        if signed then [typeRrsig] else []))

def nsec3Types (owner : Name) : List (BitVec 16) :=
  shownTypes (records.filter fun record => equalCaseInsensitive record.owner owner)
    (atCut owner (delegationCuts origin records)) (equalCaseInsensitive owner origin)

structure HashedName where
  original : Name
  hash : List (BitVec 8)
  types : List (BitVec 16)

def hashName (digests : DigestCalculator) (owner : Name) : Option HashedName :=
  (publisherHash digests owner).map fun hash =>
    { original := owner, hash, types := nsec3Types origin records owner }

/-- Two names with one hash, side by side. -/
def collides : List HashedName → Bool
  | first :: second :: rest =>
    first.hash == second.hash && !equalCaseInsensitive first.original second.original ||
      collides (second :: rest)
  | _ => false

def compareHash : List (BitVec 8) → List (BitVec 8) → Ordering := List.compareLex compare

def hashCovers (owner next value : List (BitVec 8)) : Bool :=
  Gaps.covers compareHash owner next value

def hashedOwner (hash : List (BitVec 8)) (origin : Name) : Option Name :=
  Name.ofLabels (Base32.base32hex hash :: origin.labels)

structure Nsec3Chain where
  parameter : ZoneRecord
  records : List ZoneRecord

/-- The record of a name. The flag says that an unsigned delegation may be in the gap. -/
def nsec3Record (ttl : BitVec 32) (omitted : List (List (BitVec 8))) (entry : HashedName)
    (next : List (BitVec 8)) : Option ZoneRecord :=
  let value : Nsec3 :=
    { publisherParameters with
      flags := if optOut && omitted.any (hashCovers entry.hash next) then 1#8 else 0#8
      nextHashedOwner := next, types := entry.types }
  match hashedOwner entry.hash origin, encodeNsec3 value with
  | some owner, some rdata =>
    some
      { owner, type := typeNsec3, ttl, rdata }
  | _, _ => none

def hashRing (named : List HashedName) : List HashedName :=
  sort (fun left right => compareHash left.hash right.hash == .lt) named

/-- The records of a ring of hashes, each with the next one. -/
def nsec3Records (ttl : BitVec 32) (omitted : List (List (BitVec 8))) (ring : List HashedName) :
    Option (List ZoneRecord) :=
  (List.range ring.length).mapM fun index =>
    match ring[index]?, ring[(index + 1) % ring.length]? with
    | some entry, some next => nsec3Record origin optOut ttl omitted entry next.hash
    | _, _ => none

def buildNsec3Chain (denialTtl : BitVec 32) (digests : DigestCalculator) : Option Nsec3Chain :=
  if !validName origin || records.isEmpty || !digests.supportsDigest 1#8 then none
  else if !(explicitOwners origin records optOut).any (equalCaseInsensitive · origin) then none
  else
    match (nsec3Owners origin records optOut).mapM (hashName origin records digests) with
    | none => none
    | some named =>
      if collides (hashRing named) then none
      else
        match (omittedUnsignedCuts origin records optOut).mapM (publisherHash digests) with
        | none => none
        | some omitted =>
          (nsec3Records origin optOut denialTtl omitted (hashRing named)).map fun made =>
            { parameter :=
                { owner := origin, type := typeNsec3param, ttl := denialTtl,
                  rdata := [1#8, 0#8, 0#8, 0#8, 0#8] }
              records := made }

end Build

section Ring

instance : Std.TransCmp compareHash := inferInstanceAs (Std.TransCmp (List.compareLex compare))

instance : Std.LawfulEqCmp compareHash :=
  inferInstanceAs (Std.LawfulEqCmp (List.compareLex compare))

variable {origin : Name} {records : List ZoneRecord} {optOut : Bool} {digests : DigestCalculator}

/-- Distinct names in order of their hashes, with no two hashes alike, are in strict order. -/
theorem strict_of_collides {ring : List HashedName}
    (sorted : Sorting.Sorted (fun left right => compareHash left.hash right.hash == .lt) ring)
    (distinct : Distinct (ring.map (·.original))) (apart : collides ring = false) :
    (ring.map (·.hash)).Pairwise fun left right => compareHash left right = .lt := by
  induction ring with
  | nil => exact .nil
  | cons first rest ih =>
    obtain ⟨least, others⟩ := pairwise_cons.mp sorted
    obtain ⟨new, distinct⟩ := pairwise_cons.mp distinct
    cases rest with
    | nil => exact pairwise_singleton ..
    | cons second rest =>
      simp only [collides, refuted] at apart
      have strict := ih others distinct apart.2
      refine pairwise_cons.mpr ⟨fun hash mem => ?_, strict⟩
      have after : (compareHash second.hash first.hash == .lt) = false := least second mem_cons_self
      have ne : first.hash ≠ second.hash := by
        intro same
        have names : equalCaseInsensitive first.original second.original = false := by
          rw [← Bool.not_eq_true, equal_iff]
          exact new second.original (by simp)
        simp [same, names] at apart
      have less : compareHash first.hash second.hash = .lt := by
        have swap : compareHash second.hash first.hash =
            (compareHash first.hash second.hash).swap := Std.OrientedCmp.eq_swap
        rw [swap] at after
        cases order : compareHash first.hash second.hash with
        | lt => rfl
        | eq => exact absurd (Std.LawfulEqCmp.eq_of_compare order) ne
        | gt => simp [order] at after
      obtain rfl | mem := mem_cons.mp mem
      · exact less
      · exact Std.TransCmp.lt_trans less ((pairwise_cons.mp strict).1 hash mem)

/-- The name is at or above the owner of authoritative data. -/
def Sourced (origin : Name) (records : List ZoneRecord) (name : Name) : Prop :=
  ∃ record ∈ records, nsec3Authoritative origin records record = true ∧
    name.key <:+ record.owner.key

/-- What an entry of the ring says of the zone. -/
structure Entry (origin : Name) (records : List ZoneRecord) (digests : DigestCalculator)
    (entry : HashedName) : Prop where
  hashed : publisherHash digests entry.original = some entry.hash
  types : entry.types = nsec3Types origin records entry.original
  source : Sourced origin records entry.original

theorem mem_appendUnique_name {names : List Name} {candidate name : Name}
    (h : name ∈ appendUnique names candidate) : name ∈ names ∨ name = candidate := by
  rw [appendUnique] at h
  split at h
  · exact .inl h
  · simpa using h

theorem foldl_appendUnique_all {P : Name → Prop} {names more : List Name}
    (known : ∀ name ∈ names, P name) (new : ∀ name ∈ more, P name) (distinct : Distinct names) :
    (∀ name ∈ more.foldl appendUnique names, P name) ∧ Distinct (more.foldl appendUnique names) := by
  induction more generalizing names with
  | nil => exact ⟨known, distinct⟩
  | cons candidate more ih =>
    apply ih _ (fun name mem => new name (mem_cons_of_mem _ mem)) (appendUnique_distinct distinct)
    intro name mem
    obtain mem | rfl := mem_appendUnique_name mem
    · exact known name mem
    · exact new _ mem_cons_self

theorem explicitOwners_sourced :
    (∀ name ∈ explicitOwners origin records optOut, Sourced origin records name) ∧
      Distinct (explicitOwners origin records optOut) := by
  have spec := fun key => foldl_appendUnique
    (fun record => nsec3Authoritative origin records record &&
      !leavesOut origin records optOut record)
    (fun record : ZoneRecord => record.owner) key records List.Pairwise.nil
  refine ⟨fun name mem => ?_, (spec []).1⟩
  obtain none | ⟨record, mem, ok, same⟩ := (spec name.key).2.mp (mem_map_of_mem mem)
  · cases none
  · exact ⟨record, mem, (Bool.and_eq_true_iff.mp ok).1, same ▸ suffix_refl _⟩

theorem nsec3Owners_sourced :
    (∀ name ∈ nsec3Owners origin records optOut, Sourced origin records name) ∧
      Distinct (nsec3Owners origin records optOut) := by
  have explicit : (∀ name ∈ explicitOwners origin records optOut, Sourced origin records name) ∧
    Distinct (explicitOwners origin records optOut) := explicitOwners_sourced
  have all : ∀ (owners names : List Name), (∀ name ∈ owners, Sourced origin records name) →
      (∀ name ∈ names, Sourced origin records name) → Distinct names →
      (∀ name ∈ owners.foldl (appendEmptyNonTerminals origin) names, Sourced origin records name) ∧
        Distinct (owners.foldl (appendEmptyNonTerminals origin) names) := by
    intro owners
    induction owners with
    | nil => exact fun names _ known distinct => ⟨known, distinct⟩
    | cons owner owners ih =>
      intro names given known distinct
      have step : (∀ name ∈ appendEmptyNonTerminals origin names owner,
          Sourced origin records name) ∧ Distinct (appendEmptyNonTerminals origin names owner) := by
        rw [appendEmptyNonTerminals]
        split
        · exact ⟨known, distinct⟩
        apply foldl_appendUnique_all known _ distinct
        intro name mem
        obtain ⟨n, _, rfl⟩ := mem_map.mp ((takeWhile_sublist _).mem mem)
        obtain ⟨record, mem, ok, above⟩ := given owner mem_cons_self
        refine ⟨record, mem, ok, List.IsSuffix.trans ?_ above⟩
        rw [Name.key_suffix]
        exact drop_suffix _ _
      exact ih _ (fun name mem => given name (mem_cons_of_mem _ mem)) step.1 step.2
  exact all _ _ explicit.1 explicit.1 explicit.2

theorem map_of_mapM {α β : Type} {f : α → Option β} {g : β → α} {l : List α} {out : List β}
    (back : ∀ a b, f a = some b → g b = a) (h : l.mapM f = some out) : out.map g = l := by
  induction l generalizing out with
  | nil =>
    obtain rfl : [] = out := by simpa using h
    rfl
  | cons a l ih =>
    cases first : f a with
    | none => simp [first] at h
    | some b =>
      cases rest : l.mapM f with
      | none => simp [first, rest] at h
      | some tail =>
        obtain rfl : b :: tail = out := by simpa [first, rest] using h
        rw [map_cons, back a b first, ih rest]

/-- The chain comes from a ring of hashes in strict order. -/
theorem buildNsec3Chain_ring {ttl : BitVec 32} {chain : Nsec3Chain}
    (h : buildNsec3Chain origin records optOut ttl digests = some chain) :
    ∃ ring : List HashedName, (∀ entry ∈ ring, Entry origin records digests entry) ∧
      ((ring.map (·.hash)).Pairwise fun left right => compareHash left right = .lt) ∧
      ∃ omitted, nsec3Records origin optOut ttl omitted ring = some chain.records := by
  simp only [buildNsec3Chain] at h
  split at h
  · cases h
  split at h
  · cases h
  split at h
  next => cases h
  rename_i named hashed
  split at h
  · cases h
  rename_i apart
  split at h
  next => cases h
  rename_i omitted _
  obtain ⟨made, eq, rfl⟩ := Option.map_eq_some_iff.mp h
  have sourced : (∀ name ∈ nsec3Owners origin records optOut,
    Sourced origin records name) ∧ Distinct (nsec3Owners origin records optOut) :=
    nsec3Owners_sourced
  have originals : named.map (·.original) = nsec3Owners origin records optOut := by
    apply map_of_mapM _ hashed
    intro owner entry made
    obtain ⟨hash, _, rfl⟩ := Option.map_eq_some_iff.mp made
    rfl
  have perm : (hashRing named).Perm named := sort_perm
  refine ⟨hashRing named, fun entry mem => ?_, ?_, omitted, eq⟩
  · obtain ⟨owner, known, made⟩ := Table.mem_of_mapM hashed (perm.mem_iff.mp mem)
    obtain ⟨hash, found, rfl⟩ := Option.map_eq_some_iff.mp made
    exact ⟨found, rfl, sourced.1 owner known⟩
  · apply strict_of_collides
    · exact sort_sorted (weak_of_compare compareHash HashedName.hash)
    · have same := (perm.map HashedName.original)
      rw [originals] at same
      exact (same.pairwise_iff fun ne eq => ne eq.symm).mpr sourced.2
    · simpa using apart

/-- Each record stands at its entry's place in the ring. -/
theorem mem_nsec3Records {ttl : BitVec 32} {omitted : List (List (BitVec 8))}
    {ring : List HashedName} {made : List ZoneRecord} {record : ZoneRecord}
    (h : nsec3Records origin optOut ttl omitted ring = some made) (mem : record ∈ made) :
    ∃ (index : Nat) (entry next : HashedName) (flags : BitVec 8), ring[index]? = some entry ∧
      ring[(index + 1) % ring.length]? = some next ∧ (flags = 0#8 ∨ flags = 1#8) ∧
      hashedOwner entry.hash origin = some record.owner ∧
      encodeNsec3
        { publisherParameters with
          flags, nextHashedOwner := next.hash, types := entry.types } = some record.rdata := by
  obtain ⟨index, _, one⟩ := Table.mem_of_mapM h mem
  split at one
  next entry next here there =>
    simp only [nsec3Record] at one
    split at one
    next owner rdata spelled encoded =>
      obtain rfl := Option.some.inj one
      refine ⟨index, entry, next, _, here, there, ?_, spelled, encoded⟩
      split
      · exact .inr rfl
      · exact .inl rfl
    next => cases one
  next => cases one

theorem nsec3Types_sorted {owner : Name} : (nsec3Types origin records owner).Pairwise (· < ·) :=
  uniqueTypes_sorted

theorem mem_nsec3Types {owner : Name} {record : ZoneRecord} (mem : record ∈ records)
    (same : record.owner.key = owner.key) (plain : nsec3Generated record.type = false)
    (shown : atCut owner (delegationCuts origin records) = true →
      record.type = typeNs ∨ record.type = typeDs) :
    record.type ∈ nsec3Types origin records owner := by
  rw [nsec3Types, shownTypes, mem_unique, sort_perm.mem_iff]
  apply mem_append_left
  apply mem_append_left
  have owned : record ∈ records.filter fun record => equalCaseInsensitive record.owner owner :=
    mem_filter.mpr ⟨mem, equal_iff.mpr same⟩
  refine mem_map_of_mem (mem_filter.mpr ⟨owned, ?_⟩)
  rw [plain]
  cases cut : atCut owner (delegationCuts origin records) with
  | false => rfl
  | true =>
    obtain type | type := shown cut
    · simp [type]
    · simp [type]

theorem soa_not_mem {owner : Name} (cut : atCut owner (delegationCuts origin records) = true) :
    typeSoa ∉ nsec3Types origin records owner := by
  have others : typeSoa ≠ typeNs ∧ typeSoa ≠ typeDs ∧ typeSoa ≠ typeNsec3param ∧
      typeSoa ≠ typeRrsig := by decide
  rw [nsec3Types, shownTypes, mem_unique, sort_perm.mem_iff]
  simp only [mem_append, mem_map, mem_filter, not_or]
  refine ⟨⟨?_, ?_⟩, ?_⟩
  · rintro ⟨record, ⟨_, shown⟩, soa⟩
    simp [cut, soa, others] at shown
  · split <;> simp [others]
  · split <;> simp [others]

theorem publisherHash_length {name : Name} {hash : List (BitVec 8)}
    (h : publisherHash digests name = some hash) : hash.length = 20 := by
  rw [publisherHash] at h
  cases made : nsec3Hash digests 0#16 publisherParameters name with
  | error state => simp [made, Except.toOption] at h
  | ok digest =>
    obtain rfl : digest = hash := by simpa [made, Except.toOption] using h
    simp only [nsec3Hash] at made
    split at made
    · cases made
    split at made
    · cases made
    split at made
    · cases made
    split at made
    next => cases made
    rename_i first found
    simp only [digestOnce, Option.filter_eq_some_iff, asserted] at found
    cases made
    exact found.2

end Ring

end RouterSim.Dns
