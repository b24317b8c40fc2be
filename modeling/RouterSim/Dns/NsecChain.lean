import RouterSim.Dns.ZoneTree
import RouterSim.Dns.TypeBitmap
import RouterSim.Lib.Gaps
import RouterSim.Lib.Table

/-! The chain of NSEC records of a zone: each name that owns authoritative data, in canonical
order, with the next one and the types it owns. -/
namespace RouterSim.Dns

open List Sorting

section CanonicalOrder

/-- Folded, octet by octet, the shorter label first. -/
def compareLabel (left right : List (BitVec 8)) : Ordering :=
  List.compareLex compare (left.map fold) (right.map fold)

/-- Label by label from the root, the shorter name first. -/
def canonicalNameCompare (left right : Name) : Ordering :=
  List.compareLex compareLabel left.labels.reverse right.labels.reverse

/-- The folded labels from the root. -/
def Name.canonical (name : Name) : List (List (BitVec 8)) := name.key.reverse

/-- The canonical order, on folded labels from the root. -/
def canonicalCompare : List (List (BitVec 8)) → List (List (BitVec 8)) → Ordering :=
  List.compareLex (List.compareLex compare)

instance : Std.TransCmp canonicalCompare :=
  inferInstanceAs (Std.TransCmp (List.compareLex (List.compareLex compare)))

instance : Std.LawfulEqCmp canonicalCompare :=
  inferInstanceAs (Std.LawfulEqCmp (List.compareLex (List.compareLex compare)))

theorem compareLex_map {α β : Type} (cmp : β → β → Ordering) (f : α → β) (left right : List α) :
    List.compareLex (fun a b => cmp (f a) (f b)) left right =
      List.compareLex cmp (left.map f) (right.map f) := by
  induction left generalizing right with
  | nil => cases right <;> rfl
  | cons a left ih =>
    cases right with
    | nil => rfl
    | cons b right =>
      rw [map_cons, map_cons, List.compareLex_cons_cons, List.compareLex_cons_cons, ih]

theorem canonicalNameCompare_eq (left right : Name) :
    canonicalNameCompare left right = canonicalCompare left.canonical right.canonical := by
  simp only [Name.canonical, Name.key, ← map_reverse]
  exact compareLex_map (List.compareLex compare) (List.map fold) _ _

theorem canonical_inj {left right : Name} : left.canonical = right.canonical ↔ left.key = right.key :=
  reverse_inj

end CanonicalOrder

section Record

structure Nsec where
  nextDomain : Name
  types : List (BitVec 16)

/-- RDATA has a length of sixteen bits. -/
def publish (staged : List (BitVec 8)) : Option (List (BitVec 8)) :=
  if 65535 < staged.length then none else some staged

def encodeNsec (value : Nsec) : Option (List (BitVec 8)) :=
  if !validName value.nextDomain then none
  else
    match encodeTypeBitmap value.types false with
    | none => none
    | some bitmap => publish (value.nextDomain.wire ++ bitmap)

def decodeNsec (rdata : List (BitVec 8)) : Option Nsec :=
  match parseName rdata 0 with
  | none => none
  | some (next, octets) =>
    if rdata.length ≤ octets then none
    else
      match decodeTypeBitmap (rdata.drop octets) false with
      | none => none
      | some types => some ⟨next, types⟩

theorem decodeNsec_encode {value : Nsec} {rdata : List (BitVec 8)}
    (sorted : value.types.Pairwise (· < ·)) (h : encodeNsec value = some rdata) :
    decodeNsec rdata = some value := by
  simp only [encodeNsec, validName_eq_true, settled] at h
  split at h
  next => cases h
  rename_i bitmap encoded
  simp only [publish] at h
  split at h
  · cases h
  obtain rfl := Option.some.inj h
  have back := decodeTypeBitmap_encode sorted encoded
  have name : parseName (value.nextDomain.wire ++ bitmap) 0 =
      some (value.nextDomain, value.nextDomain.octets) := by
    simpa using parseName_wire value.nextDomain [] bitmap
  have drop : (value.nextDomain.wire ++ bitmap).drop value.nextDomain.octets = bitmap := drop_left
  have some : bitmap ≠ [] := by
    rintro rfl
    cases back
  have longer : ¬ (value.nextDomain.wire ++ bitmap).length ≤ value.nextDomain.octets := by
    have : 0 < bitmap.length := length_pos_iff.mpr some
    rw [length_append, Name.octets]
    omega
  simp only [decodeNsec, name, longer, settled, drop, back]

theorem encodeNsec_isSome {value : Nsec} (sorted : value.types.Pairwise (· < ·))
    (some : value.types ≠ []) : (encodeNsec value).isSome = true := by
  have fits := value.nextDomain.fits
  have bitmap := length_encodeWindows 0 (windows_spec sorted).order
    (fun _ _ => Nat.zero_le _) (by omega)
  have small : ¬ 65535 < (value.nextDomain.wire ++
      (windows value.types).flatMap encodeWindow).length := by
    rw [length_append, Name.wire]
    unfold maximumNameOctets at fits
    omega
  rw [encodeNsec, validName_eq_true, encodeTypeBitmap_sorted sorted some]
  simp only [settled, publish, if_neg small, Option.isSome_some]

end Record

section Build

variable (origin : Name) (records : List ZoneRecord)

def appendUnique (names : List Name) (candidate : Name) : List Name :=
  if names.any (equalCaseInsensitive · candidate) then names else names ++ [candidate]

/-- The names whose data another zone has. -/
def delegationCuts : List Name :=
  records.foldl
    (fun cuts record =>
      if record.type == typeNs && !equalCaseInsensitive record.owner origin &&
          isSubdomain record.owner origin then
        appendUnique cuts record.owner
      else cuts) []

def belowCut (owner : Name) (cuts : List Name) : Bool :=
  cuts.any fun cut => !equalCaseInsensitive owner cut && isSubdomain owner cut

def atCut (owner : Name) (cuts : List Name) : Bool := cuts.any (equalCaseInsensitive · owner)

/-- Signatures and denials are not data of the unsigned zone. -/
def generated (type : BitVec 16) : Bool :=
  type == typeRrsig || type == typeNsec || type == typeNsec3

/-- The owner of a record is a name of the chain. -/
def authoritative (record : ZoneRecord) : Bool :=
  validName record.owner && isSubdomain record.owner origin &&
    !belowCut record.owner (delegationCuts origin records) && !generated record.type

def nsecOwners : List Name :=
  records.foldl
    (fun owners record =>
      if authoritative origin records record then appendUnique owners record.owner else owners) []

/-- The types the bitmap of an owner shows. At a cut the parent has only NS and DS. -/
def nsecTypes (owner : Name) : List (BitVec 16) :=
  let present := records.filter fun record =>
    equalCaseInsensitive record.owner owner && !generated record.type &&
      !(atCut owner (delegationCuts origin records) && record.type != typeNs &&
        record.type != typeDs)
  unique
    (sort (fun left right => decide (left < right)) (present.map (·.type) ++ [typeNsec, typeRrsig]))

def canonicalOwners : List Name :=
  sort (fun left right => canonicalNameCompare left right == .lt) (nsecOwners origin records)

/-- The record of an owner, with the next owner of the ring. -/
def nsecRecord (ttl : BitVec 32) (owner next : Name) : Option ZoneRecord :=
  (encodeNsec ⟨next, nsecTypes origin records owner⟩).map fun rdata =>
    { owner, type := typeNsec, ttl, rdata }

def buildNsecChain (denialTtl : BitVec 32) : Option (List ZoneRecord) :=
  if !validName origin || records.isEmpty then none
  else if !(nsecOwners origin records).any (equalCaseInsensitive · origin) then none
  else
    let owners := canonicalOwners origin records
    (List.range owners.length).mapM fun index =>
      nsecRecord origin records denialTtl (owners.getD index origin)
        (owners.getD ((index + 1) % owners.length) origin)

end Build

section Unique

variable {names : List Name} {candidate : Name} {key : List (List (BitVec 8))}

/-- No two of the names are equal. -/
def Distinct (names : List Name) : Prop := names.Pairwise fun left right => left.key ≠ right.key

theorem appendUnique_distinct (h : Distinct names) : Distinct (appendUnique names candidate) := by
  rw [appendUnique]
  split
  next => exact h
  rename_i new
  refine pairwise_append.mpr ⟨h, pairwise_singleton .., fun name mem other same => ?_⟩
  obtain rfl := mem_singleton.mp same
  intro eq
  exact new (any_eq_true.mpr ⟨name, mem, equal_iff.mpr eq⟩)

theorem mem_appendUnique :
    key ∈ (appendUnique names candidate).map (·.key) ↔
      key ∈ names.map (·.key) ∨ key = candidate.key := by
  rw [appendUnique]
  split
  next known =>
    obtain ⟨name, mem, same⟩ := any_eq_true.mp known
    constructor
    · exact .inl
    · rintro (known | rfl)
      · exact known
      · exact mem_map.mpr ⟨name, mem, equal_iff.mp same⟩
  next => simp

theorem foldl_appendUnique {α : Type} (p : α → Bool) (name : α → Name)
    (key : List (List (BitVec 8))) (l : List α) (h : Distinct names) :
    Distinct (l.foldl (fun names a => if p a then appendUnique names (name a) else names) names) ∧
      (key ∈ (l.foldl (fun names a => if p a then appendUnique names (name a) else names)
          names).map (·.key) ↔
        key ∈ names.map (·.key) ∨ ∃ a ∈ l, p a = true ∧ (name a).key = key) := by
  induction l generalizing names with
  | nil => simp [h]
  | cons a l ih =>
    rw [foldl_cons]
    split
    next holds =>
      obtain ⟨distinct, members⟩ := ih (appendUnique_distinct h)
      refine ⟨distinct, members.trans ?_⟩
      rw [mem_appendUnique]
      simp only [mem_cons]
      grind
    next fails =>
      obtain ⟨distinct, members⟩ := ih h
      refine ⟨distinct, members.trans ?_⟩
      simp [fails]

end Unique

section Chain

variable {origin : Name} {records : List ZoneRecord} {path : List (List (BitVec 8))}

theorem delegationCuts_iff :
    path ∈ (delegationCuts origin records).map (·.key) ↔
      ∃ record ∈ records, record.type = typeNs ∧ record.owner.key ≠ origin.key ∧
        origin.key <:+ record.owner.key ∧ record.owner.key = path := by
  have members := (foldl_appendUnique
    (fun record : ZoneRecord => record.type == typeNs &&
      !equalCaseInsensitive record.owner origin && isSubdomain record.owner origin)
    (·.owner) path records List.Pairwise.nil).2
  rw [delegationCuts, members]
  simp [equal_iff, isSubdomain_iff, ← Bool.not_eq_true, and_assoc]

/-- The name is a name of the chain. -/
def Chained (origin : Name) (records : List ZoneRecord) (path : List (List (BitVec 8))) : Prop :=
  ∃ record ∈ records, authoritative origin records record = true ∧ record.owner.key = path

theorem nsecOwners_spec (path : List (List (BitVec 8))) :
    Distinct (nsecOwners origin records) ∧
      (path ∈ (nsecOwners origin records).map (·.key) ↔ Chained origin records path) := by
  obtain ⟨distinct, members⟩ := foldl_appendUnique (authoritative origin records) (·.owner) path
    records List.Pairwise.nil
  refine ⟨distinct, members.trans ?_⟩
  simp [Chained]

theorem canonicalOwners_perm :
    (canonicalOwners origin records).Perm (nsecOwners origin records) := sort_perm

theorem canonicalOwners_sorted :
    ((canonicalOwners origin records).map Name.canonical).Pairwise fun left right =>
      canonicalCompare left right = .lt := by
  have less : (fun left right => canonicalNameCompare left right == .lt) =
      fun left right : Name => canonicalCompare left.canonical right.canonical == .lt := by
    funext left right
    rw [canonicalNameCompare_eq]
  have sorted : Sorting.Sorted
      (fun left right : Name => canonicalCompare left.canonical right.canonical == .lt)
      (canonicalOwners origin records) := by
    rw [canonicalOwners, less]
    exact sort_sorted (weak_of_compare canonicalCompare Name.canonical)
  apply sorted.strict
  have distinct : Distinct (nsecOwners origin records) := (nsecOwners_spec []).1
  apply (canonicalOwners_perm.pairwise_iff ?_).mpr
  · apply distinct.imp
    intro left right ne
    exact fun same => ne (canonical_inj.mp same)
  · exact fun ne same => ne same.symm

theorem mem_canonicalOwners :
    path.reverse ∈ (canonicalOwners origin records).map Name.canonical ↔
      Chained origin records path := by
  rw [← (nsecOwners_spec path).2]
  simp [Name.canonical, canonicalOwners_perm.mem_iff]

theorem uniqueTypes_sorted {types : List (BitVec 16)} :
    (unique (sort (fun left right => decide (left < right)) types)).Pairwise (· < ·) := by
  have weak : Sorting.Weak fun left right : BitVec 16 => decide (left < right) := by
    constructor
    · intro a b lt
      have lt : a < b := of_decide_eq_true lt
      exact decide_eq_false (BitVec.lt_asymm lt)
    · intro a b c ba cb
      have ab : a ≤ b := BitVec.not_lt.mp (of_decide_eq_false ba)
      have bc : b ≤ c := BitVec.not_lt.mp (of_decide_eq_false cb)
      exact decide_eq_false (BitVec.not_lt.mpr (BitVec.le_trans ab bc))
  have total : ∀ a b : BitVec 16, decide (a < b) = false → decide (b < a) = false → a = b := by
    intro a b ab ba
    have ba' : b ≤ a := BitVec.not_lt.mp (of_decide_eq_false ab)
    have ab' : a ≤ b := BitVec.not_lt.mp (of_decide_eq_false ba)
    exact BitVec.le_antisymm ab' ba'
  exact (unique_strict (sort_sorted weak) total).imp of_decide_eq_true

theorem nsecTypes_sorted {owner : Name} : (nsecTypes origin records owner).Pairwise (· < ·) :=
  uniqueTypes_sorted

theorem mem_nsecTypes {owner : Name} {type : BitVec 16} :
    type ∈ nsecTypes origin records owner ↔ type = typeNsec ∨ type = typeRrsig ∨
      ∃ record ∈ records, record.owner.key = owner.key ∧ record.type = type ∧
        generated type = false ∧
        (atCut owner (delegationCuts origin records) = true → type = typeNs ∨ type = typeDs) := by
  rw [nsecTypes, mem_unique, sort_perm.mem_iff]
  simp only [mem_append, mem_map, mem_filter, asserted, equal_iff, mem_cons, not_mem_nil, settled]
  constructor
  · rintro (⟨record, ⟨mem, ⟨same, plain⟩, shown⟩, rfl⟩ | nsec)
    · refine .inr (.inr ⟨record, mem, same, rfl, plain, fun cut => ?_⟩)
      simp only [cut, settled, refuted] at shown
      exact shown
    · grind
  · rintro (rfl | rfl | ⟨record, mem, same, rfl, plain, shown⟩)
    · exact .inr (.inl rfl)
    · exact .inr (.inr rfl)
    · refine .inl ⟨record, ⟨mem, ⟨same, plain⟩, ?_⟩, rfl⟩
      cases cut : atCut owner (delegationCuts origin records) with
      | false => rfl
      | true =>
        obtain type | type := shown cut
        · simp [type]
        · simp [type]

/-- Each record of the chain stands at its owner's place in the ring. -/
theorem mem_chain {ttl : BitVec 32} {chain : List ZoneRecord} {record : ZoneRecord}
    (h : buildNsecChain origin records ttl = some chain) (mem : record ∈ chain) :
    ∃ (index : Nat) (next : Name),
      (canonicalOwners origin records)[index]? = some record.owner ∧
      (canonicalOwners origin records)[(index + 1) % (canonicalOwners origin records).length]? =
        some next ∧
      encodeNsec ⟨next, nsecTypes origin records record.owner⟩ = some record.rdata := by
  simp only [buildNsecChain] at h
  split at h
  · cases h
  split at h
  · cases h
  obtain ⟨index, inside, made⟩ := Table.mem_of_mapM h mem
  have inside := mem_range.mp inside
  have wrap := Nat.mod_lt (index + 1) (Nat.lt_of_le_of_lt (Nat.zero_le _) inside)
  simp only [nsecRecord, getD_eq_getElem?_getD, List.getElem?_eq_getElem inside,
    List.getElem?_eq_getElem wrap, Option.map_eq_some_iff] at made
  obtain ⟨rdata, encoded, rfl⟩ := made
  exact ⟨index, _, List.getElem?_eq_getElem inside, List.getElem?_eq_getElem wrap, encoded⟩

end Chain

end RouterSim.Dns
