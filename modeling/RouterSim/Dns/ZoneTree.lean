import RouterSim.Dns.Zone

/-! The zone as a tree of names: which names exist, and that a name error is said of exactly
those the tree denies. -/
namespace RouterSim.Dns

open List

namespace Zone

/-- The records are those of a replacement that succeeded. -/
def Accepted (zone : Zone) : Prop :=
  ∃ (before : Zone) (records : List ZoneRecord), before.replace records = (true, zone)

/-- The names that own a record. -/
def owners (zone : Zone) : List (List (List (BitVec 8))) := zone.records.map (·.owner.key)

/-- The asterisk label. -/
def asterisk : List (BitVec 8) := [42#8]

/-- The zone delegates the path away. -/
def Cuts (zone : Zone) (path : List (List (BitVec 8))) : Prop :=
  ∃ record ∈ zone.records, record.type = typeNs ∧ record.owner.key ≠ zone.origin.key ∧
    record.owner.key <:+ path

/-- The name owns a record of the type. -/
def Owns (zone : Zone) (path : List (List (BitVec 8))) (type : BitVec 16) : Prop :=
  ∃ record ∈ zone.records, record.owner.key = path ∧ record.type = type

instance decidableCuts (zone : Zone) (path : List (List (BitVec 8))) : Decidable (zone.Cuts path) :=
  inferInstanceAs (Decidable (∃ record ∈ zone.records, record.type = typeNs ∧
    record.owner.key ≠ zone.origin.key ∧ record.owner.key <:+ path))

instance decidableOwns (zone : Zone) (path : List (List (BitVec 8))) (type : BitVec 16) :
    Decidable (zone.Owns path type) :=
  inferInstanceAs (Decidable (∃ record ∈ zone.records, record.owner.key = path ∧
    record.type = type))

/-- The tree says that the path does not exist and that nothing stands in for it. -/
structure Denied (zone : Zone) (path : List (List (BitVec 8))) : Prop where
  uncut : ¬ zone.Cuts path
  absent : ¬ Paths.Exist zone.owners path
  closest : ∀ c, Paths.Closest zone.owners path c →
    ¬ zone.Owns c typeDname ∧ asterisk :: c ∉ zone.owners

section Accepted

variable {zone : Zone}

theorem Accepted.accepts (h : zone.Accepted) : Zone.accepts zone.origin zone.records = true := by
  obtain ⟨before, records, done⟩ := h
  simp only [replace] at done
  split at done
  next ok =>
    obtain ⟨_, rfl⟩ := Prod.mk.inj done
    exact ok
  next => cases (Prod.mk.inj done).1

/-- Every record passed the checks, beside the records before it. -/
theorem admitsAll_mem {origin : Name} {previous records : List ZoneRecord}
    (h : admitsAll origin previous records = true) {record : ZoneRecord} (mem : record ∈ records) :
    ∃ earlier, admits origin earlier record = true := by
  induction records generalizing previous with
  | nil => cases mem
  | cons first rest ih =>
    simp only [admitsAll, asserted] at h
    obtain rfl | mem := mem_cons.mp mem
    · exact ⟨previous, h.1⟩
    · exact ih h.2 mem

theorem Accepted.inside (h : zone.Accepted) {record : ZoneRecord} (mem : record ∈ zone.records) :
    zone.origin.key <:+ record.owner.key := by
  have all := h.accepts
  simp only [Zone.accepts, asserted] at all
  obtain ⟨_, admitted⟩ := admitsAll_mem all.1.1.2 mem
  simp only [admits, asserted] at admitted
  exact isSubdomain_iff.mp admitted.1.1.1.2

theorem Accepted.apex (h : zone.Accepted) (type : BitVec 16)
    (kind : type = typeSoa ∨ type = typeNs) :
    ∃ record ∈ zone.records, record.owner.key = zone.origin.key ∧ record.type = type := by
  have all := h.accepts
  simp only [Zone.accepts, asserted] at all
  have positive : 0 < zone.records.countP (atApex zone.origin · type) := by
    obtain rfl | rfl := kind
    · omega
    · omega
  obtain ⟨record, mem, apex⟩ := countP_pos_iff.mp positive
  simp only [atApex, asserted, equal_iff] at apex
  exact ⟨record, mem, apex⟩

theorem Accepted.exist_origin (h : zone.Accepted) : Paths.Exist zone.owners zone.origin.key := by
  obtain ⟨record, mem, same, _⟩ := h.apex typeSoa (.inl rfl)
  exact ⟨record.owner.key, mem_map_of_mem mem, same ▸ suffix_refl _⟩

end Accepted

section Tree

variable {zone : Zone} {name closest : Name}

theorem delegates_iff {record : ZoneRecord} : zone.delegates name record = true ↔
    record.type = typeNs ∧ record.owner.key ≠ zone.origin.key ∧ record.owner.key <:+ name.key := by
  simp [delegates, isSubdomain_iff, ← equal_iff, and_assoc]

/-- The cut that is found delegates the name, and there is none only if nothing does. -/
theorem cut_cases (zone : Zone) (name : Name) :
    zone.cut name = none ∧ ¬ zone.Cuts name.key ∨
      ∃ cut ∈ zone.records, zone.cut name = some cut ∧ zone.delegates name cut = true := by
  have fold : ∀ (records : List ZoneRecord) (best : Option ZoneRecord),
      let final := records.foldl
        (fun best record =>
          if !zone.delegates name record then best
          else if best.all fun cut => decide (cut.owner.octets < record.owner.octets) then
            some record
          else best) best
      (final = none → best = none ∧ ∀ record ∈ records, ¬ zone.delegates name record = true) ∧
        ∀ cut, final = some cut → best = some cut ∨
          cut ∈ records ∧ zone.delegates name cut = true := by
    intro records
    induction records with
    | nil => exact fun best => ⟨fun none => ⟨none, nofun⟩, fun cut found => .inl found⟩
    | cons record rest ih =>
      intro best
      rw [foldl_cons]
      obtain ⟨empty, found⟩ := ih (if !zone.delegates name record then best
        else if best.all fun cut => decide (cut.owner.octets < record.owner.octets) then some record
        else best)
      by_cases delegated : zone.delegates name record = true
      · simp only [delegated, settled] at empty found ⊢
        constructor
        · intro none
          obtain ⟨nothing, _⟩ := empty none
          cases best with
          | none => simp at nothing
          | some cut =>
            split at nothing
            · cases nothing
            · cases nothing
        · intro cut last
          obtain early | ⟨mem, ok⟩ := found cut last
          · split at early
            · obtain rfl := Option.some.inj early
              exact .inr ⟨mem_cons_self, delegated⟩
            · exact .inl early
          · exact .inr ⟨mem_cons_of_mem _ mem, ok⟩
      · simp only [delegated] at empty found ⊢
        constructor
        · intro none
          obtain ⟨nothing, others⟩ := empty none
          refine ⟨nothing, fun other mem => ?_⟩
          obtain rfl | mem := mem_cons.mp mem
          · exact delegated
          · exact others other mem
        · intro cut last
          obtain early | ⟨mem, ok⟩ := found cut last
          · exact .inl early
          · exact .inr ⟨mem_cons_of_mem _ mem, ok⟩
  obtain ⟨empty, found⟩ := fold zone.records none
  cases last : zone.cut name with
  | none =>
    refine .inl ⟨rfl, ?_⟩
    rintro ⟨record, mem, delegated⟩
    exact (empty last).2 record mem (delegates_iff.mpr delegated)
  | some cut =>
    obtain early | ⟨mem, ok⟩ := found cut last
    · cases early
    · exact .inr ⟨cut, mem, rfl, ok⟩

theorem present_iff : zone.present name = true ↔ Paths.Exist zone.owners name.key := by
  simp only [present, any_eq_true, asserted, equal_iff, isSubdomain_iff, Paths.Exist, owners,
    mem_map]
  constructor
  · rintro ⟨record, mem, same | below⟩
    · exact ⟨_, ⟨record, mem, rfl⟩, same ▸ suffix_refl _⟩
    · exact ⟨_, ⟨record, mem, rfl⟩, below⟩
  · rintro ⟨_, ⟨record, mem, rfl⟩, below⟩
    exact ⟨record, mem, .inr below⟩

theorem owned_isEmpty : (zone.owned name).isEmpty = true ↔ name.key ∉ zone.owners := by
  simp [owned, owners, equal_iff]

/-- A name exists when it owns a record or has one below it. -/
theorem exist_iff : (!(zone.owned name).isEmpty || zone.emptyNonTerminal name) = true ↔
    Paths.Exist zone.owners name.key := by
  simp only [asserted, ← Bool.not_eq_true, owned_isEmpty, Decidable.not_not, emptyNonTerminal,
    any_eq_true, isSubdomain_iff, equal_iff]
  constructor
  · rintro (mem | ⟨record, mem, below, _⟩)
    · exact ⟨name.key, mem, suffix_refl _⟩
    · exact ⟨_, mem_map_of_mem mem, below⟩
  · rintro ⟨owner, mem, below⟩
    obtain ⟨record, hrecord, rfl⟩ := mem_map.mp mem
    by_cases same : record.owner.key = name.key
    · exact .inl (same ▸ mem)
    · exact .inr ⟨record, hrecord, below, same⟩

/-- The search from the name upwards finds the closest name that exists. -/
theorem closest_cases (zone : Zone) (name : Name) :
    zone.closest name = none ∧ (∀ other, other <:+ name.key → ¬ Paths.Exist zone.owners other) ∨
      ∃ closest, zone.closest name = some closest ∧
        Paths.Closest zone.owners name.key closest.key := by
  have lengths : name.key.length = name.labels.length := length_map ..
  have at_depth : ∀ other, other <:+ name.key →
      ∃ n, n < name.labels.length + 1 ∧ (name.suffix n).key = other := by
    intro other suffix
    refine ⟨name.key.length - other.length, by omega, ?_⟩
    rw [Name.key_suffix]
    exact (suffix_iff_eq_drop.mp suffix).symm
  have search : zone.closest name = ((List.range (name.labels.length + 1)).find?
      (zone.present ∘ name.suffix)).map name.suffix := by
    rw [closest, Name.suffixes, List.find?_map]
  cases found : (List.range (name.labels.length + 1)).find? (zone.present ∘ name.suffix) with
  | none =>
    rw [found] at search
    refine .inl ⟨search, fun other suffix exist => ?_⟩
    obtain ⟨n, lt, rfl⟩ := at_depth other suffix
    have absent := List.find?_range_eq_none.mp found n lt
    simp [present_iff.mpr exist] at absent
  | some n =>
    rw [found] at search
    obtain ⟨here, _, before⟩ := List.find?_range_eq_some.mp found
    refine .inr ⟨name.suffix n, search, ?_, present_iff.mp here, ?_⟩
    · rw [Name.key_suffix]
      exact drop_suffix n _
    · intro other suffix exist
      obtain ⟨m, _, rfl⟩ := at_depth other suffix
      have le : n ≤ m := by
        apply Nat.le_of_not_lt
        intro lt
        have absent := before m lt
        simp [present_iff.mpr exist] at absent
      rw [Name.key_suffix, Name.key_suffix]
      have more : name.key.drop m = (name.key.drop n).drop (m - n) := by
        rw [drop_drop]
        congr 1
        omega
      exact more ▸ drop_suffix _ _

theorem redirection_isSome (below : name.key ≠ closest.key) :
    (zone.redirection name closest).isSome = true ↔ zone.Owns closest.key typeDname := by
  simp only [redirection, List.find?_isSome, asserted, equal_iff, ← Bool.not_eq_true]
  constructor
  · rintro ⟨record, mem, ⟨type, same⟩, _⟩
    exact ⟨record, mem, same, type⟩
  · rintro ⟨record, mem, same, type⟩
    exact ⟨record, mem, ⟨type, same⟩, same ▸ below⟩

theorem wildcardName_key {wildcard : Name} (h : wildcardName closest = some wildcard) :
    wildcard.key = asterisk :: closest.key := by
  simp only [wildcardName, Name.ofLabels] at h
  split at h
  next =>
    obtain rfl := Option.some.inj h
    rfl
  next => cases h

theorem wildcardName_isSome (room : closest.octets + 2 ≤ maximumNameOctets) :
    ∃ wildcard, wildcardName closest = some wildcard := by
  refine ⟨_, dif_pos ⟨?_, ?_⟩⟩
  · intro label mem
    obtain rfl | mem := mem_cons.mp mem
    · decide
    · exact closest.sizes label mem
  · rw [length_encodeLabels_cons]
    simp only [Name.octets, Name.wire] at room
    simp only [length_cons, length_nil]
    omega

/-- A name strictly below another leaves room for the asterisk. -/
theorem octets_room {other : Name} (above : closest.key <:+ other.key)
    (ne : other.key ≠ closest.key) : closest.octets + 2 ≤ maximumNameOctets := by
  have fits := other.fits
  have total : other.octets ≤ maximumNameOctets := fits
  rw [Name.octets_key] at total ⊢
  have lt : closest.key.length < other.key.length := by
    apply Nat.lt_of_le_of_ne above.length_le
    exact fun eq => ne (above.eq_of_length eq).symm
  obtain ⟨label, next⟩ := Paths.exists_next above lt
  obtain ⟨front, whole⟩ := next
  have size := (other.key_sizes label (by rw [← whole]; simp)).1
  have long := encodeLabels_drop_length other.key front.length
  rw [← whole, drop_left, length_encodeLabels_cons] at long
  rw [← whole] at total
  omega

theorem synthesize_isSome {question : Question} (room : closest.octets + 2 ≤ maximumNameOctets) :
    (zone.synthesize question closest).isSome = true ↔ asterisk :: closest.key ∈ zone.owners := by
  obtain ⟨wildcard, found⟩ := wildcardName_isSome room
  have key := wildcardName_key found
  simp only [synthesize, found]
  split
  next empty =>
    simp only [Option.isSome_none, settled, false_iff, ← key]
    exact owned_isEmpty.mp empty
  next owned =>
    simp only [Option.isSome_some, true_iff, ← key]
    exact Decidable.not_not.mp fun absent => owned (owned_isEmpty.mpr absent)

theorem synthesize_rcode {question : Question} {given : AuthoritativeAnswer}
    (h : zone.synthesize question closest = some given) : given.rcode = .noError := by
  simp only [synthesize] at h
  split at h
  next => cases h
  split at h
  · cases h
  · obtain rfl := Option.some.inj h
    rfl

theorem redirect_rcode {dname : ZoneRecord} : (redirect name dname).rcode ≠ .nameError := by
  simp only [redirect]
  split <;> simp

end Tree

section NameError

variable {zone : Zone} {question : Question}

/-- Without a cut, a name error is said of the names that are absent with no DNAME above them
and no wildcard beside. -/
theorem resolve_nameError :
    (zone.resolve question).rcode = .nameError ↔
      ¬ Paths.Exist zone.owners question.name.key ∧
        ∀ c, Paths.Closest zone.owners question.name.key c →
          ¬ zone.Owns c typeDname ∧ asterisk :: c ∉ zone.owners := by
  by_cases exist : Paths.Exist zone.owners question.name.key
  · have here := exist_iff.mpr exist
    simp only [exist, resolve]
    split <;> simp
  · have owned : (zone.owned question.name).isEmpty = true :=
      owned_isEmpty.mpr fun mem => exist ⟨_, mem, suffix_refl _⟩
    have direct : zone.direct question = [] := by
      simp [Zone.direct, List.isEmpty_iff.mp owned]
    have gone : (!(zone.owned question.name).isEmpty ||
        zone.emptyNonTerminal question.name) = false := by
      rw [← Bool.not_eq_true]
      exact fun here => exist (exist_iff.mp here)
    simp only [resolve, direct, gone, exist, nonexistent]
    obtain ⟨none, nothing⟩ | ⟨closest, found, spec⟩ := closest_cases zone question.name
    · simp [none]
      intro c hc
      exact absurd hc.exist (nothing c hc.above)
    · have below : question.name.key ≠ closest.key := fun same => exist (same ▸ spec.exist)
      have room := octets_room spec.above below
      have only : (∀ c, Paths.Closest zone.owners question.name.key c →
          ¬ zone.Owns c typeDname ∧ asterisk :: c ∉ zone.owners) ↔
          ¬ zone.Owns closest.key typeDname ∧ asterisk :: closest.key ∉ zone.owners := by
        constructor
        · exact fun all => all _ spec
        · intro this c hc
          obtain rfl := hc.unique spec
          exact this
      rw [only, ← redirection_isSome below, ← synthesize_isSome room]
      simp only [found]
      cases zone.redirection question.name closest with
      | some dname => simp [redirect_rcode]
      | none =>
        cases given : zone.synthesize question closest with
        | none => simp
        | some answer => simp [synthesize_rcode given]

theorem resolve_of_owned {record : ZoneRecord} (mem : record ∈ zone.records)
    (owner : record.owner.key = question.name.key) :
    (zone.resolve question).rcode ≠ .nameError := by
  intro denied
  exact (resolve_nameError.mp denied).1
    ⟨record.owner.key, mem_map_of_mem mem, owner ▸ suffix_refl _⟩

/-- The server says name error of exactly the names the tree denies, whatever the type. -/
theorem answer_nameError (inside : zone.origin.key <:+ question.name.key)
    (internet : question.recordClass = internetClass) :
    (zone.answer question).rcode = .nameError ↔ zone.Denied question.name.key := by
  have subdomain : isSubdomain question.name zone.origin = true := isSubdomain_iff.mpr inside
  have asked : ¬ (question.recordClass ≠ internetClass ∨
      (!isSubdomain question.name zone.origin) = true) := by simp [internet, subdomain]
  rw [answer, if_neg asked]
  obtain ⟨none, uncut⟩ | ⟨cut, mem, found, delegated⟩ := cut_cases zone question.name
  · simp [none, resolve_nameError]
    constructor
    · exact fun ⟨absent, closest⟩ => ⟨uncut, absent, closest⟩
    · exact fun denied => ⟨denied.absent, denied.closest⟩
  · simp only [found]
    have cuts : zone.Cuts question.name.key := ⟨cut, mem, delegates_iff.mp delegated⟩
    have refused : ¬ zone.Denied question.name.key := fun denied => denied.uncut cuts
    simp only [refused, iff_false]
    split
    next parent => exact resolve_of_owned mem (equal_iff.mp parent.2).symm
    next => simp [referralTo]

end NameError

end Zone

end RouterSim.Dns
