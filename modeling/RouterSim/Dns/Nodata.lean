import RouterSim.Dns.Existence

/-! When the zone has no data of a type for a name, as the tree of names says it and as the
server answers. -/
namespace RouterSim.Dns

open List

/-- An authoritative answer with nothing in it. -/
def AuthoritativeAnswer.Nodata (answer : AuthoritativeAnswer) : Prop :=
  answer.rcode = .noError ∧ answer.authoritative = true ∧ answer.referral = false ∧
    answer.answers = []

instance (answer : AuthoritativeAnswer) : Decidable answer.Nodata :=
  inferInstanceAs (Decidable (_ ∧ _ ∧ _ ∧ _))

namespace Zone

/-- The name owns something that answers the type. -/
def Answers (zone : Zone) (path : List (List (BitVec 8))) (type : BitVec 16) : Prop :=
  zone.Owns path type ∨ zone.Owns path typeCname ∨ type = typeAny ∧ path ∈ zone.owners

/-- The zone has the name, of itself or by a wildcard, without anything that answers the type. -/
structure Lacking (zone : Zone) (path : List (List (BitVec 8))) (type : BitVec 16) : Prop where
  uncut : ¬ zone.Cuts path
  here : Paths.Exist zone.owners path → ¬ zone.Answers path type
  wildcard : ¬ Paths.Exist zone.owners path → ∀ c, Paths.Closest zone.owners path c →
    ¬ zone.Owns c typeDname ∧ asterisk :: c ∈ zone.owners ∧ ¬ zone.Answers (asterisk :: c) type

section Nodata

variable {zone : Zone} {name : Name} {type : BitVec 16} {closest : Name}

theorem mem_owned {record : ZoneRecord} :
    record ∈ zone.owned name ↔ record ∈ zone.records ∧ record.owner.key = name.key := by
  simp [owned, equal_iff]

theorem direct_eq_nil : zone.direct (query name type) = [] ↔ ¬ zone.Answers name.key type := by
  have matching : (zone.owned name).filter
      (fun record => type == typeAny || record.type == type) = [] ↔
      ¬ (zone.Owns name.key type ∨ type = typeAny ∧ name.key ∈ zone.owners) := by
    rw [filter_eq_nil_iff]
    constructor
    · rintro none (⟨record, mem, same, kind⟩ | ⟨any, owner⟩)
      · exact none record (mem_owned.mpr ⟨mem, same⟩) (by simp [kind])
      · obtain ⟨record, mem, same⟩ := mem_map.mp owner
        exact none record (mem_owned.mpr ⟨mem, same⟩) (by simp [any])
    · intro none record mem holds
      obtain ⟨mem, same⟩ := mem_owned.mp mem
      simp only [asserted] at holds
      obtain any | kind := holds
      · exact none (.inr ⟨any, mem_map.mpr ⟨record, mem, same⟩⟩)
      · exact none (.inl ⟨record, mem, same, kind⟩)
  have aliased : (zone.owned name).filter (fun record => record.type == typeCname) = [] ↔
      ¬ zone.Owns name.key typeCname := by
    simp [mem_owned, Owns]
  have unfolded : zone.direct (query name type) =
      if (((zone.owned name).filter
          (fun record => type == typeAny || record.type == type)).isEmpty &&
          type != typeCname) = true then
        (zone.owned name).filter (fun record => record.type == typeCname)
      else (zone.owned name).filter (fun record => type == typeAny || record.type == type) := rfl
  rw [unfolded, Answers]
  by_cases empty : (zone.owned name).filter
      (fun record => type == typeAny || record.type == type) = []
  · have none := matching.mp empty
    by_cases cname : type = typeCname
    · have ask : (type != typeCname) = false := by simp [cname]
      rw [ask, Bool.and_false, if_neg Bool.false_ne_true, matching]
      grind
    · have ask : (type != typeCname) = true := by simp [cname]
      rw [empty, ask, isEmpty_nil, Bool.and_self, if_pos rfl, aliased]
      grind
  · have some : ((zone.owned name).filter
        (fun record => type == typeAny || record.type == type)).isEmpty = false := by
      simpa using empty
    rw [some, Bool.false_and, if_neg Bool.false_ne_true, matching]
    grind

/-- A wildcard that owns something gives no data where none of it answers the type. -/
theorem synthesize_nodata (owned : asterisk :: closest.key ∈ zone.owners)
    (room : closest.octets + 2 ≤ maximumNameOctets) :
    ∃ given, zone.synthesize (query name type) closest = some given ∧
      (given.Nodata ↔ ¬ zone.Answers (asterisk :: closest.key) type) := by
  obtain ⟨wildcard, found⟩ := wildcardName_isSome room
  have key := wildcardName_key found
  have some : (zone.owned wildcard).isEmpty = false := by
    rw [← Bool.not_eq_true, owned_isEmpty, key]
    exact not_not_intro owned
  simp only [synthesize, found, some]
  refine ⟨_, rfl, ?_⟩
  simp only [AuthoritativeAnswer.Nodata, true_and, map_eq_nil_iff, filter_eq_nil_iff]
  constructor
  · rintro none (⟨record, mem, same, kind⟩ | ⟨record, mem, same, kind⟩ | ⟨any, owner⟩)
    · exact none record (mem_owned.mpr ⟨mem, key ▸ same⟩) (by simp [query, kind])
    · exact none record (mem_owned.mpr ⟨mem, key ▸ same⟩) (by
        by_cases cname : type = typeCname <;> simp [query, kind, cname])
    · obtain ⟨record, mem, same⟩ := mem_map.mp owner
      exact none record (mem_owned.mpr ⟨mem, key ▸ same⟩) (by simp [query, any])
  · intro none record mem holds
    obtain ⟨mem, same⟩ := mem_owned.mp mem
    rw [key] at same
    simp only [asserted] at holds
    obtain (any | kind) | ⟨kind, _⟩ := holds
    · exact none (.inr (.inr ⟨any, mem_map.mpr ⟨record, mem, same⟩⟩))
    · exact none (.inl ⟨record, mem, same, kind⟩)
    · exact none (.inr (.inl ⟨record, mem, same, kind⟩))

theorem redirect_nodata {dname : ZoneRecord} : ¬ (redirect name dname).Nodata := by
  simp only [redirect]
  split <;> simp [AuthoritativeAnswer.Nodata]

/-- Without a cut, no data is said of the names that exist without the type and of those a
wildcard stands for without it. -/
theorem resolve_nodata (accepted : zone.Accepted) (inside : zone.origin.key <:+ name.key) :
    (zone.resolve (query name type)).Nodata ↔
      (Paths.Exist zone.owners name.key → ¬ zone.Answers name.key type) ∧
      (¬ Paths.Exist zone.owners name.key → ∀ c, Paths.Closest zone.owners name.key c →
        ¬ zone.Owns c typeDname ∧ asterisk :: c ∈ zone.owners ∧
          ¬ zone.Answers (asterisk :: c) type) := by
  by_cases exist : Paths.Exist zone.owners name.key
  · have here : (!(zone.owned (query name type).name).isEmpty ||
        zone.emptyNonTerminal (query name type).name) = true := exist_iff.mpr exist
    simp only [exist, ← direct_eq_nil]
    rw [resolve]
    cases direct : zone.direct (query name type) with
    | nil =>
      rw [isEmpty_nil, Bool.not_true, if_neg Bool.false_ne_true, if_pos here]
      simp [AuthoritativeAnswer.Nodata]
    | cons record rest => simp [AuthoritativeAnswer.Nodata]
  · have gone : (!(zone.owned (query name type).name).isEmpty ||
        zone.emptyNonTerminal (query name type).name) = false := by
      rw [← Bool.not_eq_true]
      exact fun here => exist (exist_iff.mp here)
    have direct : zone.direct (query name type) = [] := by
      rw [direct_eq_nil]
      rintro (⟨record, mem, owner, _⟩ | ⟨record, mem, owner, _⟩ | ⟨_, owner⟩)
      · exact exist ⟨_, mem_map_of_mem mem, owner ▸ suffix_refl _⟩
      · exact exist ⟨_, mem_map_of_mem mem, owner ▸ suffix_refl _⟩
      · exact exist ⟨_, owner, suffix_refl _⟩
    rw [resolve, direct, isEmpty_nil, Bool.not_true, if_neg Bool.false_ne_true, gone,
      if_neg Bool.false_ne_true]
    simp only [exist, nonexistent]
    obtain ⟨_, nothing⟩ | ⟨closest, found, spec⟩ := closest_cases zone name
    · exact absurd accepted.exist_origin (nothing _ inside)
    · have found : zone.closest (query name type).name = some closest := found
      have below : name.key ≠ closest.key := fun same => exist (same ▸ spec.exist)
      have room := octets_room spec.above below
      have only : (∀ c, Paths.Closest zone.owners name.key c → ¬ zone.Owns c typeDname ∧
          asterisk :: c ∈ zone.owners ∧ ¬ zone.Answers (asterisk :: c) type) ↔
          ¬ zone.Owns closest.key typeDname ∧ asterisk :: closest.key ∈ zone.owners ∧
            ¬ zone.Answers (asterisk :: closest.key) type := by
        constructor
        · exact fun all => all _ spec
        · intro this c hc
          obtain rfl := hc.unique spec
          exact this
      rw [only, ← redirection_isSome below]
      simp only [found]
      have same : zone.redirection (query name type).name closest = zone.redirection name closest :=
        rfl
      rw [same]
      cases zone.redirection name closest with
      | some dname => simpa using redirect_nodata
      | none =>
        by_cases owned : asterisk :: closest.key ∈ zone.owners
        · obtain ⟨given, made, nodata⟩ :
              ∃ given, zone.synthesize (query name type) closest = some given ∧
                (given.Nodata ↔ ¬ zone.Answers (asterisk :: closest.key) type) :=
            synthesize_nodata owned room
          simp [made, nodata, owned]
        · have none : zone.synthesize (query name type) closest = none := by
            rw [← Option.not_isSome_iff_eq_none, synthesize_isSome room]
            exact owned
          simp [none, owned, AuthoritativeAnswer.Nodata]

/-- The server answers with no data exactly where the tree lacks the type. -/
theorem answer_nodata (accepted : zone.Accepted) (inside : zone.origin.key <:+ name.key)
    (other : type ≠ typeDs) :
    (zone.answer (query name type)).Nodata ↔ zone.Lacking name.key type := by
  have subdomain : isSubdomain name zone.origin = true := isSubdomain_iff.mpr inside
  have asked : ¬ ((query name type).recordClass ≠ internetClass ∨
      (!isSubdomain (query name type).name zone.origin) = true) := by simp [query, subdomain]
  rw [answer, if_neg asked]
  obtain ⟨missing, uncut⟩ | ⟨cut, mem, found, delegated⟩ := cut_cases zone name
  · have missing : zone.cut (query name type).name = none := missing
    simp only [missing, resolve_nodata accepted inside]
    constructor
    · intro both
      exact ⟨uncut, both.1, both.2⟩
    · intro lacking
      exact ⟨lacking.here, lacking.wildcard⟩
  · have found : zone.cut (query name type).name = some cut := found
    have cuts : zone.Cuts name.key := ⟨cut, mem, delegates_iff.mp delegated⟩
    have child : ¬ ((query name type).type = typeDs ∧
        equalCaseInsensitive (query name type).name cut.owner = true) := fun ds => other ds.1
    simp only [found, child]
    constructor
    · intro nodata
      simp [referralTo, AuthoritativeAnswer.Nodata] at nodata
    · intro lacking
      exact absurd cuts lacking.uncut

end Nodata

end Zone

end RouterSim.Dns
