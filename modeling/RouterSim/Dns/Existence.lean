import RouterSim.Dns.ZoneTree

/-! Which names a zone says do not exist. A denial covers everything below the denied name;
it is the one the tree calls for except where the wildcard is an empty non-terminal. -/
namespace RouterSim.Dns

/-- A question of the internet class. -/
def query (name : Name) (type : BitVec 16) : Question where
  name
  type
  recordClass := internetClass

namespace Zone

variable {zone : Zone} {name below : Name}

/-- Nothing below a denied name escapes the denial: no cut, no owner, no closer encloser. -/
theorem Denied.descendant (h : zone.Denied name.key) (descends : name.key <:+ below.key)
    (encloser : ∃ c, Paths.Closest zone.owners name.key c) : zone.Denied below.key where
  uncut := by
    rintro ⟨record, mem, server, apex, above⟩
    obtain within | beyond := List.suffix_or_suffix_of_suffix above descends
    · exact h.uncut ⟨record, mem, server, apex, within⟩
    · exact h.absent ⟨_, List.mem_map_of_mem mem, beyond⟩
  absent := fun exist => h.absent (exist.above descends)
  closest := by
    intro c hc
    obtain ⟨d, hd⟩ := encloser
    obtain rfl := hc.unique (hd.below h.absent descends)
    exact h.closest c hd

theorem Accepted.encloser (accepted : zone.Accepted) (inside : zone.origin.key <:+ name.key) :
    ∃ c, Paths.Closest zone.owners name.key c := by
  obtain ⟨_, nothing⟩ | ⟨closest, _, spec⟩ := closest_cases zone name
  · exact absurd accepted.exist_origin (nothing _ inside)
  · exact ⟨_, spec⟩

theorem inside_of_nameError {type : BitVec 16}
    (denied : (zone.answer (query name type)).rcode = .nameError) :
    zone.origin.key <:+ name.key := by
  rw [← isSubdomain_iff]
  refine Decidable.byContradiction fun outside => ?_
  have refused : (query name type).recordClass ≠ internetClass ∨
      (!isSubdomain (query name type).name zone.origin) = true := by
    exact .inr (by simp [query, outside])
  rw [answer, if_pos refused] at denied
  cases denied

/-- A name error for a name holds of every name below it, for every type. -/
theorem name_error_covers_descendants (accepted : zone.Accepted) {type : BitVec 16}
    (denied : (zone.answer (query name type)).rcode = .nameError)
    (descends : isSubdomain below name = true) (other : BitVec 16) :
    (zone.answer (query below other)).rcode = .nameError := by
  have inside := inside_of_nameError denied
  have descends := isSubdomain_iff.mp descends
  rw [answer_nameError inside rfl] at denied
  rw [answer_nameError (inside.trans descends) rfl]
  exact denied.descendant descends (accepted.encloser inside)

/-- The rule for a name error at a name with no cut at or above it: nothing is owned at or
below the name, and its closest encloser owns no DNAME and has no wildcard, with or without
records, under it. -/
def Rule (zone : Zone) (name : Name) : Prop :=
  ¬ Paths.Exist zone.owners name.key ∧ ∀ c, Paths.Closest zone.owners name.key c →
    ¬ zone.Owns c typeDname ∧ ¬ Paths.Exist zone.owners (asterisk :: c)

/-- The wildcard under the closest encloser owns nothing but has owners below it. -/
def HiddenWildcard (zone : Zone) (name : Name) : Prop :=
  ¬ Paths.Exist zone.owners name.key ∧ ∃ c, Paths.Closest zone.owners name.key c ∧
    ¬ zone.Owns c typeDname ∧ asterisk :: c ∉ zone.owners ∧ Paths.Exist zone.owners (asterisk :: c)

/-- The server follows the rule exactly where no hidden wildcard is in the way. -/
theorem name_error_rule_iff (accepted : zone.Accepted)
    (inside : isSubdomain name zone.origin = true) (uncut : ¬ zone.Cuts name.key)
    (type : BitVec 16) :
    (((zone.answer (query name type)).rcode = .nameError ↔ zone.Rule name) ↔
      ¬ zone.HiddenWildcard name) := by
  have inside := isSubdomain_iff.mp inside
  obtain ⟨c, hc⟩ := accepted.encloser inside
  have error : (zone.answer (query name type)).rcode = .nameError ↔ zone.Denied name.key :=
    answer_nameError inside rfl
  have denied : zone.Denied name.key ↔ ¬ Paths.Exist zone.owners name.key ∧
      ¬ zone.Owns c typeDname ∧ asterisk :: c ∉ zone.owners := by
    constructor
    · exact fun d => ⟨d.absent, d.closest c hc⟩
    · rintro ⟨absent, this⟩
      refine ⟨uncut, absent, fun d hd => ?_⟩
      obtain rfl := hd.unique hc
      exact this
  have rule : zone.Rule name ↔ ¬ Paths.Exist zone.owners name.key ∧
      ¬ zone.Owns c typeDname ∧ ¬ Paths.Exist zone.owners (asterisk :: c) := by
    constructor
    · exact fun r => ⟨r.1, r.2 c hc⟩
    · rintro ⟨absent, this⟩
      refine ⟨absent, fun d hd => ?_⟩
      obtain rfl := hd.unique hc
      exact this
  have hidden : zone.HiddenWildcard name ↔ ¬ Paths.Exist zone.owners name.key ∧
      ¬ zone.Owns c typeDname ∧ asterisk :: c ∉ zone.owners ∧
      Paths.Exist zone.owners (asterisk :: c) := by
    constructor
    · rintro ⟨absent, d, hd, this⟩
      obtain rfl := hd.unique hc
      exact ⟨absent, this⟩
    · exact fun ⟨absent, this⟩ => ⟨absent, c, hc, this⟩
  have owned : asterisk :: c ∈ zone.owners → Paths.Exist zone.owners (asterisk :: c) :=
    fun mem => ⟨_, mem, List.suffix_refl _⟩
  rw [error, denied, rule, hidden]
  grind

section Samples

/-- The zone `e` with its SOA and NS records and the records given. -/
def sampleOrigin : Name := ⟨[[101#8]], by decide, by decide⟩

def sampleName (labels : List (List (BitVec 8))) : Name :=
  (Name.ofLabels (labels ++ sampleOrigin.labels)).getD sampleOrigin

def sampleZone (more : List ZoneRecord) : Zone where
  origin := sampleOrigin
  records :=
    { owner := sampleOrigin, type := typeSoa, ttl := 0#32, rdata := List.replicate 22 0#8 } ::
    { owner := sampleOrigin, type := typeNs, ttl := 0#32, rdata := [0#8] } :: more

def sampleText (labels : List (List (BitVec 8))) : ZoneRecord where
  owner := sampleName labels
  type := typeTxt
  ttl := 0#32
  rdata := [0#8]

theorem sampleZone_accepted {more : List ZoneRecord}
    (h : accepts sampleOrigin (sampleZone more).records = true) : (sampleZone more).Accepted :=
  ⟨{ origin := sampleOrigin }, (sampleZone more).records, if_pos h⟩

/-- Nothing is at or below `b.e` in the plain zone. -/
theorem plain_name_error_covers :
    ((sampleZone []).answer (query (sampleName [[99#8], [98#8]]) typeA)).rcode = .nameError :=
  name_error_covers_descendants (sampleZone_accepted (by decide +kernel))
    (by decide +kernel : ((sampleZone []).answer (query (sampleName [[98#8]]) typeTxt)).rcode =
      .nameError) (by decide +kernel) typeA

theorem plain_zone_follows_rule :
    ¬ (sampleZone []).Cuts (sampleName [[98#8]]).key ∧
      ((((sampleZone []).answer (query (sampleName [[98#8]]) typeA)).rcode = .nameError ↔
        (sampleZone []).Rule (sampleName [[98#8]])) ↔
        ¬ (sampleZone []).HiddenWildcard (sampleName [[98#8]])) :=
  ⟨by decide +kernel, name_error_rule_iff (sampleZone_accepted (by decide +kernel))
    (by decide +kernel) (by decide +kernel) typeA⟩

/-- Only `a.*.e` is owned under the wildcard of `e`. The server denies `b.e`. -/
theorem hidden_wildcard_denied :
    let zone := sampleZone [sampleText [[97#8], asterisk]]
    let name := sampleName [[98#8]]
    zone.Accepted ∧ isSubdomain name zone.origin = true ∧ ¬ zone.Cuts name.key ∧
      ¬ ((zone.answer (query name typeA)).rcode = .nameError ↔ zone.Rule name) := by
  have error : ((sampleZone [sampleText [[97#8], asterisk]]).answer
      (query (sampleName [[98#8]]) typeA)).rcode = .nameError := by decide +kernel
  have encloser : Paths.Closest (sampleZone [sampleText [[97#8], asterisk]]).owners
      (sampleName [[98#8]]).key sampleOrigin.key := by
    obtain ⟨none, _⟩ | ⟨closest, found, spec⟩ :=
      closest_cases (sampleZone [sampleText [[97#8], asterisk]]) (sampleName [[98#8]])
    · exact absurd none (by decide +kernel)
    · have origin : (sampleZone [sampleText [[97#8], asterisk]]).closest (sampleName [[98#8]]) =
          some sampleOrigin := by decide +kernel
      obtain rfl := Option.some.inj (found.symm.trans origin)
      exact spec
  refine ⟨sampleZone_accepted (by decide +kernel), by decide +kernel, by decide +kernel, ?_⟩
  intro agrees
  exact ((agrees.mp error).2 _ encloser).2 (by decide +kernel)

end Samples

end Zone

end RouterSim.Dns
