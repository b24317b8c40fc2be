import RouterSim.Mld.Record

/-! What every operation of an interface keeps, and the one that may break it: a record that allows
new sources beside one whose timer is due and was not polled. -/
namespace RouterSim.Mld

open Ip (Ipv6)
open List Table

/-- A group whose state can be read, and that includes no idle source. -/
def GroupValid (group : Group) : Prop := GroupWell group ∧ AllRunning group

/-- The groups of an interface. -/
structure GroupsValid (groups : List Group) : Prop where
  distinct : (groups.map Group.multicastAddress).Nodup
  each : ∀ group ∈ groups, GroupValid group

/-- What an interface keeps to, whenever it is polled. -/
structure Valid (r : MldRouterInterface) : Prop where
  groups : GroupsValid r.groups
  configured : r.configuration.enabled = true → validConfiguration r.configuration = true

section Configurations

variable {configuration : Configuration}

theorem validConfiguration_robust (valid : validConfiguration configuration = true) :
    configuration.robustnessVariable ≠ 0#8 := by
  simp only [validConfiguration] at valid
  rintro none
  simp [none] at valid

/-- The intervals of a valid configuration are not empty. -/
theorem validConfiguration_intervals (valid : validConfiguration configuration = true) :
    0 < configuration.multicastAddressListeningInterval ∧
      0 < configuration.lastListenerQueryTime := by
  simp only [validConfiguration, asserted, BitVec.le_def] at valid
  have two : (2#8).toNat = 2 := rfl
  have first : 0 < configuration.queryIntervalSeconds * configuration.robustnessVariable.toNat :=
    Int.mul_pos (by omega) (by omega)
  have second : 0 < configuration.lastListenerQueryIntervalMilliseconds *
      configuration.robustnessVariable.toNat := Int.mul_pos (by omega) (by omega)
  unfold Configuration.multicastAddressListeningInterval Configuration.lastListenerQueryTime
    seconds milliseconds
  omega

end Configurations

section Groups

variable {groups : List Group} {group : Group} {now : Int}

theorem groupValid_new (address : Ipv6) : GroupValid { multicastAddress := address } where
  left :=
    { distinct := .nil, pending := pendingWell_pair.mpr ⟨fun _ => rfl, fun _ => rfl, nofun⟩,
      filtered := nofun }
  right := by simp [AllRunning]

theorem GroupsValid.map (valid : GroupsValid groups) {f : Group → Group}
    (keeps : ∀ group, (f group).multicastAddress = group.multicastAddress)
    (each : ∀ group, GroupValid group → GroupValid (f group)) : GroupsValid (groups.map f) where
  distinct := by
    simpa [Function.comp_def, keeps] using valid.distinct
  each := by
    intro group mem
    obtain ⟨old, there, rfl⟩ := mem_map.mp mem
    exact each old (valid.each old there)

theorem GroupsValid.filter (valid : GroupsValid groups) (p : Group → Bool) :
    GroupsValid (groups.filter p) where
  distinct := (filter_sublist.map Group.multicastAddress).nodup valid.distinct
  each group mem := valid.each group (mem_filter.mp mem).1

theorem GroupsValid.update (valid : GroupsValid groups) {f : Group → Group} {address : Ipv6}
    (keeps : ∀ group, group.multicastAddress = address → (f group).multicastAddress = address)
    (each : ∀ group ∈ groups, group.multicastAddress = address → GroupValid (f group)) :
    GroupsValid (update Group.multicastAddress address f groups) where
  distinct := by
    rw [keys_update keeps]
    exact valid.distinct
  each := by
    intro group mem
    obtain mem | ⟨old, there, same, rfl⟩ := mem_update mem
    · exact valid.each group mem
    · exact each old there same

theorem expireFilter_valid (valid : GroupValid group) : GroupValid (expireFilter now group) := by
  obtain ⟨well, running⟩ := valid
  have keys : ((group.sources.map (Source.expire now)).map Source.address) =
      group.sources.map Source.address := by simp [map_map, Function.comp_def]
  unfold expireFilter
  cases mode : group.mode with
  | includeMode =>
    refine ⟨⟨(filter_sublist.map _).nodup well.distinct, well.pending, nofun⟩, ?_⟩
    exact fun _ source mem => running mode source (mem_filter.mp mem).1
  | excludeMode =>
    simp only
    split
    · refine ⟨⟨?_, well.pending, nofun⟩, fun _ source mem => (mem_filter.mp mem).2⟩
      exact (filter_sublist.map _).nodup (keys ▸ well.distinct)
    · exact ⟨⟨keys ▸ well.distinct, well.pending, fun _ => well.filtered mode⟩, nofun⟩

theorem expireGroup_valid (valid : GroupValid group) : GroupValid (expireGroup now group) := by
  apply expireFilter_valid
  unfold expireOlderHost
  split
  · exact ⟨⟨valid.1.distinct, valid.1.pending, valid.1.filtered⟩, valid.2⟩
  · exact valid

@[simp] theorem expireGroup_multicastAddress :
    (expireGroup now group).multicastAddress = group.multicastAddress := by
  unfold expireGroup expireFilter expireOlderHost
  grind

theorem lowerFilter_valid (valid : GroupValid group) (deadline : Int) :
    GroupValid (group.lowerFilter deadline) := by
  unfold Group.lowerFilter
  split
  · exact ⟨⟨valid.1.distinct, valid.1.pending, valid.1.filtered⟩, valid.2⟩
  · exact valid

theorem lowerSources_valid (valid : GroupValid group) (queried : List Ipv6) (deadline : Int) :
    GroupValid { group with sources := group.sources.map (Source.lower queried deadline) } where
  left :=
    { distinct := by
        simpa [Function.comp_def] using valid.1.distinct
      pending := valid.1.pending
      filtered := valid.1.filtered }
  right := by
    intro including source mem
    obtain ⟨old, there, rfl⟩ := mem_map.mp mem
    rw [(Source.lower_keeps deadline old).2]
    exact valid.2 including old there

theorem scheduleQuery_valid {configuration : Configuration} (valid : GroupValid group)
    (robust : configuration.robustnessVariable ≠ 0#8) (querier kind : Bool) (sources : List Ipv6) :
    GroupValid (scheduleQuery configuration querier group kind sources now) :=
  ⟨scheduleQuery_well valid.1 robust querier kind sources _,
    (scheduleQuery_running kind sources).mpr valid.2⟩

end Groups

section Records

variable {configuration : Configuration} {querier : Bool} {type : RecordType}
  {incoming : List Ipv6} {now : Int} {group : Group}

/-- A group with an older host is not asked about, and its sources are not blocked. -/
theorem transition_cases (configuration : Configuration) (querier : Bool) (type : RecordType)
    (incoming : List Ipv6) (now : Int) (group : Group) :
    let next := changed configuration type incoming now group
    transition configuration querier type incoming now group = group ∨
      transition configuration querier type incoming now group = next ∨
        transition configuration querier type incoming now group =
          askGroup configuration querier type incoming now group next := by
  cases asking : asks type with
  | false => exact .inr (.inl (transition_plain asking))
  | true =>
    cases older : group.olderHostPresent with
    | false => exact .inr (.inr (transition_asks asking older))
    | true =>
      cases type with
      | modeIsInclude | modeIsExclude | allowNewSources => cases asking
      | blockOldSources => exact .inl (by simp [transition, older])
      | changeToExclude | changeToInclude =>
        exact .inr (.inl (by simp [transition, changed, older]))

theorem changed_running (running : AllRunning group)
    (timely : type = .allowNewSources → group.mode = .includeMode →
      Timely type incoming now group) :
    AllRunning (changed configuration type incoming now group) := by
  cases mode : group.mode with
  | includeMode =>
    cases type with
    | modeIsInclude | changeToInclude | modeIsExclude | changeToExclude =>
      exact timely_running (by simp [Timely, mode])
    | allowNewSources => exact timely_running (timely rfl mode)
    | blockOldSources => simpa [changed, mode] using running
  | excludeMode =>
    intro including
    cases type <;> simp [changed, isInclude, isExclude, mode] at including

theorem transition_valid (valid : GroupValid group)
    (robust : configuration.robustnessVariable ≠ 0#8)
    (timely : type = .allowNewSources → group.mode = .includeMode →
      Timely type incoming now group) :
    GroupValid (transition configuration querier type incoming now group) := by
  have next : GroupValid (changed configuration type incoming now group) :=
    ⟨changed_well _ _ _ _ valid.1, changed_running valid.2 timely⟩
  obtain same | same | same := transition_cases configuration querier type incoming now group <;>
    rw [same]
  · exact valid
  · exact next
  · obtain ⟨well, running⟩ := askGroup_keeps querier type incoming now group next.1 robust
    exact ⟨well, running.mpr next.2⟩

end Records

namespace MldRouterInterface

variable {r : MldRouterInterface} {now : Int}

theorem ensure_spec {address : Ipv6} {group : Group} {groups : List Group}
    (found : r.ensure address = some (group, groups)) :
    Table.lookup Group.multicastAddress address groups = some group ∧
      group = (r.find address).getD { multicastAddress := address } ∧
        (groups = r.groups ∨
          r.find address = none ∧ groups = r.groups ++ [{ multicastAddress := address }]) := by
  unfold ensure at found
  cases known : r.find address with
  | some entry =>
    simp only [known] at found
    obtain ⟨rfl, rfl⟩ := found
    exact ⟨known, rfl, .inl rfl⟩
  | none =>
    simp only [known] at found
    split at found
    · cases found
    obtain ⟨rfl, rfl⟩ := found
    refine ⟨?_, rfl, .inr ⟨rfl, rfl⟩⟩
    have absent : Table.lookup Group.multicastAddress address r.groups = none := known
    simp [Table.lookup_append, absent, Table.lookup_cons]

theorem ensure_valid (valid : GroupsValid r.groups) {address : Ipv6} {group : Group}
    {groups : List Group} (found : r.ensure address = some (group, groups)) :
    GroupsValid groups ∧ group.multicastAddress = address ∧ GroupValid group := by
  obtain ⟨there, -, rest⟩ := ensure_spec found
  have all : GroupsValid groups := by
    obtain rfl | ⟨absent, rfl⟩ := rest
    · exact valid
    · refine ⟨?_, ?_⟩
      · have fresh := lookup_none.mp absent
        rw [map_append, nodup_append]
        refine ⟨valid.distinct, by simp, ?_⟩
        rintro a mem b last rfl
        simp only [map_cons, map_nil, mem_singleton] at last
        exact fresh (last ▸ mem)
      · intro group mem
        obtain mem | mem := mem_append.mp mem
        · exact valid.each group mem
        · rw [mem_singleton.mp mem]
          exact groupValid_new address
  exact ⟨all, key_of_lookup there, all.each group (mem_of_lookup there)⟩

theorem withGroup_valid (valid : Valid r) {groups : List Group} (all : GroupsValid groups)
    {group : Group} (own : GroupValid group) : Valid (r.withGroup groups group) where
  groups := all.update (fun _ _ => rfl) fun _ _ _ => own
  configured := valid.configured

/-- The sources of a record that are taken from it. -/
def taken (r : MldRouterInterface) (record : RecordView) (sources : List Ipv6) (group : Group)
    (groups : List Group) : List Ipv6 :=
  if group.olderHostPresent ∧ record.type = .changeToExclude then []
  else (r.admitSources group (groupSourceCount groups) sources).incoming

theorem observeRecord_cases (r : MldRouterInterface) (record : RecordView) (sources : List Ipv6)
    (now : Int) : r.observeRecord record sources now = (false, r) ∨
      r.configuration.enabled = true ∧ ∃ group groups,
        r.ensure record.multicastAddress = some (group, groups) ∧
          r.observeRecord record sources now = (true, r.withGroup groups
            (transition r.configuration r.querier record.type
              (r.taken record sources group groups) now group)) := by
  unfold observeRecord
  split
  · exact .inl rfl
  next passes =>
  have enabled : r.configuration.enabled = true := by
    cases running : r.configuration.enabled with
    | true => rfl
    | false => exact absurd (.inl (by simp [running])) passes
  cases found : r.ensure record.multicastAddress with
  | none => exact .inl rfl
  | some made =>
    obtain ⟨group, groups⟩ := made
    by_cases full : mldRouterGroupSourcesPerInterface < groupSourceCount groups +
        (r.admitSources group (groupSourceCount groups) sources).acceptedNewSources
    · simp [full]
    · by_cases large : mldRouterSourcesPerGroup < (setUnionBounded
          (setUnionBounded (requestedSources group now) (excludedSources group now))
          (r.taken record sources group groups)).length
      · left
        unfold taken at large
        simp [large]
      · right
        refine ⟨enabled, group, groups, rfl, ?_⟩
        unfold taken at large ⊢
        simp [full, large]

theorem observeRecord_valid (valid : Valid r) (record : RecordView) (sources : List Ipv6)
    (now : Int)
    (timely : record.type = .allowNewSources → ∀ group groups,
      r.ensure record.multicastAddress = some (group, groups) → group.mode = .includeMode →
        Timely record.type (r.taken record sources group groups) now group) :
    Valid (r.observeRecord record sources now).2 := by
  obtain refused | ⟨enabled, group, groups, found, accepted⟩ :=
    observeRecord_cases r record sources now
  · rw [refused]
    exact valid
  · rw [accepted]
    obtain ⟨all, -, own⟩ := ensure_valid valid.groups found
    apply withGroup_valid valid all
    apply transition_valid own (validConfiguration_robust (valid.configured enabled))
    exact fun allow including => timely allow group groups found including

theorem valid_of_groups (valid : Valid r) {r' : MldRouterInterface} (groups : GroupsValid r'.groups)
    (same : r'.configuration = r.configuration) : Valid r' where
  groups
  configured := by
    rw [same]
    exact valid.configured

theorem expire_groups : (r.expire now).groups =
    (r.groups.map (expireGroup now)).filter (!forgotten ·) := rfl

@[simp] theorem expire_configuration : (r.expire now).configuration = r.configuration := by
  unfold expire
  grind

@[simp] theorem expire_staticGroups : (r.expire now).staticGroups = r.staticGroups := by
  unfold expire
  grind

theorem expire_valid (now : Int) (valid : Valid r) : Valid (r.expire now) := by
  apply valid_of_groups valid _ expire_configuration
  exact (valid.groups.map (fun _ => expireGroup_multicastAddress)
    fun _ => expireGroup_valid).filter _

theorem observeQuery_valid (valid : Valid r) (query : QueryView) (sources : List Ipv6) :
    Valid (r.observeQuery query sources now) := by
  have lowered : ∀ deadline, GroupsValid (update Group.multicastAddress
      query.multicastAddress (lowerQueried query sources deadline) r.groups) := by
    intro deadline
    apply valid.groups.update
    · intro group same
      unfold lowerQueried Group.lowerFilter
      grind
    · intro group mem _
      unfold lowerQueried
      split
      · exact lowerFilter_valid (valid.groups.each group mem) deadline
      split
      · exact valid.groups.each group mem
      · exact lowerSources_valid (valid.groups.each group mem) sources deadline
  unfold observeQuery
  split
  · exact valid
  dsimp only
  split
  · exact valid_of_groups valid (by grind [valid.groups]) (by grind)
  · exact valid_of_groups valid (by grind) (by grind)

theorem observeVersionOne_valid (valid : Valid r) (message : VersionOneView) :
    Valid (r.observeVersionOne message now).2 := by
  unfold observeVersionOne
  split
  · exact valid
  next passes =>
  cases found : r.ensure message.multicastAddress with
  | none => exact valid
  | some made =>
    obtain ⟨group, groups⟩ := made
    obtain ⟨all, -, own⟩ := ensure_valid valid.groups found
    apply withGroup_valid valid all
    have heard : GroupValid { group with
        olderHostPresent := true
        olderHostDeadline := now + r.configuration.multicastAddressListeningInterval } :=
      ⟨⟨own.1.distinct, own.1.pending, own.1.filtered⟩, own.2⟩
    split
    · exact ⟨⟨.nil, own.1.pending, fun _ => rfl⟩, nofun⟩
    · apply scheduleQuery_valid heard
      exact validConfiguration_robust (valid.configured (by grind))

theorem observeTranslatedVersionOneReport_valid (valid : Valid r) (message : VersionOneView)
    (sources : List Ipv6) : Valid (r.observeTranslatedVersionOneReport message sources now).2 := by
  unfold observeTranslatedVersionOneReport
  split
  · exact valid
  have observed := observeRecord_valid valid
    { multicastAddress := message.multicastAddress, type := .modeIsInclude } sources now nofun
  dsimp only
  split
  · exact observed
  split
  · exact observed
  next group found =>
  have own := observed.groups.each group (mem_of_lookup found)
  exact withGroup_valid observed observed.groups
    ⟨⟨own.1.distinct, own.1.pending, own.1.filtered⟩, own.2⟩

theorem pollGeneral_groups (r : MldRouterInterface) (now : Int) (room : Nat) :
    (r.pollGeneral now room).2.groups = r.groups ∧
    (r.pollGeneral now room).2.configuration = r.configuration := by
  unfold pollGeneral
  split <;> exact ⟨rfl, rfl⟩

/-- A query goes on, or it is over and asks about nothing. -/
theorem pollQuery_spec (r : MldRouterInterface) (now : Int) (room : Nat) (group : Ipv6)
    (actions : List Action) (query : PendingQuery) :
    let polled := (r.pollQuery now room group actions query).2
    polled.multicastAddressQuery = query.multicastAddressQuery ∧
      (polled.active = true → query.active = true) ∧
        ((query.active = false → query.sources = []) →
          polled.active = false → polled.sources = []) := by
  intro polled
  have made : polled = (r.pollQuery now room group actions query).2 := rfl
  unfold pollQuery at made
  split at made
  · exact made ▸ ⟨rfl, id, id⟩
  next sends =>
  rw [made]
  refine ⟨rfl, fun _ => ?_, fun _ idle => ?_⟩
  · simp at sends
    simpa [PendingQuery.active] using sends.2.1
  · simp [PendingQuery.active] at idle
    simp [idle]

theorem pollQueries_well (room : Nat) (group : Ipv6) {queries : List PendingQuery}
    (actions : List Action) (well : PendingWell queries) :
    PendingWell (r.pollQueries now room group queries actions).2 := by
  match queries, well.two with
  | [first, second], _ =>
    obtain ⟨idleFirst, idleSecond, apart⟩ := pendingWell_pair.mp well
    obtain ⟨kind, active, past⟩ := pollQuery_spec r now room group actions first
    obtain ⟨kind', active', past'⟩ := pollQuery_spec r now room group
      (r.pollQuery now room group actions first).1 second
    refine pendingWell_pair.mpr ⟨past idleFirst, past' idleSecond, fun one two => ?_⟩
    rw [kind, kind']
    exact apart (active one) (active' two)

theorem pollGroups_valid (room : Nat) {groups : List Group} (actions : List Action)
    (valid : GroupsValid groups) : GroupsValid (r.pollGroups now room groups actions).2 ∧
      (r.pollGroups now room groups actions).2.map Group.multicastAddress =
        groups.map Group.multicastAddress := by
  induction groups generalizing actions with
  | nil => exact ⟨⟨.nil, nofun⟩, rfl⟩
  | cons group rest ih =>
    obtain ⟨absent, distinct⟩ := nodup_cons.mp valid.distinct
    have own := valid.each group mem_cons_self
    obtain ⟨others, same⟩ := ih (r.pollQueries now room group.multicastAddress
      group.pendingQueries actions).1
        ⟨distinct, fun other mem => valid.each other (mem_cons_of_mem _ mem)⟩
    simp only [pollGroups]
    refine ⟨⟨?_, ?_⟩, by simp [same]⟩
    · rw [map_cons, same]
      exact valid.distinct
    · rw [forall_mem_cons]
      exact ⟨⟨⟨own.1.distinct, pollQueries_well room _ actions own.1.pending, own.1.filtered⟩,
        own.2⟩, others.each⟩

theorem poll_valid (valid : Valid r) (room : Nat) : Valid (r.poll now room).2 := by
  unfold poll
  split
  · exact valid
  have expired := expire_valid now valid
  obtain ⟨groups, same⟩ := pollGeneral_groups (r.expire now) now room
  refine valid_of_groups expired ?_ same
  dsimp only
  rw [groups]
  exact (pollGroups_valid room _ expired.groups).1

theorem configure_valid (valid : Valid r) (configuration : Configuration) :
    Valid (r.configure configuration now).2 := by
  unfold configure
  split
  · exact valid
  next accepted =>
  have configured : validConfiguration configuration = true := by simpa using accepted
  split
  · exact ⟨⟨.nil, nofun⟩, fun _ => configured⟩
  split
  · exact ⟨⟨.nil, nofun⟩, fun _ => configured⟩
  · exact ⟨valid.groups, fun _ => configured⟩

theorem clearDatabase_valid (valid : Valid r) (group : Option Ipv6) :
    Valid (r.clearDatabase group) := by
  cases group with
  | none => exact valid_of_groups valid ⟨.nil, nofun⟩ rfl
  | some address => exact valid_of_groups valid (valid.groups.filter _) rfl

theorem clearOlderHostCompatibility_valid (valid : Valid r) :
    Valid r.clearOlderHostCompatibility := by
  refine valid_of_groups valid (valid.groups.map (fun _ => rfl) fun group own => ?_) rfl
  exact ⟨⟨own.1.distinct, own.1.pending, own.1.filtered⟩, own.2⟩

end MldRouterInterface

end RouterSim.Mld
