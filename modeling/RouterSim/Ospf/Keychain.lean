import RouterSim.Lib.Scan

/-! Which key of a keychain signs a packet and which keys are taken from a neighbor. The clocks of
two neighbors differ, so each key is taken for a while before it begins and after its
replacement has begun. -/
namespace RouterSim.Ospf

namespace UtcSeconds

abbrev minimum : Int := -9223372036854775808

abbrev maximum : Int := 9223372036854775807

end UtcSeconds

/-- Seconds of the epoch in the range of a signed 64-bit integer. -/
structure UtcSeconds where
  value : Int
  lower : UtcSeconds.minimum ≤ value
  upper : value ≤ UtcSeconds.maximum
  deriving DecidableEq

structure KeychainEntry where
  secret : BitVec 64 := 0#64
  beginUtcSeconds : UtcSeconds
  endUtcSeconds : Option UtcSeconds := none
  toleranceSeconds : BitVec 32 := 0#32
  id : BitVec 8 := 0#8
  adminEnabled : Bool := true
  algorithmConfigured : Bool := false
  secretConfigured : Bool := false

structure KeychainConfiguration where
  name : List (BitVec 8) := []
  bidirectional : List KeychainEntry := []
  adminEnabled : Bool := true

inductive KeychainStatus
  | valid | invalidName | invalidEntry | duplicateEntry | invalidWindow
  deriving DecidableEq

/-- The entry begins later, or with a greater identifier at the same time. -/
def KeychainEntry.younger (entry selected : KeychainEntry) : Bool :=
  decide (selected.beginUtcSeconds.value < entry.beginUtcSeconds.value) ||
    entry.beginUtcSeconds == selected.beginUtcSeconds && decide (selected.id < entry.id)

/-- An end time does not count: the last key that has begun stays in use. -/
def KeychainEntry.validForSend (entry : KeychainEntry) (now : UtcSeconds) : Bool :=
  entry.adminEnabled && entry.secret != 0#64 && decide (entry.beginUtcSeconds.value ≤ now.value)

namespace UtcSeconds

def saturatingSubtract (time : UtcSeconds) (delta : BitVec 32) : UtcSeconds :=
  if h : time.value < minimum + delta.toNat then ⟨minimum, by decide, by decide⟩
  else ⟨time.value - delta.toNat, by omega, by have := time.upper; omega⟩

def saturatingAdd (time : UtcSeconds) (delta : BitVec 32) : UtcSeconds :=
  if h : maximum - delta.toNat < time.value then ⟨maximum, by decide, by decide⟩
  else ⟨time.value + delta.toNat, by have := time.lower; omega, by omega⟩

variable {time now : UtcSeconds} {delta : BitVec 32}

theorem saturatingSubtract_le :
    (time.saturatingSubtract delta).value ≤ now.value ↔ time.value - delta.toNat ≤ now.value := by
  have := now.lower
  unfold saturatingSubtract
  split
  · simp only
    omega
  · rfl

theorem lt_saturatingAdd : now.value < (time.saturatingAdd delta).value ↔
    now.value < time.value + delta.toNat ∧ now.value < maximum := by
  unfold saturatingAdd
  split
  · simp only
    omega
  · simp only
    omega

end UtcSeconds

namespace KeychainConfiguration

/-- When the next key begins after the entry's. -/
def replacementBegin (keychain : KeychainConfiguration) (entry : KeychainEntry) :
    Option UtcSeconds :=
  Scan.best (fun candidate => candidate.adminEnabled &&
      decide (entry.beginUtcSeconds.value < candidate.beginUtcSeconds.value))
    KeychainEntry.beginUtcSeconds (fun time kept => decide (time.value < kept.value))
    keychain.bidirectional

def validForReceive (keychain : KeychainConfiguration) (entry : KeychainEntry)
    (now : UtcSeconds) : Bool :=
  if !entry.adminEnabled || entry.secret == 0#64 || decide (now.value <
      (entry.beginUtcSeconds.saturatingSubtract entry.toleranceSeconds).value) then false
  else
    (keychain.replacementBegin entry).all fun replacement =>
      decide (now.value < (replacement.saturatingAdd entry.toleranceSeconds).value)

def validateEntries (allowIncomplete : Bool) : List KeychainEntry → List KeychainEntry →
    KeychainStatus
  | _, [] => .valid
  | prior, entry :: entries =>
    if 63#8 < entry.id ∨ (!allowIncomplete &&
        (!entry.secretConfigured || !entry.algorithmConfigured || entry.secret == 0#64)) ∨
        (entry.secretConfigured && entry.secret == 0#64) then .invalidEntry
    else if entry.endUtcSeconds.any fun time =>
        decide (time.value ≤ entry.beginUtcSeconds.value) then .invalidWindow
    else if prior.any fun earlier => earlier.id == entry.id then .duplicateEntry
    else validateEntries allowIncomplete (prior ++ [entry]) entries

def validate (keychain : KeychainConfiguration) (allowIncomplete : Bool := false) : KeychainStatus :=
  if keychain.name.isEmpty ∨ 32 < keychain.name.length then .invalidName
  else validateEntries allowIncomplete [] keychain.bidirectional

def selectSendKey (keychain : KeychainConfiguration) (now : UtcSeconds) : Option KeychainEntry :=
  if !keychain.adminEnabled ∨ keychain.validate ≠ .valid then none
  else Scan.best (·.validForSend now) id KeychainEntry.younger keychain.bidirectional

def selectReceiveKey (keychain : KeychainConfiguration) (keyId : BitVec 8) (now : UtcSeconds) :
    Option KeychainEntry :=
  if !keychain.adminEnabled ∨ keychain.validate ≠ .valid then none
  else (keychain.bidirectional.find? fun entry => entry.id == keyId).filter
    (keychain.validForReceive · now)

variable {keychain : KeychainConfiguration} {entry : KeychainEntry} {now : UtcSeconds}

/-- A valid keychain has one entry under an identifier, and the entry has a secret. -/
theorem valid_entry (valid : keychain.validate = .valid) (mem : entry ∈ keychain.bidirectional) :
    entry.secret ≠ 0#64 ∧
      keychain.bidirectional.find? (fun other => other.id == entry.id) = some entry := by
  have fresh : ∀ {entries prior : List KeychainEntry},
      validateEntries false prior entries = .valid → entry ∈ entries →
        (∀ earlier ∈ prior, earlier.id ≠ entry.id) ∧ entry.secret ≠ 0#64 ∧
          entries.find? (fun other => other.id == entry.id) = some entry := by
    intro entries
    induction entries with
    | nil => exact fun _ absent => absurd absent List.not_mem_nil
    | cons head entries ih =>
      intro prior passes mem
      rw [validateEntries] at passes
      split at passes
      · cases passes
      rename_i complete
      split at passes
      · cases passes
      split at passes
      · cases passes
      rename_i apart
      obtain rfl | mem := List.mem_cons.mp mem
      · refine ⟨fun earlier seen same => apart ?_, ?_, by simp⟩
        · exact List.any_eq_true.mpr ⟨earlier, seen, by simpa using same⟩
        · rintro none
          simp [none] at complete
      · obtain ⟨others, secret, found⟩ := ih passes mem
        have ne : head.id ≠ entry.id := others head (by simp)
        refine ⟨fun earlier seen => others earlier (by simp [seen]), secret, ?_⟩
        rw [List.find?_cons_of_neg (by simpa using ne), found]
  unfold validate at valid
  split at valid
  · cases valid
  exact (fresh valid mem).2

/-- The key that signs has begun, and none that has begun is younger. -/
theorem selectSendKey_spec (h : keychain.selectSendKey now = some entry) :
    (keychain.adminEnabled = true ∧ keychain.validate = .valid) ∧
      (entry ∈ keychain.bidirectional ∧ entry.validForSend now = true) ∧
      ∀ other ∈ keychain.bidirectional, other.validForSend now = true →
        other.beginUtcSeconds.value ≤ entry.beginUtcSeconds.value := by
  unfold selectSendKey at h
  split at h
  · cases h
  rename_i usable
  have found := Scan.best_found KeychainEntry.younger (·.beginUtcSeconds.value) (by
    intro a b
    simp only [KeychainEntry.younger, asserted]
    split
    next order =>
      obtain later | ⟨same, -⟩ := order
      · exact Int.le_of_lt later
      · exact Int.le_of_eq (congrArg _ same.symm)
    next order => omega) (·.validForSend now) id keychain.bidirectional
  rw [h] at found
  obtain ⟨⟨row, mem, valid, rfl⟩, most⟩ := found
  exact ⟨by simpa using usable, ⟨mem, valid⟩, most⟩

/-- The first replacement to begin stands for all of them. -/
theorem replacementBegin_all {delta : BitVec 32} :
    (keychain.replacementBegin entry).all (fun replacement =>
      decide (now.value < (replacement.saturatingAdd delta).value)) = true ↔
      ∀ candidate ∈ keychain.bidirectional, candidate.adminEnabled = true →
        entry.beginUtcSeconds.value < candidate.beginUtcSeconds.value →
          now.value < candidate.beginUtcSeconds.value + delta.toNat ∧
            now.value < UtcSeconds.maximum := by
  have found := Scan.best_found (fun time kept : UtcSeconds => time.value < kept.value)
    (fun time => -time.value) (by intro a b; simp only [asserted]; split <;> omega)
    (fun candidate : KeychainEntry => candidate.adminEnabled &&
      decide (entry.beginUtcSeconds.value < candidate.beginUtcSeconds.value))
    KeychainEntry.beginUtcSeconds keychain.bidirectional
  change Scan.Found _ _ _ _ (keychain.replacementBegin entry) at found
  cases kept : keychain.replacementBegin entry with
  | none =>
    rw [kept] at found
    refine ⟨fun _ candidate mem enabled after => ?_, fun _ => rfl⟩
    simpa [enabled, after] using found candidate mem
  | some first =>
    rw [kept] at found
    obtain ⟨⟨row, mem, counts, rfl⟩, least⟩ := found
    simp only [asserted] at counts least
    rw [Option.all_some, decide_eq_true_eq, UtcSeconds.lt_saturatingAdd]
    constructor
    · rintro ⟨before, last⟩ candidate candidate_mem enabled after
      have := least candidate candidate_mem ⟨enabled, after⟩
      exact ⟨by omega, last⟩
    · exact fun all => all row mem counts.1 counts.2

/-- A key is taken from its tolerance before it begins on, and to its tolerance after each
later key begins. -/
theorem validForReceive_iff (enabled : entry.adminEnabled = true) (secret : entry.secret ≠ 0#64) :
    keychain.validForReceive entry now = true ↔
      entry.beginUtcSeconds.value - entry.toleranceSeconds.toNat ≤ now.value ∧
        ∀ candidate ∈ keychain.bidirectional, candidate.adminEnabled = true →
          entry.beginUtcSeconds.value < candidate.beginUtcSeconds.value →
            now.value < candidate.beginUtcSeconds.value + entry.toleranceSeconds.toNat ∧
              now.value < UtcSeconds.maximum := by
  rw [← UtcSeconds.saturatingSubtract_le, ← replacementBegin_all, validForReceive, enabled]
  simp only [settled, beq_eq_false_iff_ne.mpr secret, asserted]
  split
  next early => simp [Int.not_le.mpr early]
  next started => rw [and_iff_right (Int.not_lt.mp started)]

variable {sender receiver : UtcSeconds} {d : Int}

theorem rollover_hitless_iff
    (tolerant : ∀ entry ∈ keychain.bidirectional, d ≤ entry.toleranceSeconds.toNat)
    (near : sender.value - receiver.value ≤ d ∧ receiver.value - sender.value ≤ d)
    (selected : keychain.selectSendKey sender = some entry) :
    keychain.selectReceiveKey entry.id receiver = some entry ↔
      receiver.value < UtcSeconds.maximum ∨
        ∀ other ∈ keychain.bidirectional, other.adminEnabled = true →
          other.beginUtcSeconds.value ≤ sender.value := by
  obtain ⟨usable, ⟨mem, valid⟩, youngest⟩ := selectSendKey_spec selected
  simp only [KeychainEntry.validForSend, asserted]
    at valid youngest
  obtain ⟨⟨enabled, secret⟩, begun⟩ := valid
  have tolerance := tolerant entry mem
  rw [selectReceiveKey, if_neg (by simp [usable]), (valid_entry usable.2 mem).2,
    Option.filter_eq_some_iff, and_iff_right rfl, validForReceive_iff enabled secret,
    and_iff_right (by omega)]
  -- An enabled entry younger than the one that signs begins after the packet is sent.
  have ahead : ∀ other ∈ keychain.bidirectional, other.adminEnabled = true →
      (entry.beginUtcSeconds.value < other.beginUtcSeconds.value ↔
        sender.value < other.beginUtcSeconds.value) := by
    intro other other_mem on
    have most := youngest other other_mem
    have := (valid_entry usable.2 other_mem).1
    constructor
    · intro after
      apply Int.not_le.mp
      intro has_begun
      have := most ⟨⟨on, this⟩, has_begun⟩
      omega
    · omega
  constructor
  · intro taken
    refine Decidable.or_iff_not_imp_left.mpr fun last other other_mem on => ?_
    apply Int.not_lt.mp
    intro after
    exact last (taken other other_mem on ((ahead other other_mem on).mpr after)).2
  · rintro early other other_mem on after
    have := (ahead other other_mem on).mp after
    refine ⟨by omega, early.resolve_right fun all => ?_⟩
    have := all other other_mem on
    omega

/-- A first key that begins with the epoch, replaced by a second. -/
def replacedAt (second : UtcSeconds) : KeychainConfiguration :=
  let key : KeychainEntry :=
    { secret := 1#64, beginUtcSeconds := ⟨0, by decide, by decide⟩, toleranceSeconds := 1#32
      id := 1#8, algorithmConfigured := true, secretConfigured := true }
  { name := [0x6b#8], bidirectional := [key, { key with beginUtcSeconds := second, id := 2#8 }] }

/-- The packet signed one second before a rollover arrives when the second key has begun. -/
theorem rollover_hitless_at_boundary : ∃ entry,
    (replacedAt ⟨9, by decide, by decide⟩).selectSendKey ⟨8, by decide, by decide⟩ = some entry ∧
      (replacedAt ⟨9, by decide, by decide⟩).selectReceiveKey entry.id ⟨9, by decide, by decide⟩ =
        some entry :=
  have signs := by rfl
  ⟨(replacedAt ⟨9, by decide, by decide⟩).bidirectional.head (by decide), signs,
    (@rollover_hitless_iff _ _ _ _ 1 (by decide) (by decide) signs).mpr (.inl (by decide))⟩

/-- A rollover at the last second that the clock can show drops the packet. -/
theorem rollover_drops_last_second :
    ∃ (keychain : KeychainConfiguration) (sender receiver : UtcSeconds) (entry : KeychainEntry),
      (∀ entry ∈ keychain.bidirectional, 1 ≤ entry.toleranceSeconds.toNat) ∧
        receiver.value - sender.value = 1 ∧ keychain.selectSendKey sender = some entry ∧
          keychain.selectReceiveKey entry.id receiver = none :=
  ⟨replacedAt ⟨UtcSeconds.maximum, by decide, by decide⟩,
    ⟨UtcSeconds.maximum - 1, by decide, by decide⟩, ⟨UtcSeconds.maximum, by decide, by decide⟩,
    _, by decide, by decide, rfl, by decide⟩

end KeychainConfiguration

end RouterSim.Ospf
