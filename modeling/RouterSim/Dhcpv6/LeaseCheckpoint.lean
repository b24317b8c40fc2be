import RouterSim.Dhcpv6.LeaseProbing

/-! Checkpoints of the lease repository. Deadlines are saved as the time that remains, with
-1 for never; the last transaction as the time since. -/
namespace RouterSim.Dhcpv6

open List

open RouterSim.Ip (Ipv6 mask)

structure LeaseCheckpoint where
  client : ClientIdentity := {}
  value : Ipv6 := 0#128
  lastClientAddress : Ipv6 := 0#128
  preferredRemainingNanoseconds : Int := 0
  validRemainingNanoseconds : Int := 0
  declinedRemainingNanoseconds : Int := 0
  lastClientTransactionAgoNanoseconds : Int := 0
  poolIndex : Nat := 0
  prefixLength : BitVec 8 := 128#8
  declined : Bool := false

def remainingNanoseconds (deadline now : Int) : Int :=
  if deadline == timeMax then -1 else if now < deadline then deadline - now else 0

/-- The start of the clock stands for no time at all. -/
def elapsedNanoseconds (timestamp now : Int) : Int :=
  if timestamp == 0 || decide (now ≤ timestamp) then 0 else now - timestamp

def Lease.checkpoint (lease : Lease) (now : Int) : LeaseCheckpoint :=
  { client := lease.client, value := lease.value, lastClientAddress := lease.lastClientAddress
    preferredRemainingNanoseconds :=
      if lease.declined then 0 else remainingNanoseconds lease.preferredUntil now
    validRemainingNanoseconds :=
      if lease.declined then 0 else remainingNanoseconds lease.validUntil now
    declinedRemainingNanoseconds :=
      if lease.declined then remainingNanoseconds lease.declinedUntil now else 0
    lastClientTransactionAgoNanoseconds := elapsedNanoseconds lease.lastClientTransaction now
    poolIndex := lease.poolIndex, prefixLength := lease.prefixLength, declined := lease.declined }

/-- The lifetimes of a saved record are of its state. -/
def LeaseCheckpoint.mistimed (saved : LeaseCheckpoint) : Bool :=
  decide (saved.preferredRemainingNanoseconds < -1) ||
    decide (saved.validRemainingNanoseconds < -1) ||
    decide (saved.declinedRemainingNanoseconds < -1) ||
    decide (saved.lastClientTransactionAgoNanoseconds < 0) ||
    if saved.declined then
      saved.preferredRemainingNanoseconds != 0 || saved.validRemainingNanoseconds != 0 ||
        saved.declinedRemainingNanoseconds == 0
    else
      (if saved.validRemainingNanoseconds == -1 then false
        else saved.preferredRemainingNanoseconds == -1 ||
          decide (saved.validRemainingNanoseconds < saved.preferredRemainingNanoseconds)) ||
        saved.validRemainingNanoseconds == 0 || saved.declinedRemainingNanoseconds != 0

/-- The checks of a saved record against an earlier one. -/
def LeaseCheckpoint.clashes (saved other : LeaseCheckpoint) : Bool :=
  (!saved.declined && !other.declined && sameClient saved.client other.client) ||
    (saved.client.kind == .delegated && other.client.kind == .delegated &&
      (Ip.contains { network := saved.value, length := saved.prefixLength } other.value ||
        Ip.contains { network := other.value, length := other.prefixLength } saved.value)) ||
    (saved.client.kind != .delegated && other.client.kind != .delegated &&
      saved.value == other.value)

def restoredDeadline (remaining now : Int) : Int :=
  if remaining == -1 then timeMax else now + remaining

def LeaseCheckpoint.lease (saved : LeaseCheckpoint) (now : Int) : Lease :=
  { client := saved.client, value := saved.value, lastClientAddress := saved.lastClientAddress
    preferredUntil :=
      if saved.declined then 0 else restoredDeadline saved.preferredRemainingNanoseconds now
    validUntil := if saved.declined then 0 else restoredDeadline saved.validRemainingNanoseconds now
    declinedUntil :=
      if saved.declined then restoredDeadline saved.declinedRemainingNanoseconds now else 0
    lastClientTransaction := now - saved.lastClientTransactionAgoNanoseconds
    poolIndex := saved.poolIndex, prefixLength := saved.prefixLength, occupied := true,
    declined := saved.declined }

namespace LeaseRepository

def checkpoint (r : LeaseRepository) (now : Int) : List LeaseCheckpoint :=
  (r.leases.filter (·.occupied)).map (·.checkpoint now)

/-- The checks of a saved record by itself. -/
def malformed (r : LeaseRepository) (saved : LeaseCheckpoint) : Bool :=
  !validClient saved.client ||
    decide ((r.poolsOf saved.client.kind).length ≤ saved.poolIndex) ||
    saved.prefixLength !=
      grantedLength saved.client.kind (r.poolAt saved.client.kind saved.poolIndex) ||
    (if saved.client.kind == .delegated then
      !Ip.contains (r.poolAt .delegated saved.poolIndex).aggregate saved.value ||
        mask saved.value saved.prefixLength.toNat != saved.value
    else !Ip.contains (r.poolAt saved.client.kind saved.poolIndex).aggregate saved.value) ||
    saved.mistimed

/-- The saved records from a place on, after those before it. -/
def acceptsRecords (r : LeaseRepository) : List LeaseCheckpoint → List LeaseCheckpoint → Bool
  | _, [] => true
  | prior, saved :: rest =>
    !r.malformed saved && !prior.any saved.clashes && acceptsRecords r (prior ++ [saved]) rest

def validateCheckpoint (r : LeaseRepository) (state : List LeaseCheckpoint) : Bool :=
  decide (state.length ≤ r.leases.length) && r.acceptsRecords [] state

/-- The saved records take the first slots; nothing is touched unless all checks pass. -/
def restore (r : LeaseRepository) (state : List LeaseCheckpoint) (now : Int) :
    Option LeaseRepository :=
  if r.validateCheckpoint state then
    some { r with
      leases := state.map (·.lease now) ++ replicate (r.leases.length - state.length) {} }
  else none

end LeaseRepository

/-! ## A record saved and restored -/

variable {now : Int} {r : LeaseRepository}

/-- A deadline that has not been reached. -/
def lasts (deadline now : Int) : Bool := deadline == timeMax || decide (now < deadline)

theorem remainingNanoseconds_ge (deadline now : Int) : -1 ≤ remainingNanoseconds deadline now := by
  unfold remainingNanoseconds
  split
  · omega
  · split <;> omega

theorem remainingNanoseconds_ne_zero (deadline now : Int) :
    remainingNanoseconds deadline now ≠ 0 ↔ lasts deadline now = true := by
  unfold remainingNanoseconds lasts
  split
  next never => simp [never]
  rename_i ends
  split
  next later => simp [later]; omega
  next lapsed => simp [ends, lapsed]

theorem remainingNanoseconds_never (deadline now : Int) :
    remainingNanoseconds deadline now = -1 ↔ deadline = timeMax := by
  unfold remainingNanoseconds
  split
  next never => simpa using never
  rename_i ends
  have finite : deadline ≠ timeMax := by simpa using ends
  split
  · simp [finite]
    omega
  · simp [finite]

/-- Saved again at the time it was restored, a deadline is the same, if it had not passed or
the time does not stand for never. -/
theorem remaining_restored {deadline : Int} :
    remainingNanoseconds (restoredDeadline (remainingNanoseconds deadline now) now) now =
      remainingNanoseconds deadline now ↔ (now = timeMax → lasts deadline now = true) := by
  by_cases never : deadline = timeMax
  · subst never
    simp [remainingNanoseconds, restoredDeadline, lasts]
  · by_cases later : now < deadline
    · have positive : deadline - now ≠ -1 := by omega
      have again : now + (deadline - now) = deadline := by omega
      simp [remainingNanoseconds, restoredDeadline, lasts, never, later, positive, again]
    · simp [remainingNanoseconds, restoredDeadline, lasts, never, later]

theorem elapsed_restored (timestamp now : Int) :
    elapsedNanoseconds (now - elapsedNanoseconds timestamp now) now =
      elapsedNanoseconds timestamp now := by
  unfold elapsedNanoseconds
  split
  next => simp
  next since => rw [show now - (now - timestamp) = timestamp by omega, if_neg since]

theorem elapsed_nonneg (timestamp now : Int) : 0 ≤ elapsedNanoseconds timestamp now := by
  unfold elapsedNanoseconds
  split
  next => exact Int.le_refl 0
  rename_i since
  simp only [asserted] at since
  omega

theorem remaining_mono {early late : Int} (now : Int) (finite : late ≠ timeMax)
    (le : early ≤ late) : remainingNanoseconds early now ≤ remainingNanoseconds late now := by
  have lower := remainingNanoseconds_ge late now
  have ends : (late == timeMax) = false := beq_eq_false_iff_ne.mpr finite
  simp only [remainingNanoseconds, ends, settled] at lower ⊢
  split
  · exact lower
  · split <;> split <;> omega

/-- The record lasts at a time, and none of its times is confused with never. -/
def Lease.restorable (lease : Lease) (now : Int) : Bool :=
  if lease.declined then lasts lease.declinedUntil now
  else lasts lease.validUntil now &&
    (lease.preferredUntil != timeMax || lease.validUntil == timeMax) &&
    (now != timeMax || lasts lease.preferredUntil now)

theorem mistimed_declined {lease : Lease} (declined : lease.declined = true) :
    (lease.checkpoint now).mistimed = false ↔ lasts lease.declinedUntil now = true := by
  have held := remainingNanoseconds_ge lease.declinedUntil now
  have since := elapsed_nonneg lease.lastClientTransaction now
  rw [← remainingNanoseconds_ne_zero]
  simp [LeaseCheckpoint.mistimed, Lease.checkpoint, declined]
  omega

theorem mistimed_live {lease : Lease} (live : lease.declined = false)
    (ordered : lease.validUntil ≠ timeMax → lease.preferredUntil ≤ lease.validUntil) :
    (lease.checkpoint now).mistimed = false ↔
      lasts lease.validUntil now = true ∧
        (lease.preferredUntil ≠ timeMax ∨ lease.validUntil = timeMax) := by
  have preferred := remainingNanoseconds_ge lease.preferredUntil now
  have since := elapsed_nonneg lease.lastClientTransaction now
  have within := fun finite => remaining_mono now finite (ordered finite)
  have never := remainingNanoseconds_never lease.preferredUntil now
  have forever := remainingNanoseconds_never lease.validUntil now
  rw [← remainingNanoseconds_ne_zero, ne_eq, ne_eq, ← never, ← forever]
  simp [LeaseCheckpoint.mistimed, Lease.checkpoint, live]
  omega

/-- A saved record is well timed, and saved again as it was, if and only if it can be
restored. -/
theorem row_restorable {lease : Lease} (ordered : lease.declined = false →
    lease.validUntil ≠ timeMax → lease.preferredUntil ≤ lease.validUntil) :
    ((lease.checkpoint now).mistimed = false ∧
      ((lease.checkpoint now).lease now).checkpoint now = lease.checkpoint now) ↔
    lease.restorable now = true := by
  cases declined : lease.declined with
  | true =>
    rw [mistimed_declined declined]
    simp only [Lease.checkpoint, LeaseCheckpoint.lease, Lease.restorable, declined, settled,
      elapsed_restored, LeaseCheckpoint.mk.injEq, remaining_restored]
    exact ⟨fun h => h.1, fun h => ⟨h, fun _ => h⟩⟩
  | false =>
    rw [mistimed_live declined (ordered declined)]
    simp only [Lease.checkpoint, LeaseCheckpoint.lease, Lease.restorable, declined, settled,
      elapsed_restored, LeaseCheckpoint.mk.injEq, remaining_restored, asserted]
    constructor
    · rintro ⟨⟨valid, never⟩, again, _⟩
      refine ⟨⟨valid, never⟩, ?_⟩
      by_cases last : now = timeMax
      · exact .inr (again last)
      · exact .inl last
    · rintro ⟨⟨valid, never⟩, again⟩
      exact ⟨⟨valid, never⟩, fun last => again.resolve_left (not_not_intro last), fun _ => valid⟩

/-! ## The whole table -/

theorem acceptsRecords_iff {prior rest : List LeaseCheckpoint} :
    r.acceptsRecords prior rest = true ↔
      (∀ saved ∈ rest, r.malformed saved = false) ∧
        (∀ saved ∈ rest, ∀ other ∈ prior, saved.clashes other = false) ∧
        rest.Pairwise fun other saved => saved.clashes other = false := by
  induction rest generalizing prior with
  | nil => simp [LeaseRepository.acceptsRecords]
  | cons first rest ih =>
    simp only [LeaseRepository.acceptsRecords, asserted, ih, forall_mem_cons, pairwise_cons,
      mem_append, mem_singleton, any_eq_false, refuted]
    constructor
    · rintro ⟨⟨own, before⟩, rows, others, pairs⟩
      exact ⟨⟨own, rows⟩, ⟨before, fun saved mem other earlier => others saved mem other (.inl earlier)⟩,
        fun saved mem => others saved mem first (.inr rfl), pairs⟩
    · rintro ⟨⟨own, rows⟩, ⟨before, others⟩, after, pairs⟩
      refine ⟨⟨own, before⟩, rows, fun saved mem other earlier => ?_, pairs⟩
      obtain earlier | rfl := earlier
      · exact others saved mem other earlier
      · exact after saved mem

theorem checkpoint_length_le (r : LeaseRepository) (now : Int) :
    (r.checkpoint now).length ≤ r.leases.length := by
  rw [LeaseRepository.checkpoint, length_map]
  exact length_filter_le _ _

theorem checkpoint_restored {restored : LeaseRepository} {state : List LeaseCheckpoint}
    (done : r.restore state now = some restored) :
    restored.checkpoint now = state.map fun saved => (saved.lease now).checkpoint now := by
  unfold LeaseRepository.restore at done
  split at done
  next =>
    cases done
    have taken : (state.map (·.lease now)).filter (·.occupied) = state.map (·.lease now) := by
      rw [filter_eq_self]
      intro lease mem
      obtain ⟨saved, _, rfl⟩ := mem_map.mp mem
      rfl
    have free : (replicate (r.leases.length - state.length) ({} : Lease)).filter (·.occupied) =
        [] := by
      rw [filter_eq_nil_iff]
      intro lease mem
      rw [eq_of_mem_replicate mem]
      decide
    rw [LeaseRepository.checkpoint, filter_append, taken, free, append_nil, map_map]
    rfl
  next => cases done

end RouterSim.Dhcpv6
