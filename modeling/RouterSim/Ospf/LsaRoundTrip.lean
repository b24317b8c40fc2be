import RouterSim.Lib.Fletcher
import RouterSim.Ospf.PrefixRoundTrip

/-! Every advertisement a writer makes has a good checksum, is installed, and is read back as it
was written. -/
namespace RouterSim.Ospf

open Ip (Ipv6)
open Octets BitVec

section Checksum

theorem fletcher_eq : fletcher = Fletcher.step := rfl

theorem checksumX_spec (octets : Nat) (sums : Nat × Nat) :
    1 ≤ checksumX octets sums ∧ checksumX octets sums ≤ 255 ∧ ∃ j : Int,
      checksumX octets sums = ((octets : Int) - 16 - 1) * sums.1 - sums.2 + 255 * j := by
  unfold checksumX
  dsimp only
  generalize ((octets : Int) - 16 - 1) * sums.1 - sums.2 = a
  have upper := Int.tmod_lt_of_pos a (b := 255) (by decide)
  have lower := Int.lt_tmod_of_pos a (b := 255) (by decide)
  have whole := Int.tmod_def a 255
  split
  · exact ⟨by omega, by omega, 1 - a.tdiv 255, by omega⟩
  · exact ⟨by omega, by omega, -a.tdiv 255, by omega⟩

theorem checksumY_spec {x : Int} {sums : Nat × Nat} (hx : 1 ≤ x ∧ x ≤ 255) (small : sums.1 < 255) :
    1 ≤ checksumY x sums ∧ checksumY x sums ≤ 255 ∧ ∃ k : Int,
      checksumY x sums = 255 * k - sums.1 - x := by
  unfold checksumY
  dsimp only
  split
  · exact ⟨by omega, by omega, 1, by omega⟩
  · exact ⟨by omega, by omega, 2, by omega⟩

theorem toNat_ofInt_octet {x : Int} (hx : 1 ≤ x ∧ x ≤ 255) :
    ((BitVec.ofInt 8 x).toNat : Int) = x := by
  rw [toNat_ofInt]
  omega

theorem octet_ne_zero {x : Int} (hx : 1 ≤ x ∧ x ≤ 255) : BitVec.ofInt 8 x ≠ 0#8 := by
  intro zero
  have value := toNat_ofInt_octet hx
  rw [zero] at value
  simp at value
  omega

/-- The check octets go where the zeros are, and they verify. -/
theorem updateLsaChecksum_spec {before after : List (BitVec 8)} (first : before.length = 16)
    (rest : 2 ≤ after.length) :
    ∃ x y, x ≠ 0#8 ∧ y ≠ 0#8 ∧
      updateLsaChecksum (before ++ 0#8 :: 0#8 :: after) = some (before ++ x :: y :: after) ∧
      verifyLsaChecksum (before ++ x :: y :: after) = true := by
  have octets : (before ++ 0#8 :: 0#8 :: after).length = 18 + after.length := by
    simp
    omega
  have set16 : ∀ a b c : BitVec 8,
      (before ++ a :: b :: after).set 16 c = before ++ c :: b :: after := by
    intro a b c
    rw [List.set_append_right 16 c (by omega), first]
    rfl
  have set17 : ∀ a b c : BitVec 8,
      (before ++ a :: b :: after).set 17 c = before ++ a :: c :: after := by
    intro a b c
    rw [List.set_append_right 17 c (by omega), first]
    rfl
  have skip : ∀ a b : BitVec 8,
      (before ++ a :: b :: after).drop 2 = before.drop 2 ++ a :: b :: after := by
    intro a b
    rw [List.drop_append_of_le_length (by omega)]
  have cleared : Octets.write16 (before ++ 0#8 :: 0#8 :: after) 16 0#16 =
      before ++ 0#8 :: 0#8 :: after := by
    rw [Octets.write16, set16, set17]
    rfl
  have short : ¬ (before ++ 0#8 :: 0#8 :: after).length < lsaHeaderOctets := by
    rw [octets, lsaHeaderOctets]
    omega
  generalize sums : (before.drop 2 ++ 0#8 :: 0#8 :: after).foldl fletcher (0, 0) = c
  have small : c.1 < 255 := by
    rw [← sums, fletcher_eq, Fletcher.foldl_step _ _ (by decide)]
    exact Nat.mod_lt _ (by decide)
  obtain ⟨low, high, j, hx⟩ := checksumX_spec (18 + after.length) c
  obtain ⟨low', high', k, hy⟩ := checksumY_spec ⟨low, high⟩ small
  generalize xIs : checksumX (18 + after.length) c = x at *
  generalize yIs : checksumY x c = y at *
  have solved : (before.drop 2 ++ BitVec.ofInt 8 x :: BitVec.ofInt 8 y :: after).foldl fletcher
      (0, 0) = (0, 0) := by
    refine Fletcher.foldl_solved (j := j) (k := k) ?_ ?_
    · rw [← fletcher_eq, sums, toNat_ofInt_octet ⟨low, high⟩, hx]
      have distance : ((18 + after.length : Nat) : Int) - 16 - 1 = after.length + 1 := by omega
      rw [distance]
    · rw [← fletcher_eq, sums, toNat_ofInt_octet ⟨low, high⟩, toNat_ofInt_octet ⟨low', high'⟩, hy]
  have verified : verifyLsaChecksum
      (before ++ BitVec.ofInt 8 x :: BitVec.ofInt 8 y :: after) = true := by
    unfold verifyLsaChecksum
    rw [skip, solved]
    simp
    omega
  refine ⟨BitVec.ofInt 8 x, BitVec.ofInt 8 y, octet_ne_zero ⟨low, high⟩,
    octet_ne_zero ⟨low', high'⟩, ?_, verified⟩
  unfold updateLsaChecksum
  rw [if_neg short]
  dsimp only
  rw [cleared, skip, sums, octets, xIs, set16, yIs, set17, if_pos verified]

end Checksum

section Finish

variable {room : Nat} {header : OriginationHeader} {body bytes : List (BitVec 8)}

/-- The header that is read back, whatever the checksum. -/
def OriginationHeader.view (header : OriginationHeader) (checksum : BitVec 16) (octets : Nat) :
    LsaHeaderView :=
  { linkStateId := header.linkStateId, advertisingRouter := header.advertisingRouter,
    sequenceNumber := header.sequenceNumber, ageSeconds := header.ageSeconds, type := header.type,
    checksum, length := BitVec.ofNat 16 octets, options := match header.version with
      | .two => header.options
      | .three => 0#32
    version := header.version }

/-- What one octet holds of the type and the options, and a type that is none. -/
structure OriginationHeader.Fits (header : OriginationHeader) : Prop where
  type : header.version = .two → header.type ≠ 0#16 ∧ ¬ 0x00ff#16 < header.type
  options : header.version = .two → ¬ 0x000000ff#32 < header.options
  function : header.version = .three → header.function ≠ 0#16

theorem setWidth_octet {w : Nat} {value : BitVec w}
    (small : value.toNat ≤ 0xff) : (value.setWidth 8).setWidth w = value := by
  apply eq_of_toNat_eq
  rw [toNat_setWidth, toNat_setWidth, Nat.mod_eq_of_lt (by omega : _ < 2 ^ 8)]
  exact Nat.mod_eq_of_lt value.isLt

theorem headerOctets_length (header : OriginationHeader) : (headerOctets header).length = 16 := by
  unfold headerOctets
  cases header.version <;> rfl

/-- The finished advertisement: its header, its body and its checksum. -/
theorem finish_spec (h : finish room header body = some bytes) :
    ∃ x y, bytes = headerOctets header ++ x :: y ::
        (Octets.octets16 (BitVec.ofNat 16 (20 + body.length)) ++ body) ∧
      20 + body.length ≤ 65535 ∧ verifyLsaChecksum bytes = true := by
  unfold finish at h
  dsimp only at h
  split at h
  · cases h
  next fits =>
  rw [lsaHeaderOctets] at fits
  have rest : 2 ≤ (Octets.octets16 (BitVec.ofNat 16 (20 + body.length)) ++ body).length := by
    simp [Octets.octets16]
  obtain ⟨x, y, -, -, updated, verified⟩ := updateLsaChecksum_spec (headerOctets_length header) rest
  rw [updated] at h
  cases h
  exact ⟨x, y, rfl, by omega, verified⟩

theorem lsaHeader_headerOctets (fits : header.Fits) (x y : BitVec 8) {n : Nat}
    (twenty : ¬ BitVec.ofNat 16 n < 20#16) (body : List (BitVec 8)) :
    lsaHeader (headerOctets header ++ x :: y :: (Octets.octets16 (BitVec.ofNat 16 n) ++ body))
      header.version = some (header.view (x ++ y) n) := by
  generalize octetsAre : BitVec.ofNat 16 n = octets at *
  obtain ⟨linkStateId, advertisingRouter, sequenceNumber, ageSeconds, type, options, version⟩ :=
    header
  have long : ∀ front : List (BitVec 8), front.length = 16 →
      ¬ (front ++ x :: y :: (Octets.octets16 octets ++ body)).length < lsaHeaderOctets := by
    intro front sixteen
    simp [Octets.octets16, lsaHeaderOctets]
    omega
  have length := read16_octets16 octets
  generalize bytesAre : headerOctets _ ++ x :: y :: (Octets.octets16 octets ++ body) = bytes
  have long : ¬ bytes.length < lsaHeaderOctets := bytesAre ▸ long _ (headerOctets_length _)
  cases version with
  | two =>
    obtain ⟨nonzero, small⟩ := fits.type rfl
    have small : type.toNat ≤ 0xff := by simpa [lt_def] using small
    have few : options.toNat ≤ 0xff := by simpa [lt_def] using fits.options rfl
    have real : type.setWidth 8 ≠ 0#8 := by
      intro zero
      apply nonzero
      rw [← setWidth_octet small, zero]
      rfl
    have r0 : Octets.read16 bytes 0 = ageSeconds := bytesAre ▸ read16_octets16 ageSeconds
    have r2 : Octets.get bytes 2 = options.setWidth 8 := bytesAre ▸ rfl
    have r3 : Octets.get bytes 3 = type.setWidth 8 := bytesAre ▸ rfl
    have r4 : Octets.read32 bytes 4 = linkStateId := bytesAre ▸ read32_octets32 linkStateId
    have r8 : Octets.read32 bytes 8 = advertisingRouter :=
      bytesAre ▸ read32_octets32 advertisingRouter
    have r12 : Octets.read32 bytes 12 = sequenceNumber := bytesAre ▸ read32_octets32 sequenceNumber
    have r16 : Octets.read16 bytes 16 = x ++ y := bytesAre ▸ rfl
    have r18 : Octets.read16 bytes 18 = octets := bytesAre ▸ length
    simp [lsaHeader, r0, r2, r3, r4, r8, r12, r16, r18, long, twenty, real, setWidth_octet small,
      setWidth_octet few, OriginationHeader.view, octetsAre]
  | three =>
    have real : type &&& 0x1fff#16 ≠ 0#16 := fits.function rfl
    have r0 : Octets.read16 bytes 0 = ageSeconds := bytesAre ▸ read16_octets16 ageSeconds
    have r2 : Octets.read16 bytes 2 = type := bytesAre ▸ read16_octets16 type
    have r4 : Octets.read32 bytes 4 = linkStateId := bytesAre ▸ read32_octets32 linkStateId
    have r8 : Octets.read32 bytes 8 = advertisingRouter :=
      bytesAre ▸ read32_octets32 advertisingRouter
    have r12 : Octets.read32 bytes 12 = sequenceNumber := bytesAre ▸ read32_octets32 sequenceNumber
    have r16 : Octets.read16 bytes 16 = x ++ y := bytesAre ▸ rfl
    have r18 : Octets.read16 bytes 18 = octets := bytesAre ▸ length
    simp [lsaHeader, r0, r2, r4, r8, r12, r16, r18, long, twenty, real, OriginationHeader.view,
      octetsAre]

/-- An advertisement that holds a header and a body. -/
structure Finished (header : OriginationHeader) (body bytes : List (BitVec 8)) : Prop where
  contents : lsaBody bytes = body
  length : bytes.length = lsaHeaderOctets + body.length
  small : lsaHeaderOctets + body.length ≤ 65535
  verified : verifyLsaChecksum bytes = true
  read : ∃ checksum, lsaHeader bytes header.version = some (header.view checksum bytes.length)

theorem finished (fits : header.Fits) (h : finish room header body = some bytes) :
    Finished header body bytes := by
  obtain ⟨x, y, rfl, small, verified⟩ := finish_spec h
  have length : (headerOctets header ++ x :: y ::
      (Octets.octets16 (BitVec.ofNat 16 (20 + body.length)) ++ body)).length =
        lsaHeaderOctets + body.length := by
    simp [headerOctets_length, Octets.octets16, lsaHeaderOctets]
    omega
  have twenty : ¬ BitVec.ofNat 16 (20 + body.length) < 20#16 := by
    rw [lt_def, toNat_ofNat, toNat_ofNat]
    omega
  refine ⟨?_, length, small, verified, x ++ y, ?_⟩
  · rw [lsaBody, List.drop_append, headerOctets_length, List.drop_eq_nil_of_le (by
      rw [headerOctets_length]; decide)]
    rfl
  · rw [length]
    exact lsaHeader_headerOctets fits x y twenty body

theorem Finished.bodyHeader (done : Finished header body bytes) :
    ∃ view, Ospf.bodyHeader bytes header.version = some view ∧ view.type = header.type ∧
      view.linkStateId = header.linkStateId := by
  obtain ⟨checksum, read⟩ := done.read
  have small := done.small
  refine ⟨header.view checksum bytes.length, ?_, rfl, rfl⟩
  unfold Ospf.bodyHeader
  rw [read]
  dsimp only
  rw [if_pos]
  show (BitVec.ofNat 16 bytes.length).toNat = bytes.length
  rw [toNat_ofNat, done.length]
  omega

/-- An empty database with room installs it, if its type can be flooded. -/
theorem Finished.install (done : Finished header body bytes) {db : LinkStateDatabase}
    (age : ¬ maxAgeSeconds < header.ageSeconds) (sequence : header.sequenceNumber ≠ 0x80000000#32)
    (known : header.version = .two → knownVersionTwoType header.type = true)
    (scope : header.version = .three → (header.type >>> 13) &&& 3#16 ≠ 3#16)
    (empty : db.records = []) (space : db.maximumRecords ≠ 0) (now : Time)
    (localRouterId : BitVec 32) :
    (db.install bytes header.version now localRouterId false).1 = .installed := by
  obtain ⟨checksum, read⟩ := done.read
  have small := done.small
  have length : (BitVec.ofNat 16 bytes.length).toNat = bytes.length := by
    rw [toNat_ofNat, done.length]
    omega
  have admitted : db.refusal (header.view checksum bytes.length) header.version now localRouterId
      false = none := by
    have absent : db.find (lsaKey (header.view checksum bytes.length)) = none := by
      rw [LinkStateDatabase.find, empty]
      rfl
    have room : ¬ db.records.length = db.maximumRecords := by
      rw [empty]
      exact Ne.symm space
    simp [LinkStateDatabase.refusal, absent, room]
  unfold LinkStateDatabase.install
  rw [read]
  dsimp only
  rw [if_neg, if_neg, if_neg, admitted]
  · rintro ⟨three, reserved⟩
    exact scope three reserved
  · rintro ⟨two, unknown⟩
    have known : knownVersionTwoType (header.view checksum bytes.length).type = true := known two
    rw [known] at unknown
    cases unknown
  · rintro (other | old | none | bad)
    · exact other length
    · exact age old
    · exact sequence none
    · rw [done.verified] at bad
      cases bad

end Finish

end RouterSim.Ospf
