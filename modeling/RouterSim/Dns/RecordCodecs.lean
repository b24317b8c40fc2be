import RouterSim.Dns.Nsec3Chain
import RouterSim.Dns.NameReading

/-! Signature and denial records: reading one back and writing it again. -/
namespace RouterSim.Dns

open List Octets

section Rrsig

structure Rrsig where
  typeCovered : BitVec 16
  algorithm : BitVec 8
  labels : BitVec 8
  originalTtl : BitVec 32
  signatureExpiration : BitVec 32
  signatureInception : BitVec 32
  keyTag : BitVec 16
  signerName : Name
  signature : List (BitVec 8)

/-- The name in lower case. -/
def canonicalName (name : Name) : Name where
  labels := name.key
  sizes := name.key_sizes
  fits := name.octets_key ▸ name.fits

/-- The octets before the name of the signer. -/
def Rrsig.fixed (value : Rrsig) : List (BitVec 8) :=
  octets16 value.typeCovered ++ value.algorithm :: value.labels ::
    (octets32 value.originalTtl ++ octets32 value.signatureExpiration ++
      octets32 value.signatureInception ++ octets16 value.keyTag)

def encodeRrsig (value : Rrsig) : Option (List (BitVec 8)) :=
  if !validName value.signerName || value.signature.isEmpty then none
  else publish (value.fixed ++ ((canonicalName value.signerName).wire ++ value.signature))

def decodeRrsig (rdata : List (BitVec 8)) : Option Rrsig :=
  if rdata.length < 20 then none
  else
    match parseName rdata 18 with
    | none => none
    | some (signer, octets) =>
      if rdata.length ≤ 18 + octets then none
      else
        some
          { typeCovered := read16 rdata 0, algorithm := get rdata 2, labels := get rdata 3,
            originalTtl := read32 rdata 4, signatureExpiration := read32 rdata 8,
            signatureInception := read32 rdata 12, keyTag := read16 rdata 16,
            signerName := canonicalName signer, signature := rdata.drop (18 + octets) }

/-- The record with the name of the signer in lower case. -/
def lowerSigner (rdata : List (BitVec 8)) : List (BitVec 8) :=
  match parseName rdata 18 with
  | none => rdata
  | some (_, octets) =>
    rdata.take 18 ++ (((rdata.drop 18).take octets).map fold ++ rdata.drop (18 + octets))

variable {rdata : List (BitVec 8)} {value : Rrsig}

theorem fixed_read (h : 18 ≤ rdata.length) (signer : Name) (signature : List (BitVec 8)) :
    Rrsig.fixed ⟨read16 rdata 0, get rdata 2, get rdata 3,
      read32 rdata 4, read32 rdata 8, read32 rdata 12, read16 rdata 16,
      signer, signature⟩ = rdata.take 18 := by
  rw [← map_get h]
  simp only [Rrsig.fixed, octets16_read16, octets32_read32]
  rfl

theorem read_fixed (value : Rrsig) (rest : List (BitVec 8)) :
    read16 (value.fixed ++ rest) 0 = value.typeCovered ∧
      get (value.fixed ++ rest) 2 = value.algorithm ∧ get (value.fixed ++ rest) 3 = value.labels ∧
      read32 (value.fixed ++ rest) 4 = value.originalTtl ∧
      read32 (value.fixed ++ rest) 8 = value.signatureExpiration ∧
      read32 (value.fixed ++ rest) 12 = value.signatureInception ∧
      read16 (value.fixed ++ rest) 16 = value.keyTag :=
  ⟨append_halves _, rfl, rfl, read32_octets32 value.originalTtl,
    read32_octets32 value.signatureExpiration,
    read32_octets32 value.signatureInception, append_halves value.keyTag⟩

theorem canonicalName_canonicalName (name : Name) :
    canonicalName (canonicalName name) = canonicalName name := by
  simp [canonicalName, Name.key, fold_fold]

theorem decodeRrsig_encode (h : encodeRrsig value = some rdata) :
    decodeRrsig rdata = some { value with signerName := canonicalName value.signerName } := by
  simp only [encodeRrsig, publish] at h
  split at h
  · cases h
  rename_i signed
  split at h
  · cases h
  obtain rfl := Option.some.inj h
  have name := parseName_wire (canonicalName value.signerName) value.fixed value.signature
  have eighteen : value.fixed.length = 18 := rfl
  have some : 0 < value.signature.length := by
    apply length_pos_iff.mpr
    simpa using signed
  have wire : (canonicalName value.signerName).wire.length =
    (canonicalName value.signerName).octets := rfl
  have positive : 0 < (canonicalName value.signerName).octets := by
    rw [Name.octets, Name.wire]
    cases (canonicalName value.signerName).labels <;> simp [encodeLabels]
  have signature : (value.fixed ++ ((canonicalName value.signerName).wire ++
      value.signature)).drop (18 + (canonicalName value.signerName).octets) = value.signature := by
    rw [← drop_drop, ← eighteen, drop_left, Name.octets, drop_left]
  rw [eighteen] at name
  rw [decodeRrsig, if_neg (by simp only [length_append]; omega), name]
  dsimp only
  rw [if_neg (by simp only [length_append]; omega), signature,
    canonicalName_canonicalName]
  simp only [Option.some.injEq, Rrsig.mk.injEq, settled]
  exact read_fixed value _

theorem encodeRrsig_decode (h : decodeRrsig rdata = some value) :
    encodeRrsig value = some (lowerSigner rdata) ↔
      Uncompressed rdata 18 ∧ rdata.length ≤ 65535 := by
  rw [decodeRrsig] at h
  split at h
  · cases h
  split at h
  · cases h
  rename_i signer n read
  split at h
  · cases h
  rename_i signed
  obtain rfl := Option.some.inj h
  have whole : 18 ≤ rdata.length := by omega
  have fixed := fixed_read whole (canonicalName signer) (rdata.drop (18 + n))
  have signature : rdata.drop (18 + n) ≠ [] := by
    simp only [ne_eq, drop_eq_nil_iff]
    exact signed
  have wire : (canonicalName (canonicalName signer)).wire = signer.wire.map fold := by
    rw [canonicalName_canonicalName, signer.wire_key]
    rfl
  have lower : lowerSigner rdata = rdata.take 18 ++
      (((rdata.drop 18).take n).map fold ++ rdata.drop (18 + n)) := by
    rw [lowerSigner, read]
  have length : (lowerSigner rdata).length = rdata.length := by
    rw [lower]
    simp only [length_append, length_take, length_map, length_drop]
    omega
  rw [encodeRrsig, validName_eq_true, fixed, wire, publish]
  simp only [signature, settled, List.isEmpty_iff]
  constructor
  · intro same
    split at same
    · cases same
    have same := Option.some.inj same
    refine ⟨?_, by rw [← length, ← same]; omega⟩
    rw [lower] at same
    have names := append_cancel_right (append_cancel_left same)
    exact uncompressed_of_fold names.symm
  · rintro ⟨free, short⟩
    rw [← parseName_exact read free, ← lower, if_neg (by omega)]

end Rrsig


section Denial

variable {rdata : List (BitVec 8)}

theorem length_encodeTypeBitmap {types : List (BitVec 16)} {allowEmpty : Bool}
    {output : List (BitVec 8)} (sorted : types.Pairwise (· < ·))
    (h : encodeTypeBitmap types allowEmpty = some output) : output.length ≤ 34 * 256 := by
  cases types with
  | nil => cases allowEmpty <;> cases h; exact Nat.zero_le _
  | cons type rest =>
    rw [encodeTypeBitmap_sorted sorted (cons_ne_nil _ _)] at h
    obtain rfl := Option.some.inj h
    exact length_encodeWindows 0 (windows_spec sorted).order (fun _ _ => Nat.zero_le _) (by omega)

theorem encodeNsec_decode {value : Nsec} (h : decodeNsec rdata = some value) :
    encodeNsec value = some rdata ↔ Uncompressed rdata 0 := by
  rw [decodeNsec] at h
  split at h
  · cases h
  rename_i next n read
  split at h
  · cases h
  split at h
  · cases h
  rename_i types decoded
  obtain rfl := Option.some.inj h
  obtain ⟨sorted, encoded⟩ := encodeTypeBitmap_decode decoded
  have bitmap := length_encodeTypeBitmap sorted encoded
  have fits := next.fits
  unfold maximumNameOctets at fits
  have small : ¬ 65535 < (next.wire ++ rdata.drop n).length := by
    rw [length_append, Name.wire]
    omega
  simp only [encodeNsec, validName_eq_true, settled, encoded, publish, if_neg small,
    Option.some.injEq]
  constructor
  · intro same
    have whole : rdata.take n ++ rdata.drop n = rdata := take_append_drop n rdata
    have octets := append_cancel_right (same.trans whole.symm)
    exact uncompressed_of_fold (n := n) (by rw [drop_zero, octets])
  · intro free
    rw [← parseName_exact read free]
    exact take_append_drop n rdata

theorem encodeNsec3_decode {value : Nsec3} (h : decodeNsec3 rdata = some value) :
    encodeNsec3 value = some rdata := by
  rw [decodeNsec3] at h
  split at h
  · cases h
  dsimp only at h
  generalize salt : get rdata 4 = saltOctet at h
  split at h
  · cases h
  generalize hash : get rdata (5 + saltOctet.toNat) = hashOctet at h
  split at h
  · cases h
  split at h
  · cases h
  rename_i types decoded
  obtain rfl := Option.some.inj h
  obtain ⟨sorted, encoded⟩ := encodeTypeBitmap_decode decoded
  have bitmap := length_encodeTypeBitmap sorted encoded
  have saltLength : ((rdata.drop 5).take saltOctet.toNat).length = saltOctet.toNat := by
    rw [length_take, length_drop]
    omega
  have hashLength : ((rdata.drop (6 + saltOctet.toNat)).take hashOctet.toNat).length =
      hashOctet.toNat := by
    rw [length_take, length_drop]
    omega
  have guards : ¬ (255 < ((rdata.drop 5).take saltOctet.toNat).length ∨
      (rdata.drop (6 + saltOctet.toNat)).take hashOctet.toNat = [] ∨
      255 < ((rdata.drop (6 + saltOctet.toNat)).take hashOctet.toNat).length) := by
    rw [← length_eq_zero_iff, saltLength, hashLength]
    omega
  have header : [get rdata 0, get rdata 1, get rdata 2, get rdata 3, get rdata 4] = rdata.take 5 :=
    map_get (n := 5) (by omega)
  have salted : (rdata.drop 5).take saltOctet.toNat ++ [hashOctet] =
      (rdata.drop 5).take (saltOctet.toNat + 1) := by
    rw [take_succ_get (by rw [length_drop]; omega), get_drop, hash]
  have rest : (rdata.drop 5).drop (saltOctet.toNat + 1) = rdata.drop (6 + saltOctet.toNat) := by
    rw [drop_drop]
    congr 1
    omega
  have whole : rdata.take 5 ++ ((rdata.drop 5).take saltOctet.toNat ++ [hashOctet] ++
      ((rdata.drop (6 + saltOctet.toNat)).take hashOctet.toNat ++
        rdata.drop (6 + saltOctet.toNat + hashOctet.toNat))) = rdata := by
    rw [← drop_drop (i := hashOctet.toNat), take_append_drop, salted, ← rest,
      take_append_drop, take_append_drop]
  rw [← header, salt] at whole
  rw [encodeNsec3, if_neg guards, encoded]
  dsimp only
  rw [saltLength, hashLength, BitVec.ofNat_toNat, BitVec.ofNat_toNat, BitVec.setWidth_eq,
    BitVec.setWidth_eq, high_read16, low_read16, publish]
  simp only [cons_append, nil_append, append_assoc] at whole
  rw [length_drop] at bitmap
  rw [whole, if_neg (by omega)]

end Denial

/-- An octet string that is read as a record is written again as it was, but for the case of a
signer's name, unless the name in it has a pointer or the string is too long for RDATA. What is
written is always read back. -/
theorem record_codecs_inverse_iff (rdata : List (BitVec 8)) :
    (∀ value, decodeRrsig rdata = some value →
      (encodeRrsig value = some (lowerSigner rdata) ↔
        Uncompressed rdata 18 ∧ rdata.length ≤ 65535)) ∧
    (∀ value, decodeNsec rdata = some value →
      (encodeNsec value = some rdata ↔ Uncompressed rdata 0)) ∧
    (∀ value, decodeNsec3 rdata = some value → encodeNsec3 value = some rdata) ∧
    (∀ types allowEmpty, decodeTypeBitmap rdata allowEmpty = some types →
      types.Pairwise (· < ·) ∧ encodeTypeBitmap types allowEmpty = some rdata) ∧
    (∀ value, encodeRrsig value = some rdata →
      decodeRrsig rdata = some { value with signerName := canonicalName value.signerName }) ∧
    (∀ value : Nsec, value.types.Pairwise (· < ·) → encodeNsec value = some rdata →
      decodeNsec rdata = some value) ∧
    ∀ value : Nsec3, value.types.Pairwise (· < ·) → encodeNsec3 value = some rdata →
      decodeNsec3 rdata = some value :=
  ⟨fun _ => encodeRrsig_decode, fun _ => encodeNsec_decode, fun _ => encodeNsec3_decode,
    fun _ _ => encodeTypeBitmap_decode, fun _ => decodeRrsig_encode,
    fun _ => decodeNsec_encode, fun _ => decodeNsec3_encode⟩

/-- A label that holds a name, and a pointer into it. -/
def compressedNsec : List (BitVec 8) := [3#8, 1#8, 97#8, 0#8, 0xc0#8, 1#8, 0#8, 1#8, 0x40#8]

/-- The signer's name is the zero among the octets before it. -/
def compressedRrsig : List (BitVec 8) := List.replicate 18 0#8 ++ [0xc0#8, 0#8, 1#8]

theorem compressed_names_rewritten :
    (decodeNsec compressedNsec).isSome = true ∧
      (decodeNsec compressedNsec).bind encodeNsec ≠ some compressedNsec ∧
      (decodeRrsig compressedRrsig).isSome = true ∧
      (decodeRrsig compressedRrsig).bind encodeRrsig ≠ some (lowerSigner compressedRrsig) := by
  decide +kernel

end RouterSim.Dns
