import RouterSim.Lib.Octets
import RouterSim.Lib.Table

/-! Link-state advertisements and the database that owns them: a record keeps the encoded
advertisement, its header is read from the octets when it is needed. -/
namespace RouterSim.Ospf

open Table Octets

/-- A point of the steady clock in nanoseconds. Zero stands for a deadline that is not set. -/
abbrev Time := Int

abbrev seconds (n : Nat) : Int := n * 1000000000

inductive Version
  | two | three
  deriving DecidableEq, Inhabited

structure LsaHeaderView where
  linkStateId : BitVec 32 := 0#32
  advertisingRouter : BitVec 32 := 0#32
  sequenceNumber : BitVec 32 := 0#32
  ageSeconds : BitVec 16 := 0#16
  type : BitVec 16 := 0#16
  checksum : BitVec 16 := 0#16
  length : BitVec 16 := 0#16
  options : BitVec 32 := 0#32
  version : Version := .two
  deriving DecidableEq

abbrev lsaHeaderOctets : Nat := 20

def lsaHeader (bytes : List (BitVec 8)) (version : Version) : Option LsaHeaderView :=
  let length := read16 bytes 18
  let header : LsaHeaderView :=
    { linkStateId := read32 bytes 4, advertisingRouter := read32 bytes 8,
      sequenceNumber := read32 bytes 12, ageSeconds := read16 bytes 0, checksum := read16 bytes 16,
      length, version }
  if bytes.length < lsaHeaderOctets || decide (length < 20#16) then none
  else
    match version with
    | .two =>
      if get bytes 3 = 0#8 then none
      else some { header with
        options := (get bytes 2).setWidth 32, type := (get bytes 3).setWidth 16 }
    | .three =>
      if read16 bytes 2 &&& 0x1fff#16 = 0#16 then none
      else some { header with type := read16 bytes 2 }

theorem lsaHeader_write_age (bytes : List (BitVec 8)) (version : Version) (age : BitVec 16) :
    lsaHeader (write16 bytes 0 age) version =
      (lsaHeader bytes version).map fun header => { header with ageSeconds := age } := by
  have other : ∀ i, 2 ≤ i → get (write16 bytes 0 age) i = get bytes i :=
    fun i hi => get_write16_ne (by omega) (by omega) age
  have other16 : ∀ i, 2 ≤ i → read16 (write16 bytes 0 age) i = read16 bytes i := by
    intro i hi
    simp [read16, other i hi, other (i + 1) (by omega)]
  have other32 : ∀ i, 2 ≤ i → read32 (write16 bytes 0 age) i = read32 bytes i := by
    intro i hi
    simp [read32, other i hi, other (i + 1) (by omega), other (i + 2) (by omega),
      other (i + 3) (by omega)]
  by_cases short : bytes.length < lsaHeaderOctets
  · simp [lsaHeader, short]
  · have written : read16 (write16 bytes 0 age) 0 = age :=
      read16_write16 (by simp only [lsaHeaderOctets] at short; omega) age
    simp only [lsaHeader, length_write16, other 2 (by omega), other 3 (by omega),
      other16 2 (by omega), other16 16 (by omega), other16 18 (by omega), other32 4 (by omega),
      other32 8 (by omega), other32 12 (by omega), written]
    cases version <;> simp only [] <;> repeat' split
    all_goals simp

inductive FloodingScope
  | link | area | autonomousSystem
  deriving DecidableEq

structure LsaKey where
  linkStateId : BitVec 32
  advertisingRouter : BitVec 32
  type : BitVec 16
  scope : FloodingScope
  deriving DecidableEq

def knownVersionThreeType (type : BitVec 16) : Bool :=
  type == 0x2001#16 || type == 0x2002#16 || type == 0x2003#16 || type == 0x2004#16 ||
    type == 0x4005#16 || type == 0x2007#16 || type == 0x0008#16 || type == 0x2009#16

def knownVersionTwoType (type : BitVec 16) : Bool :=
  (1 ≤ type.toNat && type.toNat ≤ 5) || type.toNat == 7 || (9 ≤ type.toNat && type.toNat ≤ 11)

def scopeFor (type : BitVec 16) : Version → FloodingScope
  | .two =>
    if type = 9#16 then .link
    else if type = 5#16 ∨ type = 11#16 then .autonomousSystem
    else .area
  | .three =>
    -- An unknown type without the U bit is link-local whatever scope it encodes.
    if !knownVersionThreeType type && type &&& 0x8000#16 == 0#16 then .link
    else if (type >>> 13) &&& 3#16 = 1#16 then .area
    else if (type >>> 13) &&& 3#16 = 2#16 then .autonomousSystem
    else .link

def lsaKey (header : LsaHeaderView) : LsaKey :=
  { linkStateId := header.linkStateId, advertisingRouter := header.advertisingRouter,
    type := header.type, scope := scopeFor header.type header.version }

abbrev maxAgeSeconds : BitVec 16 := 3600#16

inductive LsaRecency
  | older | identical | newer
  deriving DecidableEq

def compareLsaHeaders (candidate current : LsaHeaderView) : LsaRecency :=
  if candidate.sequenceNumber ≠ current.sequenceNumber then
    if current.sequenceNumber.toInt < candidate.sequenceNumber.toInt then .newer else .older
  else if candidate.checksum ≠ current.checksum then
    if current.checksum < candidate.checksum then .newer else .older
  else if candidate.ageSeconds = maxAgeSeconds ∧ current.ageSeconds ≠ maxAgeSeconds then .newer
  else if current.ageSeconds = maxAgeSeconds ∧ candidate.ageSeconds ≠ maxAgeSeconds then .older
  else
    let difference := if current.ageSeconds < candidate.ageSeconds then
      candidate.ageSeconds.toNat - current.ageSeconds.toNat
      else current.ageSeconds.toNat - candidate.ageSeconds.toNat
    if 900 < difference then
      if candidate.ageSeconds < current.ageSeconds then .newer else .older
    else .identical

structure LsaRecord where
  key : LsaKey
  bytes : List (BitVec 8)
  installedAt : Time := 0
  ageAtInstall : BitVec 16 := 0#16
  lastChecksumCheckAge : BitVec 16 := 0#16
  maxAgeFlooded : Bool := false

def LsaRecord.age (record : LsaRecord) (now : Time) : BitVec 16 :=
  if now ≤ record.installedAt then record.ageAtInstall
  else
    let elapsed := ((now - record.installedAt) / 1000000000).toNat
    BitVec.ofNat 16 (min (record.ageAtInstall.toNat + elapsed) 3600)

def LsaRecord.prematureAge (now : Time) (record : LsaRecord) : LsaRecord :=
  { record with
    bytes := write16 record.bytes 0 maxAgeSeconds, installedAt := now, ageAtInstall := maxAgeSeconds
    maxAgeFlooded := false }

/-- The two running sums of the Fletcher checksum. -/
def fletcher (sums : Nat × Nat) (octet : BitVec 8) : Nat × Nat :=
  let c0 := (sums.1 + octet.toNat) % 255
  (c0, (sums.2 + c0) % 255)

def verifyLsaChecksum (lsa : List (BitVec 8)) : Bool :=
  decide (lsaHeaderOctets ≤ lsa.length) && (lsa.drop 2).foldl fletcher (0, 0) == (0, 0)

inductive InstallResult
  | installed | identical | older | tooSoon | fightBackRequired | ignored | malformed
  | capacityExhausted
  deriving DecidableEq

structure LinkStateDatabase where
  records : List LsaRecord := []
  maximumRecords : Nat

namespace LinkStateDatabase

variable {db : LinkStateDatabase} {key : LsaKey} {now : Time} {version : Version}

def find (db : LinkStateDatabase) (key : LsaKey) : Option LsaRecord :=
  lookup LsaRecord.key key db.records

def change (db : LinkStateDatabase) (key : LsaKey) (f : LsaRecord → LsaRecord) :
    LinkStateDatabase :=
  { db with records := update LsaRecord.key key f db.records }

def erase (db : LinkStateDatabase) (key : LsaKey) : Bool × LinkStateDatabase :=
  match db.find key with
  | none => (false, db)
  | some _ => (true, { db with records := drop LsaRecord.key key db.records })

def prematureAge (db : LinkStateDatabase) (key : LsaKey) (now : Time) : Bool × LinkStateDatabase :=
  match db.find key with
  | none => (false, db)
  | some record =>
    if record.bytes.length < lsaHeaderOctets then (false, db)
    else (true, db.change key (LsaRecord.prematureAge now))

def markMaxAgeFlooded (db : LinkStateDatabase) (key : LsaKey) : Bool × LinkStateDatabase :=
  match db.find key with
  | none => (false, db)
  | some record =>
    if record.ageAtInstall ≠ maxAgeSeconds then (false, db)
    else (true, db.change key fun record => { record with maxAgeFlooded := true })

def verifyChecksumAt (db : LinkStateDatabase) (key : LsaKey) (now : Time) :
    Bool × LinkStateDatabase :=
  match db.find key with
  | none => (false, db)
  | some record =>
    if !verifyLsaChecksum record.bytes then (false, db)
    else (true, db.change key fun record => { record with lastChecksumCheckAge := record.age now })

/-- The record under the key takes the new one's place, or the new one is added. -/
def put (db : LinkStateDatabase) (record : LsaRecord) : LinkStateDatabase :=
  match db.find record.key with
  | some _ => db.change record.key fun _ => record
  | none => { db with records := db.records ++ [record] }

def minLsArrival : Int := seconds 1

/-- Why the advertisement is not installed, if it is not. -/
def refusal (db : LinkStateDatabase) (header : LsaHeaderView) (version : Version) (now : Time)
    (localRouterId : BitVec 32) (receivedFromNeighbor : Bool) : Option InstallResult :=
  match db.find (lsaKey header) with
  | some current =>
    match lsaHeader current.bytes version with
    | none => some .malformed
    | some currentHeader =>
      match compareLsaHeaders header { currentHeader with ageSeconds := current.age now } with
      | .older => some .older
      | .identical => some .identical
      | .newer =>
        if receivedFromNeighbor && header.advertisingRouter == localRouterId then
          some .fightBackRequired
        else if receivedFromNeighbor && decide (current.installedAt < now) &&
            decide (now - current.installedAt < minLsArrival) then some .tooSoon
        else none
  | none =>
    if db.records.length = db.maximumRecords then some .capacityExhausted
    else if receivedFromNeighbor && header.advertisingRouter == localRouterId then
      some .fightBackRequired
    else none

def install (db : LinkStateDatabase) (encodedLsa : List (BitVec 8)) (version : Version)
    (now : Time) (localRouterId : BitVec 32) (receivedFromNeighbor : Bool) :
    InstallResult × LinkStateDatabase :=
  match lsaHeader encodedLsa version with
  | none => (.malformed, db)
  | some header =>
    if header.length.toNat ≠ encodedLsa.length ∨ maxAgeSeconds < header.ageSeconds ∨
        header.sequenceNumber = 0x80000000#32 ∨ verifyLsaChecksum encodedLsa = false then
      (.malformed, db)
    else if version = .two ∧ !knownVersionTwoType header.type then (.ignored, db)
    else if version = .three ∧ (header.type >>> 13) &&& 3#16 = 3#16 then (.ignored, db)
    else
      match db.refusal header version now localRouterId receivedFromNeighbor with
      | some result => (result, db)
      | none =>
        (.installed, db.put
          { key := lsaKey header, bytes := encodedLsa, installedAt := now,
            ageAtInstall := header.ageSeconds, lastChecksumCheckAge := header.ageSeconds })

/-- The records fit, and the header of each can be read. -/
structure WellFormed (version : Version) (db : LinkStateDatabase) : Prop where
  fits : db.records.length ≤ db.maximumRecords
  headers : ∀ record ∈ db.records, (lsaHeader record.bytes version).isSome

variable {received : Bool} {router : BitVec 32} {record : LsaRecord}

theorem refusal_ne_installed {header : LsaHeaderView} {result : InstallResult}
    (h : db.refusal header version now router received = some result) : result ≠ .installed := by
  rintro rfl
  unfold refusal at h
  repeat' split at h
  all_goals cases h

theorem room_of_refusal_none {header : LsaHeaderView}
    (h : db.refusal header version now router received = none)
    (absent : db.find (lsaKey header) = none) : db.records.length ≠ db.maximumRecords := by
  intro eq
  simp [refusal, absent, eq] at h

section

variable (h : WellFormed version db)
include h

theorem change_wellFormed {f : LsaRecord → LsaRecord}
    (reads : ∀ record, (lsaHeader record.bytes version).isSome →
      (lsaHeader (f record).bytes version).isSome) : WellFormed version (db.change key f) where
  fits := by simpa [change] using h.fits
  headers := by
    intro record hm
    obtain hm | ⟨old, hold, _, rfl⟩ := mem_update hm
    · exact h.headers record hm
    · exact reads old (h.headers old hold)

theorem erase_wellFormed : WellFormed version (db.erase key).2 := by
  unfold erase
  cases db.find key with
  | none => exact h
  | some _ =>
    constructor
    · exact Nat.le_trans (List.eraseP_sublist.length_le) h.fits
    · intro record hm
      exact h.headers record (List.eraseP_sublist.subset hm)

theorem markMaxAgeFlooded_wellFormed : WellFormed version (db.markMaxAgeFlooded key).2 := by
  unfold markMaxAgeFlooded
  split
  next => exact h
  split
  next => exact h
  next => exact change_wellFormed h fun record reads => reads

theorem verifyChecksumAt_wellFormed : WellFormed version (db.verifyChecksumAt key now).2 := by
  unfold verifyChecksumAt
  split
  next => exact h
  split
  next => exact h
  next => exact change_wellFormed h fun record reads => reads

theorem prematureAge_wellFormed : WellFormed version (db.prematureAge key now).2 := by
  unfold prematureAge
  split
  next => exact h
  split
  next => exact h
  apply change_wellFormed h
  intro record reads
  rw [LsaRecord.prematureAge, lsaHeader_write_age]
  simpa using reads

theorem put_wellFormed (room : db.find record.key = none → db.records.length ≠ db.maximumRecords)
    (reads : (lsaHeader record.bytes version).isSome) : WellFormed version (db.put record) := by
  unfold put
  cases found : db.find record.key with
  | some _ => exact change_wellFormed h fun _ _ => reads
  | none =>
    have fits := h.fits
    have ne := room found
    constructor
    · simp
      omega
    · intro other hm
      obtain hm | hm := List.mem_append.mp hm
      · exact h.headers other hm
      · obtain rfl := List.mem_singleton.mp hm
        exact reads

theorem install_wellFormed {bytes : List (BitVec 8)} :
    WellFormed version (db.install bytes version now router received).2 := by
  unfold install
  split
  next => exact h
  rename_i header hheader
  split
  next => exact h
  split
  next => exact h
  split
  next => exact h
  split
  next => exact h
  next hrefusal =>
    exact put_wellFormed h (room_of_refusal_none hrefusal) (by simp [hheader])

end

/-! No operation changes the capacity. -/

@[simp] theorem erase_maximumRecords : (db.erase key).2.maximumRecords = db.maximumRecords := by
  unfold erase
  split <;> rfl

@[simp] theorem prematureAge_maximumRecords :
    (db.prematureAge key now).2.maximumRecords = db.maximumRecords := by
  unfold prematureAge
  repeat' split
  all_goals rfl

@[simp] theorem markMaxAgeFlooded_maximumRecords :
    (db.markMaxAgeFlooded key).2.maximumRecords = db.maximumRecords := by
  unfold markMaxAgeFlooded
  repeat' split
  all_goals rfl

@[simp] theorem verifyChecksumAt_maximumRecords :
    (db.verifyChecksumAt key now).2.maximumRecords = db.maximumRecords := by
  unfold verifyChecksumAt
  repeat' split
  all_goals rfl

@[simp] theorem put_maximumRecords : (db.put record).maximumRecords = db.maximumRecords := by
  unfold put
  split <;> rfl

@[simp] theorem install_maximumRecords {bytes : List (BitVec 8)} :
    (db.install bytes version now router received).2.maximumRecords = db.maximumRecords := by
  unfold install
  repeat' split
  all_goals first
    | rfl
    | exact put_maximumRecords

/-! A change of one record leaves the others to be found. -/

section Other

variable {other : LsaKey} {f : LsaRecord → LsaRecord}

theorem find_change_other (keeps : ∀ record, record.key = key → (f record).key = key)
    (ne : other ≠ key) : (db.change key f).find other = db.find other :=
  lookup_update_other keeps ne

theorem find_put_other (ne : other ≠ record.key) : (db.put record).find other = db.find other := by
  unfold put
  cases db.find record.key with
  | some _ => exact find_change_other (fun _ _ => rfl) ne
  | none =>
    show lookup LsaRecord.key other (db.records ++ [record]) = _
    rw [lookup_append, lookup_cons, if_neg (Ne.symm ne), lookup_nil, Option.or_none]
    rfl

theorem find_put_same : (db.put record).find record.key = some record := by
  unfold put
  cases found : db.find record.key with
  | some _ =>
    show lookup LsaRecord.key record.key (update LsaRecord.key record.key
      (fun _ => record) db.records) = _
    rw [lookup_update_same fun _ _ => rfl]
    exact congrArg (Option.map fun _ => record) found
  | none =>
    show lookup LsaRecord.key record.key (db.records ++ [record]) = _
    rw [lookup_append, lookup_cons, if_pos rfl]
    exact congrArg (·.or (some record)) found

/-- What is not installed leaves the database alone, and what is installed is found. -/
theorem install_cases {bytes : List (BitVec 8)} {header : LsaHeaderView}
    (read : lsaHeader bytes version = some header) (now : Time) (router : BitVec 32)
    (received : Bool) :
    (db.install bytes version now router received).1 ≠ .installed ∧
        (db.install bytes version now router received).2 = db ∨
      (db.install bytes version now router received).1 = .installed ∧
        ∃ record, (db.install bytes version now router received).2.find (lsaKey header) =
          some record ∧ record.bytes = bytes := by
  unfold install
  rw [read]
  dsimp only
  split
  next => exact .inl ⟨nofun, rfl⟩
  split
  next => exact .inl ⟨nofun, rfl⟩
  split
  next => exact .inl ⟨nofun, rfl⟩
  split
  next refused => exact .inl ⟨refusal_ne_installed refused, rfl⟩
  next => exact .inr ⟨rfl, _, find_put_same, rfl⟩

theorem find_install_other {bytes : List (BitVec 8)} {header : LsaHeaderView}
    (read : lsaHeader bytes version = some header) (ne : other ≠ lsaKey header)
    (router : BitVec 32) (received : Bool) :
    (db.install bytes version now router received).2.find other = db.find other := by
  unfold install
  rw [read]
  dsimp only
  split
  next => rfl
  split
  next => rfl
  split
  next => rfl
  split
  next => rfl
  next => exact find_put_other ne

theorem find_markMaxAgeFlooded_other (ne : other ≠ key) :
    (db.markMaxAgeFlooded key).2.find other = db.find other := by
  unfold markMaxAgeFlooded
  split
  next => rfl
  split
  next => rfl
  next => exact find_change_other (fun _ same => same) ne

end Other

end LinkStateDatabase

structure GraceLsaView where
  interfaceAddress : Option (BitVec 32) := none
  gracePeriodSeconds : Option (BitVec 32) := none
  reason : Option (BitVec 8) := none

structure TlvView where
  type : BitVec 16
  value : List (BitVec 8)
  rest : List (BitVec 8)

def tlv (body : List (BitVec 8)) : Option TlvView :=
  let length := (read16 body 2).toNat
  let padded := (length + 3) / 4 * 4
  if body.length < 4 ∨ body.length - 4 < padded then none
  else
    some
      { type := read16 body 0, value := (body.drop 4).take length, rest := body.drop (4 + padded) }

/-- What one item adds to the view. -/
def GraceLsaView.item (view : GraceLsaView) (version : Version) (item : TlvView) :
    Option GraceLsaView :=
  if item.type = 1#16 then
    if view.gracePeriodSeconds.isSome ∨ item.value.length ≠ 4 then none
    else some { view with gracePeriodSeconds := some (read32 item.value 0) }
  else if item.type = 2#16 then
    if view.reason.isSome ∨ item.value.length ≠ 1 ∨ 3#8 < get item.value 0 then none
    else some { view with reason := some (get item.value 0) }
  else if item.type = 3#16 then
    if version ≠ .two ∨ view.interfaceAddress.isSome ∨ item.value.length ≠ 4 then none
    else some { view with interfaceAddress := some (read32 item.value 0) }
  else some view

/-- Every item takes at least four octets, so that many steps as there are octets are
enough. -/
def graceItems (version : Version) : Nat → List (BitVec 8) → GraceLsaView → Option GraceLsaView
  | _, [], view => some view
  | 0, _ :: _, _ => none
  | steps + 1, body, view => do
    let item ← tlv body
    graceItems version steps item.rest (← view.item version item)

def graceIdentity (header : LsaHeaderView) : Version → Bool
  | .two => header.type == 9#16 && header.linkStateId >>> 24 == 3#32
  | .three => header.type == 0x000b#16

/-- The grace period and the address of a well-formed Grace-LSA. -/
def parseGraceLsa (encoded : List (BitVec 8)) (version : Version) :
    Option (BitVec 32 × Option (BitVec 32)) := do
  let header ← lsaHeader encoded version
  if header.length.toNat ≠ encoded.length ∨ !graceIdentity header version ∨
      version = .two ∧ header.linkStateId &&& 0x00ffffff#32 ≠ 0#32 then none
  else
    let view ← graceItems version encoded.length (encoded.drop lsaHeaderOctets) {}
    let period ← view.gracePeriodSeconds
    let _ ← view.reason
    if period = 0#32 ∨ 1800#32 < period then none
    else some (period, view.interfaceAddress)

end RouterSim.Ospf
