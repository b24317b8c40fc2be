import RouterSim.Dns.Packet

/-! What the parser finds in an encoded response: the question, whole RRsets of the records from
the first on, and the truncation flag where some are missing. -/
namespace RouterSim.Dns

open List Octets

section Names

variable {message rest : List (BitVec 8)} {offset : Nat} {name : Name}

theorem wire_length_pos (name : Name) : 0 < name.wire.length := by
  unfold Name.wire
  cases name.labels <;> simp [encodeLabels]

theorem labels_length_le (name : Name) : name.labels.length < name.wire.length := by
  unfold Name.wire
  generalize name.labels = labels
  induction labels with
  | nil => simp [encodeLabels]
  | cons label rest ih =>
    rw [length_encodeLabels_cons, length_cons]
    omega

theorem lt_of_drop {first : BitVec 8} (stands : message.drop offset = first :: rest) :
    offset < message.length := by
  apply Nat.lt_of_not_le
  intro le
  rw [drop_eq_nil_of_le le] at stands
  cases stands

theorem parseName_at (stands : message.drop offset = name.wire ++ rest) :
    parseName message offset = some (name, name.octets) := by
  have inside : offset ≤ message.length := by
    apply Nat.le_of_not_lt
    intro lt
    rw [drop_eq_nil_of_le (Nat.le_of_lt lt)] at stands
    have := wire_length_pos name
    have empty := congrArg List.length stands
    rw [length_append, length_nil] at empty
    omega
  have split : message = message.take offset ++ (name.wire ++ rest) := by
    rw [← stands, take_append_drop]
  have found := parseName_wire name (message.take offset) rest
  rwa [← split, length_take, Nat.min_eq_left inside] at found

theorem parseName_pointer {more : List (BitVec 8)}
    (stands : message.drop offset = 0xc0#8 :: 0x0c#8 :: rest)
    (asked : message.drop headerOctets = name.wire ++ more) (later : headerOctets < offset) :
    parseName message offset = some (name, 2) := by
  have after : message.drop (offset + 1) = 0x0c#8 :: rest := by
    rw [← drop_drop, stands]
    rfl
  have inside' := lt_of_drop after
  have first : get message offset = 0xc0#8 := by
    rw [← Nat.add_zero offset, ← get_drop, stands]
    rfl
  have second : get message (offset + 1) = 0x0c#8 := by
    rw [← Nat.add_zero (offset + 1), ← get_drop, after]
    rfl
  have earlier : ¬ offset ≤ 12 := Nat.not_le.mpr later
  have labels : name.labels.length < 128 * (message.length + 1) - 1 := by
    have bound := congrArg List.length asked
    rw [length_drop, length_append] at bound
    have := labels_length_le name
    omega
  have steps : 128 * (message.length + 1) = 128 * (message.length + 1) - 1 + 1 := by omega
  have jump : parseLabels message offset (128 * (message.length + 1) - 1) 12 (some 2) [] =
      some (name, 2) := parseLabels_encode asked (nil_append name.labels) labels
  rw [parseName, if_neg (by omega), steps, parseLabels, if_neg (by omega), first]
  simp only [show (0xc0#8 &&& 0xc0#8 : BitVec 8) = 0xc0#8 from by decide, if_true, second]
  rw [if_neg (by omega)]
  simp [earlier, jump]

end Names

section Records

variable {message rest more : List (BitVec 8)} {offset : Nat} {question : Question}

theorem read16_at {value : BitVec 16} (stands : message.drop offset = octets16 value ++ rest) :
    read16 message offset = value := by
  have first : get message offset = (value >>> 8).setWidth 8 := by
    rw [← Nat.add_zero offset, ← get_drop, stands]
    rfl
  have second : get message (offset + 1) = value.setWidth 8 := by
    rw [← get_drop, stands]
    rfl
  rw [read16, first, second]
  exact append_halves value

theorem read32_at {octets : List (BitVec 8)} (four : octets.length = 4)
    (stands : message.drop offset = octets ++ rest) : read32 message offset = read32 octets 0 := by
  have octet : ∀ i < 4, get message (offset + i) = get octets i := by
    intro i few
    rw [← get_drop, stands, get_append_left (by omega)]
  rw [read32, read32, octet 1 (by omega), octet 2 (by omega), octet 3 (by omega)]
  rw [← Nat.add_zero offset, octet 0 (by omega)]

/-- A record as the parser gives it, from where it stands in the message. -/
def received (question : Question) (offset : Nat) (record : RecordData) : ResourceRecord where
  owner := if equalCaseInsensitive record.owner question.name then question.name else record.owner
  type := record.type
  recordClass := record.recordClass
  ttl := record.ttl
  rdata := record.rdata
  rdataMessageOffset := offset + (writeOwner question record).length + 10

theorem parseName_owner {record : RecordData}
    (stands : message.drop offset = writeOwner question record ++ rest)
    (asked : message.drop headerOctets = question.name.wire ++ more)
    (later : headerOctets < offset) :
    parseName message offset =
      some ((received question offset record).owner, (writeOwner question record).length) := by
  rw [writeOwner] at stands ⊢
  simp only [received]
  split at stands
  next same =>
    rw [if_pos same, if_pos same]
    exact parseName_pointer stands asked later
  next other =>
    rw [if_neg other, if_neg other]
    exact parseName_at stands

/-- The fields after an owner. -/
def fieldOctets (type recordClass : BitVec 16) (ttl rdata : List (BitVec 8)) : List (BitVec 8) :=
  octets16 type ++ (octets16 recordClass ++ (ttl ++
    (octets16 (BitVec.ofNat 16 rdata.length) ++ rdata)))

/-- A record is what its fields say, once its owner is read. -/
theorem parseRecord_fields {owner : Name} {consumed : Nat} {type recordClass : BitVec 16}
    {ttl rdata : List (BitVec 8)} (named : parseName message offset = some (owner, consumed))
    (stands : message.drop (offset + consumed) = fieldOctets type recordClass ttl rdata ++ rest)
    (four : ttl.length = 4) (size : rdata.length ≤ 65535) :
    parseRecord message offset =
      some
        ({ owner, type, recordClass, ttl := read32 ttl 0, rdata,
           rdataMessageOffset := offset + consumed + 10 },
          offset + consumed + 10 + rdata.length) := by
  have octets : (BitVec.ofNat 16 rdata.length).toNat = rdata.length := by
    exact Nat.mod_eq_of_lt (by omega)
  obtain ⟨start, hs⟩ : ∃ start, start = offset + consumed := ⟨_, rfl⟩
  rw [← hs] at stands ⊢
  simp only [fieldOctets, append_assoc] at stands
  have kind : message.drop (start + 2) = octets16 recordClass ++
      (ttl ++ (octets16 (BitVec.ofNat 16 rdata.length) ++ (rdata ++ rest))) := by
    rw [← drop_drop, stands]
    rfl
  have time : message.drop (start + 4) =
      ttl ++ (octets16 (BitVec.ofNat 16 rdata.length) ++ (rdata ++ rest)) := by
    have step : start + 4 = start + 2 + 2 := rfl
    rw [step, ← drop_drop, kind]
    rfl
  have length : message.drop (start + 8) =
      octets16 (BitVec.ofNat 16 rdata.length) ++ (rdata ++ rest) := by
    have step : start + 8 = start + 4 + ttl.length := by omega
    rw [step, ← drop_drop, time, drop_left]
  have data : message.drop (start + 10) = rdata ++ rest := by
    have step : start + 10 = start + 8 + 2 := rfl
    rw [step, ← drop_drop, length]
    rfl
  have total := congrArg List.length stands
  simp only [length_drop, length_append, octets16, length_cons] at total
  have counted : (read16 message (start + 8)).toNat = rdata.length := by
    rw [read16_at length, octets]
  rw [parseRecord, named]
  simp only [← hs]
  rw [if_neg (by omega), if_neg (by omega), counted, if_neg (by omega), data, take_left,
    read16_at stands, read16_at kind, read32_at four time]

theorem parseRecord_write {record : RecordData}
    (stands : message.drop offset = writeRecord question record ++ rest)
    (asked : message.drop headerOctets = question.name.wire ++ more)
    (later : headerOctets < offset) (valid : validRecord record = true) :
    parseRecord message offset =
      some (received question offset record, offset + (writeRecord question record).length) := by
  simp only [validRecord, asserted] at valid
  rw [writeRecord, append_assoc] at stands
  have owner := parseName_owner stands asked later
  have fields : message.drop (offset + (writeOwner question record).length) =
      fieldOctets record.type record.recordClass (octets32 record.ttl) record.rdata ++ rest := by
    rw [← drop_drop, stands, drop_left]
    rfl
  rw [parseRecord_fields owner fields rfl valid.1.2, read32_octets32]
  have written : (writeRecord question record).length =
      (writeOwner question record).length + 10 + record.rdata.length := by
    simp only [writeRecord, length_append, octets16, octets32, length_cons, length_nil]
    omega
  rw [written, ← Nat.add_assoc, ← Nat.add_assoc]
  rfl

end Records

variable {limit : Nat}

section Sections

variable {message rest more : List (BitVec 8)} {offset : Nat} {question : Question}

/-- What a record carries, without regard to the case of its owner. -/
def RecordData.data (record : RecordData) :
    List (List (BitVec 8)) × BitVec 16 × BitVec 16 × BitVec 32 × List (BitVec 8) :=
  (record.owner.key, record.type, record.recordClass, record.ttl, record.rdata)

def ResourceRecord.data (record : ResourceRecord) :
    List (List (BitVec 8)) × BitVec 16 × BitVec 16 × BitVec 32 × List (BitVec 8) :=
  (record.owner.key, record.type, record.recordClass, record.ttl, record.rdata)

theorem received_data (record : RecordData) :
    (received question offset record).data = record.data := by
  simp only [ResourceRecord.data, RecordData.data, received]
  split
  next same => rw [equal_iff.mp same]
  next => rfl

variable {records : List RecordData}

/-- The records of a section are read back one after the other. -/
theorem parseEntries_write
    (stands : message.drop offset = records.flatMap (writeRecord question) ++ rest)
    (asked : message.drop headerOctets = question.name.wire ++ more)
    (later : headerOctets < offset) (valid : ∀ record ∈ records, validRecord record = true) :
    ∃ entries, parseEntries (parseRecord message) records.length offset =
        some (entries, offset + (records.flatMap (writeRecord question)).length) ∧
      entries.map (·.data) = records.map (·.data) := by
  induction records generalizing offset with
  | nil => exact ⟨[], rfl, rfl⟩
  | cons record records ih =>
    rw [flatMap_cons, append_assoc] at stands
    have here := parseRecord_write stands asked later (valid record mem_cons_self)
    have next : message.drop (offset + (writeRecord question record).length) =
        records.flatMap (writeRecord question) ++ rest := by
      rw [← drop_drop, stands, drop_left]
    obtain ⟨entries, found, same⟩ := ih next (by omega)
      fun other mem => valid other (mem_cons_of_mem _ mem)
    refine ⟨received question offset record :: entries, ?_, ?_⟩
    · rw [length_cons, parseEntries, here]
      simp [found, Nat.add_assoc]
    · rw [map_cons, map_cons, received_data, same]

/-- Some of the records from the first on, up to a boundary between RRsets. -/
def WholeRrsets (kept records : List RecordData) : Prop :=
  ∃ left, records = kept ++ left ∧
    ∀ last ∈ kept.getLast?, ∀ first ∈ left.head?, sameRrset last first = false

theorem sameRrset_iff {left right : RecordData} :
    sameRrset left right = true ↔ left.type = right.type ∧
      left.recordClass = right.recordClass ∧ left.owner.key = right.owner.key := by
  simp [sameRrset, equal_iff, and_assoc]

/-- What holds of the RRsets the records are split into. -/
theorem rrsets_spec {steps : Nat} (enough : records.length ≤ steps) :
    (rrsets steps records).flatten = records ∧
      ∀ kept left, rrsets steps records = kept ++ left →
        ∀ last ∈ kept.flatten.getLast?, ∀ first ∈ left.flatten.head?,
          sameRrset last first = false := by
  induction steps generalizing records with
  | zero =>
    obtain rfl := eq_nil_of_length_eq_zero (Nat.le_zero.mp enough)
    refine ⟨rfl, fun kept left split => ?_⟩
    obtain ⟨rfl, rfl⟩ := append_eq_nil_iff.mp split.symm
    simp
  | succ steps ih =>
    cases records with
    | nil =>
      refine ⟨rfl, fun kept left split => ?_⟩
      obtain ⟨rfl, rfl⟩ := append_eq_nil_iff.mp split.symm
      simp
    | cons record rest =>
      have shorter : (rest.dropWhile (sameRrset record)).length ≤ steps := by
        have := (dropWhile_sublist (l := rest) (sameRrset record)).length_le
        simp only [length_cons] at enough
        omega
      obtain ⟨whole, boundary⟩ := ih shorter
      have flat : (rrsets (steps + 1) (record :: rest)).flatten = record :: rest := by
        rw [rrsets, flatten_cons, whole, cons_append, takeWhile_append_dropWhile]
      refine ⟨flat, fun kept left split => ?_⟩
      cases kept with
      | nil => simp
      | cons run kept =>
        rw [rrsets, cons_append] at split
        obtain ⟨rfl, tail⟩ := List.cons.inj split
        intro last lastMem first firstMem
        rw [flatten_cons] at lastMem
        by_cases empty : kept.flatten = []
        · have after : left.flatten = rest.dropWhile (sameRrset record) := by
            rw [← whole, tail, flatten_append, empty, nil_append]
          rw [empty, append_nil] at lastMem
          rw [after] at firstMem
          have same : sameRrset record last = true := by
            obtain rfl | mem := mem_cons.mp (mem_of_getLast? lastMem)
            · simp [sameRrset_iff]
            · exact all_eq_true.mp all_takeWhile last mem
          have other : sameRrset record first = false := by
            have found := List.head?_dropWhile_not (sameRrset record) rest
            rw [firstMem] at found
            exact found
          rw [← Bool.not_eq_true] at other ⊢
          rw [sameRrset_iff] at same other ⊢
          rintro ⟨type, kind, owner⟩
          exact other ⟨same.1.trans type, same.2.1.trans kind, same.2.2.trans owner⟩
        · have lastMem : last ∈ kept.flatten.getLast? := by
            rw [List.getLast?_append] at lastMem
            rw [List.getLast?_eq_some_getLast empty] at lastMem ⊢
            exact lastMem
          exact boundary kept left tail last lastMem first firstMem

theorem length_writeRecord (record : RecordData) :
    (writeRecord question record).length =
      encodedOwnerOctets question record + 10 + record.rdata.length := by
  have owner : (writeOwner question record).length = encodedOwnerOctets question record := by
    rw [writeOwner, encodedOwnerOctets]
    split
    · rfl
    · rfl
  simp only [writeRecord, length_append, octets16, octets32, length_cons, length_nil]
  omega

/-- The space that is asked for is the space that is taken. -/
theorem requiredOctets_eq (rrset : List RecordData) :
    requiredOctets question rrset = (rrset.flatMap (writeRecord question)).length := by
  have all : ∀ start, rrset.foldl (fun required record =>
      required + (encodedOwnerOctets question record + 10 + record.rdata.length)) start =
      start + (rrset.flatMap (writeRecord question)).length := by
    induction rrset with
    | nil => exact fun start => rfl
    | cons record rrset ih =>
      intro start
      rw [foldl_cons, ih, flatMap_cons, length_append, length_writeRecord]
      omega
  rw [requiredOctets, all, Nat.zero_add]

/-- What a section holds of its records. -/
structure Written (question : Question) (limit offset : Nat) (written : Section)
    (kept left : List RecordData) : Prop where
  octets : written.octets = kept.flatMap (writeRecord question)
  count : written.count = kept.length
  valid : ∀ record ∈ kept, validRecord record = true
  fits : offset + written.octets.length ≤ limit
  boundary : ∀ last ∈ kept.getLast?, ∀ first ∈ left.head?, sameRrset last first = false

theorem encodeRrsets_spec {count : Nat} {sets : List (List RecordData)} {written : Section}
    (nonempty : ∀ set ∈ sets, set ≠ []) (room : offset ≤ limit)
    (h : encodeRrsets question limit offset count sets = some written) :
    ∃ kept left, sets = kept ++ left ∧
      written.octets = kept.flatten.flatMap (writeRecord question) ∧
      written.count = count + kept.flatten.length ∧
      (∀ record ∈ kept.flatten, validRecord record = true) ∧
      offset + written.octets.length ≤ limit ∧ (written.truncated = true ↔ left.flatten ≠ []) := by
  induction sets generalizing offset count written with
  | nil =>
    obtain rfl := Option.some.inj h
    exact ⟨[], [], rfl, rfl, rfl, by simp, room, by simp⟩
  | cons set sets ih =>
    rw [encodeRrsets] at h
    split at h
    · cases h
    rename_i valid
    split at h
    next full =>
      obtain rfl := Option.some.inj h
      refine ⟨[], set :: sets, rfl, rfl, rfl, by simp, room, ?_⟩
      simp [nonempty set mem_cons_self]
    next fits =>
      dsimp only at h
      split at h
      next => cases h
      rename_i later made
      obtain rfl := Option.some.inj h
      rw [requiredOctets_eq] at fits
      obtain ⟨kept, left, rfl, octets, counted, ok, below, cut⟩ :=
        ih (fun set mem => nonempty set (mem_cons_of_mem _ mem)) (by omega) made
      refine ⟨set :: kept, left, rfl, ?_, ?_, ?_, ?_, cut⟩
      · rw [flatten_cons, flatMap_append, octets]
      · rw [counted, flatten_cons, length_append]
        omega
      · intro record mem
        obtain mem | mem := mem_append.mp mem
        · have all : set.all validRecord = true := by simpa using valid
          exact all_eq_true.mp all record mem
        · exact ok record mem
      · rw [length_append]
        omega

theorem rrsets_ne_nil {steps : Nat} : ∀ set ∈ rrsets steps records, set ≠ [] := by
  induction steps generalizing records with
  | zero => exact nofun
  | succ steps ih =>
    cases records with
    | nil => exact nofun
    | cons record rest =>
      intro set mem
      obtain rfl | mem := mem_cons.mp mem
      · exact cons_ne_nil _ _
      · exact ih set mem

/-- A section keeps whole RRsets of its records, and is cut short when some are left. -/
theorem encodeSection_spec {truncated : Bool} {written : Section} (room : offset ≤ limit)
    (h : encodeSection question limit offset truncated records = some written) :
    ∃ kept left, records = kept ++ left ∧ Written question limit offset written kept left ∧
      (truncated = true → kept = [] ∧ written.truncated = true) ∧
      (truncated = false → (written.truncated = true ↔ left ≠ [])) := by
  rw [encodeSection] at h
  split at h
  next already =>
    obtain rfl := Option.some.inj h
    refine ⟨[], records, rfl, ⟨rfl, rfl, by simp, room, by simp⟩, fun _ => ⟨rfl, rfl⟩, ?_⟩
    simp [already]
  next not =>
    obtain ⟨kept, left, split, octets, counted, valid, below, cut⟩ :=
      encodeRrsets_spec rrsets_ne_nil room h
    obtain ⟨whole, boundary⟩ := rrsets_spec (Nat.le_refl records.length)
    refine ⟨kept.flatten, left.flatten, ?_, ⟨octets, by omega, valid, below,
      boundary kept left split⟩, fun already => absurd already not, fun _ => cut⟩
    rw [← whole, split, flatten_append]

end Sections

section Response

variable {capacity : Nat} {id : BitVec 16} {question : Question}
  {answers authorities additionals : List RecordData} {configuration : ResponseConfiguration}
  {message rest more : List (BitVec 8)} {offset : Nat}

theorem parseQuestion_at (stands : message.drop offset = question.name.wire ++
      (octets16 question.type ++ (octets16 question.recordClass ++ rest))) :
    parseQuestion message offset = some (question, offset + question.name.octets + 4) := by
  have named := parseName_at stands
  obtain ⟨start, hs⟩ : ∃ start, start = offset + question.name.octets := ⟨_, rfl⟩
  have type : message.drop start =
      octets16 question.type ++ (octets16 question.recordClass ++ rest) := by
    rw [hs, ← drop_drop, stands]
    exact drop_left
  have kind : message.drop (start + 2) = octets16 question.recordClass ++ rest := by
    rw [← drop_drop, type]
    rfl
  have total := congrArg List.length type
  simp only [length_drop, length_append, octets16, length_cons] at total
  rw [parseQuestion, named]
  simp only [← hs]
  rw [if_neg (by omega), if_neg (by omega), read16_at type, read16_at kind]

/-- The pseudo-record of the response. -/
def optData (configuration : ResponseConfiguration) (payload : BitVec 16) :
    List (List (BitVec 8)) × BitVec 16 × BitVec 16 × BitVec 32 × List (BitVec 8) :=
  ([], typeOpt, if payload < 512#16 then 512#16 else payload,
    read32 [configuration.ednsExtendedRcode, configuration.ednsVersion,
      if configuration.dnssecOk then 0x80#8 else 0#8, 0#8] 0, [])

theorem parseRecord_opt {payload : BitVec 16}
    (stands : message.drop offset = optRecord configuration payload ++ rest) :
    ∃ record, parseRecord message offset = some (record, offset + 11) ∧
      record.data = optData configuration payload := by
  have root : message.drop offset = Name.root.wire ++
      (fieldOctets typeOpt (if payload < 512#16 then 512#16 else payload)
        [configuration.ednsExtendedRcode, configuration.ednsVersion,
          if configuration.dnssecOk then 0x80#8 else 0#8, 0#8] [] ++ rest) := stands
  have named := parseName_at root
  have fields : message.drop (offset + Name.root.octets) =
      fieldOctets typeOpt (if payload < 512#16 then 512#16 else payload)
        [configuration.ednsExtendedRcode, configuration.ednsVersion,
          if configuration.dnssecOk then 0x80#8 else 0#8, 0#8] [] ++ rest := by
    rw [← drop_drop, root]
    exact drop_left
  exact ⟨_, parseRecord_fields named fields rfl (by simp), rfl⟩

theorem parseEntries_append {α : Type} {parseOne : Nat → Option (α × Nat)} {n m middle last : Nat}
    {first second : List α} (one : parseEntries parseOne n offset = some (first, middle))
    (two : parseEntries parseOne m middle = some (second, last)) :
    parseEntries parseOne (n + m) offset = some (first ++ second, last) := by
  induction n generalizing offset first with
  | zero =>
    cases one
    rw [Nat.zero_add]
    exact two
  | succ n ih =>
    rw [parseEntries] at one
    split at one
    next => cases one
    rename_i entry next found
    split at one
    next => cases one
    rename_i entries stop more
    cases one
    rw [Nat.succ_add, parseEntries, found]
    simp [ih more]

theorem responseFlags_truncated (truncated : Bool) :
    (responseFlags configuration truncated &&& 0x0200#16 != 0#16) = truncated := by
  simp only [responseFlags]
  generalize configuration.authoritative = a
  generalize configuration.recursionDesired = b
  generalize configuration.recursionAvailable = c
  generalize configuration.authenticData = d
  generalize configuration.checkingDisabled = e
  cases configuration.rcode <;> revert truncated a b c d e <;> decide

theorem parseSection_at {α : Type} {parseOne : Nat → Option (α × Nat)} {storage n : Nat}
    {entries : List α} {last : Nat} (counted : n ≤ 65535) (room : n ≤ storage)
    (found : parseEntries parseOne n offset = some (entries, last)) :
    parseSection parseOne storage (BitVec.ofNat 16 n) offset = some (entries, last) := by
  have count : (BitVec.ofNat 16 n).toNat = n := by
    exact Nat.mod_eq_of_lt (by omega)
  rw [parseSection, count, if_neg (by omega), found]

theorem length_le_octets (records : List RecordData) :
    records.length ≤ (records.flatMap (writeRecord question)).length := by
  induction records with
  | nil => exact Nat.le_refl _
  | cons record records ih =>
    rw [flatMap_cons, length_append, length_writeRecord, length_cons]
    omega

theorem parseEntries_opt (stands : message.drop offset = optOctets configuration) :
    ∃ entries, parseEntries (parseRecord message)
        (if (optOctets configuration).isEmpty then 0 else 1) offset =
        some (entries, offset + (optOctets configuration).length) ∧
      entries.map (·.data) =
        configuration.ednsUdpPayloadSize.toList.map (optData configuration) := by
  rw [optOctets] at stands ⊢
  cases asked : configuration.ednsUdpPayloadSize with
  | none => exact ⟨[], rfl, rfl⟩
  | some payload =>
    rw [asked] at stands
    obtain ⟨record, found, data⟩ := parseRecord_opt (stands.trans (append_nil _).symm)
    refine ⟨[record], ?_, by simp [data]⟩
    have some : (optRecord configuration payload).isEmpty = false := rfl
    simp only [some, settled, parseEntries, found]
    rfl

/-- A section is cut short when the one before it was or when it leaves records itself. -/
theorem truncated_iff {before after : Bool} {left : List RecordData}
    (stays : before = true → after = true) (own : before = false → (after = true ↔ left ≠ [])) :
    after = true ↔ before = true ∨ left ≠ [] := by
  cases before with
  | true => simp [stays rfl]
  | false => simp [own rfl]

theorem responseHeader {octets : List (BitVec 8)} {one two three : Section}
    (whole : responseOctets question id configuration one two three = octets) :
    (parseHeader octets).questionCount = BitVec.ofNat 16 1 ∧
      (parseHeader octets).answerCount = BitVec.ofNat 16 one.count ∧
      (parseHeader octets).authorityCount = BitVec.ofNat 16 two.count ∧
      (parseHeader octets).additionalCount = BitVec.ofNat 16 (three.count +
        if (optOctets configuration).isEmpty then 0 else 1) ∧
      (parseHeader octets).truncated = three.truncated := by
  rw [← whole]
  refine ⟨append_halves _, append_halves _, append_halves _, append_halves _, ?_⟩
  have flag : (responseFlags configuration three.truncated &&& 0x0200#16 != 0#16) =
      three.truncated := responseFlags_truncated three.truncated
  refine Eq.trans ?_ flag
  exact congrArg (· &&& 0x0200#16 != 0#16) (append_halves _)

/-- The parts of a response are read back from where they stand. -/
theorem parse_response {octets : List (BitVec 8)} {one two three : Section}
    {first second third left left' left'' : List RecordData}
    (whole : responseOctets question id configuration one two three = octets)
    (w : Written question limit (headerOctets + (question.name.octets + 4)) one first left)
    (w' : Written question limit
      (headerOctets + (question.name.octets + 4) + one.octets.length) two second left')
    (w'' : Written question limit
      (headerOctets + (question.name.octets + 4) + one.octets.length + two.octets.length) three
      third left'')
    (small : limit + (optOctets configuration).length ≤ 65535) {storage : MessageStorage}
    (questions : 1 ≤ storage.questions) (answersRoom : first.length ≤ storage.answers)
    (authoritiesRoom : second.length ≤ storage.authorities)
    (additionalsRoom : third.length + 1 ≤ storage.additionals) :
    ∃ view, parse octets storage = some view ∧ view.header = parseHeader octets ∧
      view.questions = [question] ∧ view.answers.map (·.data) = first.map RecordData.data ∧
      view.authorities.map (·.data) = second.map RecordData.data ∧
      view.additionals.map (·.data) = third.map RecordData.data ++
        configuration.ednsUdpPayloadSize.toList.map (optData configuration) := by
  have fits := w''.fits
  have asked : octets.drop headerOctets = question.name.wire ++
      (octets16 question.type ++ (octets16 question.recordClass ++
        (one.octets ++ (two.octets ++ (three.octets ++ optOctets configuration))))) := by
    rw [← whole]
    rfl
  obtain ⟨questionCount, answerCount, authorityCount, additionalCount, _⟩ := responseHeader whole
  rw [w.count] at answerCount
  rw [w'.count] at authorityCount
  rw [w''.count] at additionalCount
  have total := congrArg List.length asked
  simp only [length_drop, length_append, octets16, length_cons, length_nil, headerOctets] at total
  have wire : question.name.octets = question.name.wire.length := rfl
  have asking : parseEntries (parseQuestion octets) 1 headerOctets =
      some ([question], headerOctets + (question.name.octets + 4)) := by
    simp [parseEntries, parseQuestion_at asked, Nat.add_assoc]
  have start : octets.drop (headerOctets + (question.name.octets + 4)) =
      first.flatMap (writeRecord question) ++
        (two.octets ++ (three.octets ++ optOctets configuration)) := by
    rw [← w.octets, ← drop_drop, asked, ← drop_drop, wire, drop_left]
    rfl
  obtain ⟨entries, found, data⟩ := parseEntries_write start asked (by omega) w.valid
  have next : octets.drop (headerOctets + (question.name.octets + 4) +
      (first.flatMap (writeRecord question)).length) =
      second.flatMap (writeRecord question) ++ (three.octets ++ optOctets configuration) := by
    rw [← drop_drop, start, drop_left, w'.octets]
  obtain ⟨entries', found', data'⟩ := parseEntries_write next asked (by omega) w'.valid
  have last : octets.drop (headerOctets + (question.name.octets + 4) +
      (first.flatMap (writeRecord question)).length +
      (second.flatMap (writeRecord question)).length) =
      third.flatMap (writeRecord question) ++ optOctets configuration := by
    rw [← drop_drop, next, drop_left, w''.octets]
  obtain ⟨entries'', found'', data''⟩ := parseEntries_write last asked (by omega) w''.valid
  have stop : octets.drop (headerOctets + (question.name.octets + 4) +
      (first.flatMap (writeRecord question)).length +
      (second.flatMap (writeRecord question)).length +
      (third.flatMap (writeRecord question)).length) = optOctets configuration := by
    rw [← drop_drop, last, drop_left]
  obtain ⟨pseudo, foundOpt, dataOpt⟩ := parseEntries_opt stop
  have all := parseEntries_append found'' foundOpt
  have few : first.length ≤ one.octets.length ∧ second.length ≤ two.octets.length ∧
      third.length ≤ three.octets.length := by
    rw [w.octets, w'.octets, w''.octets]
    exact ⟨length_le_octets first, length_le_octets second, length_le_octets third⟩
  have atMost : (if (optOctets configuration).isEmpty then 0 else 1) ≤ 1 := by
    split <;> omega
  have ends : headerOctets + (question.name.octets + 4) +
      (first.flatMap (writeRecord question)).length +
      (second.flatMap (writeRecord question)).length +
      (third.flatMap (writeRecord question)).length +
      (optOctets configuration).length = octets.length := by
    rw [← w.octets, ← w'.octets, ← w''.octets]
    unfold headerOctets
    omega
  have questioned := parseSection_at (by omega) questions asking
  have answered : parseSection (parseRecord octets) storage.answers
      (BitVec.ofNat 16 first.length) _ = _ := parseSection_at (by omega) answersRoom found
  have authorized : parseSection (parseRecord octets) storage.authorities
      (BitVec.ofNat 16 second.length) _ = _ := parseSection_at (by omega) authoritiesRoom found'
  have added : parseSection (parseRecord octets) storage.additionals
      (BitVec.ofNat 16 (third.length + if (optOctets configuration).isEmpty then 0 else 1)) _ = _ :=
    parseSection_at (by omega) (by omega) all
  refine ⟨⟨parseHeader octets, [question], entries, entries', entries'' ++ pseudo⟩, ?_, rfl, rfl,
    data, data', ?_⟩
  · rw [parse, if_neg (by unfold headerOctets; omega)]
    simp only [questionCount, answerCount, authorityCount, additionalCount, questioned, answered,
      authorized, added, ends, ne_eq, settled]
  · rw [map_append, data'', dataOpt]

/-- What a response says, read back: the question, whole RRsets of the records from the first
on, the pseudo-record where it was asked for, and truncation where a record is missing. -/
theorem encode_response_parses {octets : List (BitVec 8)} (small : capacity ≤ 65535)
    (h : encodeResponse question capacity id answers authorities additionals configuration =
      some octets) {storage : MessageStorage} (questions : 1 ≤ storage.questions)
    (answersRoom : answers.length ≤ storage.answers)
    (authoritiesRoom : authorities.length ≤ storage.authorities)
    (additionalsRoom : additionals.length + 1 ≤ storage.additionals) :
    ∃ view first second third, parse octets storage = some view ∧ view.questions = [question] ∧
      view.answers.map (·.data) = first.map RecordData.data ∧
      view.authorities.map (·.data) = second.map RecordData.data ∧
      view.additionals.map (·.data) = third.map RecordData.data ++
        configuration.ednsUdpPayloadSize.toList.map (optData configuration) ∧
      WholeRrsets first answers ∧ WholeRrsets second authorities ∧ WholeRrsets third additionals ∧
      (first ≠ answers → second = []) ∧ (first ++ second ≠ answers ++ authorities → third = []) ∧
      (view.header.truncated = true ↔
        first ++ second ++ third ≠ answers ++ authorities ++ additionals) := by
  rw [encodeResponse] at h
  dsimp only at h
  split at h
  · cases h
  rename_i ok
  simp only [asserted] at ok
  split at h
  next => cases h
  rename_i one made
  split at h
  next => cases h
  rename_i two made'
  split at h
  next => cases h
  rename_i three made''
  obtain ⟨first, left, rfl, w, _, cut⟩ := encodeSection_spec (by omega) made
  have fits := w.fits
  obtain ⟨second, left', rfl, w', stop', cut'⟩ := encodeSection_spec (by omega) made'
  have fits' := w'.fits
  obtain ⟨third, left'', rfl, w'', stop'', cut''⟩ := encodeSection_spec (by omega) made''
  have whole := Option.some.inj h
  rw [length_append] at answersRoom authoritiesRoom additionalsRoom
  obtain ⟨view, parsed, header, question', data, data', data''⟩ := parse_response whole w w'
    w'' (by omega) questions (Nat.le_of_add_right_le answersRoom)
    (Nat.le_of_add_right_le authoritiesRoom) (by omega)
  have truncated := (responseHeader whole).2.2.2.2
  have cutOne := cut rfl
  have cutTwo := truncated_iff (fun already => (stop' already).2) cut'
  have cutThree := truncated_iff (fun already => (stop'' already).2) cut''
  refine ⟨view, first, second, third, parsed, question', data, data', data'',
    ⟨left, rfl, w.boundary⟩, ⟨left', rfl, w'.boundary⟩, ⟨left'', rfl, w''.boundary⟩, ?_, ?_, ?_⟩
  · intro missing
    refine (stop' (cutOne.mpr ?_)).1
    rintro rfl
    simp at missing
  · intro missing
    refine (stop'' (cutTwo.mpr ?_)).1
    refine Classical.byContradiction fun none => missing ?_
    simp only [cutOne, not_or, Classical.not_not] at none
    simp [none.1, none.2]
  · rw [header, truncated, cutThree, cutTwo, cutOne]
    constructor
    · intro missing same
      have lengths := congrArg List.length same
      simp only [length_append] at lengths
      have empty : left = [] ∧ left' = [] ∧ left'' = [] := by
        simp only [← length_eq_zero_iff]
        omega
      simp [empty.1, empty.2.1, empty.2.2] at missing
    · intro missing
      refine Classical.byContradiction fun none => missing ?_
      simp only [not_or, Classical.not_not] at none
      simp [none.1.1, none.1.2, none.2]

/-- Two records of the root, in a buffer that has room for the first RRset and the
pseudo-record. -/
theorem short_response_parses :
    ∃ octets view, encodeResponse ⟨Name.root, typeNs, internetClass⟩ 43 7#16
        [⟨Name.root, typeNs, internetClass, 0#32, [0#8]⟩] []
        [⟨Name.root, typeA, internetClass, 0#32, [10#8, 0#8, 0#8, 1#8]⟩]
        { ednsUdpPayloadSize := some 1232#16 } = some octets ∧
      parse octets ⟨1, 1, 0, 2⟩ = some view ∧
      view.questions = [⟨Name.root, typeNs, internetClass⟩] := by
  have made : (encodeResponse ⟨Name.root, typeNs, internetClass⟩ 43 7#16
      [⟨Name.root, typeNs, internetClass, 0#32, [0#8]⟩] []
      [⟨Name.root, typeA, internetClass, 0#32, [10#8, 0#8, 0#8, 1#8]⟩]
      { ednsUdpPayloadSize := some 1232#16 }).isSome = true := by decide +kernel
  obtain ⟨octets, eq⟩ := Option.isSome_iff_exists.mp made
  obtain ⟨view, _, _, _, parsed, question, _⟩ :=
    encode_response_parses (by decide) eq (by decide : 1 ≤ (⟨1, 1, 0, 2⟩ : MessageStorage).questions)
      (by decide) (by decide) (by decide)
  exact ⟨octets, view, eq, parsed, question⟩

end Response

end RouterSim.Dns
