import RouterSim.Dns.Wire

/-! That the readers of names always return, what they make of their input, and where they
agree. -/
namespace RouterSim.Dns

open List

section Readers

variable (message : List (BitVec 8)) (start : Nat)

/-- What the reader carries from label to label. -/
structure Reading where
  cursor : Nat
  consumed : Option Nat := none
  labels : List (List (BitVec 8)) := []

/-- One turn of the reader's loop: it returns, or it reads on. -/
def Reading.turn (r : Reading) : Except (Option (List (List (BitVec 8)) × Nat)) Reading :=
  if message.length ≤ r.cursor then .error none
  else
    let length := Octets.get message r.cursor
    let octets := (encodeLabels r.labels).length - 1
    if length &&& 0xc0#8 = 0xc0#8 then
      if message.length ≤ r.cursor + 1 then .error none
      else
        let pointer := (length &&& 0x3f#8).toNat * 256 + (Octets.get message (r.cursor + 1)).toNat
        if r.cursor ≤ pointer then .error none
        else
          .ok { r with
            cursor := pointer, consumed := some (r.consumed.getD (r.cursor + 2 - start)) }
    else if length &&& 0xc0#8 ≠ 0#8 ∨ maximumLabelOctets < length.toNat then .error none
    else if length = 0#8 then
      if maximumNameOctets ≤ octets then .error none
      else .error (some (r.labels, r.consumed.getD (r.cursor + 1 - start)))
    else if message.length < r.cursor + 1 + length.toNat ∨
        maximumNameOctets ≤ octets + 1 + length.toNat then .error none
    else
      .ok { r with
        cursor := r.cursor + 1 + length.toNat
        labels := r.labels ++ [(message.drop (r.cursor + 1)).take length.toNat] }

/-- The loop comes to an end, with the result. -/
inductive Reading.Returns : Reading → Option (List (List (BitVec 8)) × Nat) → Prop
  | last {r result} : r.turn message start = .error result → Returns r result
  | next {r r' result} : r.turn message start = .ok r' → Returns r' result → Returns r result

/-- A label can begin here: only labels come before, back to the start. -/
inductive LabelAt : Nat → Prop
  | first : LabelAt start
  | next {cursor : Nat} : LabelAt cursor → Octets.get message cursor &&& 0xc0#8 ≠ 0xc0#8 →
      Octets.get message cursor ≠ 0#8 → LabelAt (cursor + 1 + (Octets.get message cursor).toNat)

/-- So many octets end with the first pointer or the root. -/
def Ends (consumed : Nat) : Prop :=
  start + consumed ≤ message.length ∧ ∃ cursor, LabelAt message start cursor ∧
    (Octets.get message cursor &&& 0xc0#8 = 0xc0#8 ∧ start + consumed = cursor + 2 ∨
      Octets.get message cursor = 0#8 ∧ start + consumed = cursor + 1)

/-- The reader at a boundary where no pointer may stand. -/
def parseUncompressedLabels : Nat → Nat → List (List (BitVec 8)) →
    Option (List (List (BitVec 8)) × Nat)
  | 0, _, _ => none
  | steps + 1, offset, staged =>
    if message.length ≤ offset then none
    else
      let length := Octets.get message offset
      let octets := (encodeLabels staged).length - 1
      if length &&& 0xc0#8 ≠ 0#8 ∨ maximumLabelOctets < length.toNat ∨
          maximumNameOctets ≤ octets then none
      else if length = 0#8 then some (staged, offset + 1)
      else if message.length - (offset + 1) < length.toNat ∨
          maximumNameOctets - (octets + 1) < length.toNat then none
      else
        parseUncompressedLabels steps (offset + 1 + length.toNat)
          (staged ++ [(message.drop (offset + 1)).take length.toNat])

/-- The labels of the name and the octets it takes. -/
def parseUncompressedName (bytes : List (BitVec 8)) : Option (List (List (BitVec 8)) × Nat) :=
  parseUncompressedLabels bytes (bytes.length + 1) 0 []

end Readers

section Turns

variable {message : List (BitVec 8)} {start steps : Nat} {r r' : Reading}
  {result : Option (List (List (BitVec 8)) × Nat)}

/-- What can be read on from: a pointer that leads backwards, or a label. -/
theorem turn_ok (h : r.turn message start = .ok r') :
    r.cursor < message.length ∧
    ((Octets.get message r.cursor &&& 0xc0#8 = 0xc0#8 ∧ r.cursor + 1 < message.length ∧
        r'.cursor < r.cursor ∧ r'.consumed = some (r.consumed.getD (r.cursor + 2 - start)) ∧
        r'.labels = r.labels) ∨
      ∃ label, label.length = (Octets.get message r.cursor).toNat ∧
        Octets.get message r.cursor &&& 0xc0#8 ≠ 0xc0#8 ∧ Octets.get message r.cursor ≠ 0#8 ∧
        0 < label.length ∧ label.length ≤ maximumLabelOctets ∧
        r.cursor + 1 + label.length ≤ message.length ∧
        (encodeLabels r.labels).length - 1 + 1 + label.length < maximumNameOctets ∧
        label = (message.drop (r.cursor + 1)).take (Octets.get message r.cursor).toNat ∧
        r' = ⟨r.cursor + 1 + label.length, r.consumed, r.labels ++ [label]⟩) := by
  simp only [Reading.turn] at h
  split at h
  · cases h
  rename_i inside
  refine ⟨Nat.lt_of_not_le inside, ?_⟩
  split at h
  next pointer =>
    split at h
    · cases h
    rename_i room
    split at h
    · cases h
    rename_i back
    cases h
    exact .inl ⟨pointer, Nat.lt_of_not_le room, Nat.lt_of_not_le back, rfl, rfl⟩
  next plain =>
    split at h
    · cases h
    split at h
    · split at h <;> cases h
    rename_i more
    split at h
    · cases h
    cases h
    have size : ((message.drop (r.cursor + 1)).take (Octets.get message r.cursor).toNat).length =
          (Octets.get message r.cursor).toNat := by
      rw [length_take, length_drop]
      omega
    have some : (Octets.get message r.cursor).toNat ≠ 0 := fun zero =>
      more (BitVec.eq_of_toNat_eq zero)
    exact .inr ⟨_, size, plain, more, by omega, by omega, by omega, by omega, rfl,
      by rw [size]⟩

/-- What the loop returns: nothing, or at a root the labels before it. -/
theorem turn_error {labels : List (List (BitVec 8))} {consumed : Nat}
    (h : r.turn message start = .error (some (labels, consumed))) :
    r.cursor < message.length ∧ Octets.get message r.cursor = 0#8 ∧ labels = r.labels ∧
      consumed = r.consumed.getD (r.cursor + 1 - start) ∧
      (encodeLabels labels).length - 1 < maximumNameOctets := by
  simp only [Reading.turn] at h
  split at h
  · cases h
  rename_i inside
  split at h
  · split at h
    · cases h
    · split at h <;> cases h
  · split at h
    · cases h
    · split at h
      next root =>
        split at h
        · cases h
        rename_i fits
        cases h
        exact ⟨Nat.lt_of_not_le inside, root, rfl, rfl, Nat.lt_of_not_le fits⟩
      · split at h <;> cases h

theorem parseLabels_turn : parseLabels message start (steps + 1) r.cursor r.consumed r.labels =
    Except.casesOn (r.turn message start)
      (fun result => result.bind fun read => (Name.ofLabels read.1).map (·, read.2))
      fun r => parseLabels message start steps r.cursor r.consumed r.labels := by
  rw [parseLabels, Reading.turn]
  dsimp only
  repeat' split
  all_goals rfl

/-- Labels as a name has them, each with its length. -/
structure Reading.Sound (r : Reading) : Prop where
  few : r.labels.length ≤ 127
  sizes : ∀ label ∈ r.labels, 0 < label.length ∧ label.length ≤ maximumLabelOctets
  octets : 2 * r.labels.length ≤ (encodeLabels r.labels).length - 1

/-- Each label brings the name nearer its limit, each pointer the cursor nearer the start. -/
theorem turn_sound (h : r.turn message start = .ok r') (sound : r.Sound) :
    r'.Sound ∧ (127 - r'.labels.length) * (message.length + 1) + r'.cursor <
      (127 - r.labels.length) * (message.length + 1) + r.cursor := by
  obtain ⟨-, ⟨-, -, back, -, same⟩ | ⟨label, -, -, -, some, short, room, fits, -, rfl⟩⟩ := turn_ok h
  · rw [same]
    exact ⟨⟨same ▸ sound.few, same ▸ sound.sizes, same ▸ sound.octets⟩, by omega⟩
  · have grown := encodeLabels_append r.labels [label]
    have octets := sound.octets
    unfold maximumNameOctets at fits
    simp only [encodeLabels, length_append, length_cons] at grown
    have few : r.labels.length + 1 ≤ 127 := by omega
    have split : (127 - r.labels.length) * (message.length + 1) =
        (127 - (r.labels.length + 1)) * (message.length + 1) + (message.length + 1) := by
      rw [← Nat.succ_mul]
      congr 1
      omega
    refine ⟨⟨?_, fun other mem => ?_, ?_⟩, ?_⟩
    · simpa using few
    · obtain mem | mem := mem_append.mp mem
      · exact sound.sizes other mem
      · obtain rfl := mem_singleton.mp mem
        exact ⟨some, short⟩
    · simp
      omega
    · simp only [length_append, length_singleton]
      omega

theorem parseLabels_returns (sound : r.Sound)
    (h : (127 - r.labels.length) * (message.length + 1) + r.cursor < steps) :
    r.Returns message start
      ((parseLabels message start steps r.cursor r.consumed r.labels).map fun read =>
        (read.1.labels, read.2)) := by
  induction steps generalizing r with
  | zero => omega
  | succ steps ih =>
    rw [parseLabels_turn]
    cases turned : r.turn message start with
    | ok r' =>
      obtain ⟨sound', less⟩ := turn_sound turned sound
      exact .next turned (ih sound' (by omega))
    | error result =>
      refine .last (turned.trans ?_)
      cases result with
      | none => rfl
      | some read =>
        obtain ⟨-, -, same, -, fits⟩ := turn_error turned
        have made : Name.ofLabels read.1 = some ⟨read.1, same ▸ sound.sizes, by omega⟩ :=
          dif_pos ⟨same ▸ sound.sizes, by omega⟩
        simp [made]

/-- What was read is the labels up to a first pointer or root. -/
theorem returns_ends {labels : List (List (BitVec 8))} {n : Nat}
    (h : r.Returns message start (some (labels, n))) :
    (r.consumed = none → LabelAt message start r.cursor → start ≤ r.cursor →
      Ends message start n) ∧ ∀ c, r.consumed = some c → n = c := by
  generalize read : some (labels, n) = result at h
  induction h with
  | last turned =>
    obtain ⟨inside, root, -, consumed, -⟩ := turn_error (read ▸ turned)
    constructor
    · intro none here after
      rw [none, Option.getD_none] at consumed
      exact ⟨by omega, _, here, .inr ⟨root, by omega⟩⟩
    · intro c known
      rw [consumed, known, Option.getD_some]
  | next turned _ ih =>
    obtain ⟨ends, kept⟩ := ih read
    obtain ⟨-, ⟨pointer, room, -, counted, -⟩ | ⟨label, size, plain, more, -, -, -, -, -, rfl⟩⟩ :=
      turn_ok turned
    · have counted := kept _ counted
      constructor
      · intro none here after
        rw [none, Option.getD_none] at counted
        exact ⟨by omega, _, here, .inl ⟨pointer, by omega⟩⟩
      · intro c known
        rw [counted, known, Option.getD_some]
    · refine ⟨fun none here after => ends none ?_ (by dsimp only; omega), kept⟩
      rw [size]
      exact here.next plain more

theorem parseUncompressedLabels_full {offset : Nat} {labels : List (List (BitVec 8))}
    (full : maximumNameOctets ≤ (encodeLabels labels).length - 1) :
    parseUncompressedLabels message steps offset labels = none := by
  cases steps with
  | zero => rfl
  | succ steps =>
    rw [parseUncompressedLabels]
    split
    · rfl
    · exact if_pos (.inr (.inr full))

/-- A turn of one reader is a turn of the other, where there is no pointer. -/
theorem parseUncompressedLabels_turn {offset : Nat} (place : r.cursor = start + offset)
    (none : r.consumed = none) (plain : Octets.get message r.cursor &&& 0xc0#8 ≠ 0xc0#8) :
    parseUncompressedLabels (message.drop start) (steps + 1) offset r.labels =
      Except.casesOn (r.turn message start) (fun result => result) fun r' =>
        parseUncompressedLabels (message.drop start) steps (r'.cursor - start) r'.labels := by
  have first : Octets.get (message.drop start) offset = Octets.get message r.cursor := by
    rw [Octets.get_drop, place]
  have after : (message.drop start).drop (offset + 1) = message.drop (r.cursor + 1) := by
    rw [drop_drop, place]
    rfl
  have root : r.cursor + 1 - start = offset + 1 := by omega
  have past : r.cursor + 1 + (Octets.get message r.cursor).toNat - start =
      offset + 1 + (Octets.get message r.cursor).toNat := by omega
  rw [parseUncompressedLabels, Reading.turn, first, after, length_drop]
  simp only [none, root, if_neg plain]
  by_cases outside : message.length ≤ r.cursor
  · rw [if_pos (by omega), if_pos outside]
  · rw [if_neg (by omega), if_neg outside]
    by_cases high : Octets.get message r.cursor &&& 0xc0#8 ≠ 0#8 ∨
        maximumLabelOctets < (Octets.get message r.cursor).toNat
    · rw [if_pos (by grind), if_pos high]
    · by_cases full : maximumNameOctets ≤ (encodeLabels r.labels).length - 1
      · rw [if_pos (.inr (.inr full)), if_neg high]
        split
        · rfl
        · rw [if_pos (by omega)]
      · rw [if_neg (by grind), if_neg high]
        split
        · rfl
        by_cases long : message.length < r.cursor + 1 + (Octets.get message r.cursor).toNat ∨
            maximumNameOctets ≤ (encodeLabels r.labels).length - 1 + 1 +
              (Octets.get message r.cursor).toNat
        · rw [if_pos long]
          split
          · rfl
          -- The uncompressed reader takes a last label that leaves no room for the root.
          apply parseUncompressedLabels_full
          have grown := encodeLabels_append r.labels
            [(message.drop (r.cursor + 1)).take (Octets.get message r.cursor).toNat]
          simp only [encodeLabels, length_append, length_cons, length_take, length_drop] at grown
          omega
        · rw [if_neg long, if_neg (by omega), ← past]

variable {offset n : Nat} {name : Name} {labels staged : List (List (BitVec 8))}

/-- What the uncompressed reader takes is the wire form of what it reads. -/
theorem parseUncompressedLabels_wire
    (h : parseUncompressedLabels message steps offset staged = some (labels, n))
    (before : (encodeLabels staged).dropLast = message.take offset) :
    message.take n = encodeLabels labels := by
  induction steps generalizing offset staged with
  | zero => cases h
  | succ steps ih =>
    rw [parseUncompressedLabels] at h
    split at h
    · cases h
    rename_i inside
    have inside := Nat.lt_of_not_le inside
    have next := Octets.take_succ_get inside
    dsimp only at h
    split at h
    · cases h
    split at h
    next root =>
      cases h
      have whole := encodeLabels_concat labels []
      rw [append_nil] at whole
      rw [next, ← before, root]
      exact whole.symm
    · split at h
      · cases h
      next room =>
        refine ih h ?_
        have size : ((message.drop (offset + 1)).take (Octets.get message offset).toNat).length =
            (Octets.get message offset).toNat := by
          rw [length_take, length_drop]
          omega
        rw [encodeLabels_concat, before, take_add, next, encodeLabels, size, BitVec.ofNat_toNat,
          BitVec.setWidth_eq, encodeLabels, ← append_assoc, dropLast_concat, append_assoc]
        rfl

/-- No label of the name at this offset is a pointer. -/
def Uncompressed (message : List (BitVec 8)) (start : Nat) : Prop :=
  ∀ cursor, LabelAt message start cursor → Octets.get message cursor &&& 0xc0#8 ≠ 0xc0#8

/-- Where no pointer is met the two readers do the same. -/
theorem returns_uncompressed (h : r.Returns message start result)
    (free : Uncompressed message start) {offset : Nat} (here : LabelAt message start r.cursor) (place : r.cursor = start + offset)
    (none : r.consumed = none) (enough : message.length - r.cursor < steps) :
    parseUncompressedLabels (message.drop start) steps offset r.labels = result := by
  induction h generalizing offset steps with
  | last turned =>
    obtain ⟨steps, rfl⟩ : ∃ n, steps = n + 1 := ⟨steps - 1, by omega⟩
    rw [parseUncompressedLabels_turn place none (free _ here), turned]
  | next turned _ ih =>
    obtain ⟨steps, rfl⟩ : ∃ n, steps = n + 1 := ⟨steps - 1, by omega⟩
    rw [parseUncompressedLabels_turn place none (free _ here), turned]
    obtain ⟨inside, ⟨pointer, -⟩ | ⟨label, size, plain, more, -, -, -, -, -, rfl⟩⟩ := turn_ok turned
    · exact absurd pointer (free _ here)
    · exact ih (size ▸ here.next plain more) (by dsimp only; omega) none (by dsimp only; omega)

/-- Where a name's wire form stands, in letters of either case, only its own labels and the root
begin a label. -/
theorem labelAt_wire {cursor : Nat}
    (same : ∀ k < name.octets, fold (Octets.get message (start + k)) = fold (Octets.get name.wire k))
    (h : LabelAt message start cursor) :
    ∃ k rest, cursor = start + k ∧ rest <:+ name.labels ∧ name.wire.drop k = encodeLabels rest ∧
      Octets.get message cursor &&& 0xc0#8 ≠ 0xc0#8 := by
  have plain : ∀ k rest, rest <:+ name.labels → name.wire.drop k = encodeLabels rest →
      (Octets.get message (start + k)).toNat = (rest.head?.getD []).length ∧
        Octets.get message (start + k) &&& 0xc0#8 ≠ 0xc0#8 := by
    intro k rest suffix stands
    have inside : k < name.octets := by
      apply Nat.lt_of_not_le
      intro outside
      rw [drop_eq_nil_of_le outside] at stands
      cases rest <;> cases stands
    have size : (rest.head?.getD []).length ≤ maximumLabelOctets := by
      cases rest with
      | nil => exact Nat.zero_le _
      | cons label rest => exact (name.sizes label (suffix.subset mem_cons_self)).2
    obtain ⟨length, high⟩ := length_octet size
    have first : Octets.get name.wire k = BitVec.ofNat 8 (rest.head?.getD []).length := by
      rw [← Nat.add_zero k, ← Octets.get_drop, stands]
      cases rest <;> rfl
    have octet := same k inside
    rw [first, fold_length size] at octet
    have small : (fold (Octets.get message (start + k))).toNat ≤ maximumLabelOctets := by
      rw [octet, length]
      exact size
    rw [← fold_small small, octet, length, high]
    exact ⟨rfl, by decide⟩
  induction h with
  | first => exact ⟨0, _, rfl, suffix_refl _, rfl, (plain 0 _ (suffix_refl _) rfl).2⟩
  | next _ _ more ih =>
    obtain ⟨k, rest, rfl, suffix, stands, _⟩ := ih
    have length := (plain k rest suffix stands).1
    cases rest with
    | nil => exact absurd (BitVec.eq_of_toNat_eq length) more
    | cons label rest =>
      have suffix' := (suffix_cons label rest).trans suffix
      have beyond : name.wire.drop (k + 1 + label.length) = encodeLabels rest := by
        rw [Nat.add_assoc, ← drop_drop, stands, encodeLabels, Nat.add_comm 1]
        exact drop_left
      have place : start + k + 1 + (Octets.get message (start + k)).toNat =
          start + (k + 1 + label.length) := by
        rw [length]
        simp only [List.head?_cons, Option.getD_some]
        omega
      rw [place]
      exact ⟨_, rest, rfl, suffix', beyond, (plain _ rest suffix' beyond).2⟩

theorem parseName_returns (message : List (BitVec 8)) (offset : Nat) :
    Reading.Returns message offset { cursor := offset }
      ((parseName message offset).map fun read => (read.1.labels, read.2)) := by
  rw [parseName]
  split
  next outside => exact .last (if_pos outside)
  refine parseLabels_returns ⟨Nat.zero_le _, fun label mem => ?_, Nat.zero_le _⟩ ?_
  · cases mem
  · simp
    omega

theorem parseName_uncompressed {offset : Nat} (free : Uncompressed message offset) :
    (parseName message offset).map (fun read => (read.1.labels, read.2)) =
      parseUncompressedName (message.drop offset) :=
  (returns_uncompressed (parseName_returns message offset) free .first rfl rfl (by simp)).symm

/-- Without pointers the octets taken are the name's own. -/
theorem parseName_exact (h : parseName message start = some (name, n))
    (free : Uncompressed message start) : (message.drop start).take n = name.wire := by
  have read := parseName_uncompressed free
  rw [h] at read
  exact parseUncompressedLabels_wire read.symm rfl

/-- With a pointer they are not, in letters of either case. -/
theorem uncompressed_of_fold (same : ((message.drop start).take n).map fold = name.wire.map fold) :
    Uncompressed message start := by
  intro cursor here
  have get_map : ∀ (bytes : List (BitVec 8)) k,
      Octets.get (bytes.map fold) k = fold (Octets.get bytes k) := by
    intro bytes k
    simp only [Octets.get, getD_eq_getElem?_getD, List.getElem?_map]
    cases bytes[k]? <;> rfl
  have long := congrArg List.length same
  simp only [length_map, length_take] at long
  obtain ⟨_, _, -, -, -, plain⟩ := @labelAt_wire _ _ name _ (fun k inside => by
    rw [← get_map name.wire, ← same, get_map, Octets.get_take (by unfold Name.octets at inside; omega),
      Octets.get_drop]) here
  exact plain

/-- The reader of names comes to an end on every message. What it reads is a name, up to the
first pointer or root; either reader gives the name back from its wire form, and without
pointers they agree. -/
theorem parse_name_sound (message : List (BitVec 8)) (offset : Nat) :
    Reading.Returns message offset { cursor := offset }
        ((parseName message offset).map fun read => (read.1.labels, read.2)) ∧
      (∀ name consumed, parseName message offset = some (name, consumed) →
        name.octets ≤ maximumNameOctets ∧ Ends message offset consumed ∧
        parseName name.wire 0 = some (name, name.octets) ∧
        parseUncompressedName name.wire = some (name.labels, name.octets)) ∧
      ((∀ cursor, LabelAt message offset cursor → Octets.get message cursor &&& 0xc0#8 ≠ 0xc0#8) →
        (parseName message offset).map (fun read => (read.1.labels, read.2)) =
          parseUncompressedName (message.drop offset)) := by
  refine ⟨parseName_returns message offset, fun name consumed read => ?_, parseName_uncompressed⟩
  have returns := parseName_returns message offset
  rw [read] at returns
  have again := parseName_wire_self name
  have plain := @parseName_uncompressed name.wire 0 fun _ here =>
    uncompressed_of_fold (n := name.octets) (by rw [drop_zero, Name.octets, take_length]) _ here
  rw [again] at plain
  exact ⟨name.fits, (returns_ends returns).1 rfl .first (Nat.le_refl _), again, plain.symm⟩

end Turns

end RouterSim.Dns
