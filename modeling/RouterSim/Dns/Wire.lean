import RouterSim.Dns.Name
import RouterSim.Lib.Octets

/-! Names in a message: the reader that expands compression pointers, and that it reads back
the wire form of a name. -/
namespace RouterSim.Dns

open List

/-- The labels from a cursor on. A pointer only leads backwards and a name has at most 255
octets, so every reading ends. `consumed` is known from the first pointer on. -/
def parseLabels (message : List (BitVec 8)) (start : Nat) :
    Nat → Nat → Option Nat → List (List (BitVec 8)) → Option (Name × Nat)
  | 0, _, _, _ => none
  | steps + 1, cursor, consumed, staged =>
    if message.length ≤ cursor then none
    else
      let length := Octets.get message cursor
      let octets := (encodeLabels staged).length - 1
      if length &&& 0xc0#8 = 0xc0#8 then
        if message.length ≤ cursor + 1 then none
        else
          let pointer := (length &&& 0x3f#8).toNat * 256 + (Octets.get message (cursor + 1)).toNat
          if cursor ≤ pointer then none
          else
            parseLabels message start steps pointer
              (some (consumed.getD (cursor + 2 - start))) staged
      else if length &&& 0xc0#8 ≠ 0#8 ∨ maximumLabelOctets < length.toNat then none
      else if length = 0#8 then
        if maximumNameOctets ≤ octets then none
        else (Name.ofLabels staged).map fun name => (name, consumed.getD (cursor + 1 - start))
      else if message.length < cursor + 1 + length.toNat ∨
          maximumNameOctets ≤ octets + 1 + length.toNat then none
      else
        parseLabels message start steps (cursor + 1 + length.toNat) consumed
          (staged ++ [(message.drop (cursor + 1)).take length.toNat])

/-- A name at an offset of a message, and the octets it takes there. -/
def parseName (message : List (BitVec 8)) (offset : Nat) : Option (Name × Nat) :=
  if message.length ≤ offset then none
  else parseLabels message offset (128 * (message.length + 1)) offset none []

/-- The name can be read back whole. -/
def validName (name : Name) : Bool := (parseName name.wire 0).any (·.2 == name.octets)

/-- The labels of the first names stand before the rest, without the root. -/
theorem encodeLabels_concat (staged rest : List (List (BitVec 8))) :
    encodeLabels (staged ++ rest) = (encodeLabels staged).dropLast ++ encodeLabels rest := by
  induction staged with
  | nil => rfl
  | cons label staged ih =>
    have filled : encodeLabels staged ≠ [] := by cases staged <;> simp [encodeLabels]
    rw [cons_append, encodeLabels, encodeLabels, ih, cons_append, cons_append,
      dropLast_cons_of_ne_nil (by simp [filled]), dropLast_append_of_ne_nil filled]
    simp

theorem encodeLabels_append (staged rest : List (List (BitVec 8))) :
    (encodeLabels (staged ++ rest)).length =
      (encodeLabels staged).length - 1 + (encodeLabels rest).length := by
  rw [encodeLabels_concat, length_append, length_dropLast]

section RoundTrip

variable {name : Name} {front back : List (BitVec 8)}

theorem Name.ofLabels_labels (name : Name) : Name.ofLabels name.labels = some name := by
  rw [Name.ofLabels, dif_pos ⟨name.sizes, name.fits⟩]

theorem length_octet {n : Nat} (h : n ≤ maximumLabelOctets) :
    (BitVec.ofNat 8 n).toNat = n ∧ BitVec.ofNat 8 n &&& 0xc0#8 = 0#8 := by
  unfold maximumLabelOctets at h
  constructor
  · rw [BitVec.toNat_ofNat]
    exact Nat.mod_eq_of_lt (by omega)
  · have all : ∀ k : Fin 64, BitVec.ofNat 8 k.val &&& 0xc0#8 = 0#8 := by decide
    exact all ⟨n, by omega⟩

/-- The labels of a name, wherever they stand and however the cursor got there. -/
theorem parseLabels_encode {message : List (BitVec 8)} {start steps cursor : Nat}
    {consumed : Option Nat} {staged rest : List (List (BitVec 8))}
    (stands : message.drop cursor = encodeLabels rest ++ back)
    (whole : staged ++ rest = name.labels) (enough : rest.length < steps) :
    parseLabels message start steps cursor consumed staged =
      some (name, consumed.getD (cursor + (encodeLabels rest).length - start)) := by
  induction rest generalizing cursor staged steps with
  | nil =>
    obtain ⟨steps, rfl⟩ : ∃ n, steps = n + 1 := ⟨steps - 1, by omega⟩
    have inside : ¬ message.length ≤ cursor := by
      intro le
      rw [drop_eq_nil_of_le le] at stands
      simp [encodeLabels] at stands
    have first : Octets.get message cursor = 0#8 := by
      rw [← Nat.add_zero cursor, ← Octets.get_drop, stands]
      rfl
    have fits := name.fits
    rw [append_nil] at whole
    subst whole
    have small : ¬ maximumNameOctets ≤ (encodeLabels name.labels).length - 1 := by
      unfold maximumNameOctets at fits ⊢
      omega
    simp [parseLabels, inside, first, small, name.ofLabels_labels, encodeLabels]
  | cons label rest ih =>
    obtain ⟨steps, rfl⟩ : ∃ n, steps = n + 1 := ⟨steps - 1, by omega⟩
    have inside : ¬ message.length ≤ cursor := by
      intro le
      rw [drop_eq_nil_of_le le] at stands
      simp [encodeLabels] at stands
    have size := name.sizes label (by rw [← whole]; simp)
    obtain ⟨toNat, high⟩ := length_octet size.2
    have first : Octets.get message cursor = BitVec.ofNat 8 label.length := by
      rw [← Nat.add_zero cursor, ← Octets.get_drop, stands]
      rfl
    have ne : BitVec.ofNat 8 label.length ≠ 0#8 := by
      intro zero
      have lengths := congrArg BitVec.toNat zero
      rw [toNat] at lengths
      have empty : label.length = 0 := lengths
      omega
    have after : message.drop (cursor + 1) = label ++ (encodeLabels rest ++ back) := by
      rw [← drop_drop, stands]
      simp [encodeLabels]
    have beyond : message.drop (cursor + 1 + label.length) = encodeLabels rest ++ back := by
      rw [← drop_drop, after]
      simp
    have room : ¬ message.length < cursor + 1 + label.length := by
      have := congrArg List.length after
      simp only [length_drop, length_append] at this
      omega
    have space : ¬ maximumNameOctets ≤ (encodeLabels staged).length - 1 + 1 + label.length := by
      have fits := name.fits
      have grown := encodeLabels_append staged (label :: rest)
      rw [whole, length_encodeLabels_cons] at grown
      have : 0 < (encodeLabels rest).length := by cases rest <;> simp [encodeLabels]
      omega
    have next : parseLabels message start steps (cursor + 1 + label.length) consumed
        (staged ++ [label]) = some (name, consumed.getD
          (cursor + 1 + label.length + (encodeLabels rest).length - start)) :=
      ih beyond (by simpa using whole) (by simp at enough; omega)
    have total : cursor + 1 + label.length + (encodeLabels rest).length =
        cursor + (encodeLabels (label :: rest)).length := by
      rw [length_encodeLabels_cons]
      omega
    have limit : ¬ maximumLabelOctets < label.length := Nat.not_lt.mpr size.2
    simp [parseLabels, inside, first, high, toNat, ne, limit, room, space, after, next, total]

theorem parseName_wire (name : Name) (front back : List (BitVec 8)) :
    parseName (front ++ (name.wire ++ back)) front.length = some (name, name.octets) := by
  have positive : 0 < name.wire.length := by
    unfold Name.wire
    cases name.labels <;> simp [encodeLabels]
  have count : name.labels.length ≤ name.wire.length := by
    unfold Name.wire
    generalize name.labels = labels
    induction labels with
    | nil => simp
    | cons label rest ih =>
      rw [length_encodeLabels_cons, length_cons]
      omega
  have inside : ¬ (front ++ (name.wire ++ back)).length ≤ front.length := by
    simp only [length_append]
    omega
  have read : parseLabels (front ++ (name.wire ++ back)) front.length
      (128 * ((front ++ (name.wire ++ back)).length + 1)) front.length none [] =
      some (name, (none : Option Nat).getD
        (front.length + (encodeLabels name.labels).length - front.length)) := by
    apply parseLabels_encode
    · simp
      rfl
    · rfl
    · simp
      omega
  rw [parseName, if_neg inside, read]
  simp [Name.octets, Name.wire]

theorem parseName_wire_self (name : Name) : parseName name.wire 0 = some (name, name.octets) := by
  simpa using parseName_wire name [] []

@[simp] theorem validName_eq_true (name : Name) : validName name = true := by
  simp [validName, parseName_wire_self]

end RoundTrip

end RouterSim.Dns
