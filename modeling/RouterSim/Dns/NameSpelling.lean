import RouterSim.Dns.MasterFile

/-! The ways to write a name in a master file, and what is no name. -/
namespace RouterSim.Dns.MasterFile

open Text (ascii)
open List

section Spelling

variable {octet : BitVec 8} {label text current more : List (BitVec 8)}
  {labels staged tail : List (List (BitVec 8))} {name origin : Name}
  {spelled : List (List (BitVec 8) × List (BitVec 8))}

/-- The ways to write an octet of a label. -/
inductive SpellsOctet (octet : BitVec 8) : List (BitVec 8) → Prop
  | itself : octet ≠ dot → octet ≠ backslash → SpellsOctet octet [octet]
  | quoted : Text.isDigit octet = false → SpellsOctet octet [backslash, octet]
  | decimal {high middle low : BitVec 8} : Text.isDigit high = true → Text.isDigit middle = true →
      Text.isDigit low = true → Text.number 10 255 [high, middle, low] = some octet.toNat →
      SpellsOctet octet [backslash, high, middle, low]

inductive Spells : List (BitVec 8) → List (BitVec 8) → Prop
  | nil : Spells [] []
  | cons {octet label first rest} :
      SpellsOctet octet first → Spells label rest → Spells (octet :: label) (first ++ rest)

theorem SpellsOctet.decode (h : SpellsOctet octet text) :
    decodeEscapes (text ++ more) = (decodeEscapes more).map (octet :: ·) := by
  cases h with
  | itself _ slash =>
    rw [singleton_append, decodeEscapes.eq_def]
    exact if_pos slash
  | quoted other =>
    rw [cons_append, singleton_append, decodeEscapes.eq_def]
    simp [other]
  | decimal first _ _ value => simp [decodeEscapes, first, value]

theorem SpellsOctet.whole (h : SpellsOctet octet text) :
    labelTexts false current (text ++ more) = labelTexts false (current ++ text) more := by
  have slash : (backslash == dot) = false := by decide
  cases h with
  | itself stop other => simp [labelTexts, stop, beq_eq_false_iff_ne.mpr other]
  | quoted => simp [labelTexts, slash]
  | decimal _ second third =>
    have other : ∀ c, Text.isDigit c = true → (c == dot) = false ∧ (c == backslash) = false := by
      intro c h
      rw [beq_eq_false_iff_ne, beq_eq_false_iff_ne]
      constructor
      · rintro rfl
        exact absurd h (by decide)
      · rintro rfl
        exact absurd h (by decide)
    simp [labelTexts, slash, other _ second, other _ third]

theorem Spells.decode (h : Spells label text) : decodeEscapes text = some label := by
  induction h with
  | nil => rfl
  | cons first _ ih => rw [first.decode, ih, Option.map_some]

theorem Spells.whole (h : Spells label text) :
    labelTexts false current (text ++ more) = labelTexts false (current ++ text) more := by
  induction h generalizing current with
  | nil => rw [append_nil, nil_append]
  | cons first _ ih => rw [append_assoc, first.whole, ih, append_assoc]

theorem Spells.ne_nil (h : Spells label text) (some : 0 < label.length) : text ≠ [] := by
  cases h with
  | nil => exact absurd some (by decide)
  | cons first => cases first <;> simp

/-- The dots between the labels are the ones that end them. -/
theorem labelTexts_join (spells : ∀ p ∈ spelled, Spells p.1 p.2 ∧ 0 < p.1.length) :
    labelTexts false [] (Text.join dot (spelled.map (·.2))) = spelled.map (·.2) := by
  induction spelled with
  | nil => rfl
  | cons p rest ih =>
    obtain ⟨here, some⟩ := spells p mem_cons_self
    have later := ih fun q mem => spells q (mem_cons_of_mem _ mem)
    cases rest with
    | nil =>
      have whole : labelTexts false [] (p.2 ++ []) = labelTexts false ([] ++ p.2) [] := here.whole
      rw [append_nil] at whole
      simp [Text.join, whole, labelTexts, here.ne_nil some]
    | cons q rest =>
      rw [map_cons, map_cons, Text.join_cons_cons, here.whole]
      simpa [labelTexts] using later

theorem appendLabel_spelled (h : Spells label text)
    (whole : staged ++ label :: tail = name.labels) :
    appendLabel staged text = some (staged ++ [label]) := by
  have size := name.sizes label (by rw [← whole]; simp)
  have nonempty : label ≠ [] := ne_nil_of_length_pos size.1
  have short : ¬ maximumLabelOctets < label.length := Nat.not_lt.mpr size.2
  have space : ¬ maximumNameOctets ≤ (encodeLabels staged).length - 1 + 1 + label.length := by
    have fits := name.fits
    have grown := encodeLabels_append staged (label :: tail)
    rw [whole, length_encodeLabels_cons] at grown
    have : 0 < (encodeLabels tail).length := by cases tail <;> simp [encodeLabels]
    omega
  simp [appendLabel, h.decode, nonempty, short, space]

section

variable (spells : ∀ p ∈ spelled, Spells p.1 p.2)
include spells

theorem foldlM_appendLabel (whole : staged ++ spelled.map (·.1) ++ tail = name.labels) :
    (spelled.map (·.2)).foldlM appendLabel staged = some (staged ++ spelled.map (·.1)) := by
  induction spelled generalizing staged with
  | nil => simp
  | cons p rest ih =>
    have here : appendLabel staged p.2 = some (staged ++ [p.1]) :=
      appendLabel_spelled (spells p mem_cons_self) (by simpa using whole)
    have later := @ih (staged ++ [p.1]) (fun q mem => spells q (mem_cons_of_mem _ mem))
      (by simpa using whole)
    rw [map_cons, foldlM_cons, here]
    simpa using later

/-- The labels as they are spelled, a dot between each two. -/
def textOf (spelled : List (List (BitVec 8) × List (BitVec 8))) : List (BitVec 8) :=
  Text.join dot (spelled.map (·.2))

theorem masterName_absolute (labels : spelled.map (·.1) = name.labels) :
    masterName (textOf spelled ++ [dot]) origin = some name := by
  have not_at : textOf spelled ++ [dot] ≠ ascii "@" := by
    intro same
    have last := congrArg List.getLast? same
    rw [List.getLast?_concat] at last
    exact absurd last (by decide)
  have texts : labelTexts false [] (textOf spelled) = _ := labelTexts_join fun p mem =>
    ⟨spells p mem, (name.sizes p.1 (labels ▸ mem_map_of_mem mem)).1⟩
  have read := foldlM_appendLabel spells (show [] ++ spelled.map (·.1) ++ [] = name.labels by
    simpa using labels)
  simp [masterName, not_at, texts, read, labels, name.ofLabels_labels]

theorem masterName_relative (labels : spelled.map (·.1) ++ origin.labels = name.labels)
    (nonempty : spelled ≠ []) (not_at : textOf spelled ≠ ascii "@")
    (last : (textOf spelled).getLast? ≠ some dot) :
    masterName (textOf spelled) origin = some name := by
  have texts : labelTexts false [] (textOf spelled) = _ := labelTexts_join fun p mem =>
    ⟨spells p mem, (name.sizes p.1 (labels ▸ mem_append_left _ (mem_map_of_mem mem))).1⟩
  have filled : textOf spelled ≠ [] := by
    intro empty
    rw [empty] at texts
    exact nonempty (map_eq_nil_iff.mp texts.symm)
  have read := foldlM_appendLabel spells
    (show [] ++ spelled.map (·.1) ++ origin.labels = name.labels by simpa using labels)
  simp [masterName, not_at, filled, last, texts, read, labels, name.ofLabels_labels]

end

theorem foldlM_empty (mem : [] ∈ labels) : labels.foldlM appendLabel staged = none := by
  induction labels generalizing staged with
  | nil => cases mem
  | cons text rest ih =>
    rw [foldlM_cons]
    obtain rfl | mem := mem_cons.mp mem
    · rfl
    · cases appendLabel staged text with
      | none => rfl
      | some => exact ih mem

theorem masterName_empty_label (long : 1 < text.length) (whole : [] ∈ labelTexts false [] text)
    (short : [] ∈ labelTexts false [] text.dropLast) : masterName text origin = none := by
  have not_at : text ≠ ascii "@" := by
    rintro rfl
    exact absurd long (by decide)
  have filled : text ≠ [] := by
    rintro rfl
    exact absurd long (by decide)
  have empty : [] ∈ labelTexts false []
      (if (text.getLast? == some dot) = true then text.dropLast else text) := by
    split
    · exact short
    · exact whole
  rw [masterName, if_neg not_at, if_neg filled]
  simp only [foldlM_empty empty]

/-- Whether the character behind a text is escaped, where the text begins so. -/
def escapes (escaped : Bool) (text : List (BitVec 8)) : Bool :=
  text.foldl (fun escaped character => !escaped && character == backslash) escaped

theorem labelTexts_two_dots {escaped : Bool} {front back : List (BitVec 8)}
    (h : escapes escaped front = false) :
    [] ∈ labelTexts escaped current (front ++ dot :: dot :: back) := by
  induction front generalizing escaped current with
  | nil =>
    obtain rfl : escaped = false := h
    simp [labelTexts]
  | cons character rest ih =>
    rw [cons_append, labelTexts]
    split
    next stop =>
      obtain ⟨rfl, rfl⟩ : escaped = false ∧ character = dot := by simpa using stop
      exact mem_cons_of_mem _ (ih h)
    · exact ih h

/-- The text of a name is read as the name, however its octets are written: whole where a dot
follows the last label, else below the origin. A text with an empty label is no name. -/
theorem master_name_spellings (origin : Name) :
    (∀ (name : Name) (spelled : List (List (BitVec 8) × List (BitVec 8))),
      (∀ p ∈ spelled, Spells p.1 p.2) →
        (spelled.map (·.1) = name.labels →
          masterName (textOf spelled ++ [dot]) origin = some name) ∧
        (spelled.map (·.1) ++ origin.labels = name.labels → spelled ≠ [] →
          textOf spelled ≠ ascii "@" → (textOf spelled).getLast? ≠ some dot →
          masterName (textOf spelled) origin = some name)) ∧ masterName [] origin = none ∧
      (∀ text, text ≠ [] → masterName (dot :: text) origin = none) ∧
      ∀ front back, escapes false front = false → back ≠ [] →
        masterName (front ++ dot :: dot :: back) origin = none := by
  refine ⟨fun name spelled spells => ⟨masterName_absolute spells, masterName_relative spells⟩,
    rfl, fun text nonempty => ?_, fun front back unescaped nonempty => ?_⟩
  · apply masterName_empty_label
    · simpa using length_pos_iff.mpr nonempty
    · exact mem_cons_self
    · rw [dropLast_cons_of_ne_nil nonempty]
      exact mem_cons_self
  · apply masterName_empty_label
    · simp
      omega
    · exact labelTexts_two_dots unescaped
    · rw [dropLast_append_of_ne_nil (by simp), dropLast_cons_of_ne_nil (by simp),
        dropLast_cons_of_ne_nil nonempty]
      exact labelTexts_two_dots unescaped

/-- An at sign is the origin, a relative name that ends in an escaped dot is none, and of two
dots at the end one is passed over. -/
theorem at_sign_and_last_dots :
    Spells (ascii "@") (ascii "@") ∧ masterName (ascii "@") .root = some .root ∧
      Spells (ascii "a.") (ascii "a\\.") ∧ masterName (ascii "a\\.") .root = none ∧
      masterName (ascii "a..") .root = Name.ofLabels [ascii "a"] :=
  ⟨.cons (.itself (by decide) (by decide)) .nil, by decide,
    .cons (.itself (by decide) (by decide)) (.cons (.quoted (by decide)) .nil), by decide,
    by decide⟩

end Spelling

end RouterSim.Dns.MasterFile
