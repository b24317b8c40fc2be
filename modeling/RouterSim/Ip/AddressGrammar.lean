import RouterSim.Ip.AddressText

/-! The grammar of IPv6 text, and what the parser accepts beside it: a text without a dotted
quad may be followed by one colon too many. -/
namespace RouterSim.Ip.AddressText

open List Option

variable {tail : Bool} {text left right piece rest : List (BitVec 8)} {word : BitVec 16}
  {words ls rs acc : List (BitVec 16)} {octets : List (BitVec 8)}

/-- Digits of a base, at least one, and the number they write. -/
def Numeral (base : Nat) (piece : List (BitVec 8)) (value : Nat) : Prop :=
  piece ≠ [] ∧ Text.valueFrom base 0 piece = some value

/-- One to four hexadecimal digits. -/
def Group (piece : List (BitVec 8)) (word : BitVec 16) : Prop :=
  piece.length ≤ 4 ∧ Numeral 16 piece word.toNat

/-- Four decimal numbers of an octet each. -/
inductive Quad : List (BitVec 8) → List (BitVec 8) → Prop
  | mk {pa pb pc pd : List (BitVec 8)} {a b c d : BitVec 8} (ha : Numeral 10 pa a.toNat)
      (hb : Numeral 10 pb b.toNat) (hc : Numeral 10 pc c.toNat) (hd : Numeral 10 pd d.toNat) :
      Quad (pa ++ dot :: (pb ++ dot :: (pc ++ dot :: pd))) [a, b, c, d]

/-- Groups with single colons between them, and a dotted quad at the end if there may be one. -/
inductive Pieces (tail : Bool) : List (BitVec 8) → List (BitVec 16) → Prop
  | group {piece : List (BitVec 8)} {word : BitVec 16} (h : Group piece word) :
      Pieces tail piece [word]
  | quad {piece octets : List (BitVec 8)} (allowed : tail = true) (h : Quad piece octets) :
      Pieces tail piece [Octets.read16 octets 0, Octets.read16 octets 2]
  | more {piece rest : List (BitVec 8)} {word : BitVec 16} {words : List (BitVec 16)}
      (h : Group piece word) (others : Pieces tail rest words) :
      Pieces tail (piece ++ colon :: rest) (word :: words)

/-- What may stand on one side of `::`. -/
def Side (tail : Bool) (text : List (BitVec 8)) (words : List (BitVec 16)) : Prop :=
  text = [] ∧ words = [] ∨ Pieces tail text words

/-- Eight words in full, or fewer around one `::` that stands for the zeros left out. -/
inductive Rfc4291 : List (BitVec 8) → List (BitVec 16) → Prop
  | full {text : List (BitVec 8)} {words : List (BitVec 16)} (h : Pieces true text words)
      (eight : words.length = 8) : Rfc4291 text words
  | compressed {left right : List (BitVec 8)} {ls rs : List (BitVec 16)}
      (hl : Side false left ls) (hr : Side true right rs) (fewer : ls.length + rs.length < 8) :
      Rfc4291 (left ++ colon :: colon :: right)
        (ls ++ List.replicate (8 - ls.length - rs.length) 0#16 ++ rs)

section Characters

variable {base value : Nat} {c : BitVec 8}

theorem digitValue_of_valueFrom {start : Nat} (h : Text.valueFrom base start piece = some value)
    (mem : c ∈ piece) : (Text.digitValue base c).isSome := by
  induction piece generalizing start with
  | nil => cases mem
  | cons d rest ih =>
    unfold Text.valueFrom at h
    split at h
    · cases h
    rename_i digit hdigit
    obtain rfl | mem := mem_cons.mp mem
    · simp [hdigit]
    · exact ih h mem

theorem Numeral.not_mem (h : Numeral base piece value) (other : Text.digitValue base c = none) :
    c ∉ piece := by
  intro mem
  have digit := digitValue_of_valueFrom h.2 mem
  simp [other] at digit

theorem Group.not_mem (h : Group piece word) (other : Text.digitValue 16 c = none) : c ∉ piece :=
  h.2.not_mem other

theorem Quad.dot_mem (h : Quad text octets) : dot ∈ text := by
  cases h
  simp

theorem Quad.not_mem (h : Quad text octets) (other : Text.digitValue 10 c = none) (ne : c ≠ dot) :
    c ∉ text := by
  cases h with
  | mk ha hb hc hd =>
    simp [ne, ha.not_mem other, hb.not_mem other, hc.not_mem other, hd.not_mem other]

end Characters

section Reading

theorem number_iff {base limit value : Nat} :
    Text.number base limit piece = some value ↔ Numeral base piece value ∧ value ≤ limit := by
  unfold Text.number Numeral
  by_cases none : piece = []
  · simp [none]
  · rw [if_neg none]
    cases Text.valueFrom base 0 piece with
    | none => simp
    | some found =>
      by_cases large : limit < found
      · simp
        omega
      · simp [none]
        omega

theorem digitValue_lt {base digit : Nat} {c : BitVec 8} (h : Text.digitValue base c = some digit) :
    digit < base := by
  obtain ⟨small, eq⟩ := ite_none_right_eq_some.mp h
  rwa [← Option.some.inj eq]

/-- A digit more makes a number less than the base times as large. -/
theorem valueFrom_lt {start bound value : Nat} (h : Text.valueFrom 16 start piece = some value)
    (small : start < bound) : value < bound * Nat.pow 16 piece.length := by
  induction piece generalizing start bound with
  | nil =>
    obtain rfl := Option.some.inj h
    simpa using small
  | cons c rest ih =>
    unfold Text.valueFrom at h
    split at h
    · cases h
    rename_i digit hdigit
    have low := digitValue_lt hdigit
    have large : value < bound * 16 * Nat.pow 16 rest.length := ih h (by omega)
    calc value < bound * 16 * Nat.pow 16 rest.length := large
      _ = bound * (Nat.pow 16 rest.length * 16) := by
        rw [Nat.mul_assoc, Nat.mul_comm 16]

theorem group_iff : Group piece word ↔
    piece.length ≤ 4 ∧ Text.number 16 0xffff piece = some word.toNat := by
  rw [Group, number_iff]
  constructor
  · rintro ⟨short, numeral⟩
    exact ⟨short, numeral, by omega⟩
  · rintro ⟨short, numeral, _⟩
    exact ⟨short, numeral⟩

theorem group_of_numeral {value : Nat} (short : piece.length ≤ 4) (h : Numeral 16 piece value) :
    Group piece (BitVec.ofNat 16 value) := by
  have bound : value < 1 * Nat.pow 16 piece.length := valueFrom_lt h.2 (by omega)
  have power : Nat.pow 16 piece.length ≤ Nat.pow 16 4 := Nat.pow_le_pow_right (by omega) short
  have fits : value < 65536 := by
    rw [Nat.one_mul] at bound
    exact Nat.lt_of_lt_of_le bound power
  refine ⟨short, ?_⟩
  rwa [BitVec.toNat_ofNat, Nat.mod_eq_of_lt (by omega)]

theorem decimalOctet_iff {octet : BitVec 8} :
    (Text.number 10 255 piece).map (BitVec.ofNat 8) = some octet ↔
      Numeral 10 piece octet.toNat := by
  constructor
  · intro h
    obtain ⟨value, found, rfl⟩ := map_eq_some_iff.mp h
    obtain ⟨numeral, small⟩ := number_iff.mp found
    rwa [BitVec.toNat_ofNat, Nat.mod_eq_of_lt (by omega)]
  · intro h
    rw [number_iff.mpr ⟨h, by omega⟩, map_some, BitVec.ofNat_toNat, BitVec.setWidth_eq]

theorem dottedQuad_iff : dottedQuad text = some octets ↔ Quad text octets := by
  constructor
  · intro h
    obtain ⟨four, h⟩ := ite_none_left_eq_some.mp h
    rw [← (Text.join_split : Text.join dot (Text.split dot text) = text)]
    generalize Text.split dot text = parts at four h
    rw [ne_eq, Decidable.not_not] at four
    match parts, four, h with
    | [pa, pb, pc, pd], _, h =>
      simp only [mapM_cons, mapM_nil, bind_eq_bind, bind_eq_some_iff,
        decimalOctet_iff, Option.pure_def, Option.some.injEq] at h
      obtain ⟨a, ha, _, ⟨b, hb, _, ⟨c, hc, _, ⟨d, hd, _, rfl, rfl⟩, rfl⟩, rfl⟩, rfl⟩ := h
      exact .mk ha hb hc hd
  · rintro ⟨ha, hb, hc, hd⟩
    rename_i pa pb pc pd a b c d
    have noDot : ∀ {piece : List (BitVec 8)} {value : Nat}, Numeral 10 piece value → dot ∉ piece :=
      fun numeral => numeral.not_mem (by decide)
    have parts : Text.split dot (pa ++ dot :: (pb ++ dot :: (pc ++ dot :: pd))) =
        [pa, pb, pc, pd] := by
      refine Text.split_join (cons_ne_nil pa [pb, pc, pd]) ?_
      simp [noDot ha, noDot hb, noDot hc, noDot hd]
    simp [dottedQuad, parts, decimalOctet_iff.mpr ha, decimalOctet_iff.mpr hb,
      decimalOctet_iff.mpr hc, decimalOctet_iff.mpr hd]

end Reading

/-! ## The loop over the words -/

theorem Pieces.ne_nil (h : Pieces tail text words) : text ≠ [] := by
  cases h with
  | group h => exact h.2.1
  | quad _ h =>
    have := h.dot_mem
    intro eq
    rw [eq] at this
    cases this
  | more _ _ => simp

theorem last_append {front back : List (BitVec 8)} (h : back ≠ []) :
    (front ++ back).getLast? = back.getLast? := by
  cases back with
  | nil => exact absurd rfl h
  | cons c back => simp [List.getLast?_cons]

theorem Pieces.getLast?_ne (h : Pieces tail text words) : text.getLast? ≠ some colon := by
  induction h with
  | group h =>
    intro last
    exact h.not_mem (by decide) (mem_of_getLast? last)
  | quad _ h =>
    intro last
    exact h.not_mem (by decide) (by decide) (mem_of_getLast? last)
  | more _ others ih =>
    rwa [last_append (cons_ne_nil _ _), List.getLast?_cons_of_ne_nil others.ne_nil]

theorem Pieces.head?_ne (h : Pieces tail text words) : text.head? ≠ some colon := by
  cases h with
  | group h =>
    intro first
    exact h.not_mem (by decide) (mem_of_head? first)
  | quad _ h =>
    intro first
    exact h.not_mem (by decide) (by decide) (mem_of_head? first)
  | @more piece rest word words h others =>
    cases piece with
    | nil => exact absurd rfl h.2.1
    | cons c piece =>
      intro first
      apply h.not_mem (c := colon) (by decide)
      rw [Option.some.inj first]
      exact mem_cons_self

theorem Pieces.plain (h : Pieces tail text words) (noDot : dot ∉ text) : Pieces false text words := by
  induction h with
  | group h => exact .group h
  | quad _ h => exact absurd h.dot_mem noDot
  | more h _ ih =>
    simp only [mem_append, mem_cons, not_or] at noDot
    exact .more h (ih noDot.2.2)

theorem Pieces.noDot (h : Pieces false text words) : dot ∉ text := by
  induction h with
  | group h => exact h.not_mem (by decide)
  | quad allowed _ => cases allowed
  | more h _ ih =>
    have first := h.not_mem (c := dot) (by decide)
    simp [first, ih, show dot ≠ colon by decide]

theorem Pieces.tailed (h : Pieces false text words) : Pieces tail text words := by
  induction h with
  | group h => exact .group h
  | quad allowed _ => cases allowed
  | more h _ ih => exact .more h ih

/-- What the loop takes: nothing, pieces, or pieces without a quad and one colon too many. -/
def Taken (tail : Bool) (text : List (BitVec 8)) (words : List (BitVec 16)) : Prop :=
  Side tail text words ∨ ∃ front, text = front ++ [colon] ∧ Pieces false front words

theorem append_separator_inj {separator : BitVec 8} {a b x y : List (BitVec 8)}
    (ha : separator ∉ a) (hb : separator ∉ b) (h : a ++ separator :: x = b ++ separator :: y) :
    a = b ∧ x = y := by
  induction a generalizing b with
  | nil =>
    cases b with
    | nil => exact ⟨rfl, (List.cons.inj h).2⟩
    | cons d b =>
      have := (List.cons.inj h).1
      subst this
      exact absurd mem_cons_self hb
  | cons c a ih =>
    rw [mem_cons, not_or] at ha
    cases b with
    | nil => exact absurd (List.cons.inj h).1.symm ha.1
    | cons d b =>
      rw [mem_cons, not_or] at hb
      obtain ⟨rfl, tails⟩ := List.cons.inj h
      obtain ⟨rfl, rfl⟩ := ih ha.2 hb.2 tails
      exact ⟨rfl, rfl⟩

theorem taken_piece (noColon : colon ∉ piece) (nonempty : piece ≠ []) :
    Taken tail piece words ↔ (∃ word, words = [word] ∧ Group piece word) ∨
      tail = true ∧ ∃ octets, Quad piece octets ∧
        words = [Octets.read16 octets 0, Octets.read16 octets 2] := by
  constructor
  · rintro ((⟨eq, -⟩ | h) | ⟨front, rfl, -⟩)
    · exact absurd eq nonempty
    · cases h with
      | group h => exact .inl ⟨_, rfl, h⟩
      | quad allowed h => exact .inr ⟨allowed, _, h, rfl⟩
      | more _ _ => simp at noColon
    · simp at noColon
  · rintro (⟨word, rfl, h⟩ | ⟨allowed, octets, h, rfl⟩)
    · exact .inl (.inr (.group h))
    · exact .inl (.inr (.quad allowed h))

theorem taken_more (noColon : colon ∉ piece) :
    Taken tail (piece ++ colon :: rest) words ↔
      ∃ word others, words = word :: others ∧ Group piece word ∧ Taken tail rest others := by
  constructor
  · rintro ((⟨eq, -⟩ | h) | ⟨front, eq, h⟩)
    · simp at eq
    · generalize htext : piece ++ colon :: rest = text at h
      cases h with
      | group h =>
        rw [← htext] at h
        exact absurd (by simp) (h.not_mem (c := colon) (by decide))
      | quad _ h =>
        rw [← htext] at h
        exact absurd (by simp) (h.not_mem (c := colon) (by decide) (by decide))
      | more h others =>
        obtain ⟨rfl, rfl⟩ := append_separator_inj noColon (h.not_mem (by decide)) htext
        exact ⟨_, _, rfl, h, .inl (.inr others)⟩
    · cases h with
      | group h =>
        obtain ⟨rfl, rfl⟩ := append_separator_inj noColon (h.not_mem (by decide)) eq
        exact ⟨_, _, rfl, h, .inl (.inl ⟨rfl, rfl⟩)⟩
      | quad allowed _ => cases allowed
      | more h others =>
        rw [append_assoc, cons_append] at eq
        obtain ⟨rfl, rfl⟩ := append_separator_inj noColon (h.not_mem (by decide)) eq
        exact ⟨_, _, rfl, h, .inr ⟨_, rfl, others⟩⟩
  · rintro ⟨word, others, rfl, h, (⟨rfl, rfl⟩ | taken) | ⟨front, rfl, taken⟩⟩
    · exact .inr ⟨piece, rfl, .group h⟩
    · exact .inl (.inr (.more h taken))
    · exact .inr ⟨piece ++ colon :: front, by simp, .more h taken⟩

variable {tokens : List (List (BitVec 8))}

theorem parseWords_group (nonempty : piece ≠ []) (noDot : dot ∉ piece) (room : acc.length ≤ 8) :
    parseWords tail (piece :: tokens) acc = some words ↔
      ∃ word, Group piece word ∧ acc.length < 8 ∧
        parseWords tail tokens (acc ++ [word]) = some words := by
  rw [parseWords, if_neg nonempty, if_neg noDot]
  by_cases refused : 4 < piece.length ∨ acc.length = 8
  · rw [if_pos refused]
    constructor
    · intro h
      cases h
    · rintro ⟨word, h, free, -⟩
      have := h.1
      omega
  · rw [if_neg refused]
    rw [not_or, Nat.not_lt] at refused
    cases read : Text.number 16 0xffff piece with
    | none =>
      constructor
      · intro h
        cases h
      · rintro ⟨word, h, -⟩
        rw [(group_iff.mp h).2] at read
        cases read
    | some value =>
      constructor
      · intro h
        exact ⟨_, group_of_numeral refused.1 (number_iff.mp read).1, by omega, h⟩
      · rintro ⟨word, h, -, taken⟩
        rw [(group_iff.mp h).2] at read
        obtain rfl := Option.some.inj read
        simpa using taken

/-- A token with a dot is the last one, and adds two words. -/
theorem parseWords_quad (hdot : dot ∈ piece) :
    parseWords tail (piece :: tokens) acc = some words ↔
      tail = true ∧ tokens = [] ∧ acc.length ≤ 6 ∧ ∃ octets, Quad piece octets ∧
        words = acc ++ [Octets.read16 octets 0, Octets.read16 octets 2] := by
  rw [parseWords, if_neg (ne_nil_of_mem hdot), if_pos hdot]
  simp only [ite_none_left_eq_some, map_eq_some_iff, dottedQuad_iff, asserted, not_or, refuted,
    Nat.not_lt, Decidable.not_not, and_assoc]
  constructor
  · rintro ⟨allowed, last, room, octets, h, rfl⟩
    exact ⟨allowed, last, room, octets, h, rfl⟩
  · rintro ⟨allowed, last, room, octets, h, rfl⟩
    exact ⟨allowed, last, room, octets, h, rfl⟩

theorem parseWords_iff (noColon : ∀ token ∈ tokens, colon ∉ token) (nonempty : tokens ≠ [])
    (room : acc.length ≤ 8) :
    parseWords tail tokens acc = some words ↔
      ∃ added, words = acc ++ added ∧ acc.length + added.length ≤ 8 ∧
        Taken tail (Text.join colon tokens) added := by
  induction tokens generalizing acc with
  | nil => exact absurd rfl nonempty
  | cons piece rest ih =>
    have first := noColon piece mem_cons_self
    have others := fun token h => noColon token (mem_cons_of_mem piece h)
    cases rest with
    | nil =>
      rw [Text.join]
      by_cases empty : piece = []
      · subst empty
        rw [parseWords, if_pos rfl, if_pos rfl, Option.some.injEq]
        constructor
        · rintro rfl
          exact ⟨[], by simp, by simpa using room, .inl (.inl ⟨rfl, rfl⟩)⟩
        · rintro ⟨added, eq, -, (⟨-, rfl⟩ | h) | ⟨front, eq', -⟩⟩
          · rw [eq, append_nil]
          · exact absurd rfl h.ne_nil
          · simp at eq'
      by_cases hdot : dot ∈ piece
      · rw [parseWords_quad hdot]
        simp only [taken_piece first empty]
        constructor
        · rintro ⟨allowed, -, free, octets, h, rfl⟩
          exact ⟨_, rfl, by simp; omega, .inr ⟨allowed, octets, h, rfl⟩⟩
        · rintro ⟨added, rfl, free, ⟨word, rfl, h⟩ | ⟨allowed, octets, h, rfl⟩⟩
          · exact absurd hdot (h.not_mem (by decide))
          · exact ⟨allowed, trivial, by simp at free; omega, octets, h, rfl⟩
      · rw [parseWords_group empty hdot room]
        simp only [taken_piece first empty, parseWords, Option.some.injEq]
        constructor
        · rintro ⟨word, h, free, rfl⟩
          exact ⟨[word], rfl, free, .inl ⟨word, rfl, h⟩⟩
        · rintro ⟨added, rfl, free, ⟨word, rfl, h⟩ | ⟨allowed, octets, h, rfl⟩⟩
          · exact ⟨word, h, free, rfl⟩
          · exact absurd h.dot_mem hdot
    | cons next rest =>
      rw [Text.join_cons_cons]
      simp only [taken_more first]
      by_cases empty : piece = []
      · subst empty
        constructor
        · intro h
          cases h
        · rintro ⟨_, -, -, word, _, -, h, -⟩
          exact absurd rfl h.2.1
      by_cases hdot : dot ∈ piece
      · rw [parseWords_quad hdot]
        constructor
        · rintro ⟨-, last, -⟩
          cases last
        · rintro ⟨_, -, -, word, _, -, h, -⟩
          exact absurd hdot (h.not_mem (by decide))
      · rw [parseWords_group empty hdot room]
        constructor
        · rintro ⟨word, h, free, taken⟩
          have room' : (acc ++ [word]).length ≤ 8 := by
            rw [length_append]
            exact free
          obtain ⟨added, rfl, fits, taken⟩ := (ih others (cons_ne_nil _ _) room').mp taken
          refine ⟨word :: added, by simp, ?_, word, added, rfl, h, taken⟩
          simp only [length_append, length_cons] at fits ⊢
          omega
        · rintro ⟨_, rfl, fits, word, added, rfl, h, taken⟩
          rw [length_cons] at fits
          have free : acc.length < 8 := by omega
          have room' : (acc ++ [word]).length ≤ 8 := by
            rw [length_append]
            exact free
          refine ⟨word, h, free, ?_⟩
          refine (ih others (cons_ne_nil _ _) room').mpr ⟨added, by simp, ?_, taken⟩
          simp only [length_append, length_cons, length_nil]
          omega

theorem parseWords_split_iff :
    parseWords tail (Text.split colon text) [] = some words ↔
      words.length ≤ 8 ∧ Taken tail text words := by
  rw [parseWords_iff (fun _ => Text.not_mem_of_split) Text.split_ne_nil (by simp), Text.join_split]
  simp

/-! ## The compression mark -/

theorem compression_cons_cons {c d : BitVec 8} (apart : ¬ (c = colon ∧ d = colon)) :
    compression (c :: d :: rest) =
      (compression (d :: rest)).map fun sides => (c :: sides.1, sides.2) := by
  rw [compression, if_neg apart]

theorem compression_eq_some (h : compression text = some (left, right)) :
    text = left ++ colon :: colon :: right ∧ left.getLast? ≠ some colon ∧
      compression left = none := by
  induction text generalizing left with
  | nil => cases h
  | cons c rest ih =>
    cases rest with
    | nil => cases h
    | cons d rest =>
      by_cases mark : c = colon ∧ d = colon
      · rw [compression, if_pos mark] at h
        obtain ⟨rfl, rfl⟩ := Prod.mk.inj (Option.some.inj h)
        obtain ⟨rfl, rfl⟩ := mark
        exact ⟨rfl, by simp, rfl⟩
      · rw [compression_cons_cons mark] at h
        obtain ⟨⟨front, back⟩, found, eq⟩ := map_eq_some_iff.mp h
        obtain ⟨rfl, rfl⟩ := Prod.mk.inj eq
        obtain ⟨htext, last, plain⟩ := ih found
        cases front with
        | nil =>
          obtain ⟨rfl, -⟩ := List.cons.inj htext
          refine ⟨by rw [htext]; rfl, ?_, rfl⟩
          intro eq
          exact mark ⟨by simpa using eq, rfl⟩
        | cons e front =>
          obtain ⟨rfl, -⟩ := List.cons.inj htext
          refine ⟨by rw [htext]; rfl, ?_, ?_⟩
          · rwa [List.getLast?_cons_cons]
          · rw [compression_cons_cons mark, plain]
            rfl

/-- A text without a mark that does not end in a colon has no part in the marks after it. -/
theorem compression_append (last : left.getLast? ≠ some colon) (plain : compression left = none) :
    compression (left ++ colon :: right) =
      (compression (colon :: right)).map fun sides => (left ++ sides.1, sides.2) := by
  induction left with
  | nil => exact map_id'.symm
  | cons c rest ih =>
    cases rest with
    | nil =>
      have ne : c ≠ colon := by simpa using last
      exact compression_cons_cons fun mark => ne mark.1
    | cons d rest =>
      by_cases mark : c = colon ∧ d = colon
      · rw [compression, if_pos mark] at plain
        cases plain
      · rw [compression_cons_cons mark, map_eq_none_iff] at plain
        rw [cons_append, cons_append, compression_cons_cons mark, ← cons_append,
          ih last plain, Option.map_map]
        rfl

theorem compression_append_plain (noColon : colon ∉ piece) (plain : compression rest = none) :
    compression (piece ++ rest) = none := by
  induction piece with
  | nil => exact plain
  | cons c piece ih =>
    rw [mem_cons, not_or] at noColon
    have others := ih noColon.2
    rw [cons_append]
    cases htail : piece ++ rest with
    | nil => rfl
    | cons d more =>
      rw [compression_cons_cons fun mark => noColon.1 mark.1.symm, ← htail, others]
      rfl

theorem Pieces.compression_eq_none (h : Pieces tail text words) : compression text = none := by
  induction h with
  | @group piece _ h =>
    rw [← append_nil piece]
    exact compression_append_plain (h.not_mem (by decide)) rfl
  | @quad piece _ _ h =>
    rw [← append_nil piece]
    exact compression_append_plain (h.not_mem (by decide) (by decide)) rfl
  | @more piece rest _ _ h others ih =>
    apply compression_append_plain (h.not_mem (by decide))
    have first := others.head?_ne
    cases hrest : rest with
    | nil => rfl
    | cons d more =>
      rw [hrest] at first ih
      rw [compression_cons_cons fun mark => first (by rw [mark.2]; rfl), ih]
      rfl

theorem Side.compression_eq_none (h : Side tail text words) : compression text = none := by
  obtain ⟨rfl, -⟩ | h := h
  · rfl
  · exact h.compression_eq_none

theorem Side.getLast?_ne (h : Side tail text words) : text.getLast? ≠ some colon := by
  obtain ⟨rfl, -⟩ | h := h
  · simp
  · exact h.getLast?_ne

/-! ## The whole address -/

theorem Pieces.no_percent (h : Pieces tail text words) : percent ∉ text := by
  induction h with
  | group h => exact h.not_mem (by decide)
  | quad _ h => exact h.not_mem (by decide) (by decide)
  | more h _ ih =>
    have first := h.not_mem (c := percent) (by decide)
    simp [first, ih, show percent ≠ colon by decide]

theorem Side.no_percent (h : Side tail text words) : percent ∉ text := by
  obtain ⟨rfl, -⟩ | h := h
  · exact not_mem_nil
  · exact h.no_percent

/-- The words an accepted text stands for. -/
inductive Accepted : List (BitVec 8) → List (BitVec 16) → Prop
  | full {text : List (BitVec 8)} {words : List (BitVec 16)} (h : Taken true text words)
      (eight : words.length = 8) : Accepted text words
  | compressed {left right : List (BitVec 8)} {ls rs : List (BitVec 16)}
      (hl : Side false left ls) (hr : Taken true right rs) (fewer : ls.length + rs.length < 8) :
      Accepted (left ++ colon :: colon :: right)
        (ls ++ List.replicate (8 - ls.length - rs.length) 0#16 ++ rs)

theorem Taken.compression_eq_none (h : Taken tail text words) : compression text = none := by
  obtain h | ⟨front, rfl, h⟩ := h
  · exact h.compression_eq_none
  · exact compression_append h.getLast?_ne h.compression_eq_none

theorem Taken.no_percent (h : Taken tail text words) : percent ∉ text := by
  obtain h | ⟨front, rfl, h⟩ := h
  · exact h.no_percent
  · simp [h.no_percent, show percent ≠ colon by decide]

theorem Accepted.no_percent (h : Accepted text words) : percent ∉ text := by
  cases h with
  | full h _ => exact h.no_percent
  | compressed hl hr _ => simp [hl.no_percent, hr.no_percent, show percent ≠ colon by decide]

theorem Accepted.ne_nil (h : Accepted text words) : text ≠ [] := by
  cases h with
  | full h eight =>
    obtain (⟨-, rfl⟩ | h) | ⟨front, rfl, -⟩ := h
    · cases eight
    · exact h.ne_nil
    · simp
  | compressed _ _ _ => simp

theorem parseIpv6_iff : parseIpv6 text = some octets ↔
    ∃ words, Accepted text words ∧ octets = words.flatMap Octets.octets16 := by
  constructor
  · intro h
    unfold parseIpv6 at h
    split at h
    · cases h
    split at h
    next uncompressed =>
      split at h
      · cases h
      rename_i words read
      obtain ⟨eight, eq⟩ := ite_none_left_eq_some.mp h
      rw [ne_eq, Decidable.not_not] at eight
      exact ⟨words, .full (parseWords_split_iff.mp read).2 eight, (Option.some.inj eq).symm⟩
    next left right found =>
      obtain ⟨rfl, last, -⟩ := compression_eq_some found
      obtain ⟨-, h⟩ := ite_none_left_eq_some.mp h
      split at h
      next ls rs readLeft readRight =>
        obtain ⟨fewer, eq⟩ := ite_none_left_eq_some.mp h
        have hl : Side false left ls := by
          obtain hl | ⟨front, rfl, -⟩ := (parseWords_split_iff.mp readLeft).2
          · exact hl
          · rw [last_append (by simp)] at last
            exact absurd rfl last
        exact ⟨_, .compressed hl (parseWords_split_iff.mp readRight).2 (by omega),
          (Option.some.inj eq).symm⟩
      · cases h
  · rintro ⟨words, h, rfl⟩
    have start : ¬ (text = [] ∨ percent ∈ text) := by
      rw [not_or]
      exact ⟨h.ne_nil, h.no_percent⟩
    rw [parseIpv6, if_neg start]
    cases h with
    | full h eight =>
      rw [h.compression_eq_none, parseWords_split_iff.mpr ⟨by omega, h⟩]
      simp [eight]
    | compressed hl hr fewer =>
      rw [compression_append hl.getLast?_ne hl.compression_eq_none, compression,
        if_pos ⟨rfl, rfl⟩, map_some, append_nil]
      simp [hr.compression_eq_none, parseWords_split_iff.mpr ⟨by omega, hr⟩,
        parseWords_split_iff.mpr ⟨by omega, Or.inl hl⟩, Nat.not_le.mpr fewer]

/-- An address without a quad, ending in a word, and one colon too many. -/
def ExtraColon (text : List (BitVec 8)) (words : List (BitVec 16)) : Prop :=
  ∃ address, text = address ++ [colon] ∧ Rfc4291 address words ∧ dot ∉ address ∧
    address.getLast? ≠ some colon

theorem accepted_iff : Accepted text words ↔ Rfc4291 text words ∨ ExtraColon text words := by
  constructor
  · intro h
    cases h with
    | full h eight =>
      obtain (⟨-, rfl⟩ | h) | ⟨front, rfl, h⟩ := h
      · cases eight
      · exact .inl (.full h eight)
      · exact .inr ⟨front, rfl, .full h.tailed eight, h.noDot, h.getLast?_ne⟩
    | @compressed left right ls rs hl hr fewer =>
      obtain hr | ⟨front, rfl, hr⟩ := hr
      · exact .inl (.compressed hl hr fewer)
      · refine .inr ⟨left ++ colon :: colon :: front, by simp,
          .compressed hl (.inr hr.tailed) fewer, ?_, ?_⟩
        · have noDot : dot ∉ left := by
            obtain ⟨rfl, -⟩ | hl := hl
            · exact not_mem_nil
            · exact hl.noDot
          simp [noDot, hr.noDot, show dot ≠ colon by decide]
        · rw [last_append (cons_ne_nil _ _), List.getLast?_cons_cons,
            List.getLast?_cons_of_ne_nil hr.ne_nil]
          exact hr.getLast?_ne
  · rintro (h | ⟨address, rfl, h, noDot, last⟩)
    · cases h with
      | full h eight => exact .full (.inl (.inr h)) eight
      | compressed hl hr fewer => exact .compressed hl (.inl hr) fewer
    · cases h with
      | full h eight => exact .full (.inr ⟨_, rfl, h.plain noDot⟩) eight
      | @compressed left right ls rs hl hr fewer =>
        obtain ⟨rfl, -⟩ | hr := hr
        · rw [last_append (cons_ne_nil _ _)] at last
          exact absurd rfl last
        · rw [append_assoc, cons_append, cons_append]
          refine .compressed hl (.inr ⟨right, rfl, hr.plain ?_⟩) fewer
          intro mem
          exact noDot (by simp [mem])

theorem ExtraColon.not_rfc4291 {others : List (BitVec 16)} (h : ExtraColon text words) :
    ¬ Rfc4291 text others := by
  obtain ⟨address, rfl, -, -, last⟩ := h
  intro h
  generalize htext : address ++ [colon] = text at h
  have ends : text.getLast? = some colon := by
    rw [← htext, last_append (by simp)]
    rfl
  cases h with
  | full h _ => exact h.getLast?_ne ends
  | @compressed left right _ _ hl hr _ =>
    obtain ⟨rfl, -⟩ | hr := hr
    · have same : address = left ++ [colon] := by
        apply (append_left_inj [colon]).mp
        rw [htext, append_assoc]
        rfl
      rw [same, last_append (by simp)] at last
      exact last rfl
    · rw [last_append (cons_ne_nil _ _), List.getLast?_cons_cons,
        List.getLast?_cons_of_ne_nil hr.ne_nil] at ends
      exact hr.getLast?_ne ends

/-- The parser reads the addresses of the grammar, and no more, exactly at the texts that are
not an address with one colon too many. -/
theorem parseIpv6_exact_iff (text : List (BitVec 8)) :
    (∀ octets, parseIpv6 text = some octets ↔
      ∃ words, Rfc4291 text words ∧ octets = words.flatMap Octets.octets16) ↔
        ¬ ∃ words, ExtraColon text words := by
  constructor
  · rintro exact ⟨words, extra⟩
    have read := parseIpv6_iff.mpr ⟨words, accepted_iff.mpr (.inr extra), rfl⟩
    obtain ⟨others, h, -⟩ := (exact _).mp read
    exact extra.not_rfc4291 h
  · intro single octets
    rw [parseIpv6_iff]
    constructor
    · rintro ⟨words, h, rfl⟩
      obtain h | extra := accepted_iff.mp h
      · exact ⟨words, h, rfl⟩
      · exact absurd ⟨words, extra⟩ single
    · rintro ⟨words, h, rfl⟩
      exact ⟨words, accepted_iff.mpr (.inl h), rfl⟩

/-- `1::2:` -/
def shortColon : List (BitVec 8) := Text.ascii "1::2:"

/-- One colon too many is read as if it were not there. -/
theorem parse_extra_colon :
    parseIpv6 shortColon = some [0, 1, 0, 0, 0, 0, 0, 0, 0, 0, 0, 0, 0, 0, 0, 2] ∧
      ¬ ∃ words, Rfc4291 shortColon words := by
  refine ⟨by decide, ?_⟩
  rintro ⟨words, h⟩
  have one : Side false [0x31#8] [1#16] := .inr (.group ⟨by decide, by decide, by decide⟩)
  have two : Side true [0x32#8] [2#16] := .inr (.group ⟨by decide, by decide, by decide⟩)
  have extra : ExtraColon shortColon _ :=
    ⟨_, by decide, .compressed one two (by decide), by decide, by decide⟩
  exact extra.not_rfc4291 h

end RouterSim.Ip.AddressText
