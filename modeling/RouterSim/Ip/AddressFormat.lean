import RouterSim.Ip.Address
import RouterSim.Ip.AddressGrammar

/-! The text written for addresses and prefixes: IPv6 as RFC 5952 asks for it, with the first of
the longest runs of zeros left out. What is written is read back. -/
namespace RouterSim.Ip.AddressText

open List Option

def slash : BitVec 8 := 0x2f#8

def addressWords (address : Ipv6) : List (BitVec 16) :=
  (List.range 8).map fun i => Octets.read16 (Octets.octets128 address) (2 * i)

/-- How many words from an index on are zero. -/
def zerosAt (words : List (BitVec 16)) (start : Nat) : Nat :=
  ((words.drop start).takeWhile (· == 0#16)).length

/-- The start and the length of the run to leave out, as far as the words were looked at. -/
def bestRunFrom (words : List (BitVec 16)) : Nat → Nat → Nat × Nat → Nat × Nat
  | 0, _, best => best
  | steps + 1, start, best =>
    if words.length ≤ start then best
    else if words[start]? ≠ some 0#16 then bestRunFrom words steps (start + 1) best
    else
      let run := zerosAt words start
      bestRunFrom words steps (start + run) (if best.2 < run ∧ 2 ≤ run then (start, run) else best)

/-- Every step passes a word. -/
def bestRun (words : List (BitVec 16)) : Nat × Nat :=
  bestRunFrom words words.length 0 (words.length, 0)

/-- A word behind what is written, with a colon between words. -/
def appendWord (result : List (BitVec 8)) (word : BitVec 16) : List (BitVec 8) :=
  (if result = [] ∨ result.getLast? = some colon then result else result ++ [colon]) ++
    Text.lowerHexText word.toNat

def formatFrom (words : List (BitVec 16)) (best : Nat × Nat) :
    Nat → Nat → List (BitVec 8) → List (BitVec 8)
  | 0, _, result => result
  | steps + 1, index, result =>
    if words.length ≤ index then result
    else if index = best.1 then
      formatFrom words best steps (index + best.2) (result ++ [colon, colon])
    else formatFrom words best steps (index + 1) (appendWord result (words.getD index 0#16))

def formatIpv6 (address : Ipv6) : List (BitVec 8) :=
  let words := addressWords address
  let result := formatFrom words (bestRun words) words.length 0 []
  if result = [] then [colon, colon] else result

def formatIpAddress (address : IpAddress) : List (BitVec 8) :=
  match address.family with
  | .ipv6 => formatIpv6 address.bytes
  | .ipv4 =>
    Text.join dot (((Octets.octets128 address.bytes).take 4).map fun octet =>
      Text.decimalText octet.toNat)

def formatIpPrefix (p : IpPrefix) : List (BitVec 8) :=
  formatIpAddress p.network ++ slash :: Text.decimalText p.length.toNat

/-- `parse_ipv6` of the source, with the octets as an address. -/
def parseIpv6Address (text : List (BitVec 8)) : Option Ipv6 :=
  (parseIpv6 text).map (Octets.read128 · 0)

def parseIpv4Address (text : List (BitVec 8)) : Option IpAddress :=
  (dottedQuad text).map fun octets =>
    { family := .ipv4, bytes := ipv4Bytes (Octets.read32 octets 0) }

def parseIpAddress (text : List (BitVec 8)) : Option IpAddress :=
  match parseIpv6Address text with
  | some bytes => some { family := .ipv6, bytes }
  | none => parseIpv4Address text

/-- An address with bits behind its length is refused. -/
def parseIpPrefix (text : List (BitVec 8)) : Option IpPrefix := do
  let (front, back) ← Text.splitLast slash text
  if back = [] then none
  else
    let address ← parseIpAddress front
    let length ← Text.number 10 address.family.bits back
    let canonical := maskAddress address (BitVec.ofNat 8 length)
    if canonical ≠ address then none
    else some { network := canonical, length := BitVec.ofNat 8 length }

/-! ## What canonical text is -/

variable {words : List (BitVec 16)} {text piece rest result : List (BitVec 8)}
  {word : BitVec 16} {best : Nat × Nat}

/-- A group in small letters, without a zero in front. -/
def CanonicalGroup (piece : List (BitVec 8)) (word : BitVec 16) : Prop :=
  Group piece word ∧ (∀ c ∈ piece, Text.isDigit c = true ∨ Text.isLower c = true) ∧
    (piece.head? = some 0x30#8 → piece = [0x30#8])

/-- Canonical groups with single colons between them. -/
inductive CanonicalPieces : List (BitVec 8) → List (BitVec 16) → Prop
  | none : CanonicalPieces [] []
  | one {piece : List (BitVec 8)} {word : BitVec 16} (h : CanonicalGroup piece word) :
      CanonicalPieces piece [word]
  | more {piece rest : List (BitVec 8)} {word next : BitVec 16} {words : List (BitVec 16)}
      (h : CanonicalGroup piece word) (others : CanonicalPieces rest (next :: words)) :
      CanonicalPieces (piece ++ colon :: rest) (word :: next :: words)

/-- So many words from an index on are there, and zero. -/
def ZeroRun (words : List (BitVec 16)) (start count : Nat) : Prop :=
  start + count ≤ words.length ∧ ∀ i, start ≤ i → i < start + count → words[i]? = some 0#16

/-- The canonical text of eight words: every group is canonical, and `::` stands for the first
of the longest runs of two or more zeros, if there is one. -/
inductive Rfc5952 : List (BitVec 8) → List (BitVec 16) → Prop
  | plain {text : List (BitVec 8)} {words : List (BitVec 16)} (h : CanonicalPieces text words)
      (eight : words.length = 8) (short : ∀ start count, ZeroRun words start count → count < 2) :
      Rfc5952 text words
  | compressed {left right : List (BitVec 8)} {words : List (BitVec 16)} {start count : Nat}
      (eight : words.length = 8) (zeros : ZeroRun words start count) (two : 2 ≤ count)
      (longest : ∀ s c, ZeroRun words s c → c ≤ count)
      (first : ∀ s, ZeroRun words s count → start ≤ s)
      (hl : CanonicalPieces left (words.take start))
      (hr : CanonicalPieces right (words.drop (start + count))) :
      Rfc5952 (left ++ colon :: colon :: right) words

/-! ## The run to leave out -/

section Runs

variable {start count steps s c : Nat}

/-- No run of zeros passes over the index. -/
def Cut (words : List (BitVec 16)) (start : Nat) : Prop :=
  ∀ s c, ZeroRun words s c → s < start → s + c ≤ start

theorem cut_zero : Cut words 0 := by
  intro s c _ h
  omega

theorem cut_of_ne {i : Nat} (ne : words[i]? ≠ some 0#16) (close : start = i ∨ start = i + 1) :
    Cut words start := by
  intro s c run before
  by_cases inside : s + c ≤ start
  · exact inside
  · exact absurd (run.2 i (by omega) (by omega)) ne

/-- `best` is the first of the longest runs of two or more zeros that end at an index or before,
or none of them has two. -/
def Best (words : List (BitVec 16)) (stop : Nat) (best : Nat × Nat) : Prop :=
  (best = (words.length, 0) ∧ ∀ s c, ZeroRun words s c → s + c ≤ stop → c < 2) ∨
    (ZeroRun words best.1 best.2 ∧ 2 ≤ best.2 ∧ best.1 + best.2 ≤ stop ∧
      ∀ s c, ZeroRun words s c → s + c ≤ stop → c ≤ best.2 ∧ (c = best.2 → best.1 ≤ s))

theorem Best.skip (h : Best words start best) (ne : words[start]? ≠ some 0#16) :
    Best words (start + 1) best := by
  have ends : ∀ s c, ZeroRun words s c → s + c ≤ start + 1 → c = 0 ∨ s + c ≤ start := by
    intro s c run stop
    by_cases last : s + c = start + 1 ∧ 0 < c
    · exact absurd (run.2 start (by omega) (by omega)) ne
    · omega
  obtain ⟨none, short⟩ | ⟨zeros, two, stop, longest⟩ := h
  · refine .inl ⟨none, ?_⟩
    intro s c run bound
    obtain rfl | before := ends s c run bound
    · omega
    · exact short s c run before
  · refine .inr ⟨zeros, two, by omega, ?_⟩
    intro s c run bound
    obtain rfl | before := ends s c run bound
    · omega
    · exact longest s c run before

theorem Best.pass (h : Best words start best) (cut : Cut words start)
    (run : ZeroRun words start count) :
    Best words (start + count) (if best.2 < count ∧ 2 ≤ count then (start, count) else best) := by
  have apart : ∀ s c, ZeroRun words s c → s + c ≤ start + count →
      s + c ≤ start ∨ start ≤ s ∧ c ≤ count := by
    intro s c other bound
    by_cases before : s < start
    · exact .inl (cut s c other before)
    · exact .inr (by omega)
  split
  next longer =>
    refine .inr ⟨run, longer.2, Nat.le_refl _, ?_⟩
    intro s c other bound
    obtain before | ⟨behind, shorter⟩ := apart s c other bound
    · have small : c < count := by
        obtain ⟨-, short⟩ | ⟨-, -, -, longest⟩ := h
        · have := short s c other before
          omega
        · have := (longest s c other before).1
          omega
      exact ⟨by omega, by omega⟩
    · exact ⟨shorter, fun _ => behind⟩
  next shorter =>
    obtain ⟨rfl, short⟩ | ⟨zeros, two, stop, longest⟩ := h
    · refine .inl ⟨rfl, ?_⟩
      intro s c other bound
      obtain before | ⟨behind, less⟩ := apart s c other bound
      · exact short s c other before
      · simp at shorter
        omega
    · refine .inr ⟨zeros, two, by omega, ?_⟩
      intro s c other bound
      obtain before | ⟨behind, less⟩ := apart s c other bound
      · exact longest s c other before
      · exact ⟨by omega, fun _ => by omega⟩

/-- The zeros counted from an index are a run that no other word follows. -/
theorem zerosAt_spec (words : List (BitVec 16)) (start : Nat) (inside : start ≤ words.length) :
    ZeroRun words start (zerosAt words start) ∧
      words[start + zerosAt words start]? ≠ some 0#16 := by
  have counted : ∀ l : List (BitVec 16),
      (∀ i, i < (l.takeWhile (· == 0#16)).length → l[i]? = some 0#16) ∧
        l[(l.takeWhile (· == 0#16)).length]? ≠ some 0#16 := by
    intro l
    induction l with
    | nil => simp
    | cons w rest ih =>
      by_cases zero : w = 0#16
      · subst zero
        simp only [beq_self_eq_true, takeWhile_cons_of_pos, length_cons]
        refine ⟨?_, ih.2⟩
        intro i h
        cases i with
        | zero => rfl
        | succ i => exact ih.1 i (by omega)
      · simp [zero]
  obtain ⟨zeros, stops⟩ := counted (words.drop start)
  have bound : zerosAt words start ≤ words.length - start := by
    have := (takeWhile_sublist (fun w => w == 0#16) (l := words.drop start)).length_le
    rwa [length_drop] at this
  refine ⟨⟨by omega, ?_⟩, ?_⟩
  · intro i lower upper
    have own := zeros (i - start) (by simp only [zerosAt] at upper; omega)
    rwa [List.getElem?_drop, Nat.add_sub_cancel' lower] at own
  · rwa [List.getElem?_drop] at stops

theorem bestRunFrom_spec (h : Best words start best) (cut : Cut words start)
    (inside : start ≤ words.length) (enough : words.length ≤ start + steps) :
    Best words words.length (bestRunFrom words steps start best) := by
  induction steps generalizing start best with
  | zero =>
    obtain rfl : start = words.length := by omega
    exact h
  | succ steps ih =>
    unfold bestRunFrom
    split
    next =>
      obtain rfl : start = words.length := by omega
      exact h
    next more =>
      split
      next ne => exact ih (h.skip ne) (cut_of_ne ne (.inr rfl)) (by omega) (by omega)
      rename_i zero
      rw [ne_eq, Decidable.not_not] at zero
      obtain ⟨run, stops⟩ := zerosAt_spec words start inside
      have progress : zerosAt words start ≠ 0 := by
        intro none
        rw [none] at stops
        exact stops zero
      have fits := run.1
      exact ih (h.pass cut run) (cut_of_ne stops (.inl rfl)) fits (by omega)

theorem bestRun_spec (words : List (BitVec 16)) : Best words words.length (bestRun words) := by
  refine bestRunFrom_spec (.inl ⟨rfl, ?_⟩) cut_zero (by omega) (by omega)
  intro s c _ bound
  omega

end Runs

/-! ## What the loop writes -/

section Writing

variable {steps index count : Nat}

/-- The words between colons. -/
def piecesText (words : List (BitVec 16)) : List (BitVec 8) :=
  Text.join colon (words.map fun word => Text.lowerHexText word.toNat)

def attach (result : List (BitVec 8)) : List (BitVec 8) :=
  if result = [] ∨ result.getLast? = some colon then result else result ++ [colon]

theorem colon_not_mem_lowerHexText {n : Nat} : colon ∉ Text.lowerHexText n := by
  intro mem
  have := Text.lower_of_lowerHexDigits mem
  revert this
  decide

theorem attach_appendWord :
    attach (appendWord result word) = attach result ++ Text.lowerHexText word.toNat ++ [colon] := by
  have written : appendWord result word = attach result ++ Text.lowerHexText word.toNat := rfl
  rw [written]
  apply if_neg
  rw [not_or, last_append Text.lowerHexText_ne_nil]
  refine ⟨by simp [Text.lowerHexText_ne_nil], fun last => ?_⟩
  exact colon_not_mem_lowerHexText (mem_of_getLast? last)

theorem foldl_appendWord :
    (word :: words).foldl appendWord result = attach result ++ piecesText (word :: words) := by
  induction words generalizing word result with
  | nil => rfl
  | cons next words ih =>
    rw [foldl_cons, ih, attach_appendWord]
    simp [piecesText, Text.join]

theorem foldl_appendWord_of (h : result = [] ∨ result.getLast? = some colon) :
    words.foldl appendWord result = result ++ piecesText words := by
  cases words with
  | nil => simp [piecesText, Text.join]
  | cons word words =>
    rw [foldl_appendWord, attach, if_pos h]

theorem formatFrom_words (apart : ∀ i, index ≤ i → i < index + count → i ≠ best.1)
    (inside : index + count ≤ words.length) :
    formatFrom words best (count + steps) index result =
      formatFrom words best steps (index + count)
        (((words.drop index).take count).foldl appendWord result) := by
  induction count generalizing index result with
  | zero => simp
  | succ count ih =>
    rw [show count + 1 + steps = count + steps + 1 by omega, formatFrom,
      if_neg (by omega), if_neg (apart index (by omega) (by omega)),
      ih (fun i lower upper => apart i (by omega) (by omega)) (by omega),
      show index + 1 + count = index + (count + 1) by omega]
    congr 1
    have head : words.drop index = words.getD index 0#16 :: words.drop (index + 1) := by
      rw [drop_eq_getElem_cons (by omega), getD_eq_getElem?_getD,
        List.getElem?_eq_getElem (by omega), getD_some]
    rw [head, take_succ_cons, foldl_cons]

theorem formatFrom_end (past : words.length ≤ index) :
    formatFrom words best steps index result = result := by
  cases steps with
  | zero => rfl
  | succ steps => rw [formatFrom, if_pos past]

theorem formatFrom_plain (none : best.1 = words.length) :
    formatFrom words best words.length 0 [] = piecesText words := by
  have all : formatFrom words best (words.length + 0) 0 [] = _ :=
    formatFrom_words (by omega) (by omega)
  rw [Nat.add_zero, Nat.zero_add] at all
  rw [all, formatFrom, drop_zero, take_length, foldl_appendWord_of (.inl rfl)]
  rfl

/-- The words before the run, the mark, and the words behind it. -/
theorem formatFrom_compressed (zeros : ZeroRun words best.1 best.2) (two : 2 ≤ best.2) :
    formatFrom words best words.length 0 [] =
      piecesText (words.take best.1) ++ colon :: colon :: piecesText (words.drop (best.1 + best.2)) := by
  have fits := zeros.1
  have front : formatFrom words best (best.1 + (words.length - best.1)) 0 [] = _ :=
    formatFrom_words (by omega) (by omega)
  rw [Nat.add_sub_cancel' (by omega), Nat.zero_add, drop_zero,
    foldl_appendWord_of (.inl rfl), nil_append] at front
  rw [front, show words.length - best.1 = (words.length - best.1 - best.2) + (best.2 - 1) + 1 by omega,
    formatFrom, if_neg (by omega), if_pos rfl,
    formatFrom_words (by omega) (by omega), formatFrom_end (by omega)]
  have rest : ((words.drop (best.1 + best.2)).take (words.length - best.1 - best.2)) =
      words.drop (best.1 + best.2) := by
    apply take_of_length_le
    rw [length_drop]
    omega
  rw [rest, foldl_appendWord_of (.inr (by simp)), append_assoc]
  rfl

end Writing

/-! ## Canonical text -/

theorem canonicalGroup_lowerHexText (word : BitVec 16) :
    CanonicalGroup (Text.lowerHexText word.toNat) word := by
  have small := word.isLt
  refine ⟨⟨?_, Text.lowerHexText_ne_nil, Text.valueFrom_lowerHexDigits (by omega)⟩,
    fun c => Text.lower_of_lowerHexDigits, ?_⟩
  · have bound : word.toNat < Nat.pow 16 (3 + 1) := small
    exact Text.length_lowerHexDigits bound
  · intro zero
    by_cases none : word.toNat = 0
    · rw [none]
      rfl
    · exact absurd zero (Text.head?_lowerHexDigits (by omega) (by omega))

theorem canonicalPieces_piecesText (words : List (BitVec 16)) :
    CanonicalPieces (piecesText words) words := by
  induction words with
  | nil => exact .none
  | cons word words ih =>
    cases words with
    | nil => exact .one (canonicalGroup_lowerHexText word)
    | cons next words => exact .more (canonicalGroup_lowerHexText word) ih

theorem piecesText_ne_nil (nonempty : words ≠ []) : piecesText words ≠ [] := by
  cases words with
  | nil => exact absurd rfl nonempty
  | cons word words =>
    cases words with
    | nil => exact Text.lowerHexText_ne_nil
    | cons next words => simp [piecesText, Text.join_cons_cons]

theorem length_addressWords (address : Ipv6) : (addressWords address).length = 8 := rfl

theorem formatIpv6_canonical (address : Ipv6) :
    Rfc5952 (formatIpv6 address) (addressWords address) := by
  have eight := length_addressWords address
  simp only [formatIpv6]
  obtain ⟨none, short⟩ | ⟨zeros, two, -, longest⟩ := bestRun_spec (addressWords address)
  · have text := formatFrom_plain (congrArg Prod.fst none)
    rw [text, if_neg (piecesText_ne_nil (by intro h; rw [h] at eight; cases eight))]
    exact .plain (canonicalPieces_piecesText _) eight fun s c run => short s c run run.1
  · rw [formatFrom_compressed zeros two, if_neg (by simp)]
    exact .compressed eight zeros two (fun s c run => (longest s c run run.1).1)
      (fun s run => (longest s _ run run.1).2 rfl) (canonicalPieces_piecesText _)
      (canonicalPieces_piecesText _)

/-! ## Canonical text is read back -/

theorem CanonicalPieces.side {tail : Bool} (h : CanonicalPieces text words) :
    Side tail text words := by
  induction h with
  | none => exact .inl ⟨rfl, rfl⟩
  | one h => exact .inr (.group h.1)
  | more h _ ih =>
    obtain ⟨-, none⟩ | others := ih
    · cases none
    · exact .inr (.more h.1 others)

theorem ZeroRun.split {start count : Nat} (run : ZeroRun words start count) :
    words = words.take start ++ List.replicate count 0#16 ++ words.drop (start + count) := by
  have zeros : (words.drop start).take count = List.replicate count 0#16 := by
    apply ext_getElem?
    intro i
    by_cases inside : i < count
    · rw [List.getElem?_take_of_lt inside, List.getElem?_drop, List.getElem?_replicate,
        if_pos inside]
      exact run.2 _ (by omega) (by omega)
    · rw [List.getElem?_eq_none (by rw [length_take]; omega),
        List.getElem?_eq_none (by rw [length_replicate]; omega)]
  rw [← zeros, append_assoc, ← drop_drop, take_append_drop, take_append_drop]

theorem Rfc5952.grammatical (h : Rfc5952 text words) : Rfc4291 text words := by
  cases h with
  | plain h eight _ =>
    obtain ⟨-, rfl⟩ | (h : Pieces true _ _) := h.side
    · cases eight
    · exact .full h eight
  | @compressed left right words start count eight zeros two _ _ hl hr =>
    have fits := zeros.1
    have front : (words.take start).length = start := by
      rw [length_take]
      omega
    have back : (words.drop (start + count)).length = 8 - start - count := by
      rw [length_drop]
      omega
    have h := Rfc4291.compressed hl.side hr.side (by omega)
    rwa [front, back, show 8 - start - (8 - start - count) = count by omega, ← zeros.split] at h

theorem octets_addressWords (address : Ipv6) :
    (addressWords address).flatMap Octets.octets16 = Octets.octets128 address := by
  have words := Octets.flatMap_read16 8 (Nat.le_refl (Octets.octets128 address).length)
  rw [addressWords, words]
  rfl

theorem parseIpv6Address_format (address : Ipv6) :
    parseIpv6Address (formatIpv6 address) = some address := by
  have read := parseIpv6_iff.mpr
    ⟨_, accepted_iff.mpr (.inl (formatIpv6_canonical address).grammatical), rfl⟩
  rw [parseIpv6Address, read, octets_addressWords, map_some, Octets.read128_octets128]

/-! ## Addresses and prefixes of either family -/

/-- An IPv4 address has nothing behind its four octets. -/
def ValidAddress (address : IpAddress) : Prop :=
  address.family = .ipv4 → ∃ value : BitVec 32, address.bytes = ipv4Bytes value

/-- No bit behind the length is set. -/
structure CanonicalPrefix (p : IpPrefix) : Prop where
  valid : ValidAddress p.network
  fits : p.length.toNat ≤ p.network.family.bits
  masked : maskAddress p.network p.length = p.network

theorem parseIpv6_of_not_mem (noColon : colon ∉ text) : parseIpv6 text = none := by
  cases read : parseIpv6 text with
  | none => rfl
  | some octets =>
    obtain ⟨words, h, -⟩ := parseIpv6_iff.mp read
    cases h with
    | full h eight =>
      obtain (⟨-, rfl⟩ | h) | ⟨front, rfl, -⟩ := h
      · cases eight
      · cases h with
        | group _ => cases eight
        | quad _ _ => cases eight
        | more _ _ => simp at noColon
      · simp at noColon
    | compressed _ _ _ => simp at noColon

theorem numeral_decimalText (n : Nat) : Numeral 10 (Text.decimalText n) n :=
  ⟨Text.decimalText_ne_nil, Text.valueFrom_decimalDigits (by omega)⟩

theorem quad_octets32 (value : BitVec 32) :
    Quad (Text.join dot ((Octets.octets32 value).map fun octet => Text.decimalText octet.toNat))
      (Octets.octets32 value) :=
  .mk (numeral_decimalText _) (numeral_decimalText _) (numeral_decimalText _)
    (numeral_decimalText _)

theorem take_octets128_ipv4Bytes (value : BitVec 32) :
    (Octets.octets128 (ipv4Bytes value)).take 4 = Octets.octets32 value := by
  have front : ((value ++ 0#96 : BitVec 128) >>> 96).setWidth 32 = value := by
    apply BitVec.eq_of_getLsbD_eq
    intro k hk
    have high : ¬ 96 + k < 96 := by omega
    rw [BitVec.getLsbD_setWidth, BitVec.getLsbD_ushiftRight, BitVec.getLsbD_append, if_neg high,
      Nat.add_sub_cancel_left, decide_eq_true hk, Bool.true_and]
  have taken : (Octets.octets128 (ipv4Bytes value)).take 4 =
      Octets.octets32 (((value ++ 0#96 : BitVec 128) >>> 96).setWidth 32) := rfl
  rw [taken, front]

theorem parseIpAddress_format {address : IpAddress} (valid : ValidAddress address) :
    parseIpAddress (formatIpAddress address) = some address := by
  obtain ⟨family, bytes⟩ := address
  cases family with
  | ipv6 => simp only [formatIpAddress, parseIpAddress, parseIpv6Address_format]
  | ipv4 =>
    obtain ⟨value, rfl⟩ := valid rfl
    have quad := quad_octets32 value
    have noColon := quad.not_mem (c := colon) (by decide) (by decide)
    simp [formatIpAddress, take_octets128_ipv4Bytes, parseIpAddress, parseIpv6Address,
      parseIpv6_of_not_mem noColon, parseIpv4Address, dottedQuad_iff.mpr quad,
      Octets.read32_octets32]

theorem validAddress_of_parse {address : IpAddress} (h : parseIpAddress text = some address) :
    ValidAddress address := by
  unfold parseIpAddress at h
  split at h
  · obtain rfl := Option.some.inj h
    intro other
    cases other
  · obtain ⟨octets, -, rfl⟩ := map_eq_some_iff.mp h
    exact fun _ => ⟨_, rfl⟩

theorem parseIpPrefix_format {p : IpPrefix} (h : CanonicalPrefix p) :
    parseIpPrefix (formatIpPrefix p) = some p := by
  obtain ⟨valid, fits, masked⟩ := h
  have noSlash : slash ∉ Text.decimalText p.length.toNat :=
    Text.separator_not_mem_decimalText (by decide)
  simp [parseIpPrefix, formatIpPrefix, Text.splitLast_append noSlash, Text.decimalText_ne_nil,
    parseIpAddress_format valid, Text.number_decimalText fits, masked]

theorem canonicalPrefix_of_parse {p : IpPrefix} (h : parseIpPrefix text = some p) :
    CanonicalPrefix p := by
  simp only [parseIpPrefix, bind_eq_bind, bind_eq_some_iff] at h
  obtain ⟨⟨front, back⟩, -, h⟩ := h
  obtain ⟨-, h⟩ := ite_none_left_eq_some.mp h
  obtain ⟨address, read, h⟩ := bind_eq_some_iff.mp h
  obtain ⟨length, digits, h⟩ := bind_eq_some_iff.mp h
  obtain ⟨same, h⟩ := ite_none_left_eq_some.mp h
  obtain rfl := Option.some.inj h
  rw [ne_eq, Decidable.not_not] at same
  have small := (number_iff.mp digits).2
  have bits : address.family.bits ≤ 128 := by
    cases address.family <;> decide
  refine ⟨?_, ?_, ?_⟩
  · rw [same]
    exact validAddress_of_parse read
  · rw [same, BitVec.toNat_ofNat, Nat.mod_eq_of_lt (by omega)]
    exact small
  · rw [same]
    exact same

/-- What is written is canonical and reads back, for addresses and for prefixes of either family;
so no two values are written alike, and what was read is written in one way. -/
theorem ip_text_round_trip :
    (∀ address, parseIpv6Address (formatIpv6 address) = some address ∧
      Rfc5952 (formatIpv6 address) (addressWords address)) ∧
    (∀ p, CanonicalPrefix p → parseIpPrefix (formatIpPrefix p) = some p) ∧
    (∀ a b, formatIpv6 a = formatIpv6 b → a = b) ∧
    (∀ p q, CanonicalPrefix p → CanonicalPrefix q → formatIpPrefix p = formatIpPrefix q → p = q) ∧
    (∀ text, ((parseIpv6Address text).map formatIpv6).bind
      (fun written => (parseIpv6Address written).map formatIpv6) =
        (parseIpv6Address text).map formatIpv6) ∧
    ∀ text, ((parseIpPrefix text).map formatIpPrefix).bind
      (fun written => (parseIpPrefix written).map formatIpPrefix) =
        (parseIpPrefix text).map formatIpPrefix := by
  refine ⟨fun address => ⟨parseIpv6Address_format address, formatIpv6_canonical address⟩,
    fun p => parseIpPrefix_format, ?_, ?_, ?_, ?_⟩
  · intro a b same
    have read := parseIpv6Address_format b
    rw [← same, parseIpv6Address_format] at read
    exact Option.some.inj read
  · intro p q hp hq same
    have read := parseIpPrefix_format hq
    rw [← same, parseIpPrefix_format hp] at read
    exact Option.some.inj read
  · intro text
    cases parseIpv6Address text with
    | none => rfl
    | some address =>
      simp [parseIpv6Address_format]
  · intro text
    cases read : parseIpPrefix text with
    | none => rfl
    | some p =>
      simp [parseIpPrefix_format (canonicalPrefix_of_parse read)]

end RouterSim.Ip.AddressText
