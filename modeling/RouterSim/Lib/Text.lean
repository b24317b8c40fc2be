import RouterSim.Lib.Checks

/-! Text as octets: the classes of characters, pieces between separators, and numbers written
in a base without sign or blank. -/
namespace Text

open List

def ascii (s : String) : List (BitVec 8) := s.toList.map fun c => BitVec.ofNat 8 c.toNat

def isDigit (c : BitVec 8) : Bool := decide (48#8 ≤ c ∧ c ≤ 57#8)
def isUpper (c : BitVec 8) : Bool := decide (65#8 ≤ c ∧ c ≤ 90#8)
def isLower (c : BitVec 8) : Bool := decide (97#8 ≤ c ∧ c ≤ 122#8)
def isAlnum (c : BitVec 8) : Bool := isDigit c || isUpper c || isLower c

/-- Tab to carriage return, and the blank. -/
def isSpace (c : BitVec 8) : Bool := decide (9#8 ≤ c ∧ c ≤ 13#8) || c == 32#8

def toUpper (c : BitVec 8) : BitVec 8 := if isLower c then c - 32#8 else c

def upper (text : List (BitVec 8)) : List (BitVec 8) := text.map toUpper

/-- The pieces between separators, one more than there are separators. -/
def splitFrom (separator : BitVec 8) (current : List (BitVec 8)) :
    List (BitVec 8) → List (List (BitVec 8))
  | [] => [current]
  | c :: rest =>
    if c = separator then current :: splitFrom separator [] rest
    else splitFrom separator (current ++ [c]) rest

def split (separator : BitVec 8) (text : List (BitVec 8)) : List (List (BitVec 8)) :=
  splitFrom separator [] text

/-- Pieces with a separator between each two. -/
def join (separator : BitVec 8) : List (List (BitVec 8)) → List (BitVec 8)
  | [] => []
  | [piece] => piece
  | piece :: rest => piece ++ separator :: join separator rest

/-- The value of a digit, letters in either case. -/
def digitValue (base : Nat) (c : BitVec 8) : Option Nat :=
  let value :=
    if isDigit c then c.toNat - 48
    else if isUpper c then c.toNat - 55
    else if isLower c then c.toNat - 87
    else base
  if value < base then some value else none

def valueFrom (base : Nat) : Nat → List (BitVec 8) → Option Nat
  | value, [] => some value
  | value, c :: rest =>
    match digitValue base c with
    | none => none
    | some digit => valueFrom base (value * base + digit) rest

/-- A number up to a limit that takes up the whole text. -/
def number (base limit : Nat) (text : List (BitVec 8)) : Option Nat :=
  if text = [] then none
  else
    match valueFrom base 0 text with
    | none => none
    | some value => if limit < value then none else some value

def digit (value : Nat) : BitVec 8 := BitVec.ofNat 8 (if value < 10 then 48 + value else 55 + value)

def decimalDigits : Nat → Nat → List (BitVec 8)
  | 0, _ => []
  | steps + 1, n =>
    if n < 10 then [digit n] else decimalDigits steps (n / 10) ++ [digit (n % 10)]

/-- A number in decimal, without leading zeros. -/
def decimalText (n : Nat) : List (BitVec 8) := decimalDigits (n + 1) n

def lowerDigit (value : Nat) : BitVec 8 :=
  BitVec.ofNat 8 (if value < 10 then 48 + value else 87 + value)

def lowerHexDigits : Nat → Nat → List (BitVec 8)
  | 0, _ => []
  | steps + 1, n =>
    if n < 16 then [lowerDigit n] else lowerHexDigits steps (n / 16) ++ [lowerDigit (n % 16)]

/-- A number in hexadecimal with small letters, without leading zeros. -/
def lowerHexText (n : Nat) : List (BitVec 8) := lowerHexDigits (n + 1) n

/-- The text before the last separator and the text after it. -/
def splitLast (separator : BitVec 8) : List (BitVec 8) → Option (List (BitVec 8) × List (BitVec 8))
  | [] => none
  | c :: rest =>
    match splitLast separator rest with
    | some (front, back) => some (c :: front, back)
    | none => if c = separator then some ([], rest) else none

def hexOctet (octet : BitVec 8) : List (BitVec 8) :=
  [digit (octet.toNat / 16), digit (octet.toNat % 16)]

def hexText (octets : List (BitVec 8)) : List (BitVec 8) := octets.flatMap hexOctet

/-- Two digits an octet. -/
def readHex : List (BitVec 8) → Option (List (BitVec 8))
  | [] => some []
  | [_] => none
  | high :: low :: rest =>
    match number 16 255 [high, low] with
    | none => none
    | some value => (readHex rest).map (BitVec.ofNat 8 value :: ·)

section Pieces

variable {separator c : BitVec 8} {piece current text : List (BitVec 8)}
  {pieces : List (List (BitVec 8))}

theorem join_cons_cons {next : List (BitVec 8)} :
    join separator (piece :: next :: pieces) = piece ++ separator :: join separator (next :: pieces) :=
  rfl

theorem splitFrom_ne_nil : splitFrom separator current text ≠ [] := by
  induction text generalizing current with
  | nil => simp [splitFrom]
  | cons c rest ih =>
    unfold splitFrom
    split
    · simp
    · exact ih

theorem split_ne_nil : split separator text ≠ [] := splitFrom_ne_nil

theorem splitFrom_of_not_mem (absent : separator ∉ piece) :
    splitFrom separator current piece = [current ++ piece] := by
  induction piece generalizing current with
  | nil => simp [splitFrom]
  | cons c rest ih =>
    rw [mem_cons, not_or] at absent
    rw [splitFrom, if_neg (Ne.symm absent.1), ih absent.2, append_assoc]
    rfl

theorem splitFrom_append_separator (absent : separator ∉ piece) :
    splitFrom separator current (piece ++ separator :: text) =
      (current ++ piece) :: split separator text := by
  induction piece generalizing current with
  | nil => simp [splitFrom, split]
  | cons c rest ih =>
    rw [mem_cons, not_or] at absent
    rw [cons_append, splitFrom, if_neg (Ne.symm absent.1), ih absent.2, append_assoc]
    rfl

/-- The pieces put together are split at the same places. -/
theorem split_join (nonempty : pieces ≠ []) (absent : ∀ piece ∈ pieces, separator ∉ piece) :
    split separator (join separator pieces) = pieces := by
  induction pieces with
  | nil => exact absurd rfl nonempty
  | cons piece rest ih =>
    have first := absent piece mem_cons_self
    cases rest with
    | nil =>
      rw [split, join, splitFrom_of_not_mem first]
      rfl
    | cons next rest =>
      have others := ih (cons_ne_nil _ _) fun p h => absent p (mem_cons_of_mem _ h)
      rw [split, join_cons_cons, splitFrom_append_separator first, others]
      rfl

theorem join_splitFrom : join separator (splitFrom separator current text) = current ++ text := by
  induction text generalizing current with
  | nil => simp [splitFrom, join]
  | cons c rest ih =>
    unfold splitFrom
    split
    next eq =>
      obtain ⟨first, others, hsplit⟩ := exists_cons_of_ne_nil
        (splitFrom_ne_nil : splitFrom separator [] rest ≠ [])
      rw [hsplit, join_cons_cons, ← hsplit, ih, eq]
      rfl
    next => rw [ih, append_assoc]; rfl

theorem join_split : join separator (split separator text) = text := join_splitFrom

theorem not_mem_of_splitFrom (absent : separator ∉ current)
    (h : piece ∈ splitFrom separator current text) : separator ∉ piece := by
  induction text generalizing current with
  | nil =>
    rw [splitFrom, mem_singleton] at h
    rwa [h]
  | cons c rest ih =>
    unfold splitFrom at h
    split at h
    · obtain rfl | h := mem_cons.mp h
      · exact absent
      · exact ih not_mem_nil h
    next ne =>
      apply ih _ h
      rw [mem_append, mem_singleton, not_or]
      exact ⟨absent, Ne.symm ne⟩

theorem not_mem_of_split (h : piece ∈ split separator text) : separator ∉ piece :=
  not_mem_of_splitFrom not_mem_nil h

theorem splitLast_of_not_mem (absent : separator ∉ text) : splitLast separator text = none := by
  induction text with
  | nil => rfl
  | cons c rest ih =>
    rw [mem_cons, not_or] at absent
    simp [splitLast, ih absent.2, if_neg (Ne.symm absent.1)]

theorem splitLast_append (absent : separator ∉ text) :
    splitLast separator (piece ++ separator :: text) = some (piece, text) := by
  induction piece with
  | nil => simp [splitLast, splitLast_of_not_mem absent]
  | cons c rest ih => simp [splitLast, ih]

end Pieces

section Decimal

variable {n steps value limit : Nat} {c : BitVec 8} {text more : List (BitVec 8)}

theorem digitValue_digit (h : n < 10) : digitValue 10 (digit n) = some n := by
  have all : ∀ k : Fin 10, digitValue 10 (digit k.val) = some k.val := by decide
  exact all ⟨n, h⟩

theorem isDigit_digit (h : n < 10) : isDigit (digit n) = true := by
  have all : ∀ k : Fin 10, isDigit (digit k.val) = true := by decide
  exact all ⟨n, h⟩

theorem valueFrom_append (base : Nat) :
    valueFrom base value (text ++ more) = (valueFrom base value text).bind (valueFrom base · more) := by
  induction text generalizing value with
  | nil => rfl
  | cons c rest ih =>
    simp only [cons_append, valueFrom]
    cases digitValue base c with
    | none => rfl
    | some digit => exact ih

theorem valueFrom_decimalDigits (h : n < steps) :
    valueFrom 10 0 (decimalDigits steps n) = some n := by
  induction steps generalizing n with
  | zero => omega
  | succ steps ih =>
    unfold decimalDigits
    by_cases small : n < 10
    · rw [if_pos small]
      simp [valueFrom, digitValue_digit small]
    · have low : n % 10 < 10 := by omega
      have whole : n / 10 * 10 + n % 10 = n := by omega
      rw [if_neg small, valueFrom_append, ih (by omega)]
      simp [valueFrom, digitValue_digit low, whole]

theorem decimalDigits_isDigit (h : c ∈ decimalDigits steps n) : isDigit c = true := by
  induction steps generalizing n with
  | zero => simp [decimalDigits] at h
  | succ steps ih =>
    unfold decimalDigits at h
    by_cases small : n < 10
    · rw [if_pos small, mem_singleton] at h
      rw [h]
      exact isDigit_digit small
    · rw [if_neg small, mem_append, mem_singleton] at h
      cases h with
      | inl front => exact ih front
      | inr last =>
        rw [last]
        exact isDigit_digit (by omega)

theorem isDigit_of_decimalText (h : c ∈ decimalText n) : isDigit c = true :=
  decimalDigits_isDigit h

theorem decimalText_ne_nil : decimalText n ≠ [] := by
  unfold decimalText decimalDigits
  by_cases small : n < 10
  · simp [small]
  · simp [small]

theorem number_decimalText (h : n ≤ limit) : number 10 limit (decimalText n) = some n := by
  have value : valueFrom 10 0 (decimalText n) = some n := valueFrom_decimalDigits (by omega)
  rw [number, if_neg decimalText_ne_nil, value]
  simp only
  rw [if_neg (by omega)]

theorem separator_not_mem_decimalText (other : isDigit c = false) : c ∉ decimalText n := by
  intro mem
  rw [isDigit_of_decimalText mem] at other
  cases other

theorem toUpper_of_isDigit (h : isDigit c = true) : toUpper c = c := by
  have low : isLower c = false := by
    simp only [isDigit, asserted, BitVec.le_def] at h
    simp only [isLower, refuted, BitVec.le_def]
    simp only [BitVec.toNat_ofNat] at h ⊢
    omega
  rw [toUpper, low]
  rfl

theorem upper_decimalText : upper (decimalText n) = decimalText n := by
  unfold upper
  have same : ∀ c ∈ decimalText n, toUpper c = id c := fun c h =>
    toUpper_of_isDigit (isDigit_of_decimalText h)
  rw [map_congr_left same, map_id]

end Decimal

section LowerHex

variable {n steps : Nat} {c : BitVec 8}

theorem digitValue_lowerDigit (h : n < 16) : digitValue 16 (lowerDigit n) = some n := by
  have all : ∀ k : Fin 16, digitValue 16 (lowerDigit k.val) = some k.val := by decide
  exact all ⟨n, h⟩

theorem valueFrom_lowerHexDigits (h : n < steps) :
    valueFrom 16 0 (lowerHexDigits steps n) = some n := by
  induction steps generalizing n with
  | zero => omega
  | succ steps ih =>
    unfold lowerHexDigits
    by_cases small : n < 16
    · rw [if_pos small]
      simp [valueFrom, digitValue_lowerDigit small]
    · have low : n % 16 < 16 := by omega
      have whole : n / 16 * 16 + n % 16 = n := by omega
      rw [if_neg small, valueFrom_append, ih (by omega)]
      simp [valueFrom, digitValue_lowerDigit low, whole]

/-- As many digits as the power of the base asks for, and one at least. -/
theorem length_lowerHexDigits {count : Nat} (bound : n < Nat.pow 16 (count + 1)) :
    (lowerHexDigits steps n).length ≤ count + 1 := by
  induction steps generalizing n count with
  | zero => simp [lowerHexDigits]
  | succ steps ih =>
    unfold lowerHexDigits
    by_cases small : n < 16
    · rw [if_pos small]
      simp
    · rw [if_neg small, length_append, length_singleton]
      cases count with
      | zero => exact absurd bound small
      | succ count =>
        have power : Nat.pow 16 (count + 1 + 1) = Nat.pow 16 (count + 1) * 16 := rfl
        have front : (lowerHexDigits steps (n / 16)).length ≤ count + 1 := ih (by omega)
        omega

theorem lowerHexText_ne_nil : lowerHexText n ≠ [] := by
  unfold lowerHexText lowerHexDigits
  by_cases small : n < 16
  · simp [small]
  · simp [small]

theorem lowerDigit_lower (h : n < 16) :
    isDigit (lowerDigit n) = true ∨ isLower (lowerDigit n) = true := by
  have all : ∀ k : Fin 16, isDigit (lowerDigit k.val) = true ∨ isLower (lowerDigit k.val) = true := by
    decide
  exact all ⟨n, h⟩

theorem lower_of_lowerHexDigits (h : c ∈ lowerHexDigits steps n) :
    isDigit c = true ∨ isLower c = true := by
  induction steps generalizing n with
  | zero => simp [lowerHexDigits] at h
  | succ steps ih =>
    unfold lowerHexDigits at h
    by_cases small : n < 16
    · rw [if_pos small, mem_singleton] at h
      rw [h]
      exact lowerDigit_lower small
    · rw [if_neg small, mem_append, mem_singleton] at h
      cases h with
      | inl front => exact ih front
      | inr last =>
        rw [last]
        exact lowerDigit_lower (by omega)

/-- The first digit of a number that is not zero is not zero. -/
theorem head?_lowerHexDigits (large : 0 < n) (enough : n < steps) :
    (lowerHexDigits steps n).head? ≠ some (lowerDigit 0) := by
  induction steps generalizing n with
  | zero => omega
  | succ steps ih =>
    unfold lowerHexDigits
    by_cases small : n < 16
    · have all : ∀ k : Fin 16, 0 < k.val → lowerDigit k.val ≠ lowerDigit 0 := by decide
      rw [if_pos small, List.head?_cons, ne_eq, Option.some.injEq]
      exact all ⟨n, small⟩ large
    · have front := ih (n := n / 16) (by omega) (by omega)
      rw [if_neg small, List.head?_append]
      cases hd : (lowerHexDigits steps (n / 16)).head? with
      | none =>
        have value : valueFrom 16 0 (lowerHexDigits steps (n / 16)) = some (n / 16) :=
          valueFrom_lowerHexDigits (by omega)
        rw [List.head?_eq_none_iff.mp hd] at value
        have := Option.some.inj value
        omega
      | some c => rwa [hd] at front

end LowerHex

section Hex

theorem number_hexOctet (octet : BitVec 8) : number 16 255 (hexOctet octet) = some octet.toNat := by
  have all : ∀ k : Fin 256, number 16 255 (hexOctet (BitVec.ofNat 8 k.val)) = some k.val := by
    decide +kernel
  have at_octet := all ⟨octet.toNat, octet.isLt⟩
  simpa using at_octet

theorem readHex_hexText (octets : List (BitVec 8)) : readHex (hexText octets) = some octets := by
  induction octets with
  | nil => rfl
  | cons octet rest ih =>
    have first := number_hexOctet octet
    have cons : hexText (octet :: rest) =
        digit (octet.toNat / 16) :: digit (octet.toNat % 16) :: hexText rest := rfl
    rw [cons, readHex]
    unfold hexOctet at first
    simp [first, ih]

theorem length_hexText (octets : List (BitVec 8)) : (hexText octets).length = 2 * octets.length := by
  induction octets with
  | nil => rfl
  | cons octet rest ih =>
    have cons : hexText (octet :: rest) =
        digit (octet.toNat / 16) :: digit (octet.toNat % 16) :: hexText rest := rfl
    rw [cons, length_cons, length_cons, length_cons, ih]
    omega

theorem isAlnum_of_hexText {octets : List (BitVec 8)} {c : BitVec 8} (h : c ∈ hexText octets) :
    isAlnum c = true := by
  have all : ∀ k : Fin 16, isAlnum (digit k.val) = true := by decide
  obtain ⟨octet, -, mem⟩ := mem_flatMap.mp h
  simp only [hexOctet, mem_cons, not_mem_nil, or_false] at mem
  cases mem with
  | inl high =>
    rw [high]
    exact all ⟨octet.toNat / 16, by have := octet.isLt; omega⟩
  | inr low =>
    rw [low]
    exact all ⟨octet.toNat % 16, by omega⟩

end Hex

end Text
