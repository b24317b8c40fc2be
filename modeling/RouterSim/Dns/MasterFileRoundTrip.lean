import RouterSim.Dns.NameSpelling

/-! The text an export writes is read back record by record: the words of a line survive the
lexer, and each field is read from its word. -/
namespace RouterSim.Dns.MasterFile

open Text (ascii)
open List

section Words

/-- A character the lexer gives no meaning of its own. -/
def plain (character : BitVec 8) : Bool :=
  !(character == backslash || character == quotationMark || character == semicolon ||
    character == openParenthesis || character == closeParenthesis || Text.isSpace character)

/-- Plain characters, and any others behind a backslash. -/
inductive Word : List (BitVec 8) → Prop
  | nil : Word []
  | plain {character : BitVec 8} {rest : List (BitVec 8)} :
      plain character = true → Word rest → Word (character :: rest)
  | escaped {character : BitVec 8} {rest : List (BitVec 8)} :
      Word rest → Word (backslash :: character :: rest)

theorem Word.append {front back : List (BitVec 8)} (first : Word front) (last : Word back) :
    Word (front ++ back) := by
  induction first with
  | nil => exact last
  | plain h _ ih => exact .plain h ih
  | escaped _ ih => exact .escaped ih

theorem Word.of_plain {text : List (BitVec 8)} (h : ∀ c ∈ text, RouterSim.Dns.MasterFile.plain c = true) :
    Word text := by
  induction text with
  | nil => exact .nil
  | cons c rest ih =>
    exact .plain (h c mem_cons_self) (ih fun d mem => h d (mem_cons_of_mem _ mem))

theorem Word.flatMap {α : Type} {items : List α} {f : α → List (BitVec 8)}
    (h : ∀ a, Word (f a)) : Word (items.flatMap f) := by
  induction items with
  | nil => exact .nil
  | cons a rest ih =>
    exact (h a).append ih

/-- The words of a line, a blank between two. -/
def lineText : List (List (BitVec 8)) → List (BitVec 8)
  | [] => [newline]
  | [word] => word ++ [newline]
  | word :: rest => word ++ blank :: lineText rest

end Words

section Scan

variable {entries : List Entry} {tokens : List Token} {line : Nat} {text word : List (BitVec 8)}
  {active started : Bool} {character : BitVec 8}

/-- The lexer within a line, outside quotes, comments and parentheses. -/
def Lexer.reading (entries : List Entry) (line : Nat) (tokens : List Token)
    (text : List (BitVec 8)) (active started : Bool) : Lexer where
  entries := entries
  entry :=
    { tokens := tokens, line := line }
  token := { text := text }
  line := line
  tokenActive := active
  entryStarted := started

open Lexer

theorem scan_append (lexer : Lexer) (front back : List (BitVec 8)) :
    scan lexer (front ++ back) = (scan lexer front).bind (scan · back) := by
  unfold scan
  rw [foldlM_append]
  rfl

theorem scan_cons (lexer : Lexer) (rest : List (BitVec 8)) :
    scan lexer (character :: rest) = (lexer.step character).bind (scan · rest) := rfl

theorem step_plain (h : plain character = true) :
    (reading entries line tokens text active started).step character =
      .ok (reading entries line tokens (text ++ [character]) true true) := by
  simp only [plain, asserted, refuted] at h
  obtain ⟨⟨⟨⟨⟨slash, quote⟩, semi⟩, opening⟩, closing⟩, space⟩ := h
  have line_end : character ≠ newline := by
    rintro rfl
    exact absurd space (by decide)
  simp [step, reading, push, slash, quote, semi, opening, closing, space, line_end]

theorem step_blank :
    (reading entries line tokens text true started).step blank =
      .ok (reading entries line (tokens ++ [{ text := text }]) [] false started) := by
  have slash : blank ≠ backslash := by decide
  have quote : blank ≠ quotationMark := by decide
  have semi : blank ≠ semicolon := by decide
  have opening : blank ≠ openParenthesis := by decide
  have closing : blank ≠ closeParenthesis := by decide
  have line_end : blank ≠ newline := by decide
  have space : Text.isSpace blank = true := by decide
  simp [step, reading, finishToken, slash, quote, semi, opening, closing, line_end, space]

theorem step_newline :
    (reading entries line tokens text true started).step newline =
      .ok (reading (entries ++ [{ tokens := tokens ++ [{ text := text }], line := line }])
        (line + 1) [] [] false false) := by
  have slash : newline ≠ backslash := by decide
  have quote : newline ≠ quotationMark := by decide
  have semi : newline ≠ semicolon := by decide
  have opening : newline ≠ openParenthesis := by decide
  have closing : newline ≠ closeParenthesis := by decide
  simp [step, reading, finishToken, finishEntry, nextLine, slash, quote, semi, opening, closing]

/-- A word ends up in the token as it stands. Whether an entry has started is left open: an
escape does not start one. -/
theorem scan_word (entries : List Entry) (line : Nat) (tokens : List Token)
    (text : List (BitVec 8)) (active started : Bool) (h : Word word) : ∃ started',
    scan (reading entries line tokens text active started) word =
      .ok (reading entries line tokens (text ++ word) (active || !word.isEmpty) started') := by
  induction h generalizing text active started with
  | nil => exact ⟨started, by simp [scan, pure, Except.pure]⟩
  | @plain character rest hc _ ih =>
    obtain ⟨started', scanned⟩ := ih (text ++ [character]) true true
    refine ⟨started', ?_⟩
    rw [scan_cons, step_plain hc]
    simpa [Except.bind] using scanned
  | @escaped character rest _ ih =>
    obtain ⟨started', scanned⟩ := ih (text ++ [backslash, character]) true started
    refine ⟨started', ?_⟩
    have slash : (reading entries line tokens text active started).step backslash =
        .ok { reading entries line tokens text active started with
          escape := true, tokenActive := true } := by
      simp [step, reading]
    have second : step { reading entries line tokens text active started with
          escape := true, tokenActive := true } character =
        .ok (reading entries line tokens (text ++ [backslash, character]) true started) := by
      simp [step, reading, push]
    rw [scan_cons, slash]
    simp only [Except.bind]
    rw [scan_cons, second]
    simpa [Except.bind] using scanned

theorem scan_line (entries : List Entry) (line : Nat) (tokens : List Token) (started : Bool)
    (first : List (BitVec 8)) (rest : List (List (BitVec 8)))
    (words : ∀ word ∈ first :: rest, Word word ∧ word ≠ []) :
    scan (reading entries line tokens [] false started) (lineText (first :: rest)) =
      .ok (reading (entries ++ [{ tokens := tokens ++ (first :: rest).map fun word => { text := word }
                                  line := line }]) (line + 1) [] [] false false) := by
  induction rest generalizing first tokens started with
  | nil =>
    obtain ⟨word, nonempty⟩ := words first mem_cons_self
    obtain ⟨started', scanned⟩ := scan_word entries line tokens [] false started word
    have active : (!first.isEmpty) = true := by simpa using nonempty
    rw [lineText, scan_append, scanned, active]
    simp only [Except.bind, settled]
    rw [scan_cons, step_newline]
    rfl
  | cons second rest ih =>
    obtain ⟨word, nonempty⟩ := words first mem_cons_self
    obtain ⟨started', scanned⟩ := scan_word entries line tokens [] false started word
    have active : (!first.isEmpty) = true := by simpa using nonempty
    have later := ih (tokens ++ [{ text := first }]) started' second
      fun w mem => words w (mem_cons_of_mem _ mem)
    rw [lineText, scan_append, scanned, active]
    simp only [Except.bind, settled, nil_append]
    rw [scan_cons, step_blank]
    simp only [Except.bind]
    rw [later]
    simp
    nofun

end Scan

section Names

variable {octet : BitVec 8} {label current more : List (BitVec 8)}
  {labels staged : List (List (BitVec 8))} {name : Name}

theorem plain_of_isAlnum (h : Text.isAlnum octet = true) : plain octet = true := by
  have all : ∀ k : Fin 256, Text.isAlnum (BitVec.ofNat 8 k.val) = true →
      plain (BitVec.ofNat 8 k.val) = true := by decide +kernel
  have at_octet := all ⟨octet.toNat, octet.isLt⟩
  rw [BitVec.ofNat_toNat, BitVec.setWidth_eq] at at_octet
  exact at_octet h

theorem plain_of_isDigit (h : Text.isDigit octet = true) : plain octet = true :=
  plain_of_isAlnum (by simp [Text.isAlnum, h])

theorem octetText_cases (octet : BitVec 8) :
    (octetText octet = [octet] ∧ plain octet = true ∧ octet ≠ dot ∧ octet ≠ dollar) ∨
      ∃ high middle low, octetText octet = [backslash, high, middle, low] ∧
        Text.isDigit high = true ∧ Text.isDigit middle = true ∧ Text.isDigit low = true ∧
        Text.number 10 255 [high, middle, low] = some octet.toNat := by
  have ordinary : ∀ k : Fin 256, (Text.isAlnum (BitVec.ofNat 8 k.val) ||
      BitVec.ofNat 8 k.val == 0x2d#8 || BitVec.ofNat 8 k.val == 0x5f#8) = true →
      plain (BitVec.ofNat 8 k.val) = true ∧ BitVec.ofNat 8 k.val ≠ dot ∧
        BitVec.ofNat 8 k.val ≠ dollar := by decide +kernel
  have digits : ∀ k : Fin 256, Text.isDigit (Text.digit (k.val / 100)) = true ∧
      Text.isDigit (Text.digit (k.val / 10 % 10)) = true ∧
      Text.isDigit (Text.digit (k.val % 10)) = true ∧
      Text.number 10 255 [Text.digit (k.val / 100), Text.digit (k.val / 10 % 10),
        Text.digit (k.val % 10)] = some k.val := by decide +kernel
  have self : BitVec.ofNat 8 octet.toNat = octet := by simp
  have stands := ordinary ⟨octet.toNat, octet.isLt⟩
  rw [self] at stands
  unfold octetText
  by_cases h : (Text.isAlnum octet || octet == 0x2d#8 || octet == 0x5f#8) = true
  · rw [if_pos h]
    exact .inl ⟨rfl, stands h⟩
  · rw [if_neg h]
    exact .inr ⟨_, _, _, rfl, digits ⟨octet.toNat, octet.isLt⟩⟩

theorem word_octetText (octet : BitVec 8) : Word (octetText octet) := by
  obtain ⟨text, ordinary, -, -⟩ | ⟨high, middle, low, text, -, second, third, -⟩ :=
    octetText_cases octet
  · rw [text]
    exact .plain ordinary .nil
  · rw [text]
    exact .escaped (.plain (plain_of_isDigit second) (.plain (plain_of_isDigit third) .nil))

theorem labelText_cons : labelText (octet :: label) = octetText octet ++ labelText label := rfl

theorem spells_octetText (octet : BitVec 8) : SpellsOctet octet (octetText octet) := by
  obtain ⟨text, ordinary, stop, -⟩ | ⟨high, middle, low, text, first, second, third, value⟩ :=
    octetText_cases octet
  · rw [text]
    refine .itself stop ?_
    rintro rfl
    exact absurd ordinary (by decide)
  · rw [text]
    exact .decimal first second third value

theorem spells_labelText (label : List (BitVec 8)) : Spells label (labelText label) := by
  induction label with
  | nil => exact .nil
  | cons octet rest ih => exact .cons (spells_octetText octet) ih

/-- What is exported is one of the ways to write the name. -/
theorem masterNameText_eq (name : Name) :
    masterNameText name =
      textOf (name.labels.map fun label => (label, labelText label)) ++ [dot] := by
  have dotted : ∀ labels : List (List (BitVec 8)), labels ≠ [] →
      (labels.flatMap fun label => labelText label ++ [dot]) =
        Text.join dot (labels.map labelText) ++ [dot] := by
    intro labels nonempty
    induction labels with
    | nil => exact absurd rfl nonempty
    | cons label rest ih =>
      cases rest with
      | nil => simp [Text.join]
      | cons next rest =>
        rw [flatMap_cons, ih (by simp)]
        simp [Text.join_cons_cons]
  rw [masterNameText, textOf, map_map]
  split
  next empty => simp [empty, Text.join]
  next nonempty => exact dotted _ nonempty

/-- A name reads back from its text, whatever the origin. -/
theorem masterName_masterNameText (name origin : Name) :
    masterName (masterNameText name) origin = some name := by
  rw [masterNameText_eq]
  apply masterName_absolute
  · intro p mem
    obtain ⟨label, -, rfl⟩ := mem_map.mp mem
    exact spells_labelText label
  · simp [Function.comp_def]

theorem word_masterNameText (name : Name) : Word (masterNameText name) := by
  have stop : Word [dot] := .plain (by decide) .nil
  unfold masterNameText
  split
  · exact stop
  · exact Word.flatMap fun label => (Word.flatMap word_octetText).append stop

theorem head_masterNameText (name : Name) : (masterNameText name).head? ≠ some dollar := by
  unfold masterNameText
  split
  · decide
  rename_i nonempty
  obtain ⟨first, rest, labels⟩ := exists_cons_of_ne_nil nonempty
  have size := (name.sizes first (by simp [labels])).1
  obtain ⟨octet, others, rfl⟩ := exists_cons_of_ne_nil (ne_nil_of_length_pos size)
  rw [labels, flatMap_cons, labelText_cons]
  obtain ⟨text, -, -, other⟩ | ⟨high, middle, low, text, -⟩ := octetText_cases octet
  · simpa [text] using other
  · rw [text]
    simp only [cons_append, List.head?_cons]
    decide

end Names

section Records

variable {origin owner : Name} {record : ZoneRecord} {state : Import}
  {resolver : Option MasterFileIncludeResolver} {line n : Nat}

/-- The words an export writes for the data of a record. -/
def rdataWords (rdata : List (BitVec 8)) : List (List (BitVec 8)) :=
  [genericMark, Text.decimalText rdata.length] ++ if rdata = [] then [] else [Text.hexText rdata]

def recordWords (record : ZoneRecord) : List (List (BitVec 8)) :=
  [masterNameText record.owner, Text.decimalText record.ttl.toNat, ascii "IN",
    ascii "TYPE" ++ Text.decimalText record.type.toNat] ++ rdataWords record.rdata

def recordEntry (record : ZoneRecord) (line : Nat) : Entry where
  tokens := (recordWords record).map fun word => { text := word }
  line := line

theorem recordText_eq (record : ZoneRecord) : recordText record = lineText (recordWords record) := by
  have inType : ascii " IN TYPE" = blank :: (ascii "IN" ++ blank :: ascii "TYPE") := by decide
  unfold recordText recordWords rdataWords
  by_cases empty : record.rdata = []
  · simp [empty, lineText, inType, Text.hexText]
  · simp [empty, lineText, inType]

theorem word_decimalText (n : Nat) : Word (Text.decimalText n) :=
  Word.of_plain fun _ mem => plain_of_isDigit (Text.isDigit_of_decimalText mem)

theorem masterNameText_ne_nil (name : Name) : masterNameText name ≠ [] := by
  rw [masterNameText_eq]
  exact append_ne_nil_of_right_ne_nil _ (by simp)

theorem words_of_record (record : ZoneRecord) :
    ∀ word ∈ recordWords record, Word word ∧ word ≠ [] := by
  intro word mem
  simp only [recordWords, rdataWords, mem_append, mem_cons, not_mem_nil, settled] at mem
  obtain (rfl | rfl | rfl | rfl) | (rfl | rfl) | mem := mem
  · exact ⟨word_masterNameText _, masterNameText_ne_nil _⟩
  · exact ⟨word_decimalText _, Text.decimalText_ne_nil⟩
  · exact ⟨Word.of_plain (by decide), by decide⟩
  · have keyword : Word (ascii "TYPE") := Word.of_plain (by decide)
    exact ⟨keyword.append (word_decimalText _), by simp [ascii]⟩
  · exact ⟨.escaped .nil, by decide⟩
  · exact ⟨word_decimalText _, Text.decimalText_ne_nil⟩
  · by_cases empty : record.rdata = []
    · simp [empty] at mem
    · rw [if_neg empty, mem_singleton] at mem
      subst mem
      refine ⟨Word.of_plain fun _ mem => plain_of_isAlnum (Text.isAlnum_of_hexText mem), ?_⟩
      intro none
      have length := Text.length_hexText record.rdata
      rw [none, length_nil] at length
      have : 0 < record.rdata.length := length_pos_iff.mpr empty
      omega

theorem upper_type (n : Nat) :
    Text.upper (ascii "TYPE" ++ Text.decimalText n) = ascii "TYPE" ++ Text.decimalText n := by
  have front : Text.upper (ascii "TYPE") = ascii "TYPE" := by decide
  have back := Text.upper_decimalText (n := n)
  unfold Text.upper at front back ⊢
  rw [map_append, front, back]

theorem recordType_decimalText (h : n ≤ 0xffff) :
    recordType (ascii "TYPE" ++ Text.decimalText n) = some (BitVec.ofNat 16 n) := by
  have unknown : keyword knownTypes (ascii "TYPE" ++ Text.decimalText n) = none := by
    have others : ∀ row ∈ knownTypes, (ascii row.1).take 4 ≠ ascii "TYPE" := by decide
    rw [keyword, Option.map_eq_none_iff, List.find?_eq_none]
    intro row mem
    rw [upper_type, beq_iff_eq]
    intro eq
    apply others row mem
    rw [eq]
    rfl
  have number : Text.number 10 0xffff (Text.decimalText n) = some n := Text.number_decimalText h
  have rest : (ascii "TYPE" ++ Text.decimalText n).drop 4 = Text.decimalText n := rfl
  simp [recordType, unknown, upper_type, rest, number]

theorem typedRdata_rdataWords {rdata : List (BitVec 8)} (h : rdata.length ≤ 0xffff)
    (type : BitVec 16) (origin : Name) :
    typedRdata type ((rdataWords rdata).map fun word => { text := word }) origin = some rdata := by
  have mark : ((rdataWords rdata).map fun word => ({ text := word } : Token)).head?.map
      Token.text = some genericMark := rfl
  have number : Text.number 10 0xffff (Text.decimalText rdata.length) = some rdata.length :=
    Text.number_decimalText h
  have hex : ((if rdata = [] then [] else [Text.hexText rdata]).map
      fun word => ({ text := word } : Token)).flatMap Token.text = Text.hexText rdata := by
    by_cases empty : rdata = []
    · simp [empty, Text.hexText]
    · simp [empty]
  have length : (Text.hexText rdata).length = rdata.length * 2 := by
    rw [Text.length_hexText]
    omega
  rw [typedRdata, if_pos mark]
  simp only [rdataWords, map_cons, cons_append, nil_append, genericRdata, number, hex, length,
    ne_eq]
  exact Text.readHex_hexText _

/-- The TTL, the class and the type of an exported line. -/
theorem readFields_record {entry : Entry} {tokens : List Token} (h : record.ttl ≤ 0x7fffffff#32) :
    Import.readFields state entry 1 none
      ({ text := Text.decimalText record.ttl.toNat } :: { text := ascii "IN" } ::
        { text := ascii "TYPE" ++ Text.decimalText record.type.toNat } :: tokens) =
      .ok (some record.ttl, record.type, tokens, 4) := by
  have bound : record.ttl.toNat ≤ 0x7fffffff := BitVec.le_def.mp h
  have number : Text.number 10 0xffffffff (Text.decimalText record.ttl.toNat) =
      some record.ttl.toNat := Text.number_decimalText (by omega)
  have digits : ∀ word : List (BitVec 8), (∃ c ∈ word, Text.isDigit c = false) →
      Text.decimalText record.ttl.toNat ≠ word := by
    rintro word ⟨c, mem, other⟩ rfl
    rw [Text.isDigit_of_decimalText mem] at other
    cases other
  have notIn : Text.decimalText record.ttl.toNat ≠ ascii "IN" := digits _ (by decide)
  have notClass : Text.decimalText record.ttl.toNat ≠ ascii "CLASS1" := digits _ (by decide)
  have inClass : Text.upper (ascii "IN") = ascii "IN" := by decide
  have first : (ascii "TYPE" ++ Text.decimalText record.type.toNat).head? = some 0x54#8 := rfl
  have typeNotIn : ascii "TYPE" ++ Text.decimalText record.type.toNat ≠ ascii "IN" := by
    intro eq
    rw [eq] at first
    exact absurd first (by decide)
  have typeNotClass : ascii "TYPE" ++ Text.decimalText record.type.toNat ≠ ascii "CLASS1" := by
    intro eq
    rw [eq] at first
    exact absurd first (by decide)
  have type : recordType (ascii "TYPE" ++ Text.decimalText record.type.toNat) =
      some record.type := by
    rw [recordType_decimalText (by have := record.type.isLt; omega)]
    simp
  have small : ¬ 0x7fffffff < record.ttl.toNat := by omega
  simp [Import.readFields, Text.upper_decimalText, notIn, notClass, number, small, inClass,
    upper_type, typeNotIn, typeNotClass, type]

theorem importEntry_record (resolver : Option MasterFileIncludeResolver) (state : Import)
    (line : Nat) (internet : record.recordClass = internetClass)
    (ttl : record.ttl ≤ 0x7fffffff#32) (size : record.rdata.length ≤ 0xffff)
    (known : state.frame.origin = some origin) :
    state.importEntry resolver (recordEntry record line) =
      .ok { state with
        lastTtl := some record.ttl, lastOwner := some record.owner,
        records := state.records ++ [record] } := by
  have first : ((recordEntry record line).text 0).head? ≠ some dollar :=
    head_masterNameText record.owner
  have owner : masterName ((recordEntry record line).text 0) origin = some record.owner :=
    masterName_masterNameText record.owner origin
  have rest : (recordEntry record line).tokens.drop 1 =
      { text := Text.decimalText record.ttl.toNat } :: { text := ascii "IN" } ::
        { text := ascii "TYPE" ++ Text.decimalText record.type.toNat } ::
          (rdataWords record.rdata).map fun word => { text := word } := rfl
  have present : (recordEntry record line).ownerOmitted = false := rfl
  rw [Import.importEntry, if_neg first, Import.record, known]
  simp only [Import.readOwner, present, owner, rest, settled]
  rw [readFields_record ttl]
  simp only [Option.some_or]
  rw [typedRdata_rdataWords size]
  cases record
  cases internet
  rfl

end Records

section RoundTrip

variable {origin : Name} {records : List ZoneRecord} {state : Import}
  {resolver : Option MasterFileIncludeResolver} {line steps : Nat}

/-- The entries of exported records, each on its line. -/
def recordEntries (line : Nat) : List ZoneRecord → List Entry
  | [] => []
  | record :: rest => recordEntry record line :: recordEntries (line + 1) rest

theorem scan_records (entries : List Entry) (line : Nat) (records : List ZoneRecord) :
    ∃ after, Lexer.scan (Lexer.reading entries line [] [] false false)
        (records.flatMap recordText) =
      .ok (Lexer.reading (entries ++ recordEntries line records) after [] [] false false) := by
  induction records generalizing entries line with
  | nil => exact ⟨line, by simp [Lexer.scan, recordEntries, pure, Except.pure]⟩
  | cons record rest ih =>
    obtain ⟨after, scanned⟩ := ih (entries ++ [recordEntry record line]) (line + 1)
    refine ⟨after, ?_⟩
    have first : Lexer.scan (Lexer.reading entries line [] [] false false) (recordText record) =
        .ok (Lexer.reading (entries ++ [recordEntry record line]) (line + 1) [] [] false false) := by
      rw [recordText_eq]
      exact scan_line entries line [] false _ _ (words_of_record record)
    rw [flatMap_cons, scan_append, first]
    simpa [Except.bind, recordEntries] using scanned

def originEntry (origin : Name) : Entry where
  tokens := [{ text := ascii "$ORIGIN" }, { text := masterNameText origin }]

theorem tokenize_export (origin : Name) (records : List ZoneRecord) :
    tokenize (ascii "$ORIGIN " ++ masterNameText origin ++ [newline] ++
      records.flatMap recordText) = .ok (originEntry origin :: recordEntries 2 records) := by
  have head : ascii "$ORIGIN " ++ masterNameText origin ++ [newline] =
      lineText [ascii "$ORIGIN", masterNameText origin] := by
    have keyword : ascii "$ORIGIN " = ascii "$ORIGIN" ++ [blank] := by decide
    simp [keyword, lineText]
  have words : ∀ word ∈ [ascii "$ORIGIN", masterNameText origin], Word word ∧ word ≠ [] := by
    intro word mem
    simp only [mem_cons, not_mem_nil, settled] at mem
    obtain rfl | rfl := mem
    · exact ⟨Word.of_plain (by decide), by decide⟩
    · exact ⟨word_masterNameText _, masterNameText_ne_nil _⟩
  have first : Lexer.scan {} (lineText [ascii "$ORIGIN", masterNameText origin]) =
      .ok (Lexer.reading [originEntry origin] 2 [] [] false false) :=
    scan_line [] 1 [] false _ _ words
  obtain ⟨after, scanned⟩ := scan_records [originEntry origin] 2 records
  rw [tokenize, head, scan_append, first]
  simp only [Except.bind, scanned]
  simp [Lexer.reading, Lexer.finishEntry, Lexer.finishToken]

theorem run_records (origin : Name) (line : Nat)
    (internet : ∀ record ∈ records, record.recordClass = internetClass)
    (ttl : ∀ record ∈ records, record.ttl ≤ 0x7fffffff#32)
    (size : ∀ record ∈ records, record.rdata.length ≤ 0xffff)
    (known : state.frame.origin = some origin) (outermost : state.outer = [])
    (entries : state.frame.entries = recordEntries line records) (enough : records.length < steps) :
    Import.run resolver steps state = some { records := state.records ++ records } := by
  induction records generalizing state line steps with
  | nil =>
    obtain ⟨steps, rfl⟩ : ∃ n, steps = n + 1 := ⟨steps - 1, by omega⟩
    simp [Import.run, entries, recordEntries, outermost]
  | cons record rest ih =>
    obtain ⟨steps, rfl⟩ : ∃ n, steps = n + 1 := ⟨steps - 1, by omega⟩
    have added := importEntry_record resolver
      { state with frame := { state.frame with entries := recordEntries (line + 1) rest } } line
      (internet record mem_cons_self) (ttl record mem_cons_self) (size record mem_cons_self) known
    rw [Import.run, entries, recordEntries]
    simp only [added]
    refine (ih (line + 1) (fun r mem => internet r (mem_cons_of_mem _ mem))
      (fun r mem => ttl r (mem_cons_of_mem _ mem))
      (fun r mem => size r (mem_cons_of_mem _ mem)) ?_ ?_ ?_ ?_).trans ?_
    · exact known
    · exact outermost
    · rfl
    · simp at enough
      omega
    · simp

/-- Export and import are inverse. Any number of steps from some number on is enough, whatever
the resolver and the name of the source. -/
theorem import_export (origin : Name) (records : List ZoneRecord)
    (resolver : Option MasterFileIncludeResolver) (sourceIdentity : List (BitVec 8))
    (internet : ∀ record ∈ records, record.recordClass = internetClass)
    (ttl : ∀ record ∈ records, record.ttl ≤ 0x7fffffff#32)
    (size : ∀ record ∈ records, record.rdata.length ≤ 0xffff) :
    ∃ text, exportMasterFile origin records = some text ∧
      ∃ enough, ∀ steps, enough ≤ steps →
        importMasterFile steps text none none resolver sourceIdentity =
          some { records := records } := by
  have written : exportMasterFile origin records = some (ascii "$ORIGIN " ++
      masterNameText origin ++ [newline] ++ records.flatMap recordText) := by
    have accepted : (records.any fun record =>
        !validName record.owner || decide (0xffff < record.rdata.length)) = false := by
      rw [any_eq_false]
      intro record mem
      have := size record mem
      simp
      omega
    rw [exportMasterFile, validName_eq_true, accepted]
    rfl
  refine ⟨_, written, records.length + 2, ?_⟩
  intro steps enough
  obtain ⟨steps, rfl⟩ : ∃ n, steps = n + 1 := ⟨steps - 1, by omega⟩
  have upper : Text.upper ((originEntry origin).text 0) = ascii "$ORIGIN" := by
    show Text.upper (ascii "$ORIGIN") = ascii "$ORIGIN"
    decide
  have other : ascii "$ORIGIN" ≠ ascii "$INCLUDE" := by decide
  have name : masterName ((originEntry origin).text 1) Name.root = some origin :=
    masterName_masterNameText origin Name.root
  rw [importMasterFile, tokenize_export]
  simp only [Import.run, Import.importEntry, Import.directive, upper, other, Option.getD_none, name]
  refine (run_records origin 2 internet ttl size ?_ ?_ ?_ ?_).trans ?_
  · rfl
  · rfl
  · rfl
  · omega
  · simp

/-- Labels that hold a dot, a blank, a dollar sign and the octet zero. -/
def awkwardZone : List ZoneRecord :=
  [{ owner := (Name.ofLabels [[0x24#8, 0x2e#8], [0x20#8, 0x00#8]]).getD Name.root, type := typeA,
     ttl := 0x7fffffff#32, rdata := [192#8, 0#8, 2#8, 1#8] },
    { owner := Name.root, type := 65280#16, ttl := 0#32, rdata := [] }]

theorem awkward_zone_round_trip :
    ∃ text, exportMasterFile Name.root awkwardZone = some text ∧
      ∃ enough, ∀ steps, enough ≤ steps →
        importMasterFile steps text none none none [] = some { records := awkwardZone } :=
  import_export Name.root awkwardZone none [] (by decide) (by decide) (by decide)

end RoundTrip

end RouterSim.Dns.MasterFile
