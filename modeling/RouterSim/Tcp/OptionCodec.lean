import RouterSim.Tcp.OptionWalk

/-! What the option encoders write, the typed parser reads back. -/
namespace RouterSim.Tcp

/-! ## Integers in network byte order -/

theorem read16_octets16 (value : BitVec 16) (rest : List Octet) :
    read16 (octets16 value ++ rest) 0 = value := Octets.append_halves value

theorem read32_octets32 (value : BitVec 32) (rest : List Octet) :
    read32 (octets32 value ++ rest) 0 = value := by
  have high : read16 (octets32 value ++ rest) 0 = (value >>> 16).setWidth 16 :=
    Octets.append_halves _
  have low : read16 (octets32 value ++ rest) 2 = value.setWidth 16 := Octets.append_halves _
  rw [read32, high, low]
  exact Octets.append_split (m := 16) (n := 16) value

/-! ## The parser as a fold over the options visited -/

variable {options : List Octet} {offer : SynOptionOffer} {outputSize : Nat} {parsed : TypedOptions}
   {blocks : List SackBlock}

theorem OptionString.parse {views : List OptionView}
    (h : OptionString views options) (parsed : TypedOptions) {rounds : Nat}
    (hrounds : options.length ≤ rounds) :
    parseOptionsLoop rounds parsed options = views.foldlM TypedOptions.apply parsed := by
  induction h generalizing rounds parsed with
  | done => cases rounds <;> rfl
  | endOfList padding =>
    cases rounds with
    | zero => simp at hrounds
    | succ rounds => cases rounds <;> rfl
  | noOperation _ ih =>
    cases rounds with
    | zero => simp at hrounds
    | succ rounds =>
      exact ih parsed (Nat.le_of_succ_le_succ hrounds)
  | @option kind length data rest views hend hnop valid hlen _ ih =>
    cases rounds with
    | zero => simp at hrounds
    | succ rounds =>
      simp only [List.length_cons, List.length_append] at hrounds
      simp only [parseOptionsLoop, nextOption_option hend hnop valid hlen, List.foldlM_cons]
      cases parsed.apply ⟨kind, kind :: length :: data⟩ with
      | none => rfl
      | some next => exact ih next (by omega)

theorem foldlM_padding {more : List OptionView} (h : ∀ view ∈ more, view = ⟨0#8, [0#8]⟩)
    (parsed : TypedOptions) : more.foldlM TypedOptions.apply parsed = some parsed := by
  induction more with
  | nil => rfl
  | cons view rest ih =>
    obtain rfl := h view List.mem_cons_self
    exact ih fun view hmem => h view (List.mem_cons_of_mem _ hmem)

/-- Zeros after an option string do not change what the parser reads. -/
theorem OptionString.parseTyped {views : List OptionView}
    (h : OptionString views options) (padding : Nat) :
    parseTypedOptions (options ++ List.replicate padding 0#8) =
      views.foldlM TypedOptions.apply TypedOptions.none := by
  obtain ⟨more, hmore, padded⟩ := h.pad padding
  have accepted := validateOptions_iff.mpr ⟨_, padded⟩
  rw [parseTypedOptions, if_neg (by simp [accepted]), padded.parse _ (Nat.le_refl _),
    List.foldlM_append]
  cases views.foldlM TypedOptions.apply TypedOptions.none with
  | none => rfl
  | some parsed => exact foldlM_padding hmore parsed

/-! ## The options of a handshake -/

def mssOption (value : BitVec 16) : OptionView := ⟨2#8, 2#8 :: 4#8 :: octets16 value⟩

def sackPermittedOption : OptionView := ⟨4#8, [4#8, 2#8]⟩

def timestampOption (value echo : BitVec 32) : OptionView := ⟨8#8, encodeTimestampOption value echo⟩

def windowScaleOption (shift : BitVec 8) : OptionView := ⟨3#8, [3#8, 3#8, shift]⟩

/-- The options a SYN carries for an offer. -/
def SynOptionOffer.views (offer : SynOptionOffer) : List OptionView :=
  [mssOption offer.receiveMss] ++
    (if offer.offerSack then [sackPermittedOption] else []) ++
    (if offer.offerTimestamps then
      [timestampOption offer.timestampValue offer.timestampEchoReply] else []) ++
    (if offer.offerWindowScale then [windowScaleOption offer.receiveWindowShift] else [])

/-- What the peer of an offer learns from it. -/
def SynOptionOffer.typed (offer : SynOptionOffer) : TypedOptions :=
  { TypedOptions.none with
    maximumSegmentSize := some offer.receiveMss
    windowScale := if offer.offerWindowScale then some offer.receiveWindowShift else none
    timestampValue := if offer.offerTimestamps then some offer.timestampValue else none
    timestampEchoReply := if offer.offerTimestamps then some offer.timestampEchoReply else none
    sackPermitted := offer.offerSack }

theorem OptionString.single {kind length : BitVec 8} {data : List Octet} (hend : kind ≠ 0#8)
    (hnop : kind ≠ 1#8) (valid : standardLengthIsValid kind length = true)
    (hlen : data.length + 2 = length.toNat) :
    OptionString [⟨kind, kind :: length :: data⟩] (kind :: length :: data) := by
  have alone := OptionString.option hend hnop valid hlen .done
  simpa only [List.append_nil] using alone

theorem OptionString.optional {views : List OptionView} (present : Bool)
    (h : OptionString views options) :
    OptionString (if present then views else []) (if present then options else []) := by
  cases present with
  | true => exact h
  | false => exact .done

theorem unended_optional (view : OptionView) (present : Bool) (h : view.kind ≠ 0#8) :
    ∀ v ∈ (if present then [view] else []), v.kind ≠ 0#8 := by
  cases present <;> simp [h]

theorem SynOptionOffer.views_unended (offer : SynOptionOffer) :
    ∀ view ∈ offer.views, view.kind ≠ 0#8 := by
  unfold views
  simp only [List.forall_mem_append]
  refine ⟨⟨⟨?_, ?_⟩, ?_⟩, ?_⟩
  · simp [mssOption]
  · exact unended_optional _ _ (by simp [sackPermittedOption])
  · exact unended_optional _ _ (by simp [timestampOption])
  · exact unended_optional _ _ (by simp [windowScaleOption])

/-- The octets of an accepted offer, and that they are its options. -/
theorem encodeSynOptions_string (h : encodeSynOptions outputSize offer = some options) :
    offer.receiveMss ≠ 0#16 ∧ OptionString offer.views options := by
  rw [encodeSynOptions, Option.ite_none_left_eq_some] at h
  obtain ⟨guard, written⟩ := h
  simp only [asserted, not_or] at guard
  obtain rfl := Option.some.inj written
  refine ⟨guard.1.1.1, ?_⟩
  have mss : OptionString [mssOption offer.receiveMss] ([2#8, 4#8] ++ octets16 offer.receiveMss) :=
    .single (by decide) (by decide) (by decide) rfl
  have sack : OptionString [sackPermittedOption] [4#8, 2#8] :=
    .single (by decide) (by decide) (by decide) rfl
  have timestamps : OptionString [timestampOption offer.timestampValue offer.timestampEchoReply]
      (encodeTimestampOption offer.timestampValue offer.timestampEchoReply) :=
    .single (by decide) (by decide) (by decide) rfl
  have scale : OptionString [windowScaleOption offer.receiveWindowShift]
      [3#8, 3#8, offer.receiveWindowShift] :=
    .single (by decide) (by decide) (by decide) rfl
  have ⟨unendedTimestamps, _⟩ := List.forall_mem_append.mp offer.views_unended
  have ⟨unendedSack, _⟩ := List.forall_mem_append.mp unendedTimestamps
  have ⟨unendedMss, _⟩ := List.forall_mem_append.mp unendedSack
  exact ((mss.append unendedMss (sack.optional offer.offerSack)).append unendedSack
    (timestamps.optional offer.offerTimestamps)).append unendedTimestamps
    (scale.optional offer.offerWindowScale)

theorem apply_mss (h : parsed.maximumSegmentSize = none) {value : BitVec 16} (hv : value ≠ 0#16) :
    parsed.apply (mssOption value) = some { parsed with maximumSegmentSize := some value } := by
  have read : read16 (mssOption value).raw 2 = value := Octets.append_halves value
  simp only [TypedOptions.apply, read]
  rw [if_pos (by simp [mssOption]), if_pos (by simp [h, hv])]

theorem apply_sackPermitted (parsed : TypedOptions) :
    parsed.apply sackPermittedOption = some { parsed with sackPermitted := true } := rfl

theorem apply_timestamp (h : parsed.timestampValue = none) (value echo : BitVec 32) :
    parsed.apply (timestampOption value echo) =
      some { parsed with timestampValue := some value, timestampEchoReply := some echo } := by
  have first : read32 (timestampOption value echo).raw 2 = value :=
    read32_octets32 value (octets32 echo)
  have second : read32 (timestampOption value echo).raw 6 = echo := read32_octets32 echo []
  simp only [TypedOptions.apply, first, second, h]
  rfl

theorem apply_windowScale (h : parsed.windowScale = none) (shift : BitVec 8) :
    parsed.apply (windowScaleOption shift) = some { parsed with windowScale := some shift } := by
  simp only [TypedOptions.apply, h]
  rfl

theorem SynOptionOffer.views_typed (hmss : offer.receiveMss ≠ 0#16) :
    offer.views.foldlM TypedOptions.apply TypedOptions.none = some offer.typed := by
  have first : TypedOptions.none.apply (mssOption offer.receiveMss) = _ := apply_mss rfl hmss
  unfold views typed
  simp only [List.foldlM_append, List.foldlM_cons, first]
  cases offer.offerSack <;> cases offer.offerTimestamps <;> cases offer.offerWindowScale <;>
    simp [apply_sackPermitted, apply_timestamp, apply_windowScale, TypedOptions.none]

/-! ## Selective acknowledgments -/

def blockOctets (block : SackBlock) : List Octet :=
  octets32 block.leftEdge ++ octets32 block.rightEdge

def sackOption (blocks : List SackBlock) : OptionView :=
  ⟨5#8, 5#8 :: BitVec.ofNat 8 (2 + blocks.length * 8) :: blocks.flatMap blockOctets⟩

/-- The blocks put into the four slots from the given one on. -/
def placeBlocks (slots : Vector SackBlock 4) : Nat → List SackBlock → Vector SackBlock 4
  | _, [] => slots
  | first, block :: rest => placeBlocks (slots.setIfInBounds first block) (first + 1) rest

/-- What is read when the blocks are added to options without any. -/
def TypedOptions.withBlocks (parsed : TypedOptions) (blocks : List SackBlock) : TypedOptions :=
  { parsed with
    sackBlocks := Vector.ofFn fun i => blocks.getD i {}
    sackBlockCount := BitVec.ofNat 8 blocks.length }

theorem placeBlocks_getElem (slots : Vector SackBlock 4) (first : Nat) (blocks : List SackBlock)
    {k : Nat} (hk : k < 4) :
    (placeBlocks slots first blocks)[k] =
      if first ≤ k ∧ k < first + blocks.length then blocks.getD (k - first) {} else slots[k] := by
  induction blocks generalizing slots first with
  | nil =>
    rw [if_neg (by simp only [List.length_nil]; omega)]
    rfl
  | cons block rest ih =>
    rw [placeBlocks, ih, Vector.getElem_setIfInBounds]
    simp only [List.length_cons]
    by_cases here : first = k
    · subst here
      rw [if_neg (by omega), if_pos rfl, if_pos (by omega), Nat.sub_self]
      rfl
    · by_cases later : first + 1 ≤ k ∧ k < first + 1 + rest.length
      · obtain ⟨n, hn⟩ : ∃ n, k - first = n + 1 := ⟨k - first - 1, by omega⟩
        rw [if_pos later, if_pos (by omega), hn, show k - (first + 1) = n by omega]
        rfl
      · rw [if_neg later, if_neg here, if_neg (by omega)]

theorem placeBlocks_empty :
    placeBlocks (Vector.replicate 4 {}) 0 blocks = Vector.ofFn fun i => blocks.getD i {} := by
  apply Vector.ext
  intro k hk
  rw [placeBlocks_getElem _ _ _ hk, Vector.getElem_ofFn]
  by_cases inside : k < blocks.length
  · rw [if_pos (by omega)]
    rfl
  · rw [if_neg (by omega), Vector.getElem_replicate]
    simp [Nat.le_of_not_lt inside]

theorem readSackBlocks_blocks (parsed : TypedOptions)
    (valid : ∀ block ∈ blocks, Serial.after block.rightEdge block.leftEdge = true)
    (room : parsed.sackBlockCount.toNat + blocks.length ≤ 4) :
    readSackBlocks parsed (blocks.flatMap blockOctets) = some { parsed with
      sackBlocks := placeBlocks parsed.sackBlocks parsed.sackBlockCount.toNat blocks
      sackBlockCount := parsed.sackBlockCount + BitVec.ofNat 8 blocks.length } := by
  induction blocks generalizing parsed with
  | nil => simp [readSackBlocks, placeBlocks]
  | cons block rest ih =>
    simp only [List.length_cons] at room
    have left := read32_octets32 block.leftEdge []
    have right := read32_octets32 block.rightEdge []
    have full : ¬ 4#8 ≤ parsed.sackBlockCount := by bv_omega
    have count : (parsed.sackBlockCount + 1#8).toNat = parsed.sackBlockCount.toNat + 1 := by
      bv_omega
    have guard : (decide (4#8 ≤ parsed.sackBlockCount) ||
        !Serial.after block.rightEdge block.leftEdge) = false := by
      simp [full, valid block List.mem_cons_self]
    have tail := ih { parsed with
        sackBlocks := parsed.sackBlocks.setIfInBounds parsed.sackBlockCount.toNat block
        sackBlockCount := parsed.sackBlockCount + 1#8 }
      (fun b hmem => valid b (List.mem_cons_of_mem _ hmem)) (by simp only [count]; omega)
    simp only [octets32, octets16, List.cons_append, List.nil_append] at left right
    simp only [List.flatMap_cons, blockOctets, octets32, octets16, List.cons_append,
      List.nil_append, readSackBlocks, left, right, guard]
    refine Eq.trans tail ?_
    simp only [count, List.length_cons]
    congr 2
    bv_omega

theorem encodeSackOption_string (h : encodeSackOption outputSize blocks = some options) :
    blocks.length ≤ 4 ∧ (∀ block ∈ blocks, Serial.after block.rightEdge block.leftEdge = true) ∧
    OptionString [sackOption blocks] options := by
  rw [encodeSackOption, Option.ite_none_left_eq_some] at h
  obtain ⟨guard, written⟩ := h
  obtain rfl := Option.some.inj written
  simp only [asserted, not_or, refuted, List.isEmpty_iff, Nat.not_lt] at guard
  obtain ⟨⟨⟨nonempty, small⟩, _⟩, valid⟩ := guard
  have hpos : 0 < blocks.length := List.length_pos_iff.mpr nonempty
  have wide : ∀ block, (blockOctets block).length = 8 := fun _ => rfl
  have hdata := Octets.length_records wide blocks
  refine ⟨small, fun block hmem => by simpa using List.all_eq_true.mp valid block hmem, ?_⟩
  refine OptionString.single (by decide) (by decide) ?_ ?_
  · have cases : blocks.length = 1 ∨ blocks.length = 2 ∨ blocks.length = 3 ∨ blocks.length = 4 := by
      omega
    rcases cases with one | two | three | four
    · rw [one]
      decide
    · rw [two]
      decide
    · rw [three]
      decide
    · rw [four]
      decide
  · rw [BitVec.toNat_ofNat]
    omega

theorem apply_sack (hslots : parsed.sackBlocks = Vector.replicate 4 {})
    (hcount : parsed.sackBlockCount = 0#8) (small : blocks.length ≤ 4)
    (valid : ∀ block ∈ blocks, Serial.after block.rightEdge block.leftEdge = true) :
    parsed.apply (sackOption blocks) = some (parsed.withBlocks blocks) := by
  have read := readSackBlocks_blocks parsed valid (by simp [hcount, small])
  rw [hslots, hcount] at read
  have raw : (sackOption blocks).raw.drop 2 = blocks.flatMap blockOctets := rfl
  simp only [TypedOptions.apply, raw, read]
  rw [if_neg (by simp [sackOption]), if_neg (by simp [sackOption]), if_neg (by simp [sackOption]),
    if_pos (by simp [sackOption]), TypedOptions.withBlocks, BitVec.zero_add]
  congr 2
  exact placeBlocks_empty

/-! ## Offers and blocks together -/

theorem parse_syn (h : encodeSynOptions outputSize offer = some options) (padding : Nat) :
    parseTypedOptions (options ++ List.replicate padding 0#8) = some offer.typed := by
  obtain ⟨hmss, string⟩ := encodeSynOptions_string h
  rw [string.parseTyped padding, SynOptionOffer.views_typed hmss]

theorem parse_sack (h : encodeSackOption outputSize blocks = some options) (padding : Nat) :
    parseTypedOptions (options ++ List.replicate padding 0#8) =
      some (TypedOptions.none.withBlocks blocks) := by
  obtain ⟨small, valid, string⟩ := encodeSackOption_string h
  rw [string.parseTyped padding, List.foldlM_cons, apply_sack rfl rfl small valid]
  rfl

/-- Blocks after the options of an offer leave what is read of the offer alone. -/
theorem parse_syn_sack {synSize sackSize : Nat} {sack : List Octet}
    (h : encodeSynOptions synSize offer = some options)
    (g : encodeSackOption sackSize blocks = some sack) (padding : Nat) :
    parseTypedOptions (options ++ sack ++ List.replicate padding 0#8) =
      some (offer.typed.withBlocks blocks) := by
  obtain ⟨hmss, string⟩ := encodeSynOptions_string h
  obtain ⟨small, valid, after⟩ := encodeSackOption_string g
  have both := string.append offer.views_unended after
  rw [both.parseTyped padding, List.foldlM_append, SynOptionOffer.views_typed hmss,
    Option.bind_eq_bind, Option.bind_some, List.foldlM_cons, apply_sack rfl rfl small valid]
  rfl

/-- One to four blocks in order are encoded wherever there is room. -/
theorem encodeSackOption_some (nonempty : blocks ≠ [])
    (small : blocks.length ≤ 4) (room : 2 + blocks.length * 8 ≤ outputSize)
    (valid : ∀ block ∈ blocks, Serial.after block.rightEdge block.leftEdge = true) :
    ∃ options, encodeSackOption outputSize blocks = some options := by
  have all : blocks.all (fun block => Serial.after block.rightEdge block.leftEdge) = true :=
    List.all_eq_true.mpr valid
  refine ⟨_, if_neg ?_⟩
  simp [all, nonempty, small, room]

end RouterSim.Tcp
