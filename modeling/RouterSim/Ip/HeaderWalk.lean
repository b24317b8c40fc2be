import RouterSim.Ip.Fragmentation

/-! The walk over the extension headers: its rounds are enough, the insertion point lies on
it, and the same headers walked eight octets further on end eight octets further on. -/
namespace RouterSim.Ip

open Octets

variable {packet frame : Frame} {packetEnd frameEnd rounds : Nat} {view last : Ipv6View}
  {cursor final : HeaderCursor}

/-! ## One header -/

theorem headerAt_options (h : hasOptionsLength cursor.current = true) :
    headerAt packet packetEnd view cursor =
      if cursor.current == nextHeaderHopByHop && cursor.offset != 54 ||
          decide (packetEnd < cursor.offset + 2) then .malformed
      else .extension view (optionsLength packet cursor.offset) := by
  rw [headerAt, if_pos h]

theorem headerAt_fragment (h : cursor.current = nextHeaderFragment) :
    headerAt packet packetEnd view cursor =
      if view.fragment.isSome || decide (packetEnd < cursor.offset + 8) then .malformed
      else .extension
        { view with
          fragmentPreviousNextHeaderOffset := BitVec.ofNat 16 cursor.nextHeaderOffset
          fragment := some (fragmentView packet cursor.offset)
          fragmentHeaderOffset := BitVec.ofNat 16 cursor.offset } 8 := by
  have options : ¬ hasOptionsLength cursor.current = true := by rw [h]; decide
  rw [headerAt, if_neg options, if_pos (by rw [h]; decide)]

theorem headerAt_authentication (h : cursor.current = nextHeaderAuthentication) :
    headerAt packet packetEnd view cursor =
      if packetEnd < cursor.offset + 2 ∨ authenticationLength packet cursor.offset < 16 ∨
          authenticationLength packet cursor.offset % 8 ≠ 0 then .malformed
      else .extension { view with authenticationHeaderPresent := true }
        (authenticationLength packet cursor.offset) := by
  have options : ¬ hasOptionsLength cursor.current = true := by rw [h]; decide
  have fragment : ¬ (cursor.current == nextHeaderFragment) = true := by rw [h]; decide
  rw [headerAt, if_neg options, if_neg fragment, if_pos (by rw [h]; decide)]

theorem headerAt_upperLayer (options : hasOptionsLength cursor.current = false)
    (fragment : cursor.current ≠ nextHeaderFragment)
    (authentication : cursor.current ≠ nextHeaderAuthentication) :
    headerAt packet packetEnd view cursor = .upperLayer := by
  rw [headerAt, if_neg (by simp [options]), if_neg (by simpa using fragment),
    if_neg (by simpa using authentication)]

theorem eight_le_optionsLength (packet : Frame) (offset : Nat) :
    8 ≤ optionsLength packet offset := by
  unfold optionsLength
  omega

/-! ## The rounds are enough -/

/-- Once there are more rounds than octets left, their number does not matter. -/
theorem parseHeaders_rounds {rounds' : Nat} (h : packetEnd - cursor.offset < rounds)
    (h' : packetEnd - cursor.offset < rounds') :
    parseHeaders packet packetEnd rounds view cursor =
      parseHeaders packet packetEnd rounds' view cursor := by
  induction rounds generalizing rounds' view cursor with
  | zero => omega
  | succ rounds ih =>
    cases rounds' with
    | zero => omega
    | succ rounds' =>
      rw [parseHeaders, parseHeaders]
      split
      · rfl
      · rfl
      split
      · rfl
      rename_i view' length _ hlength
      split
      · rfl
      have hoffset : (cursor.next packet length).offset = cursor.offset + length := rfl
      apply ih
      · omega
      · omega

variable {view' : Ipv6View}

theorem headerAt_known {length : Nat}
    (h : headerAt packet packetEnd view cursor = .extension view' length)
    (known : view.fragment.isSome = true) : view'.fragment.isSome = true := by
  by_cases options : hasOptionsLength cursor.current = true
  · rw [headerAt_options options] at h
    split at h
    · cases h
    · cases h
      exact known
  · by_cases fragment : cursor.current = nextHeaderFragment
    · rw [headerAt_fragment fragment, known] at h
      cases h
    · by_cases authentication : cursor.current = nextHeaderAuthentication
      · rw [headerAt_authentication authentication] at h
        split at h
        · cases h
        · cases h
          exact known
      · rw [headerAt_upperLayer (by simpa using options) fragment authentication] at h
        cases h

theorem parseHeaders_fragment (h : parseHeaders packet packetEnd rounds view cursor =
    some (last, final)) (known : view.fragment.isSome = true) : last.fragment.isSome = true := by
  induction rounds generalizing view cursor with
  | zero => cases h
  | succ rounds ih =>
    rw [parseHeaders] at h
    split at h
    next => cases h
    next =>
      cases h
      exact known
    next view' length hat =>
      have known' := headerAt_known hat known
      split at h
      next => cases h
      split at h
      next =>
        cases h
        exact known'
      next => exact ih h known'

/-! ## Up to the insertion point -/

/-- Headers with an options length lead from a cursor to the target. -/
inductive OptionsTo (packet : Frame) (target : HeaderCursor) : HeaderCursor → Prop
  | here : OptionsTo packet target target
  | skip {cursor : HeaderCursor} (options : hasOptionsLength cursor.current = true)
      (first : cursor.current = nextHeaderHopByHop → cursor.offset = 54)
      (rest : OptionsTo packet target (cursor.next packet (optionsLength packet cursor.offset))) :
      OptionsTo packet target cursor

/-- The octet that names a header lies before it, and at or after the fixed header's. -/
structure HeaderCursor.Named (cursor : HeaderCursor) (packet : Frame) : Prop where
  current : cursor.current = get packet cursor.nextHeaderOffset
  lower : 20 ≤ cursor.nextHeaderOffset
  upper : cursor.nextHeaderOffset < cursor.offset
  start : 54 ≤ cursor.offset

theorem firstCursor_named (packet : Frame) : (firstCursor packet).Named packet :=
  ⟨rfl, Nat.le_refl 20, by show 20 < 54; decide, Nat.le_refl 54⟩

theorem HeaderCursor.Named.next (h : cursor.Named packet) {length : Nat} (pos : 0 < length) :
    (cursor.next packet length).Named packet := by
  have start := h.start
  refine ⟨rfl, ?_, ?_, ?_⟩
  · show 20 ≤ cursor.offset
    omega
  · show cursor.offset < cursor.offset + length
    omega
  · show 54 ≤ cursor.offset + length
    omega

variable {target : HeaderCursor}

section

variable (h : OptionsTo packet target cursor)
include h

theorem OptionsTo.offset_le : cursor.offset ≤ target.offset := by
  induction h with
  | here => exact Nat.le_refl _
  | @skip cursor _ _ _ ih =>
    have : (cursor.next packet (optionsLength packet cursor.offset)).offset =
        cursor.offset + optionsLength packet cursor.offset := rfl
    omega

/-- A cursor is the target, or its header ends before the octet that names the target. -/
theorem OptionsTo.before : cursor = target ∨ cursor.offset ≤ target.nextHeaderOffset := by
  induction h with
  | here => exact .inl rfl
  | @skip cursor _ _ rest ih =>
    right
    obtain rfl | hle := ih
    · exact Nat.le_refl _
    · have : (cursor.next packet (optionsLength packet cursor.offset)).offset =
          cursor.offset + optionsLength packet cursor.offset := rfl
      omega

theorem OptionsTo.named (hc : cursor.Named packet) : target.Named packet := by
  induction h with
  | here => exact hc
  | @skip cursor _ _ _ ih =>
    have := eight_le_optionsLength packet cursor.offset
    exact ih (hc.next (by omega))

/-- The parser walks over the options headers in a few rounds. -/
theorem OptionsTo.parse (inside : target.offset ≤ packetEnd) (unknown : view.fragment = none) :
    ∃ n, cursor.offset + n * 8 ≤ target.offset ∧ ∀ rounds,
      parseHeaders packet packetEnd (rounds + n) view cursor =
        parseHeaders packet packetEnd rounds view target := by
  induction h with
  | here => exact ⟨0, by omega, fun _ => rfl⟩
  | @skip cursor options first rest ih =>
    have long := eight_le_optionsLength packet cursor.offset
    have hoffset : (cursor.next packet (optionsLength packet cursor.offset)).offset =
        cursor.offset + optionsLength packet cursor.offset := rfl
    obtain ⟨n, hn, walk⟩ := ih
    refine ⟨n + 1, by omega, fun rounds => ?_⟩
    rw [show rounds + (n + 1) = (rounds + n) + 1 by omega, parseHeaders, headerAt_options options]
    have wellPlaced : (cursor.current == nextHeaderHopByHop && cursor.offset != 54 ||
        decide (packetEnd < cursor.offset + 2)) = false := by
      have room : ¬ packetEnd < cursor.offset + 2 := by omega
      by_cases hop : cursor.current = nextHeaderHopByHop
      · simp [first hop] at room ⊢
        omega
      · simp [hop]
        omega
    rw [wellPlaced]
    simp only [settled, ↓reduceIte]
    rw [if_neg (by omega), if_neg (by simp [Ipv6View.nonFirstFragment, unknown])]
    exact walk rounds

end

/-- The insertion point is reached over options headers, and the parser comes by it. -/
theorem insertionPointFrom_reached {insertion : FragmentInsertion} {routingSeen : Bool}
    {rounds' : Nat} (h : insertionPointFrom packet packetEnd rounds routingSeen cursor =
      some insertion)
    (parsed : parseHeaders packet packetEnd rounds' view cursor = some (last, final))
    (unknown : view.fragment = none) :
    ∃ target, target.insertion = insertion ∧ OptionsTo packet target cursor ∧
      target.current ≠ nextHeaderHopByHop ∧
      ∃ rounds'', parseHeaders packet packetEnd rounds'' view target = some (last, final) := by
  induction rounds generalizing routingSeen cursor rounds' with
  | zero => cases h
  | succ rounds ih =>
    rw [insertionPointFrom] at h
    split at h
    next notOptions =>
      cases h
      refine ⟨cursor, rfl, .here, ?_, rounds', parsed⟩
      intro hop
      rw [hop] at notOptions
      exact absurd notOptions (by decide)
    next options =>
      have options' : hasOptionsLength cursor.current = true := by simpa using options
      split at h
      next => cases h
      split at h
      next => cases h
      split at h
      next before =>
        cases h
        refine ⟨cursor, rfl, .here, ?_, rounds', parsed⟩
        intro hop
        have named : (cursor.current == nextHeaderDestinationOptions) = true :=
          (Bool.and_eq_true _ _ ▸ before).1
        rw [hop] at named
        exact absurd named (by decide)
      next =>
        cases rounds' with
        | zero => cases parsed
        | succ rounds' =>
          rw [parseHeaders, headerAt_options options'] at parsed
          by_cases bad : (cursor.current == nextHeaderHopByHop && cursor.offset != 54 ||
              decide (packetEnd < cursor.offset + 2)) = true
          · rw [if_pos bad] at parsed
            cases parsed
          · rw [if_neg bad] at parsed
            have long := eight_le_optionsLength packet cursor.offset
            simp only at parsed
            rw [if_neg (by omega),
              if_neg (by simp [Ipv6View.nonFirstFragment, unknown])] at parsed
            obtain ⟨target, hi, path, notHop, again⟩ := ih h parsed
            refine ⟨target, hi, .skip options' ?_ path, notHop, again⟩
            intro hop
            simp only [hop, beq_self_eq_true, settled, asserted, not_or, Decidable.not_not] at bad
            exact bad.1

/-! ## In a fragment -/

/-- A cursor as another frame has it: the number is read again. -/
def HeaderCursor.reread (cursor : HeaderCursor) (frame : Frame) : HeaderCursor :=
  { cursor with current := get frame cursor.nextHeaderOffset }

/-- A frame that differs in front of the target at most in the octet that names it, and in
the payload length, has the same options headers. -/
theorem OptionsTo.transfer (h : OptionsTo packet target cursor) (hc : cursor.Named packet)
    (same : ∀ i < target.offset, i ≠ target.nextHeaderOffset → i ≠ 18 → i ≠ 19 →
      get frame i = get packet i) :
    OptionsTo frame (target.reread frame) (cursor.reread frame) := by
  induction h with
  | here => exact .here
  | @skip cursor options first rest ih =>
    have long := eight_le_optionsLength packet cursor.offset
    have hoffset : (cursor.next packet (optionsLength packet cursor.offset)).offset =
        cursor.offset + optionsLength packet cursor.offset := rfl
    have inside := rest.offset_le
    have upper := hc.upper
    have lower := hc.lower
    have place : target.nextHeaderOffset = cursor.offset ∨
        cursor.offset + optionsLength packet cursor.offset ≤ target.nextHeaderOffset := by
      obtain heq | hle := rest.before
      · left
        rw [← heq]
        rfl
      · exact .inr hle
    have current : get frame cursor.nextHeaderOffset = cursor.current := by
      rw [hc.current]
      exact same _ (by omega) (by omega) (by omega) (by omega)
    have length : optionsLength frame cursor.offset = optionsLength packet cursor.offset := by
      unfold optionsLength
      rw [same (cursor.offset + 1) (by omega) (by omega) (by omega) (by omega)]
    have next := ih (hc.next (by omega))
    apply OptionsTo.skip
    · show hasOptionsLength (get frame cursor.nextHeaderOffset) = true
      rw [current]
      exact options
    · intro hop
      exact first (by rw [← current]; exact hop)
    · show OptionsTo frame (target.reread frame)
        ((cursor.reread frame).next frame (optionsLength frame cursor.offset))
      rw [length]
      exact next

/-- The frame holds the headers eight octets further on. -/
def Shifted (packet frame : Frame) (frameEnd start : Nat) : Prop :=
  ∀ i, start ≤ i → i + 8 < frameEnd → get frame (i + 8) = get packet i

theorem parseHeaders_malformed (h : headerAt packet packetEnd view cursor = .malformed) :
    parseHeaders packet packetEnd rounds view cursor = none := by
  cases rounds with
  | zero => rfl
  | succ rounds => rw [parseHeaders, h]

theorem parseHeaders_cut {length : Nat}
    (h : headerAt packet packetEnd view cursor = .extension view' length)
    (cut : packetEnd < cursor.offset + length) :
    parseHeaders packet packetEnd rounds view cursor = none := by
  cases rounds with
  | zero => rfl
  | succ rounds =>
    rw [parseHeaders, h]
    exact if_pos (.inr cut)

theorem parseHeaders_extension {length : Nat}
    (h : headerAt packet packetEnd view cursor = .extension view' length) (pos : 0 < length)
    (inside : cursor.offset + length ≤ packetEnd) (first : view'.nonFirstFragment = false) :
    parseHeaders packet packetEnd (rounds + 1) view cursor =
      parseHeaders packet packetEnd rounds view' (cursor.next packet length) := by
  rw [parseHeaders, h]
  simp only
  rw [if_neg (by omega), if_neg (by simp [first])]

/-- What a parse that succeeds did with an extension header. -/
theorem parseHeaders_extension_of_some {length : Nat}
    (parsed : parseHeaders packet packetEnd (rounds + 1) view cursor = some (last, final))
    (h : headerAt packet packetEnd view cursor = .extension view' length)
    (first : view'.nonFirstFragment = false) :
    0 < length ∧ cursor.offset + length ≤ packetEnd ∧
      parseHeaders packet packetEnd rounds view' (cursor.next packet length) =
        some (last, final) := by
  rw [parseHeaders, h] at parsed
  simp only at parsed
  split at parsed
  next => cases parsed
  rw [if_neg (by simp [first])] at parsed
  exact ⟨by omega, by omega, parsed⟩

/-- An extension header of the packet and its copy in the frame: the walk goes on in both,
or the copy does not fit. -/
structure SameExtension (packet frame : Frame) (packetEnd frameEnd : Nat) (view view' : Ipv6View)
    (cursor : HeaderCursor) (length : Nat) (after : Ipv6View) : Prop where
  header : headerAt packet packetEnd view cursor = .extension after length
  afterFragment : after.fragment = view.fragment
  copy : ∀ m, cursor.offset + 8 + 2 ≤ frameEnd → ∃ mark,
    headerAt frame frameEnd view' ⟨cursor.current, cursor.offset + 8, m⟩ =
      .extension { view' with authenticationHeaderPresent := mark } length
  cut : ∀ m, frameEnd < cursor.offset + 8 + 2 →
    headerAt frame frameEnd view' ⟨cursor.current, cursor.offset + 8, m⟩ = .malformed
  long : 8 ≤ length

/-- Every header of the packet but the Fragment header is the upper layer's, malformed, or
the same extension in the frame. -/
theorem header_same (packetEnd : Nat) (view view' : Ipv6View)
    (fragment : cursor.current ≠ nextHeaderFragment)
    (hop : cursor.offset = 54 → cursor.current ≠ nextHeaderHopByHop)
    (shifted : Shifted packet frame frameEnd cursor.offset) :
    headerAt packet packetEnd view cursor = .malformed ∨
    (headerAt packet packetEnd view cursor = .upperLayer ∧
      ∀ m, headerAt frame frameEnd view' ⟨cursor.current, cursor.offset + 8, m⟩ = .upperLayer) ∨
    ∃ length after, SameExtension packet frame packetEnd frameEnd view view' cursor length after := by
  have second : cursor.offset + 8 + 2 ≤ frameEnd →
      get frame (cursor.offset + 8 + 1) = get packet (cursor.offset + 1) := by
    intro inside
    rw [← shifted (cursor.offset + 1) (by omega) (by omega)]
  by_cases options : hasOptionsLength cursor.current = true
  · have options' : ∀ m, hasOptionsLength
        (HeaderCursor.mk cursor.current (cursor.offset + 8) m).current = true := fun _ => options
    by_cases bad : (cursor.current == nextHeaderHopByHop && cursor.offset != 54 ||
        decide (packetEnd < cursor.offset + 2)) = true
    · left
      rw [headerAt_options options, if_pos bad]
    · right; right
      have notHop : cursor.current ≠ nextHeaderHopByHop := by
        intro isHop
        simp only [isHop, beq_self_eq_true, settled, asserted, not_or, Decidable.not_not] at bad
        exact hop bad.1 isHop
      refine ⟨optionsLength packet cursor.offset, view, ?_, rfl, ?_, ?_,
        eight_le_optionsLength packet cursor.offset⟩
      · rw [headerAt_options options, if_neg bad]
      · intro m inside
        refine ⟨view'.authenticationHeaderPresent, ?_⟩
        rw [headerAt_options (options' m)]
        have here : ¬ frameEnd < cursor.offset + 8 + 2 := by omega
        simp only [beq_eq_false_iff_ne.mpr notHop, settled, here, decide_false, ↓reduceIte]
        rw [optionsLength, second inside, optionsLength]
      · intro m outside
        rw [headerAt_options (options' m), if_pos (by simp [outside])]
  · by_cases authentication : cursor.current = nextHeaderAuthentication
    · have authentication' : ∀ m,
          (HeaderCursor.mk cursor.current (cursor.offset + 8) m).current =
            nextHeaderAuthentication := fun _ => authentication
      by_cases bad : packetEnd < cursor.offset + 2 ∨
          authenticationLength packet cursor.offset < 16 ∨
          authenticationLength packet cursor.offset % 8 ≠ 0
      · left
        rw [headerAt_authentication authentication, if_pos bad]
      · right; right
        refine ⟨authenticationLength packet cursor.offset,
          { view with authenticationHeaderPresent := true }, ?_, rfl, ?_, ?_, by omega⟩
        · rw [headerAt_authentication authentication, if_neg bad]
        · intro m inside
          have length : authenticationLength frame (cursor.offset + 8) =
              authenticationLength packet cursor.offset := by
            rw [authenticationLength, second inside, authenticationLength]
          refine ⟨true, ?_⟩
          rw [headerAt_authentication (authentication' m)]
          simp only [length]
          rw [if_neg (by omega)]
        · intro m outside
          rw [headerAt_authentication (authentication' m), if_pos (.inl outside)]
    · right; left
      refine ⟨headerAt_upperLayer (by simpa using options) fragment authentication, fun m => ?_⟩
      exact headerAt_upperLayer (by simpa using options) fragment authentication

variable (parsed : parseHeaders packet packetEnd rounds view cursor = some (last, final))
include parsed

theorem fragment_none_of_parsed (unknown : last.fragment = none) : view.fragment = none := by
  cases known : view.fragment with
  | none => rfl
  | some part =>
    have := parseHeaders_fragment parsed (by rw [known]; rfl)
    rw [unknown] at this
    cases this

/-- A walk over the packet that meets no Fragment header is at none. -/
theorem not_fragment_of_parsed (unknown : last.fragment = none) :
    cursor.current ≠ nextHeaderFragment := by
  intro fragment
  cases rounds with
  | zero => cases parsed
  | succ rounds =>
    rw [parseHeaders, headerAt_fragment fragment] at parsed
    by_cases bad : (view.fragment.isSome || decide (packetEnd < cursor.offset + 8)) = true
    · rw [if_pos bad] at parsed
      cases parsed
    · rw [if_neg bad] at parsed
      simp only at parsed
      split at parsed
      next => cases parsed
      split at parsed
      next =>
        cases parsed
        cases unknown
      next =>
        have := fragment_none_of_parsed parsed unknown
        cases this

theorem parseHeaders_offset_le : cursor.offset ≤ final.offset := by
  induction rounds generalizing view cursor with
  | zero => cases parsed
  | succ rounds ih =>
    rw [parseHeaders] at parsed
    split at parsed
    next => cases parsed
    next =>
      cases parsed
      exact Nat.le_refl _
    next view' length hat =>
      split at parsed
      next => cases parsed
      split at parsed
      next =>
        cases parsed
        exact Nat.le_add_right _ _
      next => exact Nat.le_trans (Nat.le_add_right _ _) (ih parsed)

/-- The headers of the packet walked in the frame: they end eight octets further on, if
the frame reaches that far, and the walk fails if it does not. -/
theorem parseHeaders_shifted (unknown : last.fragment = none) (start : 54 ≤ cursor.offset)
    (hop : cursor.offset = 54 → cursor.current ≠ nextHeaderHopByHop)
    (shifted : Shifted packet frame frameEnd cursor.offset) (inside : cursor.offset + 8 ≤ frameEnd)
    (first : view'.nonFirstFragment = false) (m : Nat) :
    (final.offset + 8 ≤ frameEnd → ∀ rounds', frameEnd < rounds' + cursor.offset + 8 →
      ∃ mark end', parseHeaders frame frameEnd rounds' view'
        ⟨cursor.current, cursor.offset + 8, m⟩ =
          some ({ view' with authenticationHeaderPresent := mark }, end')) ∧
    (frameEnd < final.offset + 8 → ∀ rounds', parseHeaders frame frameEnd rounds' view'
      ⟨cursor.current, cursor.offset + 8, m⟩ = none) := by
  induction rounds generalizing view cursor view' m with
  | zero => cases parsed
  | succ rounds ih =>
    have fragment := not_fragment_of_parsed parsed unknown
    have viewUnknown := fragment_none_of_parsed parsed unknown
    obtain bad | ⟨upper, upper'⟩ | ⟨length, after, same⟩ :=
      header_same packetEnd view view' fragment hop shifted
    · rw [parseHeaders_malformed bad] at parsed
      cases parsed
    · rw [parseHeaders, upper] at parsed
      cases parsed
      refine ⟨fun _ rounds' enough => ?_, fun short => by omega⟩
      obtain ⟨n, rfl⟩ : ∃ n, rounds' = n + 1 := ⟨rounds' - 1, by omega⟩
      refine ⟨view'.authenticationHeaderPresent, ⟨final.current, final.offset + 8, m⟩, ?_⟩
      rw [parseHeaders, upper' m]
    · have plain : after.nonFirstFragment = false := by
        rw [Ipv6View.nonFirstFragment, same.afterFragment, viewUnknown]
        rfl
      obtain ⟨pos, fits, parsed'⟩ := parseHeaders_extension_of_some parsed same.header plain
      have long := same.long
      have hoffset : (cursor.next packet length).offset = cursor.offset + length := rfl
      by_cases short : frameEnd < cursor.offset + 8 + length
      · have past := parseHeaders_offset_le parsed'
        refine ⟨fun _ => by omega, fun _ rounds' => ?_⟩
        by_cases two : cursor.offset + 8 + 2 ≤ frameEnd
        · obtain ⟨mark, header⟩ := same.copy m two
          exact parseHeaders_cut header short
        · exact parseHeaders_malformed (same.cut m (by omega))
      · obtain ⟨mark, header⟩ := same.copy m (by omega)
        have shifted' : Shifted packet frame frameEnd (cursor.next packet length).offset := by
          intro i hi hend
          exact shifted i (by omega) hend
        have first' : Ipv6View.nonFirstFragment
            { view' with authenticationHeaderPresent := mark } = false := first
        obtain ⟨ends, fails⟩ :=
          ih parsed' (by omega) (by omega) shifted' (by omega) first' (cursor.offset + 8)
        have named : get frame (cursor.offset + 8) = get packet cursor.offset :=
          shifted cursor.offset (Nat.le_refl _) (by omega)
        have next : ∀ n, parseHeaders frame frameEnd (n + 1) view'
            ⟨cursor.current, cursor.offset + 8, m⟩ =
            parseHeaders frame frameEnd n { view' with authenticationHeaderPresent := mark }
              ⟨(cursor.next packet length).current, (cursor.next packet length).offset + 8,
                cursor.offset + 8⟩ := by
          intro n
          rw [parseHeaders_extension header (by omega) (by show cursor.offset + 8 + length ≤ _; omega)
            first]
          congr 1
          simp only [HeaderCursor.next]
          congr 1
          omega
        refine ⟨fun fits' rounds' enough => ?_, fun short' rounds' => ?_⟩
        · obtain ⟨n, rfl⟩ : ∃ n, rounds' = n + 1 := ⟨rounds' - 1, by omega⟩
          rw [next]
          exact ends fits' n (by omega)
        · cases rounds' with
          | zero => rfl
          | succ rounds' =>
            rw [next]
            exact fails short' rounds'

end RouterSim.Ip
