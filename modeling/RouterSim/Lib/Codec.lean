import RouterSim.Lib.Checks

/-! A byte codec of writers and readers. A writer appends octets to its output
and may give up; a reader consumes octets from its input and may reject it.
Integers are little-endian. -/
namespace Codec

open BitVec Option

abbrev Writer := StateT (List (BitVec 8)) Option Unit

abbrev Reader (α : Type) := StateT (List (BitVec 8)) Option α

variable {α β : Type}

namespace Writer

def octets (bytes : List (BitVec 8)) : Writer := fun out => some ((), out ++ bytes)

def littleEndian {w : Nat} (n : Nat) (value : BitVec w) : List (BitVec 8) :=
  (List.range n).map fun index => (value >>> (index * 8)).setWidth 8

def integer {w : Nat} (value : BitVec w) : Writer := octets (littleEndian (w / 8) value)

def boolean (value : Bool) : Writer := integer (if value then 1#8 else 0#8)

def optional (write : α → Writer) (value : Option α) : Writer := do
  boolean value.isSome
  match value with
  | none => pure ()
  | some item => write item

def octetArray {n : Nat} (value : Vector (BitVec 8) n) : Writer := octets value.toList

def byteVector (value : List (BitVec 8)) : Writer :=
  if 0xffffffff < value.length then failure
  else do
    integer (BitVec.ofNat 32 value.length)
    octets value

def array {n : Nat} (write : α → Writer) (value : Vector α n) : Writer := value.toList.forM write

/-- A count and then the elements. -/
def vector (write : α → Writer) (values : List α) : Writer := do
  integer (BitVec.ofNat 32 values.length)
  values.forM write

end Writer

namespace Reader

def remaining : Reader Nat := fun input => some (input.length, input)

def octets (n : Nat) : Reader (List (BitVec 8)) := fun input =>
  if input.length < n then none else some (input.take n, input.drop n)

def assemble (w : Nat) : List (BitVec 8) → BitVec w
  | [] => 0#w
  | octet :: rest => octet.setWidth w ||| (assemble w rest <<< 8)

def integer (w : Nat) : Reader (BitVec w) := do
  let bytes ← octets (w / 8)
  pure (assemble w bytes)

def boolean : Reader Bool := do
  let raw ← integer 8
  if 1#8 < raw then failure else pure (raw != 0#8)

def optional (read : Reader α) : Reader (Option α) := do
  let present ← boolean
  if !present then pure none
  else
    let decoded ← read
    pure (some decoded)

def times (read : Reader α) : Nat → Reader (List α)
  | 0 => pure []
  | n + 1 => do
    let first ← read
    let rest ← times read n
    pure (first :: rest)

/-- A list of the right length as an array. -/
def sized (n : Nat) (read : Reader (List α)) : Reader (Vector α n) := do
  let items ← read
  if h : items.length = n then pure ⟨items.toArray, by simp [h]⟩ else failure

def array (read : Reader α) (n : Nat) : Reader (Vector α n) := sized n (times read n)

def octetArray (n : Nat) : Reader (Vector (BitVec 8) n) := sized n (octets n)

def byteVector (limit : Nat) : Reader (List (BitVec 8)) := do
  let size ← integer 32
  let left ← remaining
  if limit < size.toNat || left < size.toNat then failure else octets size.toNat

/-- A count that the rest of the input can hold at `unit` octets an element, and
then the elements. -/
def vector (unit : Nat) (read : Reader α) : Reader (List α) := do
  let size ← integer 32
  let left ← remaining
  if left / unit < size.toNat then failure else times read size.toNat

end Reader

/-- The reader undoes the writer on every value it may meet, and accepts nothing
the writer would not have written. At least `n` octets are written. -/
structure Lawful (n : Nat) (write : α → Writer) (read : Reader α) (ok : α → Prop) : Prop where
  writes : ∀ value, ok value → ∃ bytes, n ≤ bytes.length ∧
    (∀ out, write value out = some ((), out ++ bytes)) ∧
    ∀ rest, read (bytes ++ rest) = some (value, rest)
  canonical : ∀ input value rest, read input = some (value, rest) → ok value ∧
    ∃ bytes, n ≤ bytes.length ∧ input = bytes ++ rest ∧
      ∀ out, write value out = some ((), out ++ bytes)

theorem bind_eq_some {σ : Type} {read : StateT σ Option α} {next : α → StateT σ Option β}
    {s : σ} {result : β × σ} :
    (read >>= next) s = some result ↔ ∃ a s', read s = some (a, s') ∧ next a s' = some result := by
  simp [bind, StateT.bind, bind_eq_some_iff]

theorem bind_of_eq {σ : Type} {read : StateT σ Option α} {next : α → StateT σ Option β}
    {s t : σ} {a : α} (h : read s = some (a, t)) : (read >>= next) s = next a t := by
  simp [bind, StateT.bind, h]

namespace Lawful

variable {n k : Nat}

/-- One component after another: the value's component `get` is written first. -/
theorem bind {first : α → Writer} {readFirst : Reader α} {okFirst : α → Prop} {get : β → α}
    {second : β → Writer} {readSecond : α → Reader β} {ok : β → Prop}
    (hfirst : Lawful n first readFirst okFirst)
    (hsecond : ∀ a, okFirst a → Lawful (k - n) second (readSecond a) (fun v => get v = a ∧ ok v))
    (hok : ∀ v, ok v → okFirst (get v)) :
    Lawful k (fun v => do first (get v); second v) (readFirst >>= readSecond) ok where
  writes value hv := by
    obtain ⟨bytes, size, wrote, reads⟩ := hfirst.writes (get value) (hok value hv)
    obtain ⟨more, size', wrote', reads'⟩ := (hsecond _ (hok value hv)).writes value ⟨rfl, hv⟩
    refine ⟨bytes ++ more, by simp; omega, ?_, ?_⟩
    · intro out
      rw [bind_of_eq (wrote out), wrote', List.append_assoc]
    · intro rest
      rw [List.append_assoc, bind_of_eq (reads (more ++ rest)), reads']
  canonical input value rest hread := by
    obtain ⟨a, left, hfirst', hsecond'⟩ := bind_eq_some.mp hread
    obtain ⟨ha, bytes, size, split, wrote⟩ := hfirst.canonical input a left hfirst'
    obtain ⟨⟨same, hv⟩, more, size', split', wrote'⟩ :=
      (hsecond a ha).canonical left value rest hsecond'
    refine ⟨hv, bytes ++ more, by simp; omega, by rw [split, split', List.append_assoc], ?_⟩
    intro out
    rw [same, bind_of_eq (wrote out), wrote', List.append_assoc]

theorem next {first : α → Writer} {readFirst : Reader α} {get : β → α} {second : β → Writer}
    {readSecond : α → Reader β} {ok : β → Prop} (hfirst : Lawful n first readFirst fun _ => True)
    (hsecond : ∀ a, Lawful (k - n) second (readSecond a) (fun v => get v = a ∧ ok v)) :
    Lawful k (fun v => do first (get v); second v) (readFirst >>= readSecond) ok :=
  hfirst.bind (fun a _ => hsecond a) fun _ _ => trivial

/-- The last component, after which the value is put together. -/
theorem last {write : α → Writer} {read : Reader α} {okLast : α → Prop} {get : β → α}
    {make : α → β} {ok : β → Prop} (h : Lawful n write read okLast)
    (whole : ∀ a, okLast a → k ≤ n ∧ ok (make a) ∧ get (make a) = a)
    (parts : ∀ v, ok v → okLast (get v) ∧ make (get v) = v) :
    Lawful k (fun v => write (get v)) (do let a ← read; pure (make a)) ok where
  writes value hv := by
    obtain ⟨hlast, made⟩ := parts value hv
    obtain ⟨bytes, size, wrote, reads⟩ := h.writes (get value) hlast
    refine ⟨bytes, Nat.le_trans (whole _ hlast).1 size, wrote, ?_⟩
    intro rest
    rw [bind_of_eq (reads rest), made]
    rfl
  canonical input value rest hread := by
    obtain ⟨a, left, hfirst, hpure⟩ := bind_eq_some.mp hread
    obtain ⟨rfl, rfl⟩ := Prod.mk.inj (Option.some.inj hpure)
    obtain ⟨ha, bytes, size, split, wrote⟩ := h.canonical input a left hfirst
    obtain ⟨le, hv, got⟩ := whole a ha
    exact ⟨hv, bytes, Nat.le_trans le size, split, by rw [got]; exact wrote⟩

theorem octets (n : Nat) :
    Lawful n Writer.octets (Reader.octets n) (fun bytes => bytes.length = n) where
  writes bytes size := by
    refine ⟨bytes, Nat.le_of_eq size.symm, fun out => rfl, ?_⟩
    intro rest
    rw [Reader.octets, if_neg (by simp; omega), List.take_left' size, List.drop_left' size]
  canonical input bytes rest hread := by
    simp only [Reader.octets] at hread
    split at hread
    · cases hread
    obtain ⟨rfl, rfl⟩ := Prod.mk.inj (Option.some.inj hread)
    exact ⟨by simp; omega, input.take n, by simp; omega, (List.take_append_drop n input).symm,
      fun out => rfl⟩

theorem getLsbD_assemble (w : Nat) (bytes : List (BitVec 8)) (i : Nat) (hi : i < w) :
    (Reader.assemble w bytes).getLsbD i = (bytes.getD (i / 8) 0#8).getLsbD (i % 8) := by
  induction bytes generalizing i with
  | nil => simp [Reader.assemble]
  | cons octet rest ih =>
    simp only [Reader.assemble, getLsbD_or, getLsbD_setWidth, getLsbD_shiftLeft, hi]
    by_cases low : i < 8
    · simp [low, Nat.div_eq_of_lt low, Nat.mod_eq_of_lt low]
    · have high : octet.getLsbD i = false := getLsbD_of_ge _ _ (by omega)
      rw [high, ih (i - 8) (by omega), show i / 8 = (i - 8) / 8 + 1 by omega,
        show i % 8 = (i - 8) % 8 by omega]
      simp [low]

theorem littleEndian_assemble {w n : Nat} (hw : w = n * 8) {bytes : List (BitVec 8)}
    (size : bytes.length = n) : Writer.littleEndian n (Reader.assemble w bytes) = bytes := by
  apply List.ext_getElem
  · simp [Writer.littleEndian, size]
  · intro k hk hk'
    simp only [Writer.littleEndian, List.getElem_map, List.getElem_range]
    apply eq_of_getLsbD_eq
    intro i hi
    rw [getLsbD_setWidth, getLsbD_ushiftRight,
      getLsbD_assemble _ _ _ (by omega), show (k * 8 + i) / 8 = k by omega,
      show (k * 8 + i) % 8 = i by omega]
    simp [hi, List.getElem?_eq_getElem hk']

theorem assemble_littleEndian {w n : Nat} (hw : w = n * 8) (value : BitVec w) :
    Reader.assemble w (Writer.littleEndian n value) = value := by
  apply eq_of_getLsbD_eq
  intro i hi
  have hk : i / 8 < n := by omega
  rw [getLsbD_assemble _ _ _ hi, Writer.littleEndian, List.getD_eq_getElem?_getD,
    List.getElem?_map, List.getElem?_range hk, map_some, getD_some,
    getLsbD_setWidth, getLsbD_ushiftRight, show i / 8 * 8 + i % 8 = i by omega]
  simp [Nat.mod_lt]

theorem integer {w : Nat} (hw : w % 8 = 0) :
    Lawful (w / 8) Writer.integer (Reader.integer w) (fun _ => True) :=
  (octets (w / 8)).last
    (fun _ size => ⟨Nat.le_refl _, trivial, littleEndian_assemble (by omega) size⟩)
    (fun value _ => ⟨by simp [Writer.littleEndian], assemble_littleEndian (by omega) value⟩)

theorem boolean : Lawful 1 Writer.boolean Reader.boolean (fun _ => True) where
  writes value _ := by
    obtain ⟨bytes, size, wrote, reads⟩ :=
      (integer (w := 8) rfl).writes (if value then 1#8 else 0#8) trivial
    refine ⟨bytes, size, wrote, ?_⟩
    intro rest
    rw [Reader.boolean, bind_of_eq (reads rest)]
    cases value <;> rfl
  canonical input value rest hread := by
    obtain ⟨raw, left, hraw, hcheck⟩ := bind_eq_some.mp hread
    obtain ⟨_, bytes, size, split, wrote⟩ := (integer (w := 8) rfl).canonical input raw left hraw
    split at hcheck
    · cases hcheck
    obtain ⟨rfl, rfl⟩ := Prod.mk.inj (Option.some.inj hcheck)
    refine ⟨trivial, bytes, size, split, ?_⟩
    have same : (if (raw != 0#8) = true then 1#8 else 0#8) = raw := by
      have cases : raw = 0#8 ∨ raw = 1#8 := by bv_omega
      rcases cases with rfl | rfl <;> rfl
    rw [Writer.boolean, same]
    exact wrote

theorem optional {write : α → Writer} {read : Reader α} {ok : α → Prop}
    (h : Lawful n write read ok) : Lawful 1 (Writer.optional write) (Reader.optional read)
      (fun value => ∀ item, value = some item → ok item) := by
  refine boolean.bind (fun present _ => ?_) (fun _ _ => trivial)
  cases present with
  | false =>
    constructor
    · rintro value ⟨none, _⟩
      rw [isSome_eq_false_iff, isNone_iff_eq_none] at none
      subst none
      exact ⟨[], Nat.zero_le _, fun out => by rw [List.append_nil]; rfl, fun rest => rfl⟩
    · intro input value rest hread
      obtain ⟨rfl, rfl⟩ := Prod.mk.inj (Option.some.inj hread)
      exact ⟨⟨rfl, fun _ hnone => by cases hnone⟩, [], Nat.zero_le _, rfl,
        fun out => by rw [List.append_nil]; rfl⟩
  | true =>
    constructor
    · rintro value ⟨some, hok⟩
      obtain ⟨item, rfl⟩ := isSome_iff_exists.mp some
      obtain ⟨bytes, _, wrote, reads⟩ := h.writes item (hok item rfl)
      refine ⟨bytes, Nat.zero_le _, wrote, ?_⟩
      intro rest
      exact bind_of_eq (reads rest)
    · intro input value rest hread
      obtain ⟨item, left, hitem, hpure⟩ := bind_eq_some.mp hread
      obtain ⟨rfl, rfl⟩ := Prod.mk.inj (Option.some.inj hpure)
      obtain ⟨hok, bytes, _, split, wrote⟩ := h.canonical input item left hitem
      exact ⟨⟨rfl, fun _ hsome => Option.some.inj hsome ▸ hok⟩, bytes, Nat.zero_le _, split, wrote⟩

theorem congr {write : α → Writer} {read : Reader α} {ok ok' : α → Prop}
    (h : Lawful n write read ok) (same : ∀ v, ok v ↔ ok' v) : Lawful n write read ok' := by
  have : ok = ok' := funext fun v => propext (same v)
  exact this ▸ h

theorem checked {write : α → Writer} {read : Reader α} {ok : α → Prop}
    (h : Lawful n write read ok) (check : α → Bool) :
    Lawful n write (do let value ← read; if check value then pure value else failure)
      (fun value => ok value ∧ check value = true) where
  writes value hv := by
    obtain ⟨bytes, size, wrote, reads⟩ := h.writes value hv.1
    refine ⟨bytes, size, wrote, ?_⟩
    intro rest
    rw [bind_of_eq (reads rest), if_pos hv.2]
    rfl
  canonical input value rest hread := by
    obtain ⟨raw, left, hraw, hcheck⟩ := bind_eq_some.mp hread
    obtain ⟨hok, bytes, size, split, wrote⟩ := h.canonical input raw left hraw
    split at hcheck
    · rename_i passed
      obtain ⟨rfl, rfl⟩ := Prod.mk.inj (Option.some.inj hcheck)
      exact ⟨⟨hok, passed⟩, bytes, size, split, wrote⟩
    · cases hcheck

theorem optional_any {write : α → Writer} {read : Reader α}
    (h : Lawful n write read (fun _ => True)) :
    Lawful 1 (Writer.optional write) (Reader.optional read) (fun _ => True) :=
  h.optional.congr (by simp)

theorem sized {k : Nat} {write : List α → Writer} {read : Reader (List α)}
    (h : Lawful n write read (fun items => items.length = k)) :
    Lawful n (fun v => write v.toList) (Reader.sized k read) (fun _ => True) where
  writes value _ := by
    obtain ⟨bytes, size, wrote, reads⟩ := h.writes value.toList (by simp)
    refine ⟨bytes, size, wrote, ?_⟩
    intro rest
    have same : (⟨value.toList.toArray, by simp⟩ : Vector α k) = value := by
      rfl
    rw [Reader.sized, bind_of_eq (reads rest), dif_pos (by simp), same]
    rfl
  canonical input value rest hread := by
    obtain ⟨items, left, hitems, hmake⟩ := bind_eq_some.mp hread
    obtain ⟨length, bytes, size, split, wrote⟩ := h.canonical input items left hitems
    rw [dif_pos length] at hmake
    obtain ⟨rfl, rfl⟩ := Prod.mk.inj (Option.some.inj hmake)
    exact ⟨trivial, bytes, size, split, wrote⟩

theorem octetArray (n : Nat) : Lawful n Writer.octetArray (Reader.octetArray n) (fun _ => True) :=
  (octets n).sized

theorem byteVector {limit : Nat} (hlimit : limit < 0x100000000) :
    Lawful 4 Writer.byteVector (Reader.byteVector limit) (fun bytes => bytes.length ≤ limit) where
  writes value fits := by
    have short : ¬ 0xffffffff < value.length := by omega
    have count : (BitVec.ofNat 32 value.length).toNat = value.length := by simp; omega
    obtain ⟨bytes, size, wrote, reads⟩ :=
      (integer (w := 32) rfl).writes (BitVec.ofNat 32 value.length) trivial
    refine ⟨bytes ++ value, by simp; omega, ?_, ?_⟩
    · intro out
      rw [Writer.byteVector, if_neg short, bind_of_eq (wrote out), Writer.octets, List.append_assoc]
    · intro rest
      rw [Reader.byteVector, List.append_assoc, bind_of_eq (reads (value ++ rest)), count]
      have enough : ¬ (decide (limit < value.length) ||
          decide ((value ++ rest).length < value.length)) = true := by simp; omega
      rw [bind_of_eq (t := value ++ rest) (a := (value ++ rest).length) rfl, if_neg enough,
        Reader.octets, if_neg (by simp), List.take_left' rfl, List.drop_left' rfl]
  canonical input value rest hread := by
    obtain ⟨count, left, hcount, hread⟩ := bind_eq_some.mp hread
    obtain ⟨_, bytes, size, split, wrote⟩ :=
      (integer (w := 32) rfl).canonical input count left hcount
    rw [bind_of_eq (t := left) (a := left.length) rfl] at hread
    split at hread
    · cases hread
    rename_i enough
    simp only [asserted] at enough
    obtain ⟨hlen, more, _, split', wrote'⟩ := (octets count.toNat).canonical left value rest hread
    have hmore : more = value := by
      have := wrote' []
      simpa [Writer.octets] using this.symm
    subst hmore
    have same : BitVec.ofNat 32 more.length = count := by rw [hlen]; simp
    refine ⟨by omega, bytes ++ more, by simp; omega, by rw [split, split', List.append_assoc], ?_⟩
    intro out
    rw [Writer.byteVector, if_neg (by omega), same, bind_of_eq (wrote out), wrote',
      List.append_assoc]

theorem times {write : α → Writer} {read : Reader α} {ok : α → Prop}
    (h : Lawful n write read ok) (count : Nat) :
    Lawful (n * count) (fun values => values.forM write) (Reader.times read count)
      (fun values => values.length = count ∧ ∀ v ∈ values, ok v) := by
  induction count with
  | zero =>
    constructor
    · rintro values ⟨none, _⟩
      have := List.length_eq_zero_iff.mp none
      subst this
      exact ⟨[], by simp, fun out => by rw [List.append_nil]; rfl, fun rest => rfl⟩
    · intro input values rest hread
      obtain ⟨rfl, rfl⟩ := Prod.mk.inj (Option.some.inj hread)
      exact ⟨⟨rfl, by simp⟩, [], by simp, rfl, fun out => by rw [List.append_nil]; rfl⟩
  | succ count ih =>
    constructor
    · rintro values ⟨size, hok⟩
      obtain ⟨first, rest, rfl⟩ := List.exists_cons_of_length_eq_add_one size
      obtain ⟨bytes, long, wrote, reads⟩ := h.writes first (hok first List.mem_cons_self)
      obtain ⟨more, long', wrote', reads'⟩ := ih.writes rest
        ⟨by simpa using size, fun v hv => hok v (List.mem_cons_of_mem _ hv)⟩
      refine ⟨bytes ++ more, by simp [Nat.mul_succ]; omega, ?_, ?_⟩
      · intro out
        exact (bind_of_eq (wrote out)).trans (by rw [wrote', List.append_assoc])
      · intro left
        rw [Reader.times, List.append_assoc, bind_of_eq (reads (more ++ left)),
          bind_of_eq (reads' left)]
        rfl
    · intro input values rest hread
      obtain ⟨first, left, hfirst, hread⟩ := bind_eq_some.mp hread
      obtain ⟨others, left', hothers, hpure⟩ := bind_eq_some.mp hread
      obtain ⟨rfl, rfl⟩ := Prod.mk.inj (Option.some.inj hpure)
      obtain ⟨hok, bytes, long, split, wrote⟩ := h.canonical input first left hfirst
      obtain ⟨⟨size, hoks⟩, more, long', split', wrote'⟩ := ih.canonical left others left' hothers
      refine ⟨⟨by simp [size], ?_⟩, bytes ++ more, by simp [Nat.mul_succ]; omega,
        by rw [split, split', List.append_assoc], ?_⟩
      · intro v hv
        rcases List.mem_cons.mp hv with rfl | hv
        · exact hok
        · exact hoks v hv
      · intro out
        exact (bind_of_eq (wrote out)).trans (by rw [wrote', List.append_assoc])

theorem array {write : α → Writer} {read : Reader α} (h : Lawful n write read (fun _ => True))
    (count : Nat) :
    Lawful (n * count) (Writer.array write) (Reader.array read count) (fun _ => True) :=
  ((h.times count).congr (fun _ => ⟨fun hv => hv.1, fun hv => ⟨hv, fun _ _ => trivial⟩⟩)).sized

/-- The guard on the count never rejects what was written, as long as no element
is shorter than a unit. -/
theorem vector {write : α → Writer} {read : Reader α} {ok : α → Prop}
    (h : Lawful n write read ok) {unit : Nat} (hunit : 0 < unit) (short : unit ≤ n) :
    Lawful 4 (Writer.vector write) (Reader.vector unit read)
      (fun values => values.length < 0x100000000 ∧ ∀ v ∈ values, ok v) where
  writes values hv := by
    obtain ⟨fits, hok⟩ := hv
    have count : (BitVec.ofNat 32 values.length).toNat = values.length := by simp; omega
    obtain ⟨bytes, size, wrote, reads⟩ :=
      (integer (w := 32) rfl).writes (BitVec.ofNat 32 values.length) trivial
    obtain ⟨more, long, wrote', reads'⟩ := (h.times values.length).writes values ⟨rfl, hok⟩
    refine ⟨bytes ++ more, by simp; omega, ?_, ?_⟩
    · intro out
      rw [Writer.vector, bind_of_eq (wrote out), wrote', List.append_assoc]
    · intro rest
      have enough : ¬ (more ++ rest).length / unit < values.length := by
        rw [Nat.not_lt, Nat.le_div_iff_mul_le hunit, List.length_append, Nat.mul_comm]
        exact Nat.le_trans (Nat.mul_le_mul_right _ short) (by omega)
      rw [Reader.vector, List.append_assoc, bind_of_eq (reads (more ++ rest)), count,
        bind_of_eq (t := more ++ rest) (a := (more ++ rest).length) rfl, if_neg enough, reads']
  canonical input values rest hread := by
    obtain ⟨count, left, hcount, hread⟩ := bind_eq_some.mp hread
    obtain ⟨_, bytes, size, split, wrote⟩ :=
      (integer (w := 32) rfl).canonical input count left hcount
    rw [bind_of_eq (t := left) (a := left.length) rfl] at hread
    split at hread
    · cases hread
    obtain ⟨⟨hlen, hok⟩, more, _, split', wrote'⟩ :=
      (h.times count.toNat).canonical left values rest hread
    have same : BitVec.ofNat 32 values.length = count := by rw [hlen]; simp
    refine ⟨⟨by omega, hok⟩, bytes ++ more, by simp; omega,
      by rw [split, split', List.append_assoc], ?_⟩
    intro out
    rw [Writer.vector, same, bind_of_eq (wrote out), wrote', List.append_assoc]

theorem vector_any {write : α → Writer} {read : Reader α}
    (h : Lawful n write read (fun _ => True)) {unit : Nat} (hunit : 0 < unit) (short : unit ≤ n) :
    Lawful 4 (Writer.vector write) (Reader.vector unit read)
      (fun values => values.length < 0x100000000) :=
  (h.vector hunit short).congr (by simp)

end Lawful

end Codec
