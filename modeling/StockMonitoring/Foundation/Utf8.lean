import Mathlib.Data.List.Basic

set_option autoImplicit false

/-!
# Foundation: UTF-8

The UTF-8 bytes of a character, as numbers, and the decoder of the WHATWG Encoding Standard,
which puts U+FFFD for a malformed sequence and reads the byte that broke it again.
A character's bytes are decoded to it from any state, after a U+FFFD for what was pending
(`decodeFrom_utf8`), and no byte gives more than one character (`length_step`).
-/

namespace StockMonitoring.Foundation.Utf8

/-- The bytes of a character. -/
def utf8 (char : Char) : List Nat :=
  let code := char.toNat
  if code < 0x80 then [code]
  else if code < 0x800 then [0xC0 + code / 0x40, 0x80 + code % 0x40]
  else if code < 0x10000 then
    [0xE0 + code / 0x1000, 0x80 + code / 0x40 % 0x40, 0x80 + code % 0x40]
  else
    [0xF0 + code / 0x40000, 0x80 + code / 0x1000 % 0x40, 0x80 + code / 0x40 % 0x40,
      0x80 + code % 0x40]

/-- A sequence that is not complete: how many bytes it needs, the range of the next one, and
the bits read. -/
structure Pending where
  needed : Nat
  lower : Nat
  upper : Nat
  bits : Nat
  inTail : 0x80 ≤ lower ∧ upper ≤ 0xBF
  deriving DecidableEq

/-- A sequence whose next byte may be any continuation byte. -/
def Pending.tail (needed bits : Nat) : Pending := ⟨needed, 0x80, 0xBF, bits, by decide⟩

/-- U+FFFD. -/
def replacement : Char := '\uFFFD'

/-- The first byte of a sequence. -/
def first (byte : Nat) : List Char × Option Pending :=
  if byte < 0x80 then ([Char.ofNat byte], none)
  else if 0xC2 ≤ byte ∧ byte ≤ 0xDF then ([], some (.tail 1 (byte - 0xC0)))
  else if byte = 0xE0 then ([], some ⟨2, 0xA0, 0xBF, 0, by decide⟩)
  else if byte = 0xED then ([], some ⟨2, 0x80, 0x9F, 0xD, by decide⟩)
  else if 0xE1 ≤ byte ∧ byte ≤ 0xEF then ([], some (.tail 2 (byte - 0xE0)))
  else if byte = 0xF0 then ([], some ⟨3, 0x90, 0xBF, 0, by decide⟩)
  else if byte = 0xF4 then ([], some ⟨3, 0x80, 0x8F, 4, by decide⟩)
  else if 0xF1 ≤ byte ∧ byte ≤ 0xF3 then ([], some (.tail 3 (byte - 0xF0)))
  else ([replacement], none)

/-- One byte: what is put out, and the sequence that is pending then. -/
def step (pending : Option Pending) (byte : Nat) : List Char × Option Pending :=
  match pending with
  | none => first byte
  | some open_ =>
      if open_.lower ≤ byte ∧ byte ≤ open_.upper then
        let bits := open_.bits * 0x40 + (byte - 0x80)
        if open_.needed = 1 then ([Char.ofNat bits], none)
        else ([], some (.tail (open_.needed - 1) bits))
      else (replacement :: (first byte).1, (first byte).2)

/-- What the end of the input puts out. -/
def flush : Option Pending → List Char
  | none => []
  | some _ => [replacement]

/-- The decoder from a state on. -/
def decodeFrom : Option Pending → List Nat → List Char
  | pending, [] => flush pending
  | pending, byte :: bytes =>
      (step pending byte).1 ++ decodeFrom (step pending byte).2 bytes

/-- `UTF-8 decode without BOM`. -/
def decode (bytes : List Nat) : List Char := decodeFrom none bytes

/-! ## Round trip -/

/-- A byte that begins a sequence is read from the start in any state. -/
theorem step_of_first {byte : Nat} (hbyte : byte < 0x80 ∨ 0xC0 ≤ byte) (pending : Option Pending) :
    step pending byte = (flush pending ++ (first byte).1, (first byte).2) := by
  cases pending with
  | none => rfl
  | some open_ =>
      have hrange := open_.inTail
      have hout : ¬ (open_.lower ≤ byte ∧ byte ≤ open_.upper) := by omega
      simp only [step, if_neg hout, flush, List.singleton_append]

/-- The last byte of a sequence. -/
theorem step_last {open_ : Pending} {byte : Nat} (hneeded : open_.needed = 1)
    (hbyte : open_.lower ≤ byte ∧ byte ≤ open_.upper) :
    step (some open_) byte = ([Char.ofNat (open_.bits * 0x40 + (byte - 0x80))], none) := by
  simp only [step, if_pos hbyte, if_pos hneeded]

/-- A byte in the middle of a sequence. -/
theorem step_middle {open_ : Pending} {byte : Nat} (hneeded : open_.needed ≠ 1)
    (hbyte : open_.lower ≤ byte ∧ byte ≤ open_.upper) :
    step (some open_) byte =
      ([], some (.tail (open_.needed - 1) (open_.bits * 0x40 + (byte - 0x80)))) := by
  simp only [step, if_pos hbyte, if_neg hneeded]

theorem decodeFrom_cons_of_first {byte : Nat} (hbyte : byte < 0x80 ∨ 0xC0 ≤ byte)
    (pending : Option Pending) (bytes : List Nat) :
    decodeFrom pending (byte :: bytes) = flush pending ++ decodeFrom none (byte :: bytes) := by
  simp only [decodeFrom, step_of_first hbyte, flush, List.nil_append, List.append_assoc]

theorem decodeFrom_last {bits low : Nat} (hlow : low < 0x40) (bytes : List Nat) :
    decodeFrom (some (.tail 1 bits)) ((0x80 + low) :: bytes) =
      Char.ofNat (bits * 0x40 + low) :: decodeFrom none bytes := by
  have hrange : (Pending.tail 1 bits).lower ≤ 0x80 + low ∧
      0x80 + low ≤ (Pending.tail 1 bits).upper := by
    simp only [Pending.tail]
    omega
  rw [decodeFrom, step_last rfl hrange]
  simp [Pending.tail]

/-- A byte of a sequence that needs more. -/
theorem decodeFrom_middle {open_ : Pending} {low : Nat} (hneeded : open_.needed ≠ 1)
    (hlow : open_.lower ≤ 0x80 + low ∧ 0x80 + low ≤ open_.upper) (bytes : List Nat) :
    decodeFrom (some open_) ((0x80 + low) :: bytes) =
      decodeFrom (some (.tail (open_.needed - 1) (open_.bits * 0x40 + low))) bytes := by
  rw [decodeFrom, step_middle hneeded hlow]
  simp

theorem decodeFrom_tail {needed bits low : Nat} (hneeded : needed ≠ 1) (hlow : low < 0x40)
    (bytes : List Nat) :
    decodeFrom (some (.tail needed bits)) ((0x80 + low) :: bytes) =
      decodeFrom (some (.tail (needed - 1) (bits * 0x40 + low))) bytes := by
  refine decodeFrom_middle hneeded ?_ bytes
  simp only [Pending.tail]
  omega

/-- The first byte of a longer sequence. -/
theorem decodeFrom_first {byte : Nat} {open_ : Pending} (hfirst : first byte = ([], some open_))
    (bytes : List Nat) : decodeFrom none (byte :: bytes) = decodeFrom (some open_) bytes := by
  simp only [decodeFrom, step, hfirst, List.nil_append]

/-- The first byte of a three-byte sequence and the range of the second one. -/
theorem first_three {high mid : Nat} (hhigh : high < 0x10) (hmid : mid < 0x40)
    (hlong : high = 0 → 0x20 ≤ mid) (hsurrogate : high = 0xD → mid < 0x20) :
    ∃ open_, first (0xE0 + high) = ([], some open_) ∧ open_.needed = 2 ∧ open_.bits = high ∧
      open_.lower ≤ 0x80 + mid ∧ 0x80 + mid ≤ open_.upper := by
  by_cases hzero : high = 0
  · have hrange := hlong hzero
    subst hzero
    exact ⟨_, rfl, rfl, rfl, by dsimp only; omega, by dsimp only; omega⟩
  · by_cases hthirteen : high = 0xD
    · have hrange := hsurrogate hthirteen
      subst hthirteen
      exact ⟨_, rfl, rfl, rfl, by dsimp only; omega, by dsimp only; omega⟩
    · refine ⟨.tail 2 high, ?_, rfl, rfl, ?_, ?_⟩
      · rw [first, if_neg (by omega), if_neg (by omega), if_neg (by omega), if_neg (by omega),
          if_pos (by omega), Nat.add_sub_cancel_left]
      · exact Nat.le_add_right _ _
      · simp only [Pending.tail]
        omega

/-- The first byte of a four-byte sequence and the range of the second one. -/
theorem first_four {high mid : Nat} (hhigh : high < 5) (hmid : mid < 0x40)
    (hlong : high = 0 → 0x10 ≤ mid) (hlast : high = 4 → mid < 0x10) :
    ∃ open_, first (0xF0 + high) = ([], some open_) ∧ open_.needed = 3 ∧ open_.bits = high ∧
      open_.lower ≤ 0x80 + mid ∧ 0x80 + mid ≤ open_.upper := by
  by_cases hzero : high = 0
  · have hrange := hlong hzero
    subst hzero
    exact ⟨_, rfl, rfl, rfl, by dsimp only; omega, by dsimp only; omega⟩
  · by_cases hfour : high = 4
    · have hrange := hlast hfour
      subst hfour
      exact ⟨_, rfl, rfl, rfl, by dsimp only; omega, by dsimp only; omega⟩
    · refine ⟨.tail 3 high, ?_, rfl, rfl, ?_, ?_⟩
      · rw [first, if_neg (by omega), if_neg (by omega), if_neg (by omega), if_neg (by omega),
          if_neg (by omega), if_neg (by omega), if_neg (by omega), if_pos (by omega),
          Nat.add_sub_cancel_left]
      · exact Nat.le_add_right _ _
      · simp only [Pending.tail]
        omega

/-- The bytes of a character are decoded to it. -/
theorem decode_utf8_append (char : Char) (bytes : List Nat) :
    decodeFrom none (utf8 char ++ bytes) = char :: decodeFrom none bytes := by
  have hvalid : char.toNat < 0xD800 ∨ 0xDFFF < char.toNat ∧ char.toNat < 0x110000 := char.valid
  have hchar : ∀ code, code = char.toNat → Char.ofNat code = char := by
    rintro _ rfl
    exact Char.ofNat_toNat char
  unfold utf8
  dsimp only
  split
  · rename_i h1
    simp [decodeFrom, step, first, h1]
  · split
    · rename_i h1 h2
      have hfirst : first (0xC0 + char.toNat / 0x40) =
          ([], some (.tail 1 (char.toNat / 0x40))) := by
        rw [first, if_neg (by omega), if_pos (by omega), Nat.add_sub_cancel_left]
      simp only [List.cons_append, List.nil_append]
      rw [decodeFrom_first hfirst, decodeFrom_last (by omega), hchar _ (by omega)]
    · split
      · rename_i h1 h2 h3
        obtain ⟨open_, hfirst, hneeded, hbits, hrange⟩ :=
          @first_three (char.toNat / 0x1000) (char.toNat / 0x40 % 0x40) (by omega) (by omega)
            (by omega) (by omega)
        simp only [List.cons_append, List.nil_append]
        rw [decodeFrom_first hfirst, decodeFrom_middle (by omega) hrange, hneeded, hbits,
          decodeFrom_last (by omega), hchar _ (by omega)]
      · rename_i h1 h2 h3
        obtain ⟨open_, hfirst, hneeded, hbits, hrange⟩ :=
          @first_four (char.toNat / 0x40000) (char.toNat / 0x1000 % 0x40) (by omega) (by omega)
            (by omega) (by omega)
        simp only [List.cons_append, List.nil_append]
        rw [decodeFrom_first hfirst, decodeFrom_middle (by omega) hrange, hneeded, hbits,
          decodeFrom_tail (by omega) (by omega), decodeFrom_last (by omega), hchar _ (by omega)]

/-- A character begins with a byte that continues nothing. -/
theorem utf8_eq_cons (char : Char) :
    ∃ byte bytes, utf8 char = byte :: bytes ∧ (byte < 0x80 ∨ 0xC0 ≤ byte) := by
  unfold utf8
  dsimp only
  split
  · exact ⟨_, _, rfl, by omega⟩
  · split
    · exact ⟨_, _, rfl, by omega⟩
    · split
      · exact ⟨_, _, rfl, by omega⟩
      · exact ⟨_, _, rfl, by omega⟩

/-- The bytes of a character are decoded to it in any state. -/
theorem decodeFrom_utf8 (pending : Option Pending) (char : Char) (bytes : List Nat) :
    decodeFrom pending (utf8 char ++ bytes) = flush pending ++ char :: decodeFrom none bytes := by
  rw [← decode_utf8_append]
  obtain ⟨byte, rest, hutf8, hbyte⟩ := utf8_eq_cons char
  rw [hutf8, List.cons_append]
  exact decodeFrom_cons_of_first hbyte pending _

/-- A byte gives at most one character more than are pending. -/
theorem length_step (pending : Option Pending) (byte : Nat) :
    (step pending byte).1.length + (flush (step pending byte).2).length ≤
      (flush pending).length + 1 := by
  have hfirst : (first byte).1.length + (flush (first byte).2).length = 1 := by
    unfold first
    split_ifs <;> rfl
  cases pending with
  | none => exact Nat.le_of_eq (by simpa [step, flush] using hfirst)
  | some open_ =>
      unfold step
      dsimp only
      split_ifs
      · simp [flush]
      · simp [flush]
      · simp only [List.length_cons, flush] at hfirst ⊢
        omega

end StockMonitoring.Foundation.Utf8
