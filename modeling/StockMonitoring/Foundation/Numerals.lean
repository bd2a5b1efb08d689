import StockMonitoring.Foundation.Digits
import Mathlib.Data.List.Induction
import Mathlib.Data.List.TakeWhile
import Mathlib.Data.Nat.Digits.Defs
import Mathlib.Data.Rat.Floor
import Mathlib.Tactic.Linarith
import Mathlib.Tactic.Ring

set_option autoImplicit false

/-!
# Foundation: numbers in texts

Decimal digits of every script, the decimal literals `float` accepts, and rounding to the nearest
even digit.
-/

namespace StockMonitoring.Foundation

/-! ## Decimal digits -/

/-- The zeros of the decimal digits of Unicode 15.1; the other nine follow each of them. -/
def decimalZeros : List Nat :=
  [0x30, 0x660, 0x6f0, 0x7c0, 0x966, 0x9e6, 0xa66, 0xae6, 0xb66, 0xbe6, 0xc66, 0xce6, 0xd66,
    0xde6, 0xe50, 0xed0, 0xf20, 0x1040, 0x1090, 0x17e0, 0x1810, 0x1946, 0x19d0, 0x1a80, 0x1a90,
    0x1b50, 0x1bb0, 0x1c40, 0x1c50, 0xa620, 0xa8d0, 0xa900, 0xa9d0, 0xa9f0, 0xaa50, 0xabf0,
    0xff10, 0x104a0, 0x10d30, 0x11066, 0x110f0, 0x11136, 0x111d0, 0x112f0, 0x11450, 0x114d0,
    0x11650, 0x116c0, 0x11730, 0x118e0, 0x11950, 0x11c50, 0x11d50, 0x11da0, 0x11f50, 0x16a60,
    0x16ac0, 0x16b50, 0x1d7ce, 0x1d7d8, 0x1d7e2, 0x1d7ec, 0x1d7f6, 0x1e140, 0x1e2f0, 0x1e4f0,
    0x1e950, 0x1fbf0]

/-- The value of a decimal digit. -/
def decimal? (char : Char) : Option Nat :=
  (decimalZeros.find? fun first => first ≤ char.toNat && char.toNat < first + 10).map
    (char.toNat - ·)

/-- `\d` -/
def isDecimal (char : Char) : Bool := (decimal? char).isSome

/-- The number that a text of digits denotes. -/
def numeral (digits : List Char) : Nat :=
  digits.foldl (fun value digit => value * 10 + (decimal? digit).getD 0) 0

/-- The first digit counts most. -/
theorem numeral_eq_ofDigits (digits : List Char) :
    numeral digits =
      Nat.ofDigits 10 (digits.map fun digit => (decimal? digit).getD 0).reverse := by
  induction digits using List.reverseRecOn with
  | nil => rfl
  | append_singleton digits last ih =>
      rw [numeral, List.foldl_append, List.foldl_cons, List.foldl_nil, ← numeral, ih,
        List.map_append, List.reverse_append]
      simp only [List.map_cons, List.map_nil, List.reverse_cons, List.reverse_nil, List.nil_append,
        List.singleton_append, Nat.ofDigits_cons]
      omega

/-- Digits that are added at the end move the others up. -/
theorem numeral_append (first second : List Char) :
    numeral (first ++ second) = numeral first * 10 ^ second.length + numeral second := by
  rw [numeral_eq_ofDigits, numeral_eq_ofDigits, numeral_eq_ofDigits, List.map_append,
    List.reverse_append, Nat.ofDigits_append, List.length_reverse, List.length_map]
  ring

/-! ## Decimal literals -/

/-- `float` of a text of digits, commas and points: `none` stands for the `ValueError`. -/
def float? (text : List Char) : Option Rat :=
  let whole := text.takeWhile isDecimal
  match text.dropWhile isDecimal with
  | [] => if whole = [] then none else some (numeral whole : Rat)
  | point :: fraction =>
      if point = '.' ∧ fraction.all isDecimal = true ∧ whole ++ fraction ≠ [] then
        some ((numeral (whole ++ fraction) : Rat) / 10 ^ fraction.length)
      else none

/-- A literal that ends with its digits. -/
theorem float?_whole {whole : List Char} (hne : whole ≠ [])
    (hwhole : ∀ digit ∈ whole, isDecimal digit = true) :
    float? whole = some (numeral whole : Rat) := by
  have htaken : whole.takeWhile isDecimal = whole := List.takeWhile_eq_self_iff.mpr hwhole
  have hdropped : whole.dropWhile isDecimal = [] := List.dropWhile_eq_nil_iff.mpr hwhole
  rw [float?, hdropped, htaken]
  exact if_neg hne

/-- A literal with a point after its first digits. -/
theorem float?_point {whole fraction : List Char} (hne : whole ≠ [])
    (hwhole : ∀ digit ∈ whole, isDecimal digit = true)
    (hfraction : ∀ digit ∈ fraction, isDecimal digit = true) :
    float? (whole ++ '.' :: fraction) =
      some ((numeral (whole ++ fraction) : Rat) / 10 ^ fraction.length) := by
  have hpoint : isDecimal '.' = false := by decide
  have hstop : StopsAt isDecimal ('.' :: fraction) := stopsAt_cons hpoint
  have htaken := takeWhile_append_of_stopsAt hwhole hstop
  have hdropped := dropWhile_append_of_stopsAt hwhole hstop
  rw [float?, hdropped, htaken]
  have hliteral : '.' = '.' ∧ fraction.all isDecimal = true ∧ whole ++ fraction ≠ [] :=
    ⟨rfl, List.all_eq_true.mpr hfraction, by simp [hne]⟩
  exact if_pos hliteral

/-! ## Rounding -/

/-- The nearest integer, of two the even one. -/
def roundHalfEven (value : Rat) : Int :=
  let floor := value.floor
  if value - floor < 1 / 2 then floor
  else if 1 / 2 < value - floor then floor + 1
  else if floor % 2 = 0 then floor
  else floor + 1

/-- Rounding keeps the order to an integer. -/
theorem le_roundHalfEven {bound : Int} {value : Rat} (hle : (bound : Rat) ≤ value) :
    bound ≤ roundHalfEven value := by
  have hfloor : bound ≤ value.floor := Rat.le_floor_iff.mpr hle
  unfold roundHalfEven
  dsimp only
  split_ifs <;> omega

theorem roundHalfEven_le {bound : Int} {value : Rat} (hle : value ≤ bound) :
    roundHalfEven value ≤ bound := by
  have hfloor : (value.floor : Rat) ≤ value := Rat.floor_le value
  have hup : ¬value - value.floor < 1 / 2 → value.floor + 1 ≤ bound := by
    intro hnot
    have hlt : (value.floor : Rat) < bound := by linarith
    have hint : value.floor < bound := by exact_mod_cast hlt
    omega
  have hdown : value.floor ≤ bound := by
    have hcast : (value.floor : Rat) ≤ bound := le_trans hfloor hle
    exact_mod_cast hcast
  unfold roundHalfEven
  dsimp only
  split_ifs with hlow hhigh heven
  · exact hdown
  · exact hup hlow
  · exact hdown
  · exact hup hlow

end StockMonitoring.Foundation
