import Mathlib.Data.List.Basic

set_option autoImplicit false

/-!
# Foundation: digits

Decimal and hexadecimal digits as characters, on top of `Nat.toDigits` and `Nat.ofDigitChars`.
-/

namespace StockMonitoring.Foundation

/-- The value of a hexadecimal digit of either case. -/
def hexValue? (digit : Char) : Option Nat :=
  if '0' ≤ digit ∧ digit ≤ '9' then some (digit.toNat - 48)
  else if 'a' ≤ digit ∧ digit ≤ 'f' then some (digit.toNat - 87)
  else if 'A' ≤ digit ∧ digit ≤ 'F' then some (digit.toNat - 55)
  else none

theorem hexValue?_digitChar : ∀ value < 16, hexValue? (Nat.digitChar value) = some value := by
  decide

section StopsAt

variable {α : Type}

/-- The text does not go on with an item of the class. -/
def StopsAt (among : α → Bool) (text : List α) : Prop :=
  ∀ first ∈ text.head?, among first = false

variable {among : α → Bool} {taken text : List α}

theorem stopsAt_cons {first : α} (hfirst : among first = false) :
    StopsAt among (first :: text) := by
  intro other hother
  cases hother
  exact hfirst

theorem stopsAt_dropWhile (among : α → Bool) (text : List α) :
    StopsAt among (text.dropWhile among) := by
  intro first hfirst
  have hhead := List.head?_dropWhile_not among text
  rw [hfirst] at hhead
  exact hhead

/-- What is taken of a class ends where the class does. -/
theorem takeWhile_append_of_stopsAt (htaken : ∀ digit ∈ taken, among digit)
    (htext : StopsAt among text) : (taken ++ text).takeWhile among = taken := by
  rw [List.takeWhile_append_of_pos htaken]
  cases text with
  | nil => simp
  | cons first rest => simp [htext first rfl]

theorem dropWhile_append_of_stopsAt (htaken : ∀ digit ∈ taken, among digit)
    (htext : StopsAt among text) : (taken ++ text).dropWhile among = text := by
  rw [List.dropWhile_append_of_pos htaken]
  cases text with
  | nil => rfl
  | cons first rest => simp [htext first rfl]

end StopsAt

/-- A number is written without a leading zero, unless it is zero. -/
theorem eq_zero_of_head?_toDigits (value : Nat) :
    (Nat.toDigits 10 value).head? = some '0' → value = 0 := by
  have hdigit : ∀ digit < 10, [Nat.digitChar digit].head? = some '0' → digit = 0 := by decide
  induction value using Nat.strongRecOn with
  | ind value ih =>
      intro hzero
      by_cases hsmall : value < 10
      · rw [Nat.toDigits_of_lt_base hsmall] at hzero
        exact hdigit value hsmall hzero
      · rw [Nat.toDigits_of_base_le (by omega) (by omega),
          List.head?_append_of_ne_nil _ Nat.toDigits_ne_nil] at hzero
        have hquotient := ih (value / 10) (by omega) hzero
        omega

end StockMonitoring.Foundation
