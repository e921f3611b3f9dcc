import Mathlib.Data.List.Induction
import Patchwork.Text.Numeral

/-!
# Numerals that are read back

The decimal digits that the standard library gives for a number write this number, and only the number zero
has a zero in front. A digit of base sixteen has the value that it was made from.
-/

set_option autoImplicit false

namespace Patchwork.Text

/-! ## Decimal digits -/

theorem decimal_eq_ofDigitChars (digits : List Char) :
    decimal digits = Nat.ofDigitChars 10 digits 0 := by
  induction digits using List.reverseRecOn with
  | nil => exact fromDigits_nil 10
  | append_singleton digits digit inductionHypothesis =>
    rw [decimal, List.map_append, List.map_singleton, fromDigits_concat, Nat.ofDigitChars_append,
      ← inductionHypothesis, Nat.ofDigitChars_cons, Nat.ofDigitChars_nil, decimal, Nat.add_comm]

theorem decimal_toDigits (value : Nat) : decimal (Nat.toDigits 10 value) = value := by
  rw [decimal_eq_ofDigitChars, Nat.ofDigitChars_ten_toDigits]

theorem toDigits_eq_cons (value : Nat) :
    ∃ first more, Nat.toDigits 10 value = first :: more ∧ first.isDigit = true := by
  rcases digits : Nat.toDigits 10 value with _ | ⟨first, more⟩
  · exact absurd digits Nat.toDigits_ne_nil
  · exact ⟨first, more, rfl,
      Nat.isDigit_of_mem_toDigits (by omega) (by omega) (digits ▸ List.mem_cons_self)⟩

/-- A numeral with a zero in front is the numeral of zero. -/
theorem eq_nil_of_toDigits_eq_zero_cons {value : Nat} {rest : List Char}
    (zeroFirst : Nat.toDigits 10 value = '0' :: rest) : rest = [] := by
  induction value using Nat.strongRecOn generalizing rest with
  | ind value inductionHypothesis =>
    by_cases small : value < 10
    · rw [Nat.toDigits_of_lt_base small] at zeroFirst
      exact (List.cons.inj zeroFirst).2.symm
    · rw [Nat.toDigits_of_base_le (by omega) (by omega)] at zeroFirst
      obtain ⟨first, more, front, -⟩ := toDigits_eq_cons (value / 10)
      rw [front, List.cons_append, List.cons.injEq] at zeroFirst
      obtain ⟨rfl, -⟩ := zeroFirst
      -- Without its last digit the numeral is that of zero, so the number has one digit only.
      obtain rfl := inductionHypothesis (value / 10) (by omega) front
      have noneLeft : value / 10 = 0 := by
        rw [← decimal_toDigits (value / 10), front, decimal_eq_ofDigitChars]
        rfl
      omega

/-! ## Digits of base sixteen -/

theorem hexValue?_hexDigit {value : Nat} (small : value < 16) :
    hexValue? (hexDigit value) = some value := by
  have every : ∀ value < 16, hexValue? (hexDigit value) = some value := by decide
  exact every value small

/-- A number of two digits of base sixteen, with zeros in front. -/
theorem fromDigits_byte (value : Nat) : fromDigits 16 [0, 0, value / 16, value % 16] = value := by
  simp only [fromDigits, List.reverse_cons, List.reverse_nil, List.nil_append, List.cons_append,
    fromLowDigits_cons, fromLowDigits_nil]
  omega

end Patchwork.Text
