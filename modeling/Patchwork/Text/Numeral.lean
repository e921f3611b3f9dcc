/-!
# Numerals

Digits and the numbers that they write. Long numerals are read by putting neighbouring digits together
until one is left: that halves their number each time, where adding one digit after the other to what was
read so far would handle a long number once for every digit. `fromLowDigits_cons` and `fromDigits_concat`
say that the number is the same.
-/

set_option autoImplicit false

namespace Patchwork.Text

/-! ## Digits -/

/-- The value of a digit of base sixteen, in either case. -/
def hexValue? (c : Char) : Option Nat :=
  if '0' ≤ c ∧ c ≤ '9' then some (c.toNat - '0'.toNat)
  else if 'a' ≤ c ∧ c ≤ 'f' then some (c.toNat - 'a'.toNat + 10)
  else if 'A' ≤ c ∧ c ≤ 'F' then some (c.toNat - 'A'.toNat + 10)
  else none

/-- The digit of base sixteen with a value, in lower case. -/
def hexDigit (value : Nat) : Char :=
  if value < 10 then Char.ofNat ('0'.toNat + value) else Char.ofNat ('a'.toNat + value - 10)

/-! ## Numbers -/

/-- Neighbours put together, the lowest digit first: the digits of the same number in the square of the
base. -/
def pairUp (base : Nat) : List Nat → List Nat
  | low :: high :: rest => (low + base * high) :: pairUp base rest
  | digits => digits

theorem length_pairUp_le (base : Nat) (digits : List Nat) :
    (pairUp base digits).length ≤ digits.length := by
  fun_induction pairUp base digits with
  | case1 low high rest inductionHypothesis =>
    simp only [List.length_cons]
    omega
  | case2 => exact Nat.le_refl _

/-- The number that digits of a base write, the lowest digit first. -/
def fromLowDigits (base : Nat) (digits : List Nat) : Nat :=
  match digits with
  | [] => 0
  | [digit] => digit
  | low :: high :: rest => fromLowDigits (base * base) (pairUp base (low :: high :: rest))
termination_by digits.length
decreasing_by
  have shorter := length_pairUp_le base rest
  simp only [pairUp, List.length_cons]
  omega

theorem fromLowDigits_pairUp (base : Nat) (digits : List Nat) :
    fromLowDigits (base * base) (pairUp base digits) = fromLowDigits base digits := by
  match digits with
  | [] => simp [pairUp, fromLowDigits]
  | [digit] => simp [pairUp, fromLowDigits]
  | low :: high :: rest => rw [fromLowDigits.eq_def base]

@[simp] theorem fromLowDigits_nil (base : Nat) : fromLowDigits base [] = 0 := by
  rw [fromLowDigits]

/-- The lowest digit counts once, and all others the base times as much as without it. -/
theorem fromLowDigits_cons (base digit : Nat) (digits : List Nat) :
    fromLowDigits base (digit :: digits) = digit + base * fromLowDigits base digits := by
  match digits with
  | [] => simp [fromLowDigits]
  | next :: rest =>
    have shorter := length_pairUp_le base rest
    rw [fromLowDigits, pairUp, fromLowDigits_cons (base * base), fromLowDigits_pairUp,
      fromLowDigits_cons base next rest, Nat.mul_add, Nat.mul_assoc, Nat.add_assoc]
termination_by digits.length
decreasing_by all_goals simp only [List.length_cons]; omega

/-- The number that digits of a base write, the highest digit first. -/
def fromDigits (base : Nat) (digits : List Nat) : Nat :=
  fromLowDigits base digits.reverse

@[simp] theorem fromDigits_nil (base : Nat) : fromDigits base [] = 0 := by
  simp [fromDigits]

/-- One more digit at the end. -/
theorem fromDigits_concat (base digit : Nat) (digits : List Nat) :
    fromDigits base (digits ++ [digit]) = digit + base * fromDigits base digits := by
  simp [fromDigits, fromLowDigits_cons]

/-- The number that decimal digits write. -/
def decimal (digits : List Char) : Nat :=
  fromDigits 10 (digits.map fun c => c.toNat - '0'.toNat)

end Patchwork.Text
