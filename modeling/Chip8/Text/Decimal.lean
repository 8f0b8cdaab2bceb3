/-!
# Decimal numerals

A number is read from a run of the digits `0` to `9`, with any number of leading
zeros. Where it is allowed, one sign may stand in front. Nothing else is read: no
blank, no separator and no digit of another script.

## Main definitions

* `Decimal.value?` — the number that a run of digits stands for.
* `Decimal.unsigned?` — the same after an optional plus.
* `Decimal.signed?` — the same after an optional plus or minus.
-/

namespace Chip8.Decimal

/-- The number that a run of digits stands for; an empty run stands for none. -/
def value? (digits : List Char) : Option Nat :=
  if digits ≠ [] ∧ digits.all Char.isDigit then some (Nat.ofDigitChars 10 digits 0) else none

/-- A number with an optional plus. -/
def unsigned? : List Char → Option Nat
  | '+' :: digits => value? digits
  | digits => value? digits

/-- A number with an optional sign. -/
def signed? : List Char → Option Int
  | '-' :: digits => (value? digits).map fun n => -(n : Int)
  | text => (unsigned? text).map fun n => (n : Int)

end Chip8.Decimal
