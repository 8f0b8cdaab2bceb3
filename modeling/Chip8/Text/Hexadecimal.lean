/-!
# Hexadecimal numerals

Numbers are written with upper-case digits, after `0x` where a mark is wanted, and
filled up with zeros to a least width. A number that needs more digits gets them.

## Main definitions

* `Hexadecimal.digits` — the digits of a number, without a leading zero.
* `Hexadecimal.padded width` — at least `width` digits.
* `Hexadecimal.marked width` — the same after `0x`.
* `Hexadecimal.value?` — the number that a run of digits stands for.
-/

namespace Chip8.Hexadecimal

/-! ## Writing -/

/-- The digits of a number, the most significant first; zero has one. -/
def digits (n : Nat) : List Char :=
  (Nat.toDigits 16 n).map Char.toUpper

/-- The digits of a number, after as many zeros as the width asks for. -/
def paddedDigits (width n : Nat) : List Char :=
  List.replicate (width - (digits n).length) '0' ++ digits n

/-- A number with at least `width` digits. -/
def padded (width n : Nat) : String :=
  .ofList (paddedDigits width n)

/-- A number with at least `width` digits after `0x`. -/
def marked (width n : Nat) : String :=
  "0x" ++ padded width n

@[simp] theorem toList_padded (width n : Nat) :
    (padded width n).toList = paddedDigits width n := by
  simp [padded]

@[simp] theorem toList_marked (width n : Nat) :
    (marked width n).toList = '0' :: 'x' :: paddedDigits width n := by
  simp [marked]

/-! ## Reading -/

/-- What one digit counts. -/
def digitValue? (c : Char) : Option Nat :=
  if '0' ≤ c ∧ c ≤ '9' then some (c.toNat - '0'.toNat)
  else if 'A' ≤ c ∧ c ≤ 'F' then some (c.toNat - 'A'.toNat + 10)
  else none

/-- The number that digits stand for, after those whose number is `sofar`. -/
def valueFrom? (sofar : Nat) : List Char → Option Nat
  | [] => some sofar
  | c :: cs => (digitValue? c).bind fun d => valueFrom? (sofar * 16 + d) cs

/-- The number that a run of digits stands for; an empty run stands for none. -/
def value? (cs : List Char) : Option Nat :=
  if cs.isEmpty then none else valueFrom? 0 cs

/-! ## Reading what was written -/

theorem digits_of_lt {n : Nat} (h : n < 16) : digits n = [n.digitChar.toUpper] := by
  simp [digits, Nat.toDigits_of_lt_base h]

theorem digits_of_le {n : Nat} (h : 16 ≤ n) :
    digits n = digits (n / 16) ++ [(n % 16).digitChar.toUpper] := by
  simp [digits, Nat.toDigits_of_base_le (by decide : 1 < 16) h]

theorem digits_ne_nil (n : Nat) : digits n ≠ [] := by
  simp [digits, Nat.toDigits_ne_nil]

theorem digitValue?_digitChar {d : Nat} (h : d < 16) :
    digitValue? d.digitChar.toUpper = some d := by
  have all : ∀ d : Fin 16, digitValue? d.val.digitChar.toUpper = some d.val := by decide
  exact all ⟨d, h⟩

theorem valueFrom?_append (sofar : Nat) (cs ds : List Char) :
    valueFrom? sofar (cs ++ ds) = (valueFrom? sofar cs).bind fun n => valueFrom? n ds := by
  induction cs generalizing sofar with
  | nil => rfl
  | cons c cs ih =>
    simp only [List.cons_append, valueFrom?]
    cases digitValue? c with
    | none => rfl
    | some d => exact ih _

theorem valueFrom?_digits (n : Nat) : valueFrom? 0 (digits n) = some n := by
  induction n using Nat.strongRecOn with
  | ind n ih =>
    by_cases h : n < 16
    · simp [digits_of_lt h, valueFrom?, digitValue?_digitChar h]
    · have last := digitValue?_digitChar (Nat.mod_lt n (by decide : 16 > 0))
      rw [digits_of_le (by omega), valueFrom?_append, ih (n / 16) (by omega)]
      simp only [Option.bind_some, valueFrom?, last]
      congr 1
      omega

theorem valueFrom?_replicate_zero (k : Nat) (cs : List Char) :
    valueFrom? 0 (List.replicate k '0' ++ cs) = valueFrom? 0 cs := by
  induction k with
  | zero => rfl
  | succ k ih =>
    have zero : digitValue? '0' = some 0 := by decide
    rw [List.replicate_succ, List.cons_append, valueFrom?, zero]
    exact ih

/-- A padded numeral stands for its number, whatever its width. -/
@[simp] theorem value?_paddedDigits (width n : Nat) : value? (paddedDigits width n) = some n := by
  have filled : paddedDigits width n ≠ [] := by simp [paddedDigits, digits_ne_nil]
  simp only [value?, List.isEmpty_iff, filled, if_false]
  rw [paddedDigits, valueFrom?_replicate_zero, valueFrom?_digits]

end Chip8.Hexadecimal
