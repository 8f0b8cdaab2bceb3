import Chip8.Instruction
import Chip8.Keypad

/-!
# The register file

Sixteen registers hold a byte each. The last of them, `VF`, doubles as the flag that
arithmetic and drawing report in, so an instruction that names it as an operand reads
the flag, and one that names it as its destination overwrites the flag with its result.

## Main definitions

* `Registers` — the registers, and `Registers.flag`, the number of the last one.
* `Registers.operate` — the effect of an operation on two registers.
* `Condition.holds` — whether a skip is taken.
* `Registers.decimalDigits` — the digits of a register's value.
-/

namespace Chip8

/-- The values of the registers. -/
abbrev Registers := Vector UInt8 16

namespace Registers

/-- The register that doubles as the flag. -/
def flag : Register := 0xF

/-- Every register holding zero. -/
def zero : Registers := .replicate 16 0

/-- The registers with another value in one of them. -/
def set (v : Registers) (x : Register) (value : UInt8) : Registers :=
  v.setIfInBounds x value

/-- The registers after an operation on `Vx` and `Vy`. Both operands are read first,
and the result is stored after the flag, so that it prevails when `Vx` is the flag
register. -/
def operate (v : Registers) (op : Alu) (x y : Register) : Registers :=
  let flagged :=
    match op.flag? (v.get x) (v.get y) with
    | some set => v.set flag (if set then 1 else 0)
    | none => v
  flagged.set x (op.result (v.get x) (v.get y))

@[simp] theorem get_set_self (v : Registers) (x : Register) (value : UInt8) :
    (v.set x value).get x = value :=
  Vector.getElem_setIfInBounds_self _

theorem get_set_of_ne (v : Registers) {x r : Register} (h : r ≠ x) (value : UInt8) :
    (v.set x value).get r = v.get r :=
  Vector.getElem_setIfInBounds_ne _ fun e => h (Fin.ext e.symm)

/-- Of two values put into one register, the second stays. -/
@[simp] theorem set_set (v : Registers) (x : Register) (first second : UInt8) :
    (v.set x first).set x second = v.set x second := by
  apply Vector.ext
  intro r hr
  simp only [set, Vector.getElem_setIfInBounds]
  split <;> rfl

/-- A register that is given its own value changes nothing. -/
@[simp] theorem set_get_self (v : Registers) (x : Register) : v.set x (v.get x) = v := by
  apply Vector.ext
  intro r hr
  rw [set, Vector.getElem_setIfInBounds]
  split
  · rename_i e
    subst e
    rfl
  · rfl

/-- The hundreds, tens and ones of a byte. -/
def decimalDigits (value : UInt8) : List UInt8 :=
  [value / 100, value / 10 % 10, value % 10]

/-- What every register holds after an operation: the result wins over the flag, and the
flag over the old value. -/
theorem get_operate (v : Registers) (op : Alu) (x y r : Register) :
    (v.operate op x y).get r =
      if r = x then op.result (v.get x) (v.get y)
      else if r = flag then
        ((op.flag? (v.get x) (v.get y)).map fun set => if set then 1 else 0).getD (v.get r)
      else v.get r := by
  unfold operate
  by_cases hx : r = x
  · rw [hx, if_pos rfl]
    exact get_set_self _ _ _
  · rw [get_set_of_ne _ hx, if_neg hx]
    cases op.flag? (v.get x) (v.get y) with
    | none => simp
    | some set =>
      by_cases hf : r = flag
      · rw [hf, if_pos rfl]
        exact get_set_self _ _ _
      · rw [if_neg hf]
        exact get_set_of_ne _ hf _

end Registers

/-- The key that a byte names by its low digit. -/
def Keypad.named (value : UInt8) : Fin 16 :=
  ⟨value.toNat % 16, by omega⟩

/-- Whether a skip is taken. -/
def Condition.holds (v : Registers) (keys : Keypad) : Condition → Bool
  | .isByte x kk => v.get x == kk
  | .isNotByte x kk => v.get x != kk
  | .same x y => v.get x == v.get y
  | .differ x y => v.get x != v.get y
  | .keyDown x => keys.get (Keypad.named (v.get x))
  | .keyUp x => !keys.get (Keypad.named (v.get x))

end Chip8
