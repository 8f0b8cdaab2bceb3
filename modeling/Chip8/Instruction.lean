import Chip8.Word

/-!
# The instruction set

The thirty-five instructions, grouped by what they do: the six skips differ in their
condition only, and the nine operations on two registers in the operation only. An
operand has exactly the width that its word gives it, so no instruction can name a
register, a byte or an address that does not exist.

## Main definitions

* `Condition` — when a skip is taken.
* `Alu` — the operations on two registers, with `Alu.result` and `Alu.flag?`.
* `Instruction` — the instructions.
-/

namespace Chip8

/-- When a skip instruction passes over the next instruction. -/
inductive Condition where
  /-- The register `Vx` holds the byte. -/
  | isByte (x : Register) (kk : UInt8)
  /-- The register `Vx` holds another byte. -/
  | isNotByte (x : Register) (kk : UInt8)
  /-- The two registers hold the same value. -/
  | same (x y : Register)
  /-- The two registers hold different values. -/
  | differ (x y : Register)
  /-- The key that `Vx` names is down. -/
  | keyDown (x : Register)
  /-- The key that `Vx` names is up. -/
  | keyUp (x : Register)
  deriving DecidableEq

/-- The operations that combine `Vx` with `Vy` and leave the result in `Vx`. -/
inductive Alu where
  | copy
  | or
  | and
  | xor
  | add
  /-- Take `Vy` away from `Vx`. -/
  | sub
  /-- Halve `Vx`; `Vy` is not used. -/
  | shiftRight
  /-- Take `Vx` away from `Vy`. -/
  | subFrom
  /-- Double `Vx`; `Vy` is not used. -/
  | shiftLeft
  deriving DecidableEq

namespace Alu

/-- The new value of `Vx`, from the old values of `Vx` and `Vy`. -/
def result (op : Alu) (a b : UInt8) : UInt8 :=
  match op with
  | .copy => b
  | .or => a ||| b
  | .and => a &&& b
  | .xor => a ^^^ b
  | .add => a + b
  | .sub => a - b
  | .shiftRight => a >>> 1
  | .subFrom => b - a
  | .shiftLeft => a <<< 1

/-- What is left in the flag register: a carry out of an addition, the absence of a
borrow (equal operands count as a borrow), or the bit shifted out. The other
operations leave the flag register alone. -/
def flag? (op : Alu) (a b : UInt8) : Option Bool :=
  match op with
  | .add => some (255 < a.toNat + b.toNat)
  | .sub => some (b < a)
  | .shiftRight => some (a.toNat % 2 = 1)
  | .subFrom => some (a < b)
  | .shiftLeft => some (128 ≤ a)
  | .copy | .or | .and | .xor => none

end Alu

/-- One instruction with its operands. -/
inductive Instruction where
  /-- Call a machine-code routine; there is none, so nothing happens. -/
  | sys (target : Address)
  /-- Clear the screen. -/
  | clear
  /-- Return from a subroutine. -/
  | ret
  | jump (target : Address)
  | call (target : Address)
  | skipIf (condition : Condition)
  | setByte (x : Register) (kk : UInt8)
  /-- Add a byte to `Vx`, without a carry. -/
  | addByte (x : Register) (kk : UInt8)
  | alu (op : Alu) (x y : Register)
  | setIndex (target : Address)
  /-- Jump to the target plus `V0`. -/
  | jumpPlus (target : Address)
  /-- Set `Vx` to a random byte, masked. -/
  | random (x : Register) (mask : UInt8)
  /-- Draw the `height` bytes at `I` as a sprite at `(Vx, Vy)`. -/
  | draw (x y : Register) (height : Fin 16)
  | readDelay (x : Register)
  /-- Wait until a key is down and put its number into `Vx`. -/
  | awaitKey (x : Register)
  | setDelay (x : Register)
  | setSound (x : Register)
  /-- Add `Vx` to `I`. -/
  | addIndex (x : Register)
  /-- Point `I` at the built-in glyph of the digit in `Vx`. -/
  | glyph (x : Register)
  /-- Store the three decimal digits of `Vx` at `I`. -/
  | decimal (x : Register)
  /-- Store `V0` to `Vx` at `I`. -/
  | save (x : Register)
  /-- Fetch `V0` to `Vx` from `I`. -/
  | restore (x : Register)
  deriving DecidableEq

end Chip8
