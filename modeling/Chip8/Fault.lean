import Chip8.Text.Hexadecimal
import Chip8.Word

/-!
# Faults

A step that cannot be carried out ends in a fault, which says what was wrong and
where the program stood.

## Main definitions

* `Fault` — the causes.
* `Fault.message` — their text.
-/

namespace Chip8

/-- Why a step could not be carried out, with the program counter at that time. -/
inductive Fault where
  /-- The word to be executed stands for no instruction. -/
  | invalidOpcode (word : Word) (pc : Word)
  /-- A call when the call stack is full. -/
  | stackOverflow (pc : Word)
  /-- A return when the call stack is empty. -/
  | stackUnderflow (pc : Word)
  /-- An access to memory whose first cell outside has this address. -/
  | addressOutOfRange (address : Nat) (pc : Word)
  deriving DecidableEq

/-- The text of a fault. -/
def Fault.message : Fault → String
  | .invalidOpcode word pc =>
    "invalid opcode " ++ Hexadecimal.marked 4 word.toNat ++ " at "
      ++ Hexadecimal.marked 3 pc.toNat
  | .stackOverflow pc => "call stack overflow at " ++ Hexadecimal.marked 3 pc.toNat
  | .stackUnderflow pc => "return with empty call stack at " ++ Hexadecimal.marked 3 pc.toNat
  | .addressOutOfRange address pc =>
    "memory access at " ++ Hexadecimal.marked 4 address ++ " out of range (pc "
      ++ Hexadecimal.marked 3 pc.toNat ++ ")"

end Chip8
