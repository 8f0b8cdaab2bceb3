import Chip8.Instruction
import Chip8.Text.Hexadecimal

/-!
# Mnemonics

The text of an instruction is its word, such as `LD`, followed by its operands. Many
instructions share a word and are told apart by their operands: eleven are written
`LD`. Registers are `V` and one hexadecimal digit; bytes and addresses are marked
hexadecimal numerals of at least two and three digits; a sprite's height is decimal.

## Main definitions

* `Operand`, `Operand.text` — what stands after a mnemonic's word.
* `Instruction.operation`, `Instruction.operands` — the parts of a mnemonic.
* `Instruction.mnemonic` — the text.
-/

namespace Chip8

/-- An operand as it is written. -/
inductive Operand where
  | register (x : Register)
  | byte (kk : UInt8)
  | address (target : Address)
  | height (n : Fin 16)
  /-- The address register. -/
  | index
  /-- The cells at the address register. -/
  | cells
  | delayTimer
  | soundTimer
  /-- A key to be waited for. -/
  | key
  /-- A built-in glyph. -/
  | glyph
  /-- The decimal digits of a number. -/
  | digits
  deriving DecidableEq

/-- An operand's text. -/
def Operand.text : Operand → String
  | .register x => "V" ++ Hexadecimal.padded 1 x
  | .byte kk => Hexadecimal.marked 2 kk.toNat
  | .address target => Hexadecimal.marked 3 target
  | .height n => Nat.repr n
  | .index => "I"
  | .cells => "[I]"
  | .delayTimer => "DT"
  | .soundTimer => "ST"
  | .key => "K"
  | .glyph => "F"
  | .digits => "B"

/-- The word of an operation on two registers. -/
def Alu.operation : Alu → String
  | .copy => "LD"
  | .or => "OR"
  | .and => "AND"
  | .xor => "XOR"
  | .add => "ADD"
  | .sub => "SUB"
  | .shiftRight => "SHR"
  | .subFrom => "SUBN"
  | .shiftLeft => "SHL"

/-- The word of a skip. -/
def Condition.operation : Condition → String
  | .isByte .. | .same .. => "SE"
  | .isNotByte .. | .differ .. => "SNE"
  | .keyDown _ => "SKP"
  | .keyUp _ => "SKNP"

/-- The operands of a skip. -/
def Condition.operands : Condition → List Operand
  | .isByte x kk | .isNotByte x kk => [.register x, .byte kk]
  | .same x y | .differ x y => [.register x, .register y]
  | .keyDown x | .keyUp x => [.register x]

namespace Instruction

/-- The word that a mnemonic begins with. -/
def operation : Instruction → String
  | .sys _ => "SYS"
  | .clear => "CLS"
  | .ret => "RET"
  | .jump _ | .jumpPlus _ => "JP"
  | .call _ => "CALL"
  | .skipIf condition => condition.operation
  | .alu op _ _ => op.operation
  | .addByte .. | .addIndex _ => "ADD"
  | .random .. => "RND"
  | .draw .. => "DRW"
  | .setByte .. | .setIndex _ | .readDelay _ | .awaitKey _ | .setDelay _ | .setSound _
  | .glyph _ | .decimal _ | .save _ | .restore _ => "LD"

/-- The operands of a mnemonic, in the order they are written. -/
def operands : Instruction → List Operand
  | .clear | .ret => []
  | .sys target | .jump target | .call target => [.address target]
  | .skipIf condition => condition.operands
  | .setByte x kk | .addByte x kk | .random x kk => [.register x, .byte kk]
  | .alu _ x y => [.register x, .register y]
  | .setIndex target => [.index, .address target]
  | .jumpPlus target => [.register 0, .address target]
  | .draw x y height => [.register x, .register y, .height height]
  | .readDelay x => [.register x, .delayTimer]
  | .awaitKey x => [.register x, .key]
  | .setDelay x => [.delayTimer, .register x]
  | .setSound x => [.soundTimer, .register x]
  | .addIndex x => [.index, .register x]
  | .glyph x => [.glyph, .register x]
  | .decimal x => [.digits, .register x]
  | .save x => [.cells, .register x]
  | .restore x => [.register x, .cells]

/-- The text of an instruction: its word, and after a blank its operands with commas
between them. -/
def mnemonic (i : Instruction) : String :=
  if i.operands.isEmpty then i.operation
  else i.operation ++ " " ++ ", ".intercalate (i.operands.map Operand.text)

end Instruction
end Chip8
