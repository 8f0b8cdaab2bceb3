import Chip8.Instruction
import Chip8.Text.Record

/-!
# Instructions as records

The form in which a programmer sees an instruction: the name of its kind with its
operands as named decimal fields, such as `SeByte { x: 1, kk: 66 }`.

## Main definitions

* `Instruction.kind`, `Instruction.fields` — the parts of the record.
* `Instruction.record` — its text.
-/

namespace Chip8

/-- The name of a skip's kind. -/
def Condition.kind : Condition → String
  | .isByte .. => "SeByte"
  | .isNotByte .. => "SneByte"
  | .same .. => "SeReg"
  | .differ .. => "SneReg"
  | .keyDown _ => "Skp"
  | .keyUp _ => "Sknp"

/-- The name of an operation's kind. -/
def Alu.kind : Alu → String
  | .copy => "LdReg"
  | .or => "Or"
  | .and => "And"
  | .xor => "Xor"
  | .add => "AddReg"
  | .sub => "Sub"
  | .shiftRight => "Shr"
  | .subFrom => "Subn"
  | .shiftLeft => "Shl"

namespace Instruction

/-- The name of an instruction's kind. -/
def kind : Instruction → String
  | .sys _ => "Sys"
  | .clear => "Cls"
  | .ret => "Ret"
  | .jump _ => "Jp"
  | .call _ => "Call"
  | .skipIf condition => condition.kind
  | .setByte .. => "LdByte"
  | .addByte .. => "AddByte"
  | .alu op _ _ => op.kind
  | .setIndex _ => "LdI"
  | .jumpPlus _ => "JpV0"
  | .random .. => "Rnd"
  | .draw .. => "Drw"
  | .readDelay _ => "LdVxDt"
  | .awaitKey _ => "LdVxK"
  | .setDelay _ => "LdDtVx"
  | .setSound _ => "LdStVx"
  | .addIndex _ => "AddI"
  | .glyph _ => "LdF"
  | .decimal _ => "LdB"
  | .save _ => "LdIVx"
  | .restore _ => "LdVxI"

/-- The operands by name, in the order `x`, `y`, `kk`, `n`, or `nnn` alone. -/
def fields : Instruction → List (String × Nat)
  | .clear | .ret => []
  | .sys target | .jump target | .call target | .setIndex target | .jumpPlus target =>
    [("nnn", target)]
  | .skipIf (.isByte x kk) | .skipIf (.isNotByte x kk) | .setByte x kk | .addByte x kk
  | .random x kk => [("x", x), ("kk", kk.toNat)]
  | .skipIf (.same x y) | .skipIf (.differ x y) | .alu _ x y => [("x", x), ("y", y)]
  | .draw x y height => [("x", x), ("y", y), ("n", height)]
  | .skipIf (.keyDown x) | .skipIf (.keyUp x) | .readDelay x | .awaitKey x | .setDelay x
  | .setSound x | .addIndex x | .glyph x | .decimal x | .save x | .restore x => [("x", x)]

/-- The record of an instruction. -/
def record (i : Instruction) : String :=
  Record.render i.kind (i.fields.map fun f => (f.1, Nat.repr f.2))

end Instruction
end Chip8
