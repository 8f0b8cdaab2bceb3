import Chip8.Machine

/-!
# Executing one instruction

What each instruction does to a machine, and where the program goes on afterwards. An
instruction that works on memory at `I` finds all its cells inside memory, or it
faults.

## Main definitions

* `Flow`, `Flow.target?` — where the program goes on.
* `Machine.withBlock` — reaching the cells at `I`.
* `Machine.execute` — the effect of an instruction.
-/

namespace Chip8

/-- Where the program goes on after an instruction. -/
inductive Flow where
  /-- At the next instruction. -/
  | next
  /-- At the instruction after the next one. -/
  | skip
  | jump (target : Word)
  /-- Nowhere: the same instruction is tried again. -/
  | wait
  deriving DecidableEq

/-- The new program counter, if the program goes on. -/
def Flow.target? (pc : Word) : Flow → Option Word
  | .next => some (pc + 2)
  | .skip => some (pc + 4)
  | .jump target => some target
  | .wait => none

namespace Machine

/-- The instruction has been carried out. -/
def proceed (m : Machine) (flow : Flow) : Outcome Fault Flow :=
  ⟨.ok flow, m⟩

/-- The instruction cannot be carried out. -/
def refuse (m : Machine) (fault : Fault) : Outcome Fault Flow :=
  ⟨.error fault, m⟩

/-- The machine with another value in a register. -/
def setRegister (m : Machine) (x : Register) (value : UInt8) : Machine :=
  { m with registers := m.registers.set x value }

/-- Goes on with the values of the `len` cells at `I`. If a cell is missing, the fault
names the first one that is outside memory. -/
def withBlock (m : Machine) (len : Nat) (next : List UInt8 → Machine) : Outcome Fault Flow :=
  match Block.read? m.memory m.index.toNat len with
  | none => m.refuse (.addressOutOfRange (max m.index.toNat Layout.memorySize) m.pc)
  | some block => (next block).proceed .next

/-- Enters a subroutine: pushes the address of the next instruction and jumps. -/
def enter (m : Machine) (target : Address) : Outcome Fault Flow :=
  if m.calls.isFull then m.refuse (.stackOverflow m.pc)
  else { m with calls := m.calls.push (m.pc + 2) }.proceed (.jump (.ofNat target))

/-- Leaves a subroutine: pops a return address and jumps there. -/
def leave (m : Machine) : Outcome Fault Flow :=
  if m.calls.isEmpty then m.refuse (.stackUnderflow m.pc)
  else { m with calls := m.calls.pop }.proceed (.jump m.calls.newest)

/-- Draws the sprite at `I` at the place that two registers name. -/
def drawSprite (m : Machine) (x y : Register) (height : Nat) : Outcome Fault Flow :=
  m.withBlock height fun rows =>
    let drawn := Sprite.draw m.collision m.screen (m.registers.get Registers.flag)
      (m.registers.get x).toNat (m.registers.get y).toNat rows
    { m with
      registers := m.registers.set Registers.flag drawn.2
      screen := drawn.1
      redraw := true }

/-- Puts the lowest key that is down into a register, or waits for one. -/
def takeKey (m : Machine) (x : Register) : Outcome Fault Flow :=
  match m.keys.lowest? with
  | none => m.proceed .wait
  | some key => (m.setRegister x (.ofNat key)).proceed .next

/-- The effect of an instruction. -/
def execute (m : Machine) : Instruction → Outcome Fault Flow
  | .sys _ => m.proceed .next
  | .clear => { m with screen := .blank, redraw := true }.proceed .next
  | .ret => m.leave
  | .jump target => m.proceed (.jump (.ofNat target))
  | .call target => m.enter target
  | .skipIf condition =>
    m.proceed (if condition.holds m.registers m.keys then .skip else .next)
  | .setByte x kk => (m.setRegister x kk).proceed .next
  | .addByte x kk => (m.setRegister x (m.registers.get x + kk)).proceed .next
  | .alu op x y => { m with registers := m.registers.operate op x y }.proceed .next
  | .setIndex target => { m with index := .ofNat target }.proceed .next
  | .jumpPlus target => m.proceed (.jump (.ofNat target + (m.registers.get 0).toUInt16))
  | .random x mask =>
    let value := m.noise.next &&& mask
    { m with registers := m.registers.set x value, noise := m.noise.advance }.proceed .next
  | .draw x y height => m.drawSprite x y height
  | .readDelay x => (m.setRegister x m.delay).proceed .next
  | .awaitKey x => m.takeKey x
  | .setDelay x => { m with delay := m.registers.get x }.proceed .next
  | .setSound x => { m with sound := m.registers.get x }.proceed .next
  | .addIndex x => { m with index := m.index + (m.registers.get x).toUInt16 }.proceed .next
  | .glyph x => { m with index := Font.address (m.registers.get x) }.proceed .next
  | .decimal x =>
    m.withBlock 3 fun _ =>
      let digits := Registers.decimalDigits (m.registers.get x)
      { m with memory := Block.write m.memory m.index.toNat digits }
  | .save x =>
    m.withBlock (x + 1) fun _ =>
      let values := m.registers.toList.take (x + 1)
      { m with memory := Block.write m.memory m.index.toNat values }
  | .restore x =>
    m.withBlock (x + 1) fun values =>
      { m with registers := Block.write m.registers 0 values }

end Machine
end Chip8
