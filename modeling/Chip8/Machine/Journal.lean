import Chip8.Instruction.Mnemonic
import Chip8.Machine.Operation
import Chip8.Verbosity

/-!
# The journal of a machine

What a machine does can be followed in a journal: the programs loaded, every
instruction with its effect on the call stack or on a key wait, the registers after
it, and the waits given up. The journal of an operation is told from the machine
before it. An entry belongs to a degree of detail, which stands in front of its text.

## Main definitions

* `Event`, `Event.line` — one entry, and its text.
* `Selection.lines` — the entries that are shown.
* `Machine.stepEvents`, `Machine.waitEvents`, `Machine.events` — the entries of an
  operation.
-/

namespace Chip8

/-- One entry of a journal. -/
inductive Event where
  /-- A machine is set up in this configuration. -/
  | starting (config : Config)
  /-- The program in this file has been loaded. -/
  | opened (name : String)
  /-- A program of this many bytes has been loaded. -/
  | loaded (size : Nat)
  /-- An instruction is about to be executed. -/
  | decoded (pc word : Word) (i : Instruction)
  | called (target : Address) (pc : Word)
  | returned (target : Word)
  /-- A key has ended the wait of a register. -/
  | keyTaken (key : Fin 16) (x : Register)
  /-- An instruction has been executed. -/
  | settled (s : State)
  /-- A look at the keys has given up a wait. -/
  | abandoned (pc : Word)

namespace Event

/-- The degree of detail that an entry belongs to. -/
def level : Event → Verbosity
  | .starting _ | .opened _ => .info
  | .loaded _ | .called .. | .returned _ | .keyTaken .. | .abandoned _ => .debug
  | .decoded .. | .settled _ => .trace

/-- The values of all registers, in brackets. -/
def registersText (v : Registers) : String :=
  "[" ++ ", ".intercalate (v.toList.map fun value => Hexadecimal.padded 2 value.toNat) ++ "]"

/-- An entry's text. -/
def text : Event → String
  | .starting config => "starting with " ++ config.record
  | .opened name => "loaded " ++ name
  | .loaded size =>
    "loaded " ++ Nat.repr size ++ " byte ROM at "
      ++ Hexadecimal.marked 3 Layout.programStart.toNat
  | .decoded pc word i =>
    Hexadecimal.marked 3 pc.toNat ++ ": " ++ Hexadecimal.padded 4 word.toNat ++ "  "
      ++ i.mnemonic
  | .called target pc =>
    "call " ++ Hexadecimal.marked 3 target ++ " from " ++ Hexadecimal.marked 3 pc.toNat
  | .returned target => "return to " ++ Hexadecimal.marked 3 target.toNat
  | .keyTaken key x =>
    "key " ++ Hexadecimal.padded 1 key ++ " satisfied wait into V" ++ Hexadecimal.padded 1 x
  | .settled s =>
    "V " ++ registersText s.registers ++ " I " ++ Hexadecimal.marked 3 s.index.toNat
      ++ " SP " ++ toString s.depth ++ " DT " ++ Nat.repr s.delay.toNat
      ++ " ST " ++ Nat.repr s.sound.toNat
  | .abandoned pc => "key wait at " ++ Hexadecimal.marked 3 pc.toNat ++ " abandoned"

/-- An entry's text after its degree of detail. -/
def line (e : Event) : String :=
  e.level.name ++ " " ++ e.text

end Event

/-- The lines of the entries that are shown, all of them from one part of the program. -/
def Selection.lines (shown : Selection) (part : String) (events : List Event) : List String :=
  (events.filter fun e => shown.passes part e.level e.text).map Event.line

namespace Machine

/-- What an instruction that is executed does to the call stack or to a key wait. -/
def effectEvents (m : Machine) : Instruction → List Event
  | .call target => [.called target m.pc]
  | .ret => m.stack.head?.toList.map .returned
  | .awaitKey x => m.keys.lowest?.toList.map (.keyTaken · x)
  | _ => []

/-- The entries of a step. -/
def stepEvents (m : Machine) : List Event :=
  match m.fetch, m.instruction with
  | .ok word, .ok i =>
    let out := m.step
    .decoded m.pc word i ::
      match out.result with
      | .ok (.executed _) => m.effectEvents i ++ [.settled out.machine.toState]
      | _ => []
  | _, _ => []

/-- The entries of a step that looks at the keys while it has to wait. -/
def waitEvents (m : Machine) (frames : List Frame) : List Event :=
  let out := m.step
  m.stepEvents ++
    if out.isAwaiting then
      match frames with
      | [] => [.abandoned out.machine.pc]
      | frame :: rest =>
        if frame.go then waitEvents { out.machine with keys := frame.keys } rest
        else [.abandoned out.machine.pc]
    else []

/-- The entries of a row of at most `n` steps. -/
def burstEvents (m : Machine) : Nat → List Event
  | 0 => []
  | n + 1 =>
    let out := m.step
    m.stepEvents ++
      match out.result with
      | .ok (.executed _) => out.machine.burstEvents n
      | _ => []

/-- The entries of an operation. -/
def events (m : Machine) : Operation → List Event
  | .load source =>
    match source.contents, (m.load source).result with
    | .ok rom, .ok _ => [.loaded rom.length]
    | _, _ => []
  | .step => m.stepEvents
  | .stepBlocking frames => m.waitEvents frames
  | _ => []

end Machine
end Chip8
