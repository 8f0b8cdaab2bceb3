import Chip8.Config
import Chip8.Fault
import Chip8.Instruction.Encoding
import Chip8.Noise
import Chip8.Sprite
import Chip8.State

/-!
# The machine

A machine is a state with the two things that no program and no reset changes: how
collisions are reported, and where the random bytes come from. An operation that can
fail answers with the machine that it leaves behind in either case, so that what a
failure does to the machine can be said at all.

## Main definitions

* `Machine`, `Machine.ofConfig` — the machine, and a new one.
* `Outcome` — an answer together with the machine that is left.
* `Machine.load` — copying a program into memory.
* `Machine.reset` — the state of a new machine.
-/

namespace Chip8

/-- A state with a collision rule and a source of random bytes. -/
structure Machine extends State where
  collision : CollisionRule
  noise : Noise

/-- What an operation answers, a result or a failure, and the machine that it leaves. -/
structure Outcome (ε α : Type) where
  result : Except ε α
  machine : Machine

namespace Machine

/-- A new machine. The noise is used when the configuration has no seed. -/
def ofConfig (config : Config) (noise : Noise) : Machine :=
  { collision := config.collision
    noise := (config.seed.map Noise.ofSeed).getD noise }

/-- The machine with the state of a new one. -/
def reset (m : Machine) : Machine :=
  { m with toState := {} }

/-! ## Loading a program -/

/-- Does to the state of a machine what can fail. -/
def onState {ε α : Type} (m : Machine) (f : State → Except ε α × State) : Outcome ε α :=
  ⟨(f m.toState).1, { m with toState := (f m.toState).2 }⟩

/-- Copies a program to the start address, if it fits. -/
def loadBytes (m : Machine) (rom : List UInt8) : Outcome LoadError Unit :=
  m.onState (·.loadBytes rom)

/-- Copies the program that a source gives to the start address. -/
def load (m : Machine) (source : Source) : Outcome LoadError Unit :=
  m.onState (·.loadFrom source)

@[simp] theorem load_ofBytes (m : Machine) (rom : List UInt8) :
    m.load (.ofBytes rom) = m.loadBytes rom := by
  simp [load, loadBytes, State.loadFrom]

/-- A program that fits is copied into memory as a whole. -/
theorem load_of_fits (m : Machine) {source : Source} {rom : List UInt8}
    (contents : source.contents = .ok rom) (fits : rom.length ≤ Layout.programLimit) :
    m.load source =
      ⟨.ok (), { m with memory := Block.write m.memory Layout.programStart.toNat rom }⟩ := by
  simp only [load, onState, State.loadFrom, contents, State.loadBytes,
    if_neg (Nat.not_lt_of_le fits)]

/-- A program that does not fit is refused by its size. -/
theorem load_of_large (m : Machine) {source : Source} {rom : List UInt8}
    (contents : source.contents = .ok rom) (large : Layout.programLimit < rom.length) :
    m.load source = ⟨.error (.tooLarge rom.length), m⟩ := by
  simp only [load, onState, State.loadFrom, contents, State.loadBytes, if_pos large]

/-- A source that fails is refused as unreadable, and its bytes are not counted. -/
theorem load_of_unreadable (m : Machine) {source : Source} {cause : ReadError}
    (contents : source.contents = .error cause) :
    m.load source = ⟨.error (.unreadable cause), m⟩ := by
  simp only [load, onState, State.loadFrom, contents]

end Machine
end Chip8
