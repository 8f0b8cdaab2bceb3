import Chip8.CallStack
import Chip8.Memory
import Chip8.Registers
import Chip8.Screen
import Chip8.Source

/-!
# The state of a machine

Everything that a program can change, and the keys, which it can only read. What can fail
answers together with the state that it leaves.

## Main definitions

* `State` — the state; its defaults are those of a new machine.
* `State.depth`, `State.stack` — the stack pointer and the return addresses.
* `State.loadBytes`, `State.loadFrom` — loading a program.
* `State.tickDelay`, `State.tickSound`, `State.tick` — the timers.
-/

namespace Chip8

/-- What a program works on. -/
structure State where
  memory : Memory := .initial
  registers : Registers := .zero
  /-- The address register `I`. -/
  index : Word := 0
  /-- The address of the next instruction. -/
  pc : Word := Layout.programStart
  calls : CallStack := {}
  screen : Screen := .blank
  delay : UInt8 := 0
  sound : UInt8 := 0
  keys : Keypad := .released
  /-- Whether the last step has cleared the screen or drawn on it. -/
  redraw : Bool := false

namespace State

/-- The place of the newest return address on the call stack, counted from zero, and
`-1` when there is none. -/
def depth (s : State) : Int :=
  s.calls.pointer.toInt

/-- The return addresses of the calls that have not returned, the newest first. -/
def stack (s : State) : List Word :=
  s.calls.addresses.reverse

/-- Whether the sound is on. -/
def sounding (s : State) : Bool :=
  0 < s.sound

/-- Copies a program to the start address, if it fits. -/
def loadBytes (s : State) (rom : List UInt8) : Except LoadError Unit × State :=
  if Layout.programLimit < rom.length then (.error (.tooLarge rom.length), s)
  else (.ok (), { s with memory := Block.write s.memory Layout.programStart.toNat rom })

/-- Reads a source to its end, and copies what it has given to the start address. -/
def loadFrom (s : State) (source : Source) : Except LoadError Unit × State :=
  match source.contents with
  | .error cause => (.error (.unreadable cause), s)
  | .ok rom => s.loadBytes rom

/-- The state after the delay timer has counted down by one; zero stays zero. -/
def tickDelay (s : State) : State :=
  { s with delay := if s.delay = 0 then 0 else s.delay - 1 }

/-- The state after the sound timer has counted down by one; zero stays zero. -/
def tickSound (s : State) : State :=
  { s with sound := if s.sound = 0 then 0 else s.sound - 1 }

/-- The state after both timers have counted down by one. -/
def tick (s : State) : State :=
  s.tickDelay.tickSound

@[simp] theorem toNat_delay_tickDelay (s : State) :
    s.tickDelay.delay.toNat = s.delay.toNat - 1 := by
  unfold tickDelay
  by_cases h : s.delay = 0
  · simp [h]
  · have : s.delay.toNat ≠ 0 := fun e => h (UInt8.toNat_inj.1 e)
    simp only [h, if_false]
    rw [UInt8.toNat_sub_of_le _ _ (UInt8.le_iff_toNat_le.2 (by simp; omega))]
    simp

@[simp] theorem toNat_sound_tickSound (s : State) :
    s.tickSound.sound.toNat = s.sound.toNat - 1 := by
  unfold tickSound
  by_cases h : s.sound = 0
  · simp [h]
  · have : s.sound.toNat ≠ 0 := fun e => h (UInt8.toNat_inj.1 e)
    simp only [h, if_false]
    rw [UInt8.toNat_sub_of_le _ _ (UInt8.le_iff_toNat_le.2 (by simp; omega))]
    simp

end State
end Chip8
