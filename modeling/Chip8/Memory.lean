import Chip8.Block
import Chip8.Font

/-!
# Memory

Memory is 4096 cells of one byte. A new memory holds the built-in glyphs at the
bottom and zeros above them.

## Main definitions

* `Memory.initial` — the memory of a new machine.
* `Memory.word?` — the instruction word at an address.
* `Memory.changes` — the runs of cells in which two memories differ.
-/

namespace Chip8

/-- The cells, each holding a byte. -/
abbrev Memory := Vector UInt8 4096

namespace Memory

/-- The memory of a new machine. -/
def initial : Memory :=
  Block.write (.replicate 4096 0) Layout.fontBase.toNat Font.bytes

/-- The word in the cell at an address and the one after it, if both exist. -/
def word? (memory : Memory) (address : Nat) : Option Word :=
  if inside : address + 1 < 4096 then some (.ofBytes memory[address] memory[address + 1])
  else none

theorem word?_eq_none_iff {memory : Memory} {address : Nat} :
    memory.word? address = none ↔ 4095 ≤ address := by
  unfold word?
  split <;> simp <;> omega

theorem word?_of_lt {memory : Memory} {address : Nat} (inside : address + 1 < 4096) :
    memory.word? address = some (.ofBytes memory[address] memory[address + 1]) := by
  simp [word?, inside]

/-- Memory has as many cells as the layout says. -/
theorem length_toList (memory : Memory) : memory.toList.length = Layout.memorySize :=
  Vector.length_toList

/-! ## Comparing memories -/

/-- The cells that differ, in the order of their addresses. -/
def changed (old new : Memory) : List (Fin 4096) :=
  (List.finRange 4096).filter fun a => old[a] != new[a]

/-- The longest runs of neighbouring cells that differ, each as its first address and
its new values. -/
def changes (old new : Memory) : List (Nat × List UInt8) :=
  (changed old new |>.splitBy fun a b => a.val + 1 == b.val).filterMap fun run =>
    run.head?.map fun first => (first.val, run.map fun a => new[a])

end Memory
end Chip8
