import Chip8.Word

/-!
# The layout of the machine

The sizes that the rest of the library is written in, and the two fixed places in
memory: the built-in glyphs at the bottom, and the start of every program.
-/

namespace Chip8.Layout

/-- The number of cells of memory, each holding a byte. -/
def memorySize : Nat := 4096

/-- The address at which programs are loaded and execution begins. -/
def programStart : Word := 0x200

/-- The size of the largest program: all memory from the start address on. -/
def programLimit : Nat := memorySize - programStart.toNat

/-- The address of the built-in glyphs. -/
def fontBase : Word := 0

/-- The number of bytes, and so of pixel rows, of a built-in glyph. -/
def glyphHeight : Nat := 5

/-- The number of pixels in a row of the screen. -/
def displayWidth : Nat := 64

/-- The number of rows of the screen. -/
def displayHeight : Nat := 32

/-- The number of return addresses that the call stack holds. -/
def stackDepth : Nat := 16

/-- The number of keys. -/
def keyCount : Nat := 16

end Chip8.Layout
