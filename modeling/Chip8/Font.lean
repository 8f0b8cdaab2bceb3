import Chip8.Layout

/-!
# Built-in glyphs

Sixteen sprites, one for each hexadecimal digit, five rows high and four pixels wide.
They lie one after another at the bottom of memory.

## Main definitions

* `Font.glyph digit` — the rows of a glyph.
* `Font.bytes` — all glyphs, as they lie in memory.
* `Font.address digit` — where a glyph begins.
-/

namespace Chip8.Font

/-- The rows of a digit's glyph, the topmost first. -/
def glyph : Fin 16 → List UInt8
  | 0x0 => [0xF0, 0x90, 0x90, 0x90, 0xF0]
  | 0x1 => [0x20, 0x60, 0x20, 0x20, 0x70]
  | 0x2 => [0xF0, 0x10, 0xF0, 0x80, 0xF0]
  | 0x3 => [0xF0, 0x10, 0xF0, 0x10, 0xF0]
  | 0x4 => [0x90, 0x90, 0xF0, 0x10, 0x10]
  | 0x5 => [0xF0, 0x80, 0xF0, 0x10, 0xF0]
  | 0x6 => [0xF0, 0x80, 0xF0, 0x90, 0xF0]
  | 0x7 => [0xF0, 0x10, 0x20, 0x40, 0x40]
  | 0x8 => [0xF0, 0x90, 0xF0, 0x90, 0xF0]
  | 0x9 => [0xF0, 0x90, 0xF0, 0x10, 0xF0]
  | 0xA => [0xF0, 0x90, 0xF0, 0x90, 0x90]
  | 0xB => [0xE0, 0x90, 0xE0, 0x90, 0xE0]
  | 0xC => [0xF0, 0x80, 0x80, 0x80, 0xF0]
  | 0xD => [0xE0, 0x90, 0x90, 0x90, 0xE0]
  | 0xE => [0xF0, 0x80, 0xF0, 0x80, 0xF0]
  | _ => [0xF0, 0x80, 0xF0, 0x80, 0x80]

/-- All glyphs in the order of their digits. -/
def bytes : List UInt8 :=
  (List.finRange 16).flatMap glyph

/-- The address of the glyph of a byte's low digit. -/
def address (value : UInt8) : Word :=
  Layout.fontBase + .ofNat (value.toNat % 16 * Layout.glyphHeight)

theorem length_bytes : bytes.length = 80 := by decide

theorem length_glyph (digit : Fin 16) : (glyph digit).length = Layout.glyphHeight := by
  revert digit
  decide

/-- The bytes at a glyph's place are the glyph. -/
theorem take_drop_bytes (digit : Fin 16) :
    (bytes.drop (digit * Layout.glyphHeight)).take Layout.glyphHeight = glyph digit := by
  revert digit
  decide

end Chip8.Font
