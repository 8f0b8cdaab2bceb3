import Chip8.Config
import Chip8.Screen

/-!
# Sprites

A sprite is a column of bytes, each a row of eight pixels with the most significant
bit on the left. Drawing it inverts the pixels under its set bits, one after another
from left to right and from top to bottom, and reports in a flag whether that has
erased lit pixels.

## Main definitions

* `Dot`, `Sprite.dots` — the bits of a sprite and where they fall on the screen.
* `Sprite.paint` — what drawing some dots does to the screen and to the flag.
* `Sprite.draw` — drawing a whole sprite.
-/

namespace Chip8

/-- One bit of a sprite and the pixel it falls on. -/
structure Dot where
  pixel : Pixel
  bit : Bool
  deriving DecidableEq

namespace Sprite

/-! ## Where the bits fall -/

/-- The eight bits of one row of a sprite, whose leftmost bit falls on `(x, y)`. -/
def rowDots (x y : Nat) (byte : UInt8) : List Dot :=
  (List.range 8).map fun c => ⟨.wrap (x + c) y, byte.toNat.testBit (7 - c)⟩

/-- The bits of a sprite whose top left corner falls on `(x, y)`, in the order in which
they are drawn. -/
def dots (x y : Nat) : List UInt8 → List Dot
  | [] => []
  | byte :: rest => rowDots x y byte ++ dots x (y + 1) rest

@[simp] theorem dots_nil (x y : Nat) : dots x y [] = [] := rfl
@[simp] theorem dots_cons (x y : Nat) (byte : UInt8) (rest : List UInt8) :
    dots x y (byte :: rest) = rowDots x y byte ++ dots x (y + 1) rest := rfl

/-! ## Drawing -/

/-- Draws dots in their order, starting from a screen and a flag. -/
def paint (rule : CollisionRule) (screen : Screen) (flag : UInt8) : List Dot → Screen × UInt8
  | [] => (screen, flag)
  | d :: rest =>
    let erased := screen.get d.pixel && d.bit
    paint rule (screen.flip d.pixel d.bit) (rule.update flag erased) rest

/-- Draws the rows of a sprite at `(x, y)`, the flag register holding `held` before. The
new screen comes with the new value of the flag register. -/
def draw (rule : CollisionRule) (screen : Screen) (held : UInt8) (x y : Nat)
    (rows : List UInt8) : Screen × UInt8 :=
  paint rule screen (rule.start held) (dots x y rows)

/-- Whether dots invert a pixel an odd number of times. -/
def inverts (p : Pixel) : List Dot → Bool
  | [] => false
  | d :: rest => (decide (d.pixel = p) && d.bit) ^^ inverts p rest

@[simp] theorem paint_nil (rule : CollisionRule) (screen : Screen) (flag : UInt8) :
    paint rule screen flag [] = (screen, flag) := rfl

theorem paint_cons (rule : CollisionRule) (screen : Screen) (flag : UInt8) (d : Dot)
    (rest : List Dot) :
    paint rule screen flag (d :: rest) =
      paint rule (screen.flip d.pixel d.bit)
        (rule.update flag (screen.get d.pixel && d.bit)) rest := rfl

/-- Dots can be drawn in two parts. -/
theorem paint_append (rule : CollisionRule) (screen : Screen) (flag : UInt8)
    (ds es : List Dot) :
    paint rule screen flag (ds ++ es) =
      paint rule (paint rule screen flag ds).1 (paint rule screen flag ds).2 es := by
  induction ds generalizing screen flag with
  | nil => rfl
  | cons d rest ih =>
    rw [List.cons_append, paint_cons, paint_cons]
    exact ih _ _

/-- Drawing dots inverts the pixels that they fall on an odd number of times. -/
theorem cell_paint (rule : CollisionRule) (screen : Screen) (flag : UInt8) (ds : List Dot)
    (p : Pixel) :
    (paint rule screen flag ds).1.cell p = screen.cell p ^^^ (inverts p ds).toUInt8 := by
  induction ds generalizing screen flag with
  | nil => exact UInt8.xor_zero.symm
  | cons d rest ih =>
    rw [paint_cons, ih, Screen.cell_flip, UInt8.xor_assoc, Screen.toUInt8_xor]
    rfl

/-- Drawing puts no other bytes than zero and one on a screen. -/
theorem binary_paint {screen : Screen} (h : screen.Binary) (rule : CollisionRule) (flag : UInt8)
    (ds : List Dot) : (paint rule screen flag ds).1.Binary := by
  induction ds generalizing screen flag with
  | nil => exact h
  | cons d rest ih =>
    rw [paint_cons]
    exact ih (h.flip d.pixel d.bit) _

end Sprite
end Chip8
