import Chip8.Layout

/-!
# The screen

The screen is 64 pixels wide and 32 high, with a byte for each pixel: one if it is lit
and zero if it is dark. Coordinates beyond an edge start again at the opposite one.

## Main definitions

* `Pixel`, `Pixel.wrap` — a place on the screen, and the place of any coordinates.
* `Screen`, `Screen.cell`, `Screen.get` — the bytes, and whether a pixel is lit.
* `Screen.flip` — inverting a pixel.
* `Screen.Binary` — the screens that hold no other bytes than zero and one.
* `Screen.row`, `Screen.changedRows` — whole rows.
-/

namespace Chip8

/-- A place on the screen: the column from the left and the row from the top. -/
structure Pixel where
  x : Fin 64
  y : Fin 32
  deriving DecidableEq

namespace Pixel

/-- The place of any coordinates, both edges wrapping around. -/
def wrap (x y : Nat) : Pixel :=
  ⟨.ofNat 64 x, .ofNat 32 y⟩

/-- The number of a pixel, counted row by row. -/
def index (p : Pixel) : Fin 2048 :=
  ⟨p.y.val * 64 + p.x.val, by omega⟩

theorem index_inj {p q : Pixel} : p.index = q.index ↔ p = q := by
  constructor
  · intro h
    have e : p.y.val * 64 + p.x.val = q.y.val * 64 + q.x.val := congrArg Fin.val h
    cases p
    cases q
    simp only [mk.injEq] at e ⊢
    omega
  · rintro rfl
    rfl

end Pixel

/-- The bytes of the pixels, row by row. -/
abbrev Screen := Vector UInt8 2048

namespace Screen

/-- The screen with every pixel dark. -/
def blank : Screen := .replicate 2048 0

/-- The byte of a pixel. -/
def cell (screen : Screen) (p : Pixel) : UInt8 :=
  screen[p.index]

/-- Whether a pixel is lit. -/
def get (screen : Screen) (p : Pixel) : Bool :=
  screen.cell p == 1

/-- The screen with a bit added to one pixel, without a carry. -/
def flip (screen : Screen) (p : Pixel) (bit : Bool) : Screen :=
  screen.set p.index (screen.cell p ^^^ bit.toUInt8)

/-- Every byte is zero or one. -/
def Binary (screen : Screen) : Prop :=
  ∀ p, screen.cell p = 0 ∨ screen.cell p = 1

@[simp] theorem cell_blank (p : Pixel) : blank.cell p = 0 := by
  simp [blank, cell]

@[simp] theorem cell_flip_self (screen : Screen) (p : Pixel) (bit : Bool) :
    (screen.flip p bit).cell p = screen.cell p ^^^ bit.toUInt8 := by
  simp [flip, cell]

theorem cell_flip_of_ne (screen : Screen) {p q : Pixel} (h : p ≠ q) (bit : Bool) :
    (screen.flip p bit).cell q = screen.cell q := by
  have : (p.index : Nat) ≠ q.index := fun e => h (Pixel.index_inj.1 (Fin.ext e))
  simp [flip, cell, this]

/-- Adding a bit to a pixel leaves the others as they are. -/
theorem cell_flip (screen : Screen) (p q : Pixel) (bit : Bool) :
    (screen.flip p bit).cell q = screen.cell q ^^^ (decide (p = q) && bit).toUInt8 := by
  by_cases h : p = q
  · subst h
    simp
  · rw [cell_flip_of_ne screen h, decide_eq_false h]
    exact UInt8.xor_zero.symm

/-- Two screens with the same bytes are the same. -/
theorem ext_cell {s t : Screen} (h : ∀ p, s.cell p = t.cell p) : s = t := by
  apply Vector.ext
  intro i hi
  have := h ⟨⟨i % 64, by omega⟩, ⟨i / 64, by omega⟩⟩
  have e : i / 64 * 64 + i % 64 = i := by omega
  simpa [cell, Pixel.index, e] using this

/-! ## Screens of zeros and ones -/

theorem binary_blank : blank.Binary :=
  fun p => .inl (cell_blank p)

/-- On such a screen a pixel is lit or holds zero. -/
theorem Binary.cell_eq {screen : Screen} (h : screen.Binary) (p : Pixel) :
    screen.cell p = (screen.get p).toUInt8 := by
  obtain zero | one := h p
  · rw [get, zero]
    rfl
  · rw [get, one]
    rfl

theorem Binary.of_cell_eq {screen : Screen} {f : Pixel → Bool}
    (h : ∀ p, screen.cell p = (f p).toUInt8) : screen.Binary := by
  intro p
  rw [h p]
  cases f p
  · exact .inl rfl
  · exact .inr rfl

theorem toUInt8_xor (a b : Bool) : a.toUInt8 ^^^ b.toUInt8 = (a ^^ b).toUInt8 := by
  revert a b
  decide

@[simp] theorem toUInt8_beq_one (a : Bool) : (a.toUInt8 == 1) = a := by
  cases a <;> rfl

theorem Binary.flip {screen : Screen} (h : screen.Binary) (p : Pixel) (bit : Bool) :
    (screen.flip p bit).Binary := by
  apply Binary.of_cell_eq (f := fun q => screen.get q ^^ (decide (p = q) && bit))
  intro q
  rw [cell_flip, h.cell_eq, toUInt8_xor]

/-! ## Rows -/

/-- The pixels of a row, from left to right. -/
def row (screen : Screen) (y : Fin 32) : List Bool :=
  (List.finRange 64).map fun x => screen.get ⟨x, y⟩

/-- The rows in which two screens differ, from top to bottom. -/
def changedRows (old new : Screen) : List (Fin 32) :=
  (List.finRange 32).filter fun y => old.row y != new.row y

end Screen
end Chip8
