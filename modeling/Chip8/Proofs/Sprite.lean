import Chip8.Sprite
import Mathlib.Data.List.Basic
import Mathlib.Tactic.Common

/-!
# Sprites as sets of pixels

Drawing goes through the bits of a sprite one by one and reads the screen that it has
been changing. The bits of one sprite fall on different pixels, under both wraps, so each
reads the pixel as it was before the drawing began. Hence drawing is a parallel update,
and the flag can be told from the screen before.

## Main definitions

* `Sprite.Distinct` — dots on different pixels.
-/

namespace Chip8.Sprite

variable {rule : CollisionRule} {screen : Screen} {flag : UInt8} {ds : List Dot} {d : Dot}
  {p : Pixel} {x y : ℕ} {byte : UInt8} {rows : List UInt8}

/-! ## Which dots there are -/

theorem mem_rowDots : d ∈ rowDots x y byte ↔
    ∃ c < 8, d = ⟨.wrap (x + c) y, byte.toNat.testBit (7 - c)⟩ := by
  simp only [rowDots, List.mem_map, List.mem_range]
  constructor
  · rintro ⟨c, hc, rfl⟩
    exact ⟨c, hc, rfl⟩
  · rintro ⟨c, hc, rfl⟩
    exact ⟨c, hc, rfl⟩

/-- The dots of a sprite are its bits, row by row. -/
theorem mem_dots : d ∈ dots x y rows ↔
    ∃ r c byte, rows[r]? = some byte ∧ c < 8 ∧
      d = ⟨.wrap (x + c) (y + r), byte.toNat.testBit (7 - c)⟩ := by
  induction rows generalizing y with
  | nil => simp
  | cons top rest ih =>
    rw [dots_cons, List.mem_append, mem_rowDots, ih]
    constructor
    · rintro (⟨c, hc, rfl⟩ | ⟨r, c, byte, at_r, hc, rfl⟩)
      · exact ⟨0, c, top, rfl, hc, rfl⟩
      · refine ⟨r + 1, c, byte, at_r, hc, ?_⟩
        rw [Nat.add_right_comm, Nat.add_assoc y r 1]
    · rintro ⟨r, c, byte, at_r, hc, rfl⟩
      cases r with
      | zero =>
        cases at_r
        exact .inl ⟨c, hc, rfl⟩
      | succ r =>
        refine .inr ⟨r, c, byte, at_r, hc, ?_⟩
        rw [Nat.add_right_comm, Nat.add_assoc y r 1]

theorem wrap_eq_iff {x' y' : ℕ} :
    Pixel.wrap x y = Pixel.wrap x' y' ↔ x % 64 = x' % 64 ∧ y % 32 = y' % 32 := by
  simp [Pixel.wrap, Fin.ext_iff]

/-- Dots on different pixels. -/
def Distinct (ds : List Dot) : Prop :=
  ds.Pairwise fun d e => d.pixel ≠ e.pixel

/-- Within a row the columns differ, since a row is at most as wide as the screen. -/
theorem distinct_rowDots : Distinct (rowDots x y byte) := by
  rw [Distinct, rowDots, List.pairwise_map]
  refine List.Pairwise.imp_of_mem ?_ List.pairwise_lt_range
  intro c c' hc hc' less same
  have bound := List.mem_range.1 hc'
  have columns := (wrap_eq_iff.1 same).1
  omega

/-- A sprite that is at most as high as the screen has its dots on different pixels. -/
theorem distinct_dots (fits : rows.length ≤ 32) : Distinct (dots x y rows) := by
  induction rows generalizing y with
  | nil => exact .nil
  | cons top rest ih =>
    have shorter : rest.length + 1 ≤ 32 := fits
    refine List.pairwise_append.2 ⟨distinct_rowDots, ih (by omega), ?_⟩
    intro d hd e he same
    obtain ⟨c, -, rfl⟩ := mem_rowDots.1 hd
    obtain ⟨r, c', byte, at_r, -, rfl⟩ := mem_dots.1 he
    have below : r < rest.length := (List.getElem?_eq_some_iff.1 at_r).1
    have lines := (wrap_eq_iff.1 same).2
    omega

/-! ## What distinct dots invert -/

/-- A pixel that no dot falls on is not inverted. -/
theorem inverts_eq_false (away : ∀ d ∈ ds, d.pixel ≠ p) : inverts p ds = false := by
  induction ds with
  | nil => rfl
  | cons d rest ih =>
    rw [inverts, ih fun e he => away e (List.mem_cons_of_mem d he),
      decide_eq_false (away d List.mem_cons_self)]
    rfl

/-- Of distinct dots, the one on a pixel alone decides whether it is inverted. -/
theorem inverts_pixel (distinct : Distinct ds) (hd : d ∈ ds) : inverts d.pixel ds = d.bit := by
  induction ds with
  | nil => cases hd
  | cons e rest ih =>
    obtain ⟨apart, distinct⟩ := List.pairwise_cons.1 distinct
    rw [inverts]
    rcases List.mem_cons.1 hd with rfl | hd
    · rw [inverts_eq_false fun e he => (apart e he).symm, decide_eq_true rfl, Bool.true_and,
        Bool.xor_false]
    · rw [ih distinct hd, decide_eq_false (apart d hd), Bool.false_and, Bool.false_xor]

/-! ## What distinct dots report -/

/-- Whether a dot erases a lit pixel of a screen. -/
def erases (screen : Screen) (d : Dot) : Bool :=
  screen.get d.pixel && d.bit

/-- A dot on another pixel erases what it would have erased before. -/
theorem erases_flip_of_ne {e : Dot} (apart : d.pixel ≠ e.pixel) (bit : Bool) :
    erases (screen.flip d.pixel bit) e = erases screen e := by
  rw [erases, Screen.get, Screen.cell_flip_of_ne screen apart]
  rfl

/-- The flag after drawing distinct dots, told from the screen before: no dot sees what
the dots before it have drawn. -/
theorem flag_paint (distinct : Distinct ds) :
    (paint rule screen flag ds).2 =
      ds.foldl (fun flag d => rule.update flag (erases screen d)) flag := by
  induction ds generalizing screen flag with
  | nil => rfl
  | cons d rest ih =>
    obtain ⟨apart, distinct⟩ := List.pairwise_cons.1 distinct
    rw [paint_cons, ih distinct, List.foldl_cons]
    refine List.foldl_ext _ _ _ ?_
    intro flag e he
    rw [erases_flip_of_ne (apart e he)]

/-- Under the any-pixel rule the flag is set if some dot erases. -/
theorem foldl_anyPixel : ds.foldl (fun flag d => CollisionRule.anyPixel.update flag (erases screen d))
    flag = if ds.any (erases screen) then 1 else flag := by
  induction ds generalizing flag with
  | nil => rfl
  | cons d rest ih =>
    rw [List.foldl_cons, ih, List.any_cons]
    cases erases screen d <;> cases rest.any (erases screen) <;> rfl

/-- Under the last-bit rule only the last dot counts. -/
theorem foldl_lastBit : (ds ++ [d]).foldl
    (fun flag d => CollisionRule.lastBit.update flag (erases screen d)) flag =
      if erases screen d then 1 else 0 := by
  rw [List.foldl_concat]
  rfl

/-- The last dot of a sprite is the rightmost one of its last row. -/
theorem dots_eq_append (last : rows.getLast? = some byte) :
    ∃ init, dots x y rows =
      init ++ [⟨.wrap (x + 7) (y + (rows.length - 1)), byte.toNat.testBit 0⟩] := by
  induction rows generalizing y with
  | nil => cases last
  | cons top rest ih =>
    cases rest with
    | nil =>
      cases last
      refine ⟨(List.range 7).map fun c => ⟨.wrap (x + c) y, top.toNat.testBit (7 - c)⟩, ?_⟩
      rw [dots_cons, dots_nil, List.append_nil, rowDots, List.range_succ, List.map_append]
      rfl
    | cons second rest =>
      obtain ⟨init, e⟩ := ih (y := y + 1) last
      refine ⟨rowDots x y top ++ init, ?_⟩
      have line : y + 1 + ((second :: rest).length - 1) =
          y + ((top :: second :: rest).length - 1) := by
        simp only [List.length_cons]
        omega
      rw [dots_cons, e, line, List.append_assoc]

end Chip8.Sprite
