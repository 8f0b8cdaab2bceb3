import Chip8.Proofs.Sprite
import Chip8.Proofs.Stepping

/-!
# Drawing on the torus

The screen is a torus, and a draw instruction adds a sprite to it without carries, all
bits at once. `Machine.Draws` says what that means pixel by pixel, reading only the
machine before, and a step that executes a draw instruction does exactly this.

## Main definitions

* `Machine.spriteBit` — a bit of the sprite at `I`.
* `Machine.Covers` — the pixel that a bit falls on.
* `Machine.Collides` — some bit falls on a lit pixel.
* `Machine.Draws` — the effect of a draw instruction.
-/

namespace Chip8.Machine

/-! ## What a draw instruction should do -/

/-- The bit in a row and a column of the sprite at `I`, the leftmost column being the
most significant bit. -/
def spriteBit (m : Machine) (r c : ℕ) : Bool :=
  (m.memory[m.index.toNat + r]?.getD 0).toNat.testBit (7 - c)

/-- Of a sprite of this height with its top left corner on `(x, y)`, the bit in row `r`
and column `c` falls on the pixel. -/
def Covers (x y height : ℕ) (p : Pixel) (r c : ℕ) : Prop :=
  r < height ∧ c < 8 ∧ p.x.val = (x + c) % 64 ∧ p.y.val = (y + r) % 32

/-- Some set bit of the sprite at `I` falls on a lit pixel. -/
def Collides (m : Machine) (x y height : ℕ) : Prop :=
  ∃ p r c, Covers x y height p r c ∧ m.spriteBit r c = true ∧ m.screen.get p = true

/-- What drawing the sprite at `I` at `(x, y)` makes of the machine `m`. -/
structure Draws (m m' : Machine) (x y height : ℕ) : Prop where
  /-- At most one bit falls on a pixel. -/
  once : ∀ p r c r' c', Covers x y height p r c → Covers x y height p r' c' → r = r' ∧ c = c'
  covered : ∀ p r c, Covers x y height p r c →
    m'.screen.cell p = m.screen.cell p ^^^ (m.spriteBit r c).toUInt8
  uncovered : ∀ p, (∀ r c, ¬ Covers x y height p r c) → m'.screen.cell p = m.screen.cell p
  binary : m.screen.Binary → m'.screen.Binary
  hit : m.collision = .anyPixel → m.Collides x y height → m'.registers.get Registers.flag = 1
  miss : m.collision = .anyPixel → ¬ m.Collides x y height → m'.registers.get Registers.flag = 0
  unmarked : m.collision = .lastBit → height = 0 →
    m'.registers.get Registers.flag = m.registers.get Registers.flag
  /-- Under the last-bit rule the bottom right corner decides. -/
  corner : m.collision = .lastBit → 0 < height →
    m'.registers.get Registers.flag =
      if m.spriteBit (height - 1) 7 && m.screen.get (.wrap (x + 7) (y + (height - 1))) then 1
      else 0
  others : ∀ r : Register, r ≠ Registers.flag → m'.registers.get r = m.registers.get r
  memory : m'.memory = m.memory
  index : m'.index = m.index
  calls : m'.calls = m.calls
  delay : m'.delay = m.delay
  sound : m'.sound = m.sound
  keys : m'.keys = m.keys
  collision : m'.collision = m.collision
  noise : m'.noise = m.noise
  redraw : m'.redraw = true
  pc : m'.pc.toNat = m.pc.toNat + 2

/-! ## The dots are the covered pixels -/

variable {m : Machine} {x y height : ℕ} {p : Pixel} {r c r' c' : ℕ} {rows : List UInt8}

theorem Covers.unique (fits : height ≤ 32) (h : Covers x y height p r c)
    (h' : Covers x y height p r' c') : r = r' ∧ c = c' := by
  obtain ⟨row, column, px, py⟩ := h
  obtain ⟨row', column', px', py'⟩ := h'
  constructor <;> omega

theorem covers_wrap (row : r < height) (column : c < 8) :
    Covers x y height (.wrap (x + c) (y + r)) r c :=
  ⟨row, column, rfl, rfl⟩

theorem Covers.eq_wrap (h : Covers x y height p r c) : p = .wrap (x + c) (y + r) := by
  obtain ⟨-, -, px, py⟩ := h
  cases p
  simp only [Pixel.wrap, Pixel.mk.injEq, Fin.ext_iff]
  exact ⟨px, py⟩

/-- The dots of the sprite at `I` are the pixels that it covers, with their bits. -/
theorem mem_dots_iff_covers (read : Block.read? m.memory m.index.toNat height = some rows)
    {d : Dot} : d ∈ Sprite.dots x y rows ↔
      ∃ r c, Covers x y height d.pixel r c ∧ d.bit = m.spriteBit r c := by
  have length := Block.length_of_read? read
  rw [Sprite.mem_dots]
  constructor
  · rintro ⟨r, c, byte, at_r, column, rfl⟩
    have row : r < height := length ▸ (List.getElem?_eq_some_iff.1 at_r).1
    refine ⟨r, c, covers_wrap row column, ?_⟩
    rw [spriteBit, ← Block.getElem?_of_read? read row, at_r]
    rfl
  · rintro ⟨r, c, covers, bit⟩
    have row : r < rows.length := length ▸ covers.1
    refine ⟨r, c, rows[r], List.getElem?_eq_getElem row, covers.2.1, ?_⟩
    have at_r := Block.getElem?_of_read? read covers.1
    rw [List.getElem?_eq_getElem row] at at_r
    rw [spriteBit, ← at_r] at bit
    cases d
    simp only [Dot.mk.injEq]
    exact ⟨covers.eq_wrap, bit⟩

theorem inverts_of_covers (read : Block.read? m.memory m.index.toNat height = some rows)
    (fits : height ≤ 32) (h : Covers x y height p r c) :
    Sprite.inverts p (Sprite.dots x y rows) = m.spriteBit r c := by
  have distinct : Sprite.Distinct (Sprite.dots x y rows) :=
    Sprite.distinct_dots (Block.length_of_read? read ▸ fits)
  have mem : (⟨p, m.spriteBit r c⟩ : Dot) ∈ Sprite.dots x y rows :=
    (mem_dots_iff_covers read).2 ⟨r, c, h, rfl⟩
  exact Sprite.inverts_pixel distinct mem

theorem inverts_of_uncovered (read : Block.read? m.memory m.index.toNat height = some rows)
    (h : ∀ r c, ¬ Covers x y height p r c) :
    Sprite.inverts p (Sprite.dots x y rows) = false := by
  refine Sprite.inverts_eq_false ?_
  rintro d hd rfl
  obtain ⟨r, c, covers, -⟩ := (mem_dots_iff_covers read).1 hd
  exact h r c covers

/-- Drawing adds the bit that falls on a pixel to it, under either collision rule. -/
theorem cell_draw_of_covers (read : Block.read? m.memory m.index.toNat height = some rows)
    (fits : height ≤ 32) (rule : CollisionRule) (held : UInt8) (h : Covers x y height p r c) :
    (Sprite.draw rule m.screen held x y rows).1.cell p =
      m.screen.cell p ^^^ (m.spriteBit r c).toUInt8 := by
  rw [← inverts_of_covers read fits h]
  exact Sprite.cell_paint _ _ _ _ _

theorem cell_draw_of_uncovered (read : Block.read? m.memory m.index.toNat height = some rows)
    (rule : CollisionRule) (held : UInt8) (h : ∀ r c, ¬ Covers x y height p r c) :
    (Sprite.draw rule m.screen held x y rows).1.cell p = m.screen.cell p := by
  refine (Sprite.cell_paint _ _ _ _ _).trans ?_
  rw [inverts_of_uncovered read h]
  exact UInt8.xor_zero

/-- Some dot erases a lit pixel exactly if the sprite collides. -/
theorem any_erases_iff (read : Block.read? m.memory m.index.toNat height = some rows) :
    (Sprite.dots x y rows).any (Sprite.erases m.screen) = true ↔ m.Collides x y height := by
  rw [List.any_eq_true]
  constructor
  · rintro ⟨d, hd, erased⟩
    obtain ⟨r, c, covers, bit⟩ := (mem_dots_iff_covers read).1 hd
    obtain ⟨lit, set⟩ := Bool.and_eq_true_iff.1 erased
    exact ⟨d.pixel, r, c, covers, bit ▸ set, lit⟩
  · rintro ⟨p, r, c, covers, set, lit⟩
    refine ⟨⟨p, m.spriteBit r c⟩, (mem_dots_iff_covers read).2 ⟨r, c, covers, rfl⟩, ?_⟩
    exact Bool.and_eq_true_iff.2 ⟨lit, set⟩

/-! ## The flag -/

theorem flag_draw_anyPixel (read : Block.read? m.memory m.index.toNat height = some rows)
    (fits : height ≤ 32) (held : UInt8) :
    (Sprite.draw .anyPixel m.screen held x y rows).2 =
      if (Sprite.dots x y rows).any (Sprite.erases m.screen) then 1 else 0 := by
  have distinct : Sprite.Distinct (Sprite.dots x y rows) :=
    Sprite.distinct_dots (Block.length_of_read? read ▸ fits)
  rw [Sprite.draw, Sprite.flag_paint distinct, Sprite.foldl_anyPixel]
  rfl

theorem flag_draw_lastBit (read : Block.read? m.memory m.index.toNat height = some rows)
    (fits : height ≤ 32) (pos : 0 < height) (held : UInt8) :
    (Sprite.draw .lastBit m.screen held x y rows).2 =
      if m.spriteBit (height - 1) 7 && m.screen.get (.wrap (x + 7) (y + (height - 1))) then 1
      else 0 := by
  have length := Block.length_of_read? read
  have distinct : Sprite.Distinct (Sprite.dots x y rows) :=
    Sprite.distinct_dots (length ▸ fits)
  have inside : height - 1 < rows.length := by omega
  have last : rows.getLast? = some rows[height - 1] := by
    rw [List.getLast?_eq_getElem?, length, List.getElem?_eq_getElem inside]
  have bottom := Block.getElem?_of_read? read (show height - 1 < height by omega)
  rw [List.getElem?_eq_getElem inside] at bottom
  obtain ⟨init, e⟩ := Sprite.dots_eq_append (x := x) (y := y) last
  rw [Sprite.draw, Sprite.flag_paint distinct, e, Sprite.foldl_lastBit, length, Sprite.erases,
    Bool.and_comm, spriteBit, ← bottom]
  rfl

/-! ## The step -/

/-- A step at a draw instruction whose sprite lies inside memory, as an equation. -/
theorem step_draw {vx vy : Register} {n : Fin 16} (found : m.instruction = .ok (.draw vx vy n))
    (inside : n.val = 0 ∨ m.index.toNat + n ≤ 4096) :
    ∃ rows, Block.read? m.memory m.index.toNat n = some rows ∧
      m.step =
        let drawn := Sprite.draw m.collision m.screen (m.registers.get Registers.flag)
          (m.registers.get vx).toNat (m.registers.get vy).toNat rows
        ⟨.ok (.executed (.draw vx vy n)),
          { m with
            registers := m.registers.set Registers.flag drawn.2
            screen := drawn.1
            redraw := true
            pc := m.pc + 2 }⟩ := by
  obtain ⟨rows, read, carried⟩ := withBlock_of_inside (m := { m with redraw := false }) inside
    fun rows =>
      let drawn := Sprite.draw m.collision m.screen (m.registers.get Registers.flag)
        (m.registers.get vx).toNat (m.registers.get vy).toNat rows
      { m with
        registers := m.registers.set Registers.flag drawn.2
        screen := drawn.1
        redraw := true }
  refine ⟨rows, read, ?_⟩
  have ran : execute { m with redraw := false } (.draw vx vy n) = _ := carried
  rw [step_of_ok found, carryOut, ran, conclude_next]

/-- Drawing is a parallel exclusive-or on the torus: whatever the registers, the screen and
the collision rule, and also if the coordinates stand in the flag register. -/
theorem draw_parallel_xor (m : Machine) (vx vy : Register) (n : Fin 16)
    (found : m.instruction = .ok (.draw vx vy n))
    (inside : n.val = 0 ∨ m.index.toNat + n ≤ 4096) :
    m.step.result = .ok (.executed (.draw vx vy n)) ∧
      m.Draws m.step.machine (m.registers.get vx).toNat (m.registers.get vy).toNat n := by
  obtain ⟨rows, read, e⟩ := step_draw found inside
  have fits : n.val ≤ 32 := by omega
  have below := pc_lt_of_instruction found
  rw [e]
  refine ⟨rfl, ?_⟩
  exact {
    once := by
      intro p r c r' c' h h'
      exact h.unique fits h'
    covered := by
      intro p r c covers
      exact cell_draw_of_covers read fits _ _ covers
    uncovered := by
      intro p away
      exact cell_draw_of_uncovered read _ _ away
    binary := by
      intro before
      exact Sprite.binary_paint before _ _ _
    hit := by
      intro rule collides
      refine (Registers.get_set_self _ _ _).trans ?_
      rw [rule, flag_draw_anyPixel read fits, if_pos ((any_erases_iff read).2 collides)]
    miss := by
      intro rule apart
      refine (Registers.get_set_self _ _ _).trans ?_
      rw [rule, flag_draw_anyPixel read fits, if_neg]
      intro any
      exact apart ((any_erases_iff read).1 any)
    unmarked := by
      intro rule flat
      have none : rows = [] := List.length_eq_zero_iff.1 ((Block.length_of_read? read).trans flat)
      refine (Registers.get_set_self _ _ _).trans ?_
      rw [rule, none]
      rfl
    corner := by
      intro rule pos
      refine (Registers.get_set_self _ _ _).trans ?_
      rw [rule]
      exact flag_draw_lastBit read fits pos _
    others := by
      intro r other
      exact Registers.get_set_of_ne _ other _
    memory := rfl
    index := rfl
    calls := rfl
    delay := rfl
    sound := rfl
    keys := rfl
    collision := rfl
    noise := rfl
    redraw := rfl
    pc := by
      change (m.pc + 2).toNat = _
      rw [UInt16.toNat_add]
      change (m.pc.toNat + 2) % 65536 = _
      omega }

/-- A machine about to draw a sprite of two rows around the right edge of the screen. The
column to draw at stands in the flag register, and one pixel is lit. -/
def cornered : Machine :=
  { memory := Block.write Memory.initial 0x200 [0xDF, 0xF2, 0x81, 0x7E]
    registers := Registers.zero.set Registers.flag 62
    index := 0x202
    screen := Screen.blank.flip (.wrap (62 + 7) 62) true
    collision := .anyPixel
    noise := { bytes := fun k => .ofNat k } }

theorem draw_parallel_xor_cornered :
    cornered.step.result = .ok (.executed (.draw 0xF 0xF 2)) ∧
      cornered.Draws cornered.step.machine 62 62 2 ∧
      cornered.step.machine.registers.get Registers.flag = 1 := by
  have found : cornered.instruction = .ok (.draw 0xF 0xF 2) := by decide +kernel
  have inside : (2 : Fin 16).val = 0 ∨ cornered.index.toNat + (2 : Fin 16) ≤ 4096 := by
    decide +kernel
  obtain ⟨result, draws⟩ := draw_parallel_xor cornered 0xF 0xF 2 found inside
  refine ⟨result, draws, ?_⟩
  have collides : cornered.Collides 62 62 2 :=
    ⟨.wrap (62 + 7) (62 + 0), 0, 7, covers_wrap (by decide) (by decide), by decide +kernel,
      by decide +kernel⟩
  exact draws.hit rfl collides

end Chip8.Machine
