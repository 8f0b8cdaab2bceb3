import Chip8.Proofs.Drawing
import Chip8.Proofs.Operating
import Mathlib.Data.Int.Notation

/-!
# Lit pixels are accounted for

A set bit lights a dark pixel or darkens a lit one, so it changes the number of lit pixels by
one either way. The bits of a sprite fall on different pixels; each finds its pixel as it was
before the drawing began, and the changes add up: with the bits that erase counted twice, the
number of lit pixels grows by the number of set bits. A collision is what is missing there.

## Main definitions

* `Screen.lit` — the number of lit pixels.
* `Machine.bitCount`, `Machine.erasures` — how many bits of the sprite at `I` are set, and how
  many of them erase.
* `Machine.Accounts` — the effect of a draw instruction in numbers.

## Main statements

* `Screen.lit_flip`, `Sprite.lit_paint` — one dot, and the dots of a sprite.
* `Machine.lit_of_drawn` — every executed draw instruction.
-/

namespace Chip8

/-! ## One pixel -/

namespace Screen

variable {screen : Screen} {p : Pixel}

/-- The number of lit pixels. -/
def lit (screen : Screen) : ℕ :=
  screen.count 1

@[simp] theorem lit_blank : blank.lit = 0 := by
  rw [lit, blank, Vector.count_replicate]
  rfl

theorem lit_pos (on : screen.get p = true) : 0 < screen.lit := by
  refine Vector.count_pos_iff.2 ?_
  rw [← (beq_iff_eq.1 on : screen[p.index] = 1)]
  exact Vector.getElem_mem _

/-- A bit added to a pixel lights it or darkens it. -/
theorem lit_flip (binary : screen.Binary) (p : Pixel) (bit : Bool) :
    (screen.flip p bit).lit + 2 * (if screen.get p && bit then 1 else 0) =
      screen.lit + if bit then 1 else 0 := by
  have lights : (screen.cell p ^^^ bit.toUInt8 == 1) = (screen.get p ^^ bit) := by
    rw [binary.cell_eq, toUInt8_xor, toUInt8_beq_one]
  have counted : (screen.flip p bit).lit =
      screen.lit - (if screen.get p then 1 else 0) + if screen.get p ^^ bit then 1 else 0 := by
    rw [lit, flip, Vector.count_set, lights]
    rfl
  rw [counted]
  cases on : screen.get p with
  | false => cases bit <;> rfl
  | true =>
    have pos := lit_pos on
    cases bit with
    | false =>
      change screen.lit - 1 + 1 + 2 * 0 = screen.lit + 0
      omega
    | true =>
      change screen.lit - 1 + 0 + 2 * 1 = screen.lit + 1
      omega

end Screen

/-! ## The dots of a sprite -/

namespace Sprite

variable {rule : CollisionRule} {screen : Screen} {flag : UInt8} {ds : List Dot} {x y : ℕ}
  {rows : List UInt8}

/-- The rows and columns of the bits of a sprite of this height. -/
def places (height : ℕ) : List (ℕ × ℕ) :=
  (List.range height).flatMap fun r => (List.range 8).map fun c => (r, c)

theorem places_succ (height : ℕ) :
    places (height + 1) = ((List.range 8).map fun c => (0, c)) ++
      (places height).map fun place => (place.1 + 1, place.2) := by
  have rows : List.range (height + 1) = 0 :: (List.range height).map Nat.succ :=
    List.range_succ_eq_map
  rw [places, rows, List.flatMap_cons, List.flatMap_map, places, List.map_flatMap]
  simp only [List.map_map]
  rfl

theorem mem_places {height r c : ℕ} : (r, c) ∈ places height ↔ r < height ∧ c < 8 := by
  simp [places]

/-- Drawing distinct dots lights as many pixels as have their bits set, less those that are
darkened instead. -/
theorem lit_paint (binary : screen.Binary) (distinct : Distinct ds) :
    (paint rule screen flag ds).1.lit + 2 * ds.countP (erases screen) =
      screen.lit + ds.countP Dot.bit := by
  induction ds generalizing screen flag with
  | nil => rfl
  | cons d rest ih =>
    obtain ⟨apart, distinct⟩ := List.pairwise_cons.1 distinct
    have here := Screen.lit_flip binary d.pixel d.bit
    have later := @ih _ (rule.update flag (screen.get d.pixel && d.bit))
      (binary.flip d.pixel d.bit) distinct
    have same : rest.countP (erases (screen.flip d.pixel d.bit)) = rest.countP (erases screen) :=
      List.countP_congr fun e he => by rw [erases_flip_of_ne (apart e he)]
    rw [same] at later
    rw [paint_cons, List.countP_cons, List.countP_cons, erases]
    omega

/-- The dots of a sprite, place by place. -/
theorem dots_eq_map (x y : ℕ) (rows : List UInt8) :
    dots x y rows = (places rows.length).map fun place =>
      ⟨.wrap (x + place.2) (y + place.1), (rows[place.1]?.getD 0).toNat.testBit (7 - place.2)⟩ := by
  induction rows generalizing y with
  | nil => rfl
  | cons top rest ih =>
    have below : ∀ r, y + 1 + r = y + (r + 1) := by omega
    rw [dots_cons, ih, List.length_cons, places_succ, List.map_append, List.map_map, List.map_map]
    simp only [below]
    rfl

end Sprite

/-! ## Draw instructions -/

namespace Machine

variable {m : Machine} {op : Operation} {vx vy : Register} {n : Fin 16} {x y height : ℕ}
  {rows : List UInt8}

/-- How many bits of the sprite at `I` are set. -/
def bitCount (m : Machine) (height : ℕ) : ℕ :=
  (Sprite.places height).countP fun place => m.spriteBit place.1 place.2

/-- How many set bits of the sprite at `I` fall on a lit pixel when it is drawn at `(x, y)`. -/
def erasures (m : Machine) (x y height : ℕ) : ℕ :=
  (Sprite.places height).countP fun place =>
    m.screen.get (.wrap (x + place.2) (y + place.1)) && m.spriteBit place.1 place.2

/-- What drawing the sprite at `I` at `(x, y)` makes of the machine `m`, in numbers. -/
structure Accounts (m m' : Machine) (x y height : ℕ) : Prop where
  lit : (m'.screen.lit : ℤ) = m.screen.lit + m.bitCount height - 2 * m.erasures x y height
  told : m.collision = .anyPixel →
    m'.registers.get Registers.flag = if 0 < m.erasures x y height then 1 else 0
  /-- A collision is as well what is missing among the lit pixels. -/
  missing : m.collision = .anyPixel →
    (m'.registers.get Registers.flag = 1 ↔ m'.screen.lit ≠ m.screen.lit + m.bitCount height)
  apart : 0 < height → m.erasures x y height = 0 → m'.registers.get Registers.flag = 0
  /-- On a cleared screen the sprite lights its own pixels. -/
  fresh : m.screen.lit = 0 → m'.screen.lit = m.bitCount height
  /-- There no collision is reported. A sprite without rows reports nothing under the last-bit
  rule and leaves the flag register as it was. -/
  silent : m.screen.lit = 0 → m'.registers.get Registers.flag =
    if m.collision = .lastBit ∧ height = 0 then m.registers.get Registers.flag else 0

theorem dots_eq_map_spriteBit (read : Block.read? m.memory m.index.toNat height = some rows) :
    Sprite.dots x y rows = (Sprite.places height).map fun place =>
      ⟨.wrap (x + place.2) (y + place.1), m.spriteBit place.1 place.2⟩ := by
  rw [Sprite.dots_eq_map, Block.length_of_read? read]
  refine List.map_congr_left ?_
  rintro ⟨r, c⟩ inside
  have row : r < height := (Sprite.mem_places.1 inside).1
  rw [spriteBit, ← Block.getElem?_of_read? read row]

theorem countP_bit_dots (read : Block.read? m.memory m.index.toNat height = some rows) :
    (Sprite.dots x y rows).countP Dot.bit = m.bitCount height := by
  rw [dots_eq_map_spriteBit read, List.countP_map]
  rfl

theorem countP_erases_dots (read : Block.read? m.memory m.index.toNat height = some rows) :
    (Sprite.dots x y rows).countP (Sprite.erases m.screen) = m.erasures x y height := by
  rw [dots_eq_map_spriteBit read, List.countP_map]
  rfl

/-- The lit pixels after drawing, under either collision rule. -/
theorem lit_draw (binary : m.screen.Binary)
    (read : Block.read? m.memory m.index.toNat height = some rows) (fits : height ≤ 32)
    (rule : CollisionRule) (held : UInt8) :
    (Sprite.draw rule m.screen held x y rows).1.lit + 2 * m.erasures x y height =
      m.screen.lit + m.bitCount height := by
  have distinct : Sprite.Distinct (Sprite.dots x y rows) :=
    Sprite.distinct_dots (Block.length_of_read? read ▸ fits)
  rw [← countP_erases_dots read, ← countP_bit_dots read]
  exact Sprite.lit_paint binary distinct

/-- Some dot erases exactly if one is counted. -/
theorem any_erases_iff_pos (read : Block.read? m.memory m.index.toNat height = some rows) :
    (Sprite.dots x y rows).any (Sprite.erases m.screen) = true ↔ 0 < m.erasures x y height := by
  rw [← countP_erases_dots read, List.countP_pos_iff, List.any_eq_true]

theorem erasures_eq_zero_iff : m.erasures x y height = 0 ↔
    ∀ r < height, ∀ c < 8, (m.screen.get (.wrap (x + c) (y + r)) && m.spriteBit r c) = false := by
  rw [erasures, List.countP_eq_zero]
  constructor
  · intro none r row c column
    have apart := none (r, c) (Sprite.mem_places.2 ⟨row, column⟩)
    exact Bool.eq_false_iff.2 apart
  · rintro none ⟨r, c⟩ inside
    obtain ⟨row, column⟩ := Sprite.mem_places.1 inside
    exact Bool.eq_false_iff.1 (none r row c column)

/-- Where nothing is lit, nothing is erased. -/
theorem erasures_of_dark (dark : m.screen.lit = 0) : m.erasures x y height = 0 := by
  refine erasures_eq_zero_iff.2 fun r _ c _ => ?_
  have off : m.screen.get (.wrap (x + c) (y + r)) = false := by
    refine Bool.eq_false_iff.2 fun on => ?_
    exact absurd dark (Nat.ne_of_gt (Screen.lit_pos on))
  rw [off, Bool.false_and]

/-- The flag register after drawing a sprite that erases nothing. -/
theorem flag_draw_of_apart (read : Block.read? m.memory m.index.toNat height = some rows)
    (fits : height ≤ 32) (rule : CollisionRule) (held : UInt8)
    (none : m.erasures x y height = 0) :
    (Sprite.draw rule m.screen held x y rows).2 =
      if rule = .lastBit ∧ height = 0 then held else 0 := by
  cases rule with
  | anyPixel =>
    have calm : ¬ (Sprite.dots x y rows).any (Sprite.erases m.screen) = true := by
      rw [any_erases_iff_pos read, none]
      exact Nat.lt_irrefl 0
    have other : ¬ (CollisionRule.anyPixel = .lastBit ∧ height = 0) := by simp
    rw [flag_draw_anyPixel read fits, if_neg calm, if_neg other]
  | lastBit =>
    by_cases flat : height = 0
    · have empty : rows = [] := List.length_eq_zero_iff.1 ((Block.length_of_read? read).trans flat)
      rw [if_pos ⟨rfl, flat⟩, empty]
      rfl
    · have pos := Nat.pos_of_ne_zero flat
      have corner := erasures_eq_zero_iff.1 none (height - 1) (Nat.sub_lt pos Nat.one_pos) 7
        (by decide)
      rw [Bool.and_comm] at corner
      have tall : ¬ (CollisionRule.lastBit = .lastBit ∧ height = 0) := fun both => flat both.2
      rw [flag_draw_lastBit read fits pos, corner, if_neg tall]
      rfl

/-- What an executed draw instruction puts on the screen and into the flag register. -/
theorem draw_of_executed (executed : (m.perform op).1.executed? = some (.draw vx vy n)) :
    ∃ rows drawn, Block.read? m.memory m.index.toNat n = some rows ∧
      Sprite.draw m.collision m.screen (m.registers.get Registers.flag)
        (m.registers.get vx).toNat (m.registers.get vy).toNat rows = drawn ∧
      (m.perform op).2.screen = drawn.1 ∧
      (m.perform op).2.registers.get Registers.flag = drawn.2 := by
  obtain ⟨keys, m', flow, pc, -, carried, -, e⟩ := proceeded_of_executed executed
  obtain ⟨rows, read, rfl, -⟩ := withBlock_eq_proceed_iff.1 carried
  refine ⟨rows, _, read, rfl, ?_, ?_⟩
  · rw [e]
  · rw [e, Registers.get_set_self]

/-- A flag that tells of erased pixels tells as well whether lit ones are missing. -/
theorem told_iff_missing {before after bits erased : ℕ} {flag : UInt8}
    (lit : after + 2 * erased = before + bits) (told : flag = if 0 < erased then 1 else 0) :
    flag = 1 ↔ after ≠ before + bits := by
  by_cases some : 0 < erased
  · have fewer : after ≠ before + bits := by omega
    rw [told, if_pos some]
    exact ⟨fun _ => fewer, fun _ => rfl⟩
  · have same : after = before + bits := by omega
    rw [told, if_neg some]
    exact ⟨fun one => absurd one (by decide), fun other => absurd same other⟩

/-- Drawing accounts for the lit pixels. After an executed draw instruction as many pixels are
lit as before, and as many more as the sprite has set bits, less two for each bit that has
erased a lit pixel; and the flag register tells whether some bit has, as far as the collision
rule lets it. So a draw on a cleared screen lights the pixels of the sprite and no others. -/
theorem lit_of_drawn (m : Machine) (op : Operation) (vx vy : Register) (n : Fin 16)
    (binary : m.screen.Binary)
    (executed : (m.perform op).1.executed? = some (.draw vx vy n)) :
    m.Accounts (m.perform op).2 (m.registers.get vx).toNat (m.registers.get vy).toNat n := by
  obtain ⟨rows, drawn, read, e, screen, flag⟩ := draw_of_executed executed
  generalize (m.registers.get vx).toNat = x at e ⊢
  generalize (m.registers.get vy).toNat = y at e ⊢
  have fits : n.val ≤ 32 := by omega
  have lit := lit_draw (x := x) (y := y) binary read fits m.collision
    (m.registers.get Registers.flag)
  have calm := flag_draw_of_apart (x := x) (y := y) read fits m.collision
    (m.registers.get Registers.flag)
  rw [e, ← screen] at lit
  rw [e, ← flag] at calm
  have told : m.collision = .anyPixel → (m.perform op).2.registers.get Registers.flag =
      if 0 < m.erasures x y n then 1 else 0 := by
    intro rule
    rw [rule] at e
    rw [flag, ← e, flag_draw_anyPixel read fits]
    exact if_congr (any_erases_iff_pos read) rfl rfl
  exact {
    lit := by omega
    told := told
    missing := fun rule => told_iff_missing lit (told rule)
    apart := by
      intro pos none
      have tall : ¬ (m.collision = .lastBit ∧ n.val = 0) := fun both => Nat.ne_of_gt pos both.2
      rw [calm none, if_neg tall]
    fresh := by
      intro dark
      rw [erasures_of_dark dark, dark] at lit
      omega
    silent := fun dark => calm (erasures_of_dark dark) }

/-- Of the eight set bits of the cornered sprite one erases the pixel that is lit. -/
theorem lit_of_drawn_cornered :
    (cornered.perform .step).1.executed? = some (.draw 0xF 0xF 2) ∧ cornered.screen.lit = 1 ∧
      cornered.bitCount 2 = 8 ∧ cornered.erasures 62 62 2 = 1 ∧
      (cornered.perform .step).2.screen.lit = 7 ∧
      (cornered.perform .step).2.registers.get Registers.flag = 1 := by
  obtain ⟨executed, read⟩ : (cornered.perform .step).1.executed? = some (.draw 0xF 0xF 2) ∧
      Block.read? cornered.memory cornered.index.toNat 2 = some [0x81, 0x7E] := by
    decide +kernel
  have bits : cornered.bitCount 2 = 8 := by
    rw [← countP_bit_dots (x := 62) (y := 62) read]
    decide
  have erased : cornered.erasures 62 62 2 = 1 := by
    rw [← countP_erases_dots read]
    decide +kernel
  have single : ∀ p, (Screen.blank.flip p true).lit = 1 := by
    intro p
    have counted := Screen.lit_flip Screen.binary_blank p true
    simpa [Screen.get] using counted
  have lit : cornered.screen.lit = 1 := single _
  have binary : cornered.screen.Binary := Screen.binary_blank.flip _ _
  have accounts : cornered.Accounts (cornered.perform .step).2 62 62 2 :=
    lit_of_drawn cornered .step 0xF 0xF 2 binary executed
  have after := accounts.lit
  have told := accounts.told rfl
  rw [lit, bits, erased] at after
  rw [erased] at told
  exact ⟨executed, lit, bits, erased, Int.natCast_inj.1 after, told⟩

end Machine
end Chip8
