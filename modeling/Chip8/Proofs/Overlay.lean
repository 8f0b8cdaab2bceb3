import Mathlib.Data.List.Count
import Mathlib.Data.Nat.Bits
import Chip8.Proofs.Drawing
import Chip8.Proofs.Operating

/-!
# Sprites laid over one another

A sprite inverts pixels, and which ones it inverts does not depend on the screen. So what
counts, for each pixel, is whether the number of draws that invert it is odd: neither their
order matters nor two draws that are the same. The draws may overlap and wrap around the
edges, follow either collision rule, and have anything between them that leaves the memory
and the screen alone.

## Main definitions

* `Stamp` — where a draw puts a sprite, and which.
* `Machine.Poised` — a machine that is about to make a draw.
* `Machine.Drawn` — what a sequence of draws makes of a screen.
* `Machine.stamps`, `Machine.Overlays` — the draws of a history, and one that only draws.

## Main statements

* `Machine.Drawn.cell` — the pixels after a sequence of draws.
* `Machine.drawn_run` — a history that does nothing but draw to the screen is such a sequence.
* `Machine.draws_commute_and_cancel` — the order of draws does not matter, and equal draws
  cancel each other.
-/

namespace Chip8

/-- A draw: the coordinates, the address of the sprite and its height. -/
structure Stamp where
  column : UInt8
  row : UInt8
  index : Word
  height : Fin 16
  deriving DecidableEq

/-- Whether a draw inverts a pixel. -/
def Stamp.inverts (memory : Memory) (p : Pixel) (d : Stamp) : Bool :=
  Sprite.inverts p (Sprite.dots d.column.toNat d.row.toNat
    ((Block.read? memory d.index.toNat d.height).getD []))

namespace Machine

variable {m : Machine} {memory : Memory} {screen s t : Screen} {d : Stamp} {ds es : List Stamp}
  {p : Pixel}

/-! ## One draw -/

/-- The next step of the machine draws a sprite that lies inside memory, and finds the
coordinates and the address of this draw. -/
def Poised (m : Machine) (d : Stamp) : Prop :=
  ∃ vx vy : Register, m.instruction = .ok (.draw vx vy d.height) ∧
    m.registers.get vx = d.column ∧ m.registers.get vy = d.row ∧ m.index = d.index ∧
    (d.height.val = 0 ∨ d.index.toNat + d.height ≤ 4096)

/-- A draw inverts its pixels, whatever the screen and the collision rule. -/
theorem Poised.cell_step (h : m.Poised d) (p : Pixel) :
    m.step.machine.screen.cell p = m.screen.cell p ^^^ (d.inverts m.memory p).toUInt8 := by
  obtain ⟨vx, vy, found, column, row, index, inside⟩ := h
  obtain ⟨rows, read, e⟩ := step_draw found (index ▸ inside)
  rw [e, Stamp.inverts, ← index, read, ← column, ← row]
  exact Sprite.cell_paint _ _ _ _ p

/-- Whether a machine is about to make a draw cannot be told from the screen. -/
theorem Poised.with_screen (h : m.Poised d) (screen : Screen) :
    Poised { m with screen := screen } d := h

/-! ## Sequences of draws -/

/-- `Drawn memory screen ds s`: the draws, made one after another on a screen, leave the
screen `s`. Between two draws only the memory and the screen have to stay. -/
inductive Drawn (memory : Memory) (screen : Screen) : List Stamp → Screen → Prop where
  | start : Drawn memory screen [] screen
  | draw {ds : List Stamp} {m : Machine} {d : Stamp} (before : Drawn memory screen ds m.screen)
      (same : m.memory = memory) (poised : m.Poised d) :
      Drawn memory screen (ds ++ [d]) m.step.machine.screen

/-- A pixel is inverted if the number of draws that invert it is odd. -/
theorem Drawn.cell (h : Drawn memory screen ds s) (p : Pixel) :
    s.cell p = screen.cell p ^^^ (ds.countP (Stamp.inverts memory p)).bodd.toUInt8 := by
  induction h with
  | start =>
    rw [List.countP_nil, Nat.bodd_zero]
    exact UInt8.xor_zero.symm
  | draw before same poised ih =>
    rw [poised.cell_step, ih, same, UInt8.xor_assoc, Screen.toUInt8_xor, List.countP_append,
      Nat.bodd_add, List.countP_singleton]
    cases Stamp.inverts memory p _ <;> rfl

/-- Draws that invert the same pixels, up to an even number of times, leave the same screen. -/
theorem Drawn.unique (h : Drawn memory screen ds s) (h' : Drawn memory screen es t)
    (parity : ∀ p, (ds.countP (Stamp.inverts memory p)).bodd =
      (es.countP (Stamp.inverts memory p)).bodd) : s = t := by
  apply Screen.ext_cell
  intro p
  rw [h.cell, h'.cell, parity]

/-- Draws can be made if each of them can be made. -/
theorem exists_drawn (memory : Memory) (screen : Screen) (ds : List Stamp)
    (ready : ∀ d ∈ ds, ∃ m : Machine, m.memory = memory ∧ m.Poised d) :
    ∃ s, Drawn memory screen ds s := by
  induction ds using List.reverseRecOn with
  | nil => exact ⟨screen, .start⟩
  | append_singleton ds d ih =>
    obtain ⟨s, before⟩ := ih fun d mem => ready d (List.mem_append_left _ mem)
    obtain ⟨m, same, poised⟩ := ready d (List.mem_append_right _ (List.mem_singleton_self d))
    exact ⟨_, .draw (m := { m with screen := s }) before same (poised.with_screen s)⟩

/-! ## Histories -/

/-- The draw that an operation makes, if it executes a draw instruction. -/
def stamp? (m : Machine) (op : Operation) : Option Stamp :=
  match (m.perform op).1.executed? with
  | some (.draw vx vy height) => some ⟨m.registers.get vx, m.registers.get vy, m.index, height⟩
  | _ => none

/-- The draws of a history. -/
def stamps (m : Machine) : List Operation → List Stamp
  | [] => []
  | op :: rest => (m.stamp? op).toList ++ (m.perform op).2.stamps rest

/-- The history leaves memory as it is and does nothing to the screen but draw on it. -/
def Overlays (m : Machine) : List Operation → Prop
  | [] => True
  | op :: rest =>
    op ≠ .reset ∧ (m.perform op).1.executed? ≠ some .clear ∧ (m.perform op).2.memory = m.memory ∧
      (m.perform op).2.Overlays rest

/-- Operations that neither load nor reset, and execute nothing that clears or stores, overlay
the screen. -/
theorem Overlays.cons {op : Operation} {rest : List Operation} (goesOn : op.goesOn = true)
    (quiet : ∀ i, (m.perform op).1.executed? = some i → i ≠ .clear ∧ Part.memory ∉ i.writes)
    (later : (m.perform op).2.Overlays rest) : m.Overlays (op :: rest) := by
  have ends := m.performed op
  rw [Overlays]
  generalize (m.perform op).1.executed? = executed at quiet ends
  generalize (m.perform op).2 = after at ends later
  cases ends with
  | executed i keys m' flow pc found carried goes =>
    obtain ⟨uncleared, spared⟩ := quiet i rfl
    have memory := get_of_proceed (m := { m with redraw := false, keys := keys }) carried spared
    refine ⟨?_, ?_, memory, later⟩
    · rintro rfl
      cases goesOn
    · exact fun cleared => uncleared (Option.some_inj.1 cleared)
  | idle still stays =>
    refine ⟨?_, by simp, still .memory (by decide), later⟩
    rintro rfl
    cases goesOn
  | loaded source => cases goesOn
  | reset => cases goesOn

/-- An operation that clears nothing makes at most one draw. -/
theorem drawn_perform {op : Operation} (before : Drawn memory screen ds m.screen)
    (same : m.memory = memory) (kept : op ≠ .reset)
    (uncleared : (m.perform op).1.executed? ≠ some .clear) :
    Drawn memory screen (ds ++ (m.stamp? op).toList) (m.perform op).2.screen := by
  have ends := m.performed op
  rw [stamp?]
  generalize (m.perform op).1.executed? = executed at uncleared ends
  generalize (m.perform op).2 = after at ends
  have idle : ∀ {after : Machine}, after.screen = m.screen →
      Drawn memory screen (ds ++ []) after.screen := by
    intro after still
    rw [still, List.append_nil]
    exact before
  cases ends with
  | executed i keys m' flow pc found carried goes =>
    by_cases listed : Part.screen ∈ i.writes
    · rcases Instruction.screen_mem_writes.1 listed with rfl | ⟨vx, vy, height, rfl⟩
      · exact absurd rfl uncleared
      · obtain ⟨rows, read, -, -⟩ := withBlock_eq_proceed_iff.1 carried
        have inside := Block.isSome_read?_iff.1 (Option.isSome_of_mem read)
        have poised : Poised { m with keys := keys }
            ⟨m.registers.get vx, m.registers.get vy, m.index, height⟩ :=
          ⟨vx, vy, found, rfl, rfl, rfl, inside⟩
        have stepped : step { m with keys := keys } =
            ⟨.ok (.executed (.draw vx vy height)), { m' with pc := pc }⟩ := by
          rw [step_of_ok (m := { m with keys := keys }) found, carryOut, carried]
          exact conclude_carried goes
        have drawn := Drawn.draw (m := { m with keys := keys }) before same poised
        rw [stepped] at drawn
        exact drawn
    · have still : m'.screen = m.screen := get_of_proceed
        (m := { m with redraw := false, keys := keys }) (p := .screen) carried listed
      cases i with
      | draw vx vy height => simp [Instruction.writes] at listed
      | _ => exact idle still
  | idle quiet stays => exact idle (quiet .screen (by decide))
  | loaded source =>
    rw [machine_load]
    exact idle rfl
  | reset => exact absurd rfl kept

/-- A history that does nothing but draw to the screen is a sequence of draws. The induction is
on the history, from any draws that have been made before. -/
theorem drawn_run {ops : List Operation} (h : m.Overlays ops) :
    Drawn m.memory m.screen (m.stamps ops) (m.run ops).2.screen := by
  have from_here : ∀ {memory : Memory} {screen : Screen} {ds : List Stamp},
      Drawn memory screen ds m.screen → m.memory = memory →
      Drawn memory screen (ds ++ m.stamps ops) (m.run ops).2.screen := by
    induction ops generalizing m with
    | nil =>
      intro memory screen ds before same
      rw [stamps, List.append_nil]
      exact before
    | cons op rest ih =>
      intro memory screen ds before same
      obtain ⟨kept, uncleared, unwritten, later⟩ := h
      rw [stamps, ← List.append_assoc]
      exact ih later (drawn_perform before same kept uncleared) (unwritten.trans same)
  exact from_here .start rfl

/-- Draws commute and cancel. On every screen, and with either collision rule at each of
them: a permutation of the draws leaves the same screen; two equal draws can be put in or
left out anywhere; and draws that are made twice, the second time in any order, leave the
screen as it was. Every sequence of draws can be made if its draws can be, and a history of a
machine makes the sequence of its draws, if it leaves the memory alone and does nothing else
to the screen. -/
theorem draws_commute_and_cancel (memory : Memory) (screen : Screen) :
    (∀ ds es s t, ds.Perm es → Drawn memory screen ds s → Drawn memory screen es t → s = t) ∧
      (∀ ds es fs d s t, Drawn memory screen (ds ++ d :: (es ++ d :: fs)) s →
        Drawn memory screen (ds ++ (es ++ fs)) t → s = t) ∧
      (∀ ds es s, ds.Perm es → Drawn memory screen (ds ++ es) s → s = screen) ∧
      (∀ ds, (∀ d ∈ ds, ∃ m : Machine, m.memory = memory ∧ m.Poised d) →
        ∃ s, Drawn memory screen ds s) ∧
      ∀ (m : Machine) ops, m.memory = memory → m.screen = screen → m.Overlays ops →
        Drawn memory screen (m.stamps ops) (m.run ops).2.screen := by
  refine ⟨?_, ?_, ?_, exists_drawn memory screen, ?_⟩
  · intro ds es s t perm h h'
    apply h.unique h'
    intro p
    rw [perm.countP_eq]
  · intro ds es fs d s t h h'
    apply h.unique h'
    intro p
    simp only [List.countP_append, List.countP_cons, Nat.bodd_add]
    by_cases inverts : d.inverts memory p = true <;> simp [inverts]
  · intro ds es s perm h
    apply h.unique .start
    intro p
    rw [List.countP_append, ← perm.countP_eq, Nat.bodd_add, Bool.xor_self, List.countP_nil,
      Nat.bodd_zero]
  · rintro m ops rfl rfl overlays
    exact drawn_run overlays

/-- Font glyphs in memory, and a draw instruction for two heights. -/
def slate : Memory := Block.write Memory.initial 0x200 [0xD0, 0x13, 0xD0, 0x12]

/-- The first rows of two glyphs, which wrap around both edges and overlap on one pixel. -/
def topOfZero : Stamp := ⟨60, 30, 0, 3⟩
def topOfOne : Stamp := ⟨62, 31, 5, 2⟩

/-- A machine about to make a draw at one of the two instructions. -/
def aiming (pc : Word) (d : Stamp) : Machine :=
  { memory := slate
    registers := (Registers.zero.set 0 d.column).set 1 d.row
    index := d.index
    pc := pc
    collision := .anyPixel
    noise := { bytes := fun k => .ofNat k } }

theorem draws_commute_and_cancel_corner :
    ∃ s, Drawn slate .blank [topOfZero, topOfOne] s ∧ Drawn slate .blank [topOfOne, topOfZero] s ∧
      s.cell ⟨0, 0⟩ = 1 ∧ s.cell ⟨63, 0⟩ = 0 ∧
      Drawn slate .blank [topOfZero, topOfOne, topOfOne, topOfZero] .blank ∧
      Drawn slate .blank [topOfZero, { topOfZero with height := 2 }]
        ((aiming 0x200 topOfZero).run [.step, .step]).2.screen := by
  obtain ⟨commute, -, restore, made, told⟩ := draws_commute_and_cancel slate .blank
  have ready : ∀ d ∈ [topOfZero, topOfOne], ∃ m : Machine, m.memory = slate ∧ m.Poised d := by
    intro d mem
    rcases List.mem_cons.1 mem with rfl | mem
    · exact ⟨aiming 0x200 topOfZero, rfl, 0, 1, by decide +kernel⟩
    · rcases List.mem_singleton.1 mem with rfl
      exact ⟨aiming 0x202 topOfOne, rfl, 0, 1, by decide +kernel⟩
  have turn : [topOfZero, topOfOne].Perm [topOfOne, topOfZero] := .swap topOfOne topOfZero []
  obtain ⟨s, drawn⟩ := made [topOfZero, topOfOne] ready
  obtain ⟨t, turned⟩ := made [topOfOne, topOfZero] fun d mem => ready d (turn.mem_iff.2 mem)
  obtain ⟨u, twice⟩ := made ([topOfZero, topOfOne] ++ [topOfOne, topOfZero]) fun d mem =>
    (List.mem_append.1 mem).elim (ready d) fun mem => ready d (turn.mem_iff.2 mem)
  obtain rfl := commute _ _ s t turn drawn turned
  obtain rfl := restore _ _ u turn twice
  refine ⟨s, drawn, turned, ?_, ?_, twice, ?_⟩
  · rw [drawn.cell]
    decide +kernel
  · rw [drawn.cell]
    decide +kernel
  · have drawn : ((aiming 0x200 topOfZero).perform .step).1.executed? = some (.draw 0 1 3) ∧
        (((aiming 0x200 topOfZero).perform .step).2.perform .step).1.executed? =
          some (.draw 0 1 2) := by
      decide +kernel
    have quiet : ∀ height i, some (Instruction.draw 0 1 height) = some i →
        i ≠ .clear ∧ Part.memory ∉ i.writes := by
      rintro height i ⟨⟩
      simp [Instruction.writes]
    have overlays : (aiming 0x200 topOfZero).Overlays [.step, .step] :=
      .cons rfl (drawn.1 ▸ quiet 3) (.cons rfl (drawn.2 ▸ quiet 2) trivial)
    have stamps : (aiming 0x200 topOfZero).stamps [.step, .step] =
        [topOfZero, { topOfZero with height := 2 }] := by
      decide +kernel
    rw [← stamps]
    exact told _ _ rfl rfl overlays

end Machine
end Chip8
