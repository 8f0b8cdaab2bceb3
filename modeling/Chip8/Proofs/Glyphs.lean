import Chip8.Proofs.Drawing
import Chip8.Proofs.Storing
import Chip8.Proofs.Waiting

/-!
# The built-in glyphs

A program that wants to show a digit points `I` at the built-in glyph and draws. That works as
long as nobody has stored to the bottom of memory: loads begin far above the glyphs, a reset
puts them back, and so only the two instructions that store at `I` can spoil them. While they
have not done so since the last reset, every glyph is drawn as it was designed, whatever byte
the digit comes from.

## Main definitions

* `Machine.HoldsGlyphs` — the glyphs lie at the bottom of memory.
* `Machine.SparesGlyphs` — a course that has not stored to them since its last reset.
* `Machine.AddsRows`, `Machine.DrawsRows` — what drawing given rows does.

## Main statements

* `Machine.HoldsGlyphs.perform` — one operation.
* `Machine.Follows.holdsGlyphs` — a course.
* `Machine.glyph_drawn_as_designed` — glyphs that are pointed at are drawn.
-/

namespace Chip8

theorem Font.toNat_address (value : UInt8) : (address value).toNat = value.toNat % 16 * 5 := by
  have small : value.toNat % 16 * 5 < 65536 := by omega
  change (0 + value.toNat % 16 * 5 % 65536) % 65536 = _
  omega

namespace Machine

variable {m m' after : Machine} {op : Operation} {x : Register} {calls : List Call}
  {answers : List Answer}

/-! ## The bottom of memory -/

/-- The built-in glyphs lie at the bottom of memory. -/
def HoldsGlyphs (m : Machine) : Prop :=
  m.memory.toList.take 80 = Font.bytes

theorem holdsGlyphs_iff : m.HoldsGlyphs ↔ ∀ a < 80, m.memory[a]? = Font.bytes[a]? := by
  constructor
  · intro holds a low
    rw [← holds, List.getElem?_take_of_lt low, Vector.getElem?_toList]
  · intro cells
    apply List.ext_getElem?
    intro a
    by_cases low : a < 80
    · rw [List.getElem?_take_of_lt low, Vector.getElem?_toList, cells a low]
    · have high : 80 ≤ a := Nat.le_of_not_lt low
      rw [List.getElem?_take_eq_none high, List.getElem?_eq_none (Font.length_bytes ▸ high)]

theorem holdsGlyphs_of_initial (fresh : m.memory = Memory.initial) : m.HoldsGlyphs := by
  refine holdsGlyphs_iff.2 fun a low => ?_
  rw [fresh]
  refine Block.getElem?_write_of_inside _ (Nat.lt_trans low (by decide)) (Nat.zero_le a) ?_
  rw [Font.length_bytes]
  exact Nat.lt_of_lt_of_le low (Nat.le_add_left 80 _)

/-- Only an instruction that stores to the glyphs can spoil them. -/
theorem HoldsGlyphs.perform (holds : m.HoldsGlyphs)
    (spared : ∀ i, (m.perform op).1.executed? = some i → ∀ a < 80, ¬ m.Stores i a) :
    (m.perform op).2.HoldsGlyphs := by
  by_cases given : op = .reset
  · subst given
    exact holdsGlyphs_of_initial rfl
  · refine holdsGlyphs_iff.2 fun a low => ?_
    have inside : a < 4096 := Nat.lt_trans low (by decide)
    rw [← holdsGlyphs_iff.1 holds a low, Vector.getElem?_eq_getElem inside,
      Vector.getElem?_eq_getElem inside, Option.some_inj]
    cases executed : (m.perform op).1.executed? with
    | some i => exact getElem_memory_of_apart executed inside (spared i executed a low)
    | none =>
      by_contra changed
      cases overwrites_of_changed (a := ⟨a, inside⟩) changed with
      | loaded _ _ _ _ _ above =>
        exact absurd above (Nat.not_le_of_lt (Nat.lt_trans low (by decide)))
      | digits x ran => rw [executed] at ran; cases ran
      | registers x r ran => rw [executed] at ran; cases ran
      | reset same => exact given (Call.op.inj same)

/-- Since its last reset the course has not executed an instruction that stores to the
glyphs. -/
def SparesGlyphs (m : Machine) (calls : List Call) (answers : List Answer) (after : Machine) :
    Prop :=
  ∀ o : Occasion m calls answers after, (∀ c ∈ o.late, c ≠ .op .reset) →
    ∀ i, o.answer.executed? = some i → ∀ a < 80, ¬ o.here.Stores i a

/-- A course that has executed no instruction that stores since a reset spares the glyphs. -/
theorem sparesGlyphs_of_quiet {k : ℕ} (restored : calls[k]? = some (.op .reset))
    (quiet : ∀ answer ∈ answers.drop k, ∀ i, answer.executed? = some i → Part.memory ∉ i.writes) :
    m.SparesGlyphs calls answers after := by
  intro o recent i executed a _ stores
  by_cases old : o.early.length < k
  · -- The reset is among the calls that follow.
    have among : Call.op .reset ∈ calls.drop (o.early.length + 1) := by
      refine List.mem_of_getElem? (i := k - (o.early.length + 1)) ?_
      rwa [List.getElem?_drop, Nat.add_sub_cancel' old]
    rw [o.drop_calls] at among
    exact recent _ among rfl
  · have among : o.answer ∈ answers.drop k := by
      refine List.mem_of_getElem? (i := o.early.length - k) ?_
      rw [List.getElem?_drop, Nat.add_sub_cancel' (Nat.le_of_not_lt old)]
      exact o.getElem?_answers
    exact quiet _ among i executed stores.listed

/-- Up to a last call that is not a reset, the course has spared the glyphs as well. -/
theorem SparesGlyphs.earlier {c : Call} {answer : Answer}
    (spared : m.SparesGlyphs (calls ++ [c]) (answers ++ [answer]) after)
    (next : m'.Follows [c] [answer] after) (kept : c ≠ .op .reset) :
    m.SparesGlyphs calls answers m' := by
  intro o recent i executed
  refine spared (o.goOn next) ?_ i executed
  intro c' later
  rcases List.mem_append.1 later with old | newest
  · exact recent c' old
  · rwa [List.mem_singleton.1 newest]

/-- And the last call has not stored to them. -/
theorem SparesGlyphs.last {c : Call} {answer : Answer}
    (spared : m.SparesGlyphs (calls ++ [c]) (answers ++ [answer]) after)
    (before : m.Follows calls answers m') (next : m'.Follows [c] [answer] after)
    {i : Instruction} (executed : answer.executed? = some i) : ∀ a < 80, ¬ m'.Stores i a := by
  refine spared (.newest before next) ?_ i executed
  intro c' none
  cases none

/-- A course that spares the glyphs leaves them where they were at the start. A reset puts
them back, so what has been stored before it does not count. -/
theorem Follows.holdsGlyphs (course : m.Follows calls answers after) (holds : m.HoldsGlyphs)
    (spared : m.SparesGlyphs calls answers after) : after.HoldsGlyphs := by
  revert spared
  refine Follows.induction (P := fun calls answers after =>
    m.SparesGlyphs calls answers after → after.HoldsGlyphs) ?_ ?_ course
  · intro _
    exact holds
  · intro calls answers m' c answer m'' before ih next spared
    obtain ⟨op, told, e⟩ := next.exists_perform
    by_cases given : op = .reset
    · subst given
      cases e
      exact holdsGlyphs_of_initial rfl
    · have kept : c ≠ .op .reset := by
        rintro rfl
        cases told
        exact given rfl
      have clear : ∀ i, (m'.perform op).1.executed? = some i → ∀ a < 80, ¬ m'.Stores i a := by
        rw [e]
        exact fun i executed => spared.last before next executed
      have moved := (ih (spared.earlier next kept)).perform clear
      rwa [e] at moved

/-! ## Drawing a glyph -/

/-- `after` is `before` with these rows added at `(x, y)`, bit by bit and around the edges. -/
structure AddsRows (before after : Screen) (x y : ℕ) (rows : List UInt8) : Prop where
  covered : ∀ p r c row, Covers x y rows.length p r c → rows[r]? = some row →
    after.cell p = before.cell p ^^^ (row.toNat.testBit (7 - c)).toUInt8
  uncovered : ∀ p, (∀ r c, ¬ Covers x y rows.length p r c) → after.cell p = before.cell p

/-- The draw instruction that `m` has come to is executed, in a step as well as in a blocking
step, and it adds these rows to the screen. -/
structure DrawsRows (m : Machine) (vx vy : Register) (n : Fin 16) (rows : List UInt8) :
    Prop where
  executed : m.step.result = .ok (.executed (.draw vx vy n))
  adds : AddsRows m.screen m.step.machine.screen (m.registers.get vx).toNat
    (m.registers.get vy).toNat rows
  scripted : ∀ frames, m.stepBlocking frames = ⟨m.step, 0⟩
  /-- No host is asked. -/
  hosted : ∀ (σ : Type) (host : Host σ) (s t : σ) (w : Waited),
    m.Blocks host s w t ↔ w = ⟨m.step, 0⟩ ∧ t = s

/-- A draw instruction adds the rows that lie at `I`. -/
theorem drawsRows_of_lies {vx vy : Register} {n : Fin 16} {rows : List UInt8}
    (found : m.instruction = .ok (.draw vx vy n)) (length : rows.length = n)
    (inside : m.index.toNat + n ≤ 4096)
    (lies : ∀ r < rows.length, m.memory[m.index.toNat + r]? = rows[r]?) :
    m.DrawsRows vx vy n rows := by
  obtain ⟨block, read, e⟩ := step_draw found (.inr inside)
  have executed : m.step.result = .ok (.executed (.draw vx vy n)) := by rw [e]
  have ready : m.step.isAwaiting = false := by
    rw [Outcome.isAwaiting_eq_false_iff, executed]
    simp
  have fits : n.val ≤ 32 := by omega
  refine ⟨executed, ⟨?_, ?_⟩, stepBlocking_of_not_awaiting ready, ?_⟩
  · intro p r c row covers there
    have bit : m.spriteBit r c = row.toNat.testBit (7 - c) := by
      rw [spriteBit, lies r covers.1, there]
      rfl
    rw [length] at covers
    rw [e, ← bit]
    exact cell_draw_of_covers read fits _ _ covers
  · intro p away
    rw [length] at away
    rw [e]
    exact cell_draw_of_uncovered read _ _ away
  · intro σ host s t w
    exact blocks_of_not_awaiting ready

/-- What is executed at a glyph instruction points `I` at the glyph of the low digit. -/
theorem index_of_glyph (executed : (m.perform op).1.executed? = some (.glyph x)) :
    (m.perform op).2.index = Font.address (m.registers.get x) := by
  obtain ⟨keys, m', flow, pc, -, carried, -, e⟩ := proceeded_of_executed executed
  cases carried
  rw [e]

/-- Where `I` has been pointed at a glyph, its rows lie. -/
theorem HoldsGlyphs.lies (holds : m.HoldsGlyphs) {value : UInt8}
    (pointed : m.index = Font.address value) {r : ℕ} (row : r < Layout.glyphHeight) :
    m.memory[m.index.toNat + r]? = (Font.glyph (.ofNat 16 value.toNat))[r]? := by
  have low : value.toNat % 16 * 5 + r < 80 := by
    change r < 5 at row
    omega
  rw [pointed, Font.toNat_address, holdsGlyphs_iff.1 holds _ low, ← Font.take_drop_bytes,
    List.getElem?_take_of_lt row, List.getElem?_drop]
  rfl

theorem HoldsGlyphs.drawsRows (holds : m.HoldsGlyphs) {value : UInt8}
    (pointed : m.index = Font.address value) {vx vy : Register} {n : Fin 16} (short : n.val ≤ 5)
    (found : m.instruction = .ok (.draw vx vy n)) :
    m.DrawsRows vx vy n ((Font.glyph (.ofNat 16 value.toNat)).take n) := by
  have length : ((Font.glyph (.ofNat 16 value.toNat)).take n).length = n := by
    rw [List.length_take, Font.length_glyph]
    exact Nat.min_eq_left short
  refine drawsRows_of_lies found length ?_ ?_
  · rw [pointed, Font.toNat_address]
    omega
  · intro r row
    rw [length] at row
    rw [List.getElem?_take_of_lt row]
    exact holds.lies pointed (Nat.lt_of_lt_of_le row short)

/-- Built-in digits are drawn as they were designed. Take any course of a new machine that has
not stored to the glyphs since its last reset, whatever it has loaded. Then the glyphs lie at
the bottom of memory; and if `I` still holds what an executed glyph instruction has put there,
a draw instruction of at most five rows does not fault, and it adds to the screen the first
rows of the glyph of the register's low digit. -/
theorem glyph_drawn_as_designed (config : Config) (noise : Noise) (calls : List Call)
    (answers : List Answer) (after : Machine)
    (course : (ofConfig config noise).Follows calls answers after)
    (spared : (ofConfig config noise).SparesGlyphs calls answers after) :
    after.memory.toList.take 80 = Font.bytes ∧
      ∀ (o : Occasion (ofConfig config noise) calls answers after) (x : Register),
        o.answer.executed? = some (.glyph x) → after.index = o.there.index →
        ∀ (vx vy : Register) (n : Fin 16), n.val ≤ 5 →
          after.instruction = .ok (.draw vx vy n) →
          after.DrawsRows vx vy n
            ((Font.glyph (.ofNat 16 (o.here.registers.get x).toNat)).take n) := by
  have holds : after.HoldsGlyphs := course.holdsGlyphs (holdsGlyphs_of_initial rfl) spared
  refine ⟨holds, ?_⟩
  intro o x pointed same vx vy n short found
  obtain ⟨op, -, e⟩ := o.happens.exists_perform
  have index : o.there.index = Font.address (o.here.registers.get x) := by
    have ran : (o.here.perform op).1.executed? = some (.glyph x) := by rwa [e]
    have put := index_of_glyph ran
    rwa [e] at put
  exact holds.drawsRows (same.trans index) short found

/-- A new machine without a seed. -/
def plain : Machine :=
  ofConfig {} { bytes := fun k => .ofNat k }

/-- A program that spoils the first glyph, a reset, and one that is about to point at the glyph
of a register that holds `0x3E`. -/
def glyphRun : List Operation :=
  [.load (.ofBytes [0xF0, 0x33]), .step, .reset,
    .load (.ofBytes [0x60, 0x3E, 0xF0, 0x29, 0xD0, 0x05]), .step]

theorem glyph_drawn_as_designed_plain :
    ∃ answers after,
      plain.Follows (glyphRun.map .op ++ [.op .step] ++ [.op .tick]) answers after ∧
      after.memory.toList.take 80 = Font.bytes ∧
      after.registers.get 0 = 62 ∧
      after.DrawsRows 0 0 5 [0xF0, 0x80, 0xF0, 0x80, 0xF0] := by
  have before := follows_run plain glyphRun
  have facts : ((plain.run glyphRun).2.perform .step).1.executed? = some (.glyph 0) ∧
      (plain.run glyphRun).2.registers.get 0 = 62 ∧
      (((plain.run glyphRun).2.perform .step).2.perform .tick).2.instruction =
        .ok (.draw 0 0 5) ∧
      (((plain.run glyphRun).2.perform .step).2.perform .tick).2.registers.get 0 = 62 ∧
      ∀ answer ∈ ((plain.run glyphRun).1 ++ [((plain.run glyphRun).2.perform .step).1] ++
          [(((plain.run glyphRun).2.perform .step).2.perform .tick).1]).drop 2,
        ∀ i, answer.executed? = some i → Part.memory ∉ i.writes := by
    decide +kernel
  generalize (plain.run glyphRun).1 = given at before facts
  generalize (plain.run glyphRun).2 = here at before facts
  obtain ⟨pointed, digit, found, place, quiet⟩ := facts
  have course := (before.op .step).op .tick
  obtain ⟨holds, draws⟩ := glyph_drawn_as_designed {} { bytes := fun k => .ofNat k } _ _ _ course
    (sparesGlyphs_of_quiet (k := 2) rfl quiet)
  let o := (Occasion.newest before (Follows.start.op .step)).goOn (Follows.start.op .tick)
  have drawn : DrawsRows _ 0 0 5
      ((Font.glyph (.ofNat 16 (here.registers.get 0).toNat)).take (5 : Fin 16)) :=
    draws o 0 pointed rfl 0 0 5 (by decide) found
  rw [digit] at drawn
  exact ⟨_, _, course, holds, place, drawn⟩

end Machine
end Chip8
