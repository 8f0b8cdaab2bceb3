import Chip8.Proofs.Checked
import Chip8.Proofs.Reachability
import Chip8.Proofs.Sprite

/-!
# No check ever fails

On a machine that is within its bounds, each operation of the checked machine has a result,
and it is that of the machine itself. The bounds hold of every reachable machine, so
whatever program it has loaded, none of its accesses and none of its sums leave their
domains. Only the call stack is needed from the bounds: where the program counter stands is
checked by the step itself before anything is added to it.

## Main definitions

* `Checked.painted` — drawing dots on a screen and in the flag register.
-/

namespace Chip8
namespace Checked

/-! ## Registers and keys -/

theorem toNat_low_digit (value : UInt8) : (value &&& 0xF).toNat = value.toNat % 16 := by
  rw [UInt8.toNat_and]
  exact Nat.and_two_pow_sub_one_eq_mod _ 4

theorem keyDown_eq (m : Machine) (x : Register) :
    keyDown m x = some (m.keys.get (Keypad.named (m.registers.get x))) := by
  rw [keyDown, read_eq]
  change read m.keys (m.registers.get x &&& 0xF).toNat = _
  rw [toNat_low_digit]
  exact read_eq m.keys (Keypad.named (m.registers.get x))

/-- The sum of two bytes fits a word, whose low byte is the sum that wraps around. -/
theorem add_bytes (a b : UInt8) :
    ∃ sum, add a.toUInt16 b.toUInt16 = some sum ∧ sum.toNat = a.toNat + b.toNat ∧
      sum.toUInt8 = a + b := by
  have fits : a.toNat + b.toNat < 65536 := by
    have ha := a.toNat_lt
    have hb := b.toNat_lt
    omega
  have sum : (a.toUInt16 + b.toUInt16).toNat = a.toNat + b.toNat := by
    rw [UInt16.toNat_add, UInt8.toNat_toUInt16, UInt8.toNat_toUInt16, Nat.mod_eq_of_lt fits]
  refine ⟨_, add_eq ?_, sum, ?_⟩
  · rwa [UInt8.toNat_toUInt16, UInt8.toNat_toUInt16]
  · rw [← UInt8.toNat_inj, UInt16.toNat_toUInt8, sum, UInt8.toNat_add]

/-- The last bit of a byte. -/
theorem and_one (a : UInt8) : a &&& 0x01 = if a.toNat % 2 = 1 then 1 else 0 := by
  rw [← UInt8.toNat_inj, UInt8.toNat_and]
  change a.toNat &&& 1 = _
  rw [Nat.and_one_is_mod]
  split <;> simp only [UInt8.toNat_one, UInt8.toNat_zero] <;> omega

/-- The first bit of a byte. -/
theorem and_high_shiftRight (a : UInt8) : (a &&& 0x80) >>> 7 = if 128 ≤ a then 1 else 0 := by
  have small := a.toNat_lt
  have bit : (a.toNat &&& 128) >>> 7 = a.toNat / 128 % 2 := by
    rw [Nat.shiftRight_and_distrib, Nat.shiftRight_eq_div_pow]
    exact Nat.and_one_is_mod _
  rw [← UInt8.toNat_inj, UInt8.toNat_shiftRight, UInt8.toNat_and]
  change (a.toNat &&& 128) >>> 7 = _
  rw [bit]
  simp only [UInt8.le_iff_toNat_le, UInt8.reduceToNat]
  split <;> simp only [UInt8.toNat_one, UInt8.toNat_zero] <;> omega

/-- The commands on two registers do what the operations do. -/
theorem alu_eq (v : Registers) (op : Alu) (x y : Register) :
    alu v (.ofInstruction (.alu op x y)) = some (v.operate op x y) := by
  cases op with
  | add =>
    obtain ⟨sum, fits, total, low⟩ := add_bytes (v.get x) (v.get y)
    have carry : 0xFF < sum ↔ 255 < (v.get x).toNat + (v.get y).toNat := by
      rw [← total, UInt16.lt_iff_toNat_lt]
      rfl
    simp only [Command.ofInstruction, alu, read_eq, write_eq, fits, low, carry, Registers.operate,
      Alu.flag?, Alu.result, decide_eq_true_eq, Option.bind_eq_bind, Option.bind_some]
    rfl
  | sub | subFrom =>
    simp only [Command.ofInstruction, alu, read_eq, write_eq, Registers.operate, Alu.flag?,
      Alu.result, decide_eq_true_eq, Option.bind_eq_bind, Option.bind_some]
    rfl
  | shiftRight | shiftLeft =>
    simp only [Command.ofInstruction, alu, read_eq, write_eq, and_one, and_high_shiftRight,
      Registers.operate, Alu.flag?, Alu.result, decide_eq_true_eq, Option.bind_eq_bind,
      Option.bind_some]
    rfl
  | copy | or | and | xor =>
    simp only [Command.ofInstruction, alu, read_eq, write_eq, Option.bind_eq_bind,
      Option.bind_some]
    rfl

/-! ## Subroutines -/

variable {m : Machine}

/-- Where an instruction can be fetched, the program counter is far from wrapping around. -/
theorem add_pc_eq {pc offset : Word} (below : pc.toNat < 4095) (small : offset.toNat ≤ 4) :
    add pc offset = some (pc + offset) :=
  add_eq (by omega)

theorem leave_eq (range : m.calls.InRange) : leave m = some m.leave := by
  cases held : m.calls.isEmpty with
  | true =>
    rw [Machine.leave_of_empty held]
    exact if_pos (of_decide_eq_true held)
  | false =>
    have above := CallStack.isEmpty_eq_false_iff.1 held
    have newest : read m.calls.slots m.calls.pointer.toInt.toNat = some m.calls.newest := by
      have place : m.calls.pointer.toInt.toNat < 16 := by
        have high := range.2
        omega
      rw [CallStack.newest, read]
      change _ = some (m.calls.slots[m.calls.pointer.toInt.toNat]?.getD 0)
      rw [Vector.getElem?_eq_getElem place]
      rfl
    rw [Machine.leave_of_held held, leave, if_neg (of_decide_eq_false held)]
    simp only [count_eq above, newest, down_eq range, Option.bind_eq_bind, Option.bind_some]
    rfl

theorem enter_eq (range : m.calls.InRange) (below : m.pc.toNat < 4095) (target : Address) :
    enter m (.ofNat target) = some (m.enter target) := by
  cases room : m.calls.isFull with
  | true =>
    rw [Machine.enter_of_full room]
    exact if_pos (of_decide_eq_true room)
  | false =>
    have free := CallStack.isFull_eq_false_iff.1 room
    have higher : (m.calls.pointer + 1).toInt = m.calls.pointer.toInt + 1 :=
      CallStack.toInt_pointer_push range (m.pc + 2)
    have low := range.1
    have newest : count (m.calls.pointer + 1) = some (m.calls.pointer + 1).toInt.toNat :=
      count_eq (by omega)
    have back : add m.pc 2 = some (m.pc + 2) := add_pc_eq below (by decide)
    have pushed : write m.calls.slots (m.calls.pointer + 1).toInt.toNat (m.pc + 2) =
        some (m.calls.push (m.pc + 2)).slots :=
      if_pos (by omega)
    rw [Machine.enter_of_room room, enter, if_neg (of_decide_eq_false room)]
    simp only [up_eq range, newest, back, pushed, Option.bind_eq_bind, Option.bind_some]
    rfl

/-! ## The cells at `I` -/

/-- What is done with the cells at `I` agrees if it agrees for every run of as many cells,
wherever it lies in memory; only a run of no cells need not lie at `I`. -/
theorem onBlock_eq {len : ℕ} {act : ℕ → ℕ → Option Machine} {next : List UInt8 → Machine}
    (agrees : ∀ start block, (0 < len → start = m.index.toNat) → start + len ≤ 4096 →
      block.length = len → Lies m.memory start block →
      act start (start + len) = some (next block)) :
    onBlock m len act = some (m.withBlock len next) := by
  rcases Nat.eq_zero_or_pos len with rfl | pos
  · obtain ⟨block, found, carried⟩ := Machine.withBlock_of_inside (.inl rfl) next
    have length := Block.length_of_read? found
    have nil := List.length_eq_zero_iff.1 length
    have done := agrees 0 block (absurd · (Nat.lt_irrefl 0)) (Nat.zero_le _) length
      (nil ▸ lies_nil _ _)
    rw [carried, onBlock, bounds, if_pos rfl]
    exact congrArg (Option.map _) done
  · by_cases beyond : 4096 < m.index.toNat + len
    · rw [Machine.withBlock_of_outside pos beyond, onBlock, bounds, if_neg (Nat.ne_of_gt pos),
        if_pos beyond]
    · have inside := Nat.not_lt.1 beyond
      obtain ⟨block, found, carried⟩ := Machine.withBlock_of_inside (.inr inside) next
      have done := agrees m.index.toNat block (fun _ => rfl) inside
        (Block.length_of_read? found) (lies_of_read? found)
      rw [carried, onBlock, bounds, if_neg (Nat.ne_of_gt pos), if_neg beyond]
      exact congrArg (Option.map _) done

/-! ## Drawing -/

/-- The screen and the registers after dots have been drawn on the one and reported in the
other. -/
def painted (rule : CollisionRule) (ds : List Dot) (canvas : Screen × Registers) :
    Screen × Registers :=
  let drawn := Sprite.paint rule canvas.1 (canvas.2.get Registers.flag) ds
  (drawn.1, canvas.2.set Registers.flag drawn.2)

theorem painted_nil (rule : CollisionRule) (canvas : Screen × Registers) :
    painted rule [] canvas = canvas := by
  rw [painted, Sprite.paint_nil, Registers.set_get_self]

theorem painted_append (rule : CollisionRule) (ds es : List Dot) (canvas : Screen × Registers) :
    painted rule (ds ++ es) canvas = painted rule es (painted rule ds canvas) := by
  simp only [painted, Sprite.paint_append, Registers.get_set_self, Registers.set_set]

theorem painted_singleton (rule : CollisionRule) (d : Dot) (screen : Screen) (v : Registers) :
    painted rule [d] (screen, v) =
      (screen.flip d.pixel d.bit,
        v.set Registers.flag
          (rule.update (v.get Registers.flag) (screen.get d.pixel && d.bit))) := rfl

/-- The last bit of a byte that has been shifted down. -/
theorem shiftRight_and_one (byte : UInt8) {places : ℕ} (small : places < 8) :
    (byte >>> .ofNat places) &&& 1 = (byte.toNat.testBit places).toUInt8 := by
  have amount : (UInt8.ofNat places).toNat % 8 = places := by
    rw [UInt8.toNat_ofNat']
    omega
  apply UInt8.toNat_inj.1
  rw [UInt8.toNat_and, UInt8.toNat_shiftRight, amount, Nat.shiftRight_eq_div_pow]
  change byte.toNat / 2 ^ places &&& 1 = _
  rw [Nat.and_one_is_mod, Nat.testBit_eq_decide_div_mod_eq]
  rcases Nat.mod_two_eq_zero_or_one (byte.toNat / 2 ^ places) with even | odd
  · rw [even]
    rfl
  · rw [odd]
    rfl

theorem index_wrap (x y : ℕ) : 64 * (y % 32) + x % 64 = (Pixel.wrap x y).index := by
  rw [Nat.mul_comm]
  rfl

theorem read_cell (screen : Screen) (p : Pixel) :
    read screen p.index = some (screen.cell p) :=
  read_eq screen p.index

theorem write_flip (screen : Screen) (p : Pixel) (bit : Bool) :
    write screen p.index (screen.cell p ^^^ bit.toUInt8) = some (screen.flip p bit) := by
  have set : screen.setIfInBounds p.index (screen.cell p ^^^ bit.toUInt8) =
      screen.flip p bit := by
    apply Vector.ext
    intro i hi
    rw [Screen.flip, Vector.getElem_setIfInBounds, Vector.getElem_set]
  rw [write_eq, set]

theorem report_eq (rule : CollisionRule) (v : Registers) (erased : Bool) :
    report rule v erased =
      some (v.set Registers.flag (rule.update (v.get Registers.flag) erased)) := by
  cases rule with
  | lastBit => exact write_eq v Registers.flag _
  | anyPixel =>
    cases erased with
    | true => exact write_eq v Registers.flag 1
    | false => exact congrArg some (v.set_get_self Registers.flag).symm

theorem drawBit_eq (rule : CollisionRule) (x y : ℕ) (row : UInt8) (canvas : Screen × Registers)
    {c : ℕ} (column : c < 8) :
    drawBit rule x y row canvas c =
      some (painted rule [⟨.wrap (x + c) y, row.toNat.testBit (7 - c)⟩] canvas) := by
  obtain ⟨screen, v⟩ := canvas
  have places : sub 7 c = some (7 - c) := if_pos (by omega)
  have shifted : shiftDown row (7 - c) = some (row >>> .ofNat (7 - c)) := if_pos (by omega)
  have bit := shiftRight_and_one row (show 7 - c < 8 by omega)
  rw [drawBit, painted_singleton]
  simp only [places, shifted, index_wrap, bit, read_cell, write_flip, report_eq,
    Screen.toUInt8_beq_one, Option.bind_eq_bind, Option.bind_some]
  rfl

/-- The bits of a row are drawn from left to right. -/
theorem foldlM_drawBit (rule : CollisionRule) (x y : ℕ) (row : UInt8) {columns : List ℕ}
    (inside : ∀ c ∈ columns, c < 8) (canvas : Screen × Registers) :
    columns.foldlM (drawBit rule x y row) canvas =
      some (painted rule
        (columns.map fun c => ⟨.wrap (x + c) y, row.toNat.testBit (7 - c)⟩) canvas) := by
  induction columns generalizing canvas with
  | nil => exact congrArg some (painted_nil rule canvas).symm
  | cons c rest ih =>
    have first := drawBit_eq rule x y row canvas (inside c List.mem_cons_self)
    have later := ih (fun c hc => inside c (List.mem_cons_of_mem _ hc))
    rw [List.foldlM_cons, first, Option.bind_eq_bind, Option.bind_some, later, ← painted_append]
    rfl

theorem drawRows_eq {memory : Memory} (rule : CollisionRule) (x : ℕ) {y start : ℕ}
    {rows : List UInt8} (lies : Lies memory start rows) (canvas : Screen × Registers) :
    drawRows memory rule x y start rows.length canvas =
      some (painted rule (Sprite.dots x y rows) canvas) := by
  induction rows generalizing y start canvas with
  | nil => exact congrArg some (painted_nil rule canvas).symm
  | cons row rest ih =>
    have bits := foldlM_drawBit rule x y row (fun c => List.mem_range.1) canvas
    rw [List.length_cons, drawRows, lies.head, Option.bind_eq_bind, Option.bind_some, bits,
      Option.bind_eq_bind, Option.bind_some, ih lies.tail, Sprite.dots_cons, painted_append]
    rfl

theorem drawSprite_eq (m : Machine) (x y : Register) (height : Fin 16) :
    drawSprite m x y height = some (m.drawSprite x y height) := by
  refine onBlock_eq ?_
  intro start rows _ _ length lies
  have count : start + height - start = rows.length := by omega
  have drawn := fun v => drawRows_eq m.collision (m.registers.get x).toNat
    (y := (m.registers.get y).toNat) lies (m.screen, v)
  simp only [read_eq, count, Option.bind_eq_bind, Option.bind_some]
  cases rule : m.collision with
  | lastBit =>
    rw [rule] at drawn
    simp only [drawn, Option.bind_some]
    rfl
  | anyPixel =>
    rw [rule] at drawn
    have cleared : write m.registers Registers.flag 0 = some (m.registers.set Registers.flag 0) :=
      write_eq _ _ _
    simp only [cleared, drawn, painted, Registers.get_set_self, Registers.set_set,
      Option.bind_some]
    rfl

/-! ## Instructions -/

/-- The registers up to `Vx`. -/
theorem slice_registers (v : Registers) (x : Register) :
    slice v 0 (x + 1) = some (v.toList.take (x + 1)) :=
  slice_eq (Nat.zero_le _) x.isLt

theorem decimal_eq (m : Machine) (x : Register) :
    misc m (.decimal x) = some (m.execute (.decimal x)) := by
  refine onBlock_eq ?_
  intro start block place inside _ _
  obtain rfl := place (Nat.succ_pos 2)
  have stored := copy_eq m.memory m.index.toNat
    (Registers.decimalDigits (m.registers.get x)) inside rfl
  simp only [read_eq, stored, Option.bind_eq_bind, Option.bind_some]

theorem save_eq (m : Machine) (x : Register) :
    misc m (.save x) = some (m.execute (.save x)) := by
  refine onBlock_eq ?_
  intro start block place inside _ _
  obtain rfl := place (Nat.succ_pos x)
  have length : (m.registers.toList.take (x + 1)).length = x + 1 := by
    have small := x.isLt
    rw [List.length_take, Vector.length_toList]
    omega
  have stored := copy_eq m.memory m.index.toNat (m.registers.toList.take (x + 1)) inside
    (congrArg (m.index.toNat + ·) length)
  simp only [slice_registers, stored, Option.bind_eq_bind, Option.bind_some]

theorem restore_eq (m : Machine) (x : Register) :
    misc m (.restore x) = some (m.execute (.restore x)) := by
  refine onBlock_eq ?_
  intro start block _ inside length lies
  have found : slice m.memory start (start + (x + 1)) = some block := by
    rw [← length] at inside ⊢
    exact lies.slice inside
  have fetched : copy m.registers 0 (x + 1) block = some (Block.write m.registers 0 block) :=
    copy_eq m.registers 0 block x.isLt (by omega)
  simp only [found, fetched, Option.bind_eq_bind, Option.bind_some]

theorem glyph_eq (m : Machine) (x : Register) :
    misc m (.glyph x) = some (m.execute (.glyph x)) := by
  have digit : ((m.registers.get x) &&& 0xF).toUInt16.toNat = (m.registers.get x).toNat % 16 := by
    rw [UInt8.toNat_toUInt16, toNat_low_digit]
  have height : (UInt16.ofNat Layout.glyphHeight).toNat = 5 := rfl
  have fits : ((m.registers.get x) &&& 0xF).toUInt16.toNat *
      (UInt16.ofNat Layout.glyphHeight).toNat < 65536 := by
    rw [digit, height]
    omega
  have offset : ((m.registers.get x) &&& 0xF).toUInt16 * .ofNat Layout.glyphHeight =
      .ofNat ((m.registers.get x).toNat % 16 * Layout.glyphHeight) := by
    apply UInt16.toNat_inj.1
    rw [UInt16.toNat_mul, digit, UInt16.toNat_ofNat']
    rfl
  have above (address : Word) : add Layout.fontBase address = some (Layout.fontBase + address) := by
    have small := address.toNat_lt
    exact add_eq (by rw [Layout.fontBase]; simpa using small)
  simp only [misc, read_eq, mul_eq fits, offset, above, Option.bind_eq_bind, Option.bind_some]
  rfl

theorem jumpPlus_eq (m : Machine) (target : Address) :
    execute m (.jumpPlus (.ofNat target)) = some (m.execute (.jumpPlus target)) := by
  have fits : (UInt16.ofNat target).toNat + (m.registers.get 0).toUInt16.toNat < 65536 := by
    have byte := (m.registers.get 0).toNat_lt
    rw [Machine.toNat_ofNat_address, UInt8.toNat_toUInt16]
    omega
  have first : read m.registers 0 = some (m.registers.get 0) := read_eq m.registers 0
  simp only [execute, first, add_eq fits, Option.bind_eq_bind, Option.bind_some]
  rfl

/-- A skip looks at the registers and the keys that its condition names. -/
theorem execute_skipIf (m : Machine) (condition : Condition) :
    execute m (.ofInstruction (.skipIf condition)) = some (m.execute (.skipIf condition)) := by
  cases condition with
  | keyDown x | keyUp x =>
    simp only [Command.ofInstruction, execute, keyDown_eq, Option.bind_eq_bind, Option.bind_some]
    rfl
  | _ =>
    simp only [Command.ofInstruction, execute, read_eq, Option.bind_eq_bind, Option.bind_some]
    rfl

theorem execute_alu (m : Machine) (op : Alu) (x y : Register) :
    execute m (.ofInstruction (.alu op x y)) = some (m.execute (.alu op x y)) := by
  have operated := alu_eq m.registers op x y
  cases op <;>
    (rw [Command.ofInstruction] at operated ⊢
     simp only [execute, operated, Option.bind_eq_bind, Option.bind_some]
     rfl)

/-- The height of a sprite is a byte, which holds every last nibble. -/
theorem toNat_ofNat_height (height : Fin 16) : (UInt8.ofNat height).toNat = height := by
  rw [UInt8.toNat_ofNat', Nat.mod_eq_of_lt (by omega)]

theorem takeKey_eq (m : Machine) (x : Register) : takeKey m x = some (m.takeKey x) := by
  cases taken : m.keys.lowest? with
  | none =>
    rw [Machine.takeKey_of_up taken, takeKey, taken]
  | some key =>
    rw [Machine.takeKey_of_down taken, takeKey, taken]
    simp only [write_eq, Option.bind_eq_bind, Option.bind_some]
    rfl

/-- An instruction that is executed where it can be fetched passes all checks. -/
theorem execute_eq (range : m.calls.InRange) (below : m.pc.toNat < 4095) (i : Instruction) :
    execute m (.ofInstruction i) = some (m.execute i) := by
  cases i with
  | ret => exact leave_eq range
  | call target => exact enter_eq range below target
  | skipIf condition => exact execute_skipIf m condition
  | alu op x y => exact execute_alu m op x y
  | jumpPlus target => exact jumpPlus_eq m target
  | draw x y height =>
    rw [Command.ofInstruction, execute, toNat_ofNat_height]
    exact drawSprite_eq m x y height
  | awaitKey x => exact takeKey_eq m x
  | glyph x => exact glyph_eq m x
  | decimal x => exact decimal_eq m x
  | save x => exact save_eq m x
  | restore x => exact restore_eq m x
  | sys | clear | jump | setIndex => rfl
  | _ =>
    simp only [Command.ofInstruction, execute, misc, read_eq, write_eq, Option.bind_eq_bind,
      Option.bind_some]
    rfl

/-! ## Steps -/

theorem fetch_eq (m : Machine) : fetch m = some m.fetch := by
  by_cases beyond : 4096 ≤ m.pc.toNat + 1
  · rw [Machine.fetch_of_outside (by omega), fetch, if_pos beyond]
  · have inside := Nat.not_le.1 beyond
    have high : read m.memory m.pc.toNat = some m.memory[m.pc.toNat] :=
      Vector.getElem?_eq_getElem _
    have low : read m.memory (m.pc.toNat + 1) = some m.memory[m.pc.toNat + 1] :=
      Vector.getElem?_eq_getElem _
    rw [fetch, if_neg beyond, Machine.fetch, Memory.word?_of_lt inside]
    simp only [high, low, Option.bind_eq_bind, Option.bind_some]

theorem target?_eq {pc : Word} (below : pc.toNat < 4095) (flow : Flow) :
    target? pc flow = some (flow.target? pc) := by
  cases flow with
  | next =>
    rw [target?, add_pc_eq below (by decide)]
    rfl
  | skip =>
    rw [target?, add_pc_eq below (by decide)]
    rfl
  | jump target => rfl
  | wait => rfl

theorem conclude_eq {before : Machine} (below : before.pc.toNat < 4095) (i : Instruction)
    (out : Outcome Fault Flow) :
    conclude before (.ofInstruction i) out = some (before.conclude i out) := by
  obtain ⟨result, after⟩ := out
  cases result with
  | error fault => rfl
  | ok flow =>
    simp only [conclude, target?_eq below flow, Command.instruction?_ofInstruction,
      Option.bind_eq_bind, Option.bind_some, Machine.conclude]
    cases flow.target? before.pc <;> rfl

theorem step_eq (range : m.calls.InRange) : step m = some m.step := by
  rw [step, fetch_eq]
  cases fetched : m.fetch with
  | error fault =>
    have found : m.instruction = .error fault := by rw [Machine.instruction, fetched]
    rw [Machine.step_of_error found]
    rfl
  | ok word =>
    simp only [Command.decode?_eq, Option.bind_eq_bind, Option.bind_some]
    cases decoded : Instruction.decode? word with
    | none =>
      have found : m.instruction = .error (.invalidOpcode word m.pc) := by
        simp only [Machine.instruction, fetched, decoded]
      rw [Machine.step_of_error found]
      rfl
    | some i =>
      have found : m.instruction = .ok i := by simp only [Machine.instruction, fetched, decoded]
      have below := Machine.pc_lt_of_instruction found
      have carried := execute_eq (m := { m with redraw := false }) range below i
      simp only [Option.map_some, carried, conclude_eq below, Option.bind_some,
        Machine.step_of_ok found, Machine.carryOut]

/-- Each try of a wait passes the checks, however often the keys are looked at. The
induction is on the script; a step and a replacement of the keys keep the bounds. -/
theorem stepBlocking_eq (bounded : m.Bounded) (frames : List Frame) :
    stepBlocking m frames = some (m.stepBlocking frames) := by
  induction frames generalizing m with
  | nil =>
    rw [stepBlocking, step_eq bounded.range, Option.bind_eq_bind, Option.bind_some,
      Machine.stepBlocking]
    split <;> rfl
  | cons frame rest ih =>
    have later := ih (m := { m.step.machine with keys := frame.keys })
      (Machine.bounded_perform (Machine.bounded_perform bounded .step) (.setKeys frame.keys))
    rw [stepBlocking, step_eq bounded.range, Option.bind_eq_bind, Option.bind_some,
      Machine.stepBlocking]
    simp only [later, Option.map_some]
    split
    · split <;> rfl
    · rfl

/-! ## Operations -/

theorem fresh_eq : fresh = some {} := by
  have glyphs : copy (.replicate 4096 0) Layout.fontBase.toNat
      (Layout.fontBase.toNat + Font.bytes.length) Font.bytes = some Memory.initial := by
    refine copy_eq _ _ _ ?_ rfl
    rw [Font.length_bytes]
    decide
  simp only [fresh, glyphs, Option.bind_eq_bind, Option.bind_some]

theorem load_eq (m : Machine) (source : Source) : load m source = some (m.load source) := by
  cases contents : source.contents with
  | error cause =>
    rw [m.load_of_unreadable contents, load, contents]
  | ok rom =>
    rw [load, contents]
    by_cases large : Layout.programLimit < rom.length
    · rw [m.load_of_large contents large]
      exact if_pos large
    · have limit : Layout.programStart.toNat + Layout.programLimit = 4096 := rfl
      have stored := copy_eq m.memory Layout.programStart.toNat rom (by omega) rfl
      rw [m.load_of_fits contents (Nat.not_lt.1 large)]
      simp only [loadBytes, if_neg large, stored, Option.bind_eq_bind, Option.bind_some]

theorem toNat_and_low_digit (key : ℕ) : key &&& 0xF = (Fin.ofNat 16 key).val :=
  Nat.and_two_pow_sub_one_eq_mod key 4

theorem setKey_eq (m : Machine) (key : ℕ) (down : Bool) :
    setKey m key down = some (m.perform (.setKey (.ofNat 16 key) down)).2 := by
  rw [setKey, toNat_and_low_digit, write_eq]
  rfl

theorem pressKeys_eq (keypad : Keypad) (keys : List (Fin 16)) :
    keys.foldlM (fun (pad : Keypad) (key : Fin 16) => write pad key.val true) keypad =
      some (keypad.press keys) := by
  induction keys generalizing keypad with
  | nil => rfl
  | cons key rest ih =>
    rw [List.foldlM_cons, write_eq, Option.bind_eq_bind, Option.bind_some, ih]
    rfl

/-- Every operation on a machine within its bounds passes all checks. -/
theorem perform_eq (bounded : m.Bounded) (op : Operation) :
    perform m op = some (m.perform op) := by
  cases op with
  | load source =>
    rw [perform, load_eq]
    rfl
  | step =>
    rw [perform, step_eq bounded.range]
    rfl
  | stepBlocking frames =>
    rw [perform, stepBlocking_eq bounded]
    rfl
  | setKey key down =>
    have same : Fin.ofNat 16 key.val = key := Fin.ofNat_val_eq_self key
    rw [perform, setKey_eq, same]
    rfl
  | pressKeys keys =>
    rw [perform, pressKeys_eq]
    rfl
  | reset =>
    rw [perform, fresh_eq]
    rfl
  | _ => rfl

/-- Checks do fail elsewhere, here that of a return with a pointer above all slots. -/
example (m : Machine) : leave { m with calls := { m.calls with pointer := 16 } } = none := rfl

/-! ## Reading -/

theorem register_eq (m : Machine) (r : ℕ) :
    register m r = some (m.registers.get (.ofNat 16 r)) := by
  rw [register, toNat_and_low_digit, read_eq]

theorem pixel_eq (m : Machine) (x y : ℕ) :
    pixel m x y = some (m.screen.get (.wrap x y)) := by
  rw [pixel, index_wrap, read_cell]
  rfl

theorem stack_eq (range : m.calls.InRange) : stack m = some m.calls.addresses := by
  have ⟨low, high⟩ := range
  have higher : (m.calls.pointer + 1).toInt = m.calls.pointer.toInt + 1 :=
    CallStack.toInt_pointer_push range 0
  have size : count (m.calls.pointer + 1) = some m.calls.size := by
    rw [count_eq (by omega), higher]
    rfl
  have slots : slice m.calls.slots 0 m.calls.size = some m.calls.addresses :=
    slice_eq (Nat.zero_le _) (by rw [CallStack.size]; omega)
  rw [stack, up_eq range]
  simp only [size, slots, Option.bind_eq_bind, Option.bind_some]

theorem memory_eq (m : Machine) : memory m = some m.memory.toList := by
  have all : m.memory.toList.take Layout.memorySize = m.memory.toList :=
    List.take_of_length_le (Nat.le_of_eq m.memory.length_toList)
  exact (slice_eq (Nat.zero_le _) (Nat.le_refl _)).trans (congrArg some all)

end Checked

/-! ## Reachable machines -/

namespace Machine

/-- Nothing that can be done with a reachable machine fails a check: no operation, and no
read of a register, a pixel, the return addresses or memory, whatever its arguments are.
A script of frames may be as long as it likes, so this holds also of every try of a wait
that never ends. -/
theorem Reachable.passes_checks {m : Machine} (h : m.Reachable) :
    (∀ op, Checked.perform m op = some (m.perform op)) ∧
      (∀ key down,
        Checked.setKey m key down = some (m.perform (.setKey (.ofNat 16 key) down)).2) ∧
      (∀ r, Checked.register m r = some (m.registers.get (.ofNat 16 r))) ∧
      (∀ x y, Checked.pixel m x y = some (m.screen.get (.wrap x y))) ∧
      Checked.stack m = some m.calls.addresses ∧
      Checked.memory m = some m.memory.toList :=
  ⟨Checked.perform_eq h.bounded, Checked.setKey_eq m, Checked.register_eq m, Checked.pixel_eq m,
    Checked.stack_eq h.bounded.range, Checked.memory_eq m⟩

/-- A machine that has called a subroutine and jumped from there as far as it can. -/
def strayed : Machine :=
  ((ofConfig {} { bytes := fun k => .ofNat k }).run
    [.load (.ofBytes [0x22, 0x04, 0x00, 0x00, 0x60, 0xFF, 0xBF, 0xFF]), .step, .step, .step]).2

theorem passes_checks_strayed :
    strayed.pc.toNat = 0x10FE ∧
      Checked.perform strayed .step =
        some (.stepped (.error (.addressOutOfRange 0x10FE 0x10FE)), strayed) ∧
      Checked.register strayed 0x10 = some 0xFF ∧
      Checked.pixel strayed 64 95 = some false ∧
      Checked.stack strayed = some [0x202] := by
  obtain ⟨place, value, dark, held⟩ :
      strayed.pc = 0x10FE ∧ strayed.registers.get 0 = 0xFF ∧
        strayed.screen.get (.wrap 64 95) = false ∧ strayed.calls.addresses = [0x202] := by
    decide +kernel
  have faulted : strayed.step = ⟨.error (.addressOutOfRange 0x10FE 0x10FE), strayed⟩ := by
    have outside := fetch_of_outside (m := strayed) (by rw [place]; decide)
    rw [place] at outside
    apply step_of_error
    rw [instruction, outside]
    rfl
  have reached : strayed.Reachable := reachable_run _ _ _
  obtain ⟨operations, -, registers, pixels, addresses, -⟩ := reached.passes_checks
  refine ⟨congrArg UInt16.toNat place, ?_, ?_, ?_, ?_⟩
  · rw [operations .step, perform, faulted]
  · rw [registers 0x10]
    exact congrArg some value
  · rw [pixels 64 95, dark]
  · rw [addresses, held]

end Machine
end Chip8
