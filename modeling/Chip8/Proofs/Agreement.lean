import Chip8.Proofs.Parts

/-!
# What an instruction takes as its inputs

Every instruction has a short list of parts that it takes as inputs. What it does, where
the program goes on and what the parts it writes hold afterwards is told from these parts
alone, with one exception: what a draw instruction leaves in the flag register depends on
the collision rule. So two machines that agree on the inputs are told apart by the
instruction in no other part than those in which they differed before.

## Main definitions

* `Part.Agree` — two machines agree on a part.
* `Instruction.inputs` — the parts that an instruction takes as inputs.
* `Instruction.ruled` — the part that the collision rule has a say in.
* `Outcome.Alike` — outcomes that cannot be told apart on some parts.

## Main statements

* `Machine.alike_execute` — on machines that agree on its inputs an instruction ends alike.
-/

namespace Chip8

/-! ## Agreement -/

/-- The bytes that have not been taken yet. -/
def Noise.upcoming (noise : Noise) (k : ℕ) : UInt8 :=
  noise.bytes (noise.taken + k)

theorem Noise.upcoming_advance (noise : Noise) :
    noise.advance.upcoming = fun k => noise.upcoming (k + 1) := by
  funext k
  rw [upcoming, upcoming, bytes_advance, taken_advance, Nat.add_assoc, Nat.add_comm 1 k]

namespace Part

variable {m m' m'' : Machine} {p : Part}

theorem get_set_self (p : Part) (m : Machine) (value : p.Value) :
    p.get (p.set m value) = value := by
  cases p with
  | register x => exact Registers.get_set_self _ _ _
  | _ => rfl

/-- Two machines agree on a part: they hold the same there. Of the random bytes only those
count that are still to come. -/
def Agree (m m' : Machine) : Part → Prop
  | .noise => m.noise.upcoming = m'.noise.upcoming
  | p => p.get m = p.get m'

theorem Agree.of_get (same : p.get m = p.get m') : p.Agree m m' := by
  cases p with
  | noise => exact congrArg Noise.upcoming same
  | _ => exact same

theorem Agree.trans (h : p.Agree m m') (h' : p.Agree m' m'') : p.Agree m m'' := by
  cases p <;> exact Eq.trans h h'

/-- Machines in which the same value is put into a part agree on as much as before. -/
theorem Agree.set (h : p.Agree m m') (q : Part) {value value' : q.Value}
    (same : value = value') : p.Agree (q.set m value) (q.set m' value') := by
  subst same
  by_cases here : p = q
  · subst here
    exact .of_get (by rw [get_set_self, get_set_self])
  · have kept : ∀ m : Machine, p.get (q.set m value) = p.get m := by
      intro m
      exact get_set_of_ne here m value
    exact (Agree.of_get (kept m)).trans (h.trans (.of_get (kept m').symm))

end Part

/-! ## Inputs -/

/-- The parts that a condition looks at. -/
def Condition.inputs : Condition → List Part
  | .isByte x _ | .isNotByte x _ => [.register x]
  | .same x y | .differ x y => [.register x, .register y]
  | .keyDown x | .keyUp x => [.register x, .keys]

/-- The registers among `Vx` and `Vy` that an operation uses. -/
def Alu.inputs (op : Alu) (x y : Register) : List Part :=
  match op with
  | .copy => [.register y]
  | .shiftRight | .shiftLeft => [.register x]
  | .or | .and | .xor | .add | .sub | .subFrom => [.register x, .register y]

/-- The parts that an instruction takes as inputs. -/
def Instruction.inputs : Instruction → List Part
  | .sys _ | .clear | .jump _ | .setByte _ _ | .setIndex _ => []
  | .ret | .call _ => [.calls]
  | .skipIf condition => condition.inputs
  | .alu op x y => op.inputs x y
  | .jumpPlus _ => [.register 0]
  | .random _ _ => [.noise]
  | .draw x y _ => [.memory, .index, .register x, .register y, .screen]
  | .readDelay _ => [.delay]
  | .awaitKey _ => [.keys]
  | .addByte x _ | .setDelay x | .setSound x | .glyph x => [.register x]
  | .addIndex x => [.index, .register x]
  | .decimal x => [.memory, .index, .register x]
  | .save x => .memory :: .index :: ((List.finRange 16).filter (· ≤ x)).map .register
  | .restore _ => [.memory, .index]

/-- The part whose value afterwards depends on the collision rule as well, and on what it
held before. -/
def Instruction.ruled : Instruction → List Part
  | .draw _ _ _ => [.register Registers.flag]
  | _ => []

/-- Two outcomes are alike on some parts: they have the same result, and the machines that
are left agree on these parts. -/
structure Outcome.Alike {α : Type} (P : Part → Prop) (out out' : Outcome Fault α) : Prop where
  result : out.result = out'.result
  parts : ∀ p, P p → p.Agree out.machine out'.machine

namespace Machine

variable {m m' : Machine} {i : Instruction} {p : Part} {P : Part → Prop}

/-! ## The operations that can go either way -/

theorem alike_proceed {flow flow' : Flow} (same : flow = flow') (parts : ∀ p, P p → p.Agree m m') :
    Outcome.Alike P (m.proceed flow) (m'.proceed flow') :=
  ⟨congrArg Except.ok same, parts⟩

theorem alike_refuse {fault fault' : Fault} (same : fault = fault')
    (parts : ∀ p, P p → p.Agree m m') : Outcome.Alike P (m.refuse fault) (m'.refuse fault') :=
  ⟨congrArg Except.error same, parts⟩

/-- Machines that agree on memory and `I` find the same cells at `I`. -/
theorem alike_withBlock (pc : m.pc = m'.pc) (memory : m.memory = m'.memory)
    (index : m.index = m'.index) (parts : ∀ p, P p → p.Agree m m') {len : ℕ}
    {next next' : List UInt8 → Machine}
    (carried : ∀ block, Block.read? m.memory m.index.toNat len = some block →
      ∀ p, P p → p.Agree (next block) (next' block)) :
    Outcome.Alike P (m.withBlock len next) (m'.withBlock len next') := by
  cases read : Block.read? m.memory m.index.toNat len with
  | none =>
    have read' := read
    rw [memory, index] at read'
    rw [withBlock_of_none read, withBlock_of_none read', pc, index]
    exact alike_refuse rfl parts
  | some block =>
    have read' := read
    rw [memory, index] at read'
    rw [withBlock_of_some read, withBlock_of_some read']
    exact alike_proceed rfl (carried block read)

theorem alike_leave (pc : m.pc = m'.pc) (calls : m.calls = m'.calls)
    (parts : ∀ p, P p → p.Agree m m') : Outcome.Alike P m.leave m'.leave := by
  cases empty : m.calls.isEmpty with
  | true =>
    rw [leave_of_empty empty, leave_of_empty (calls ▸ empty), pc]
    exact alike_refuse rfl parts
  | false =>
    rw [leave_of_held empty, leave_of_held (calls ▸ empty), calls]
    exact alike_proceed rfl fun p h => (parts p h).set .calls rfl

theorem alike_enter (pc : m.pc = m'.pc) (calls : m.calls = m'.calls)
    (parts : ∀ p, P p → p.Agree m m') (target : Address) :
    Outcome.Alike P (m.enter target) (m'.enter target) := by
  cases full : m.calls.isFull with
  | true =>
    rw [enter_of_full full, enter_of_full (calls ▸ full), pc]
    exact alike_refuse rfl parts
  | false =>
    rw [enter_of_room full, enter_of_room (calls ▸ full), calls, pc]
    exact alike_proceed rfl fun p h => (parts p h).set .calls rfl

theorem alike_takeKey (keys : m.keys = m'.keys) (parts : ∀ p, P p → p.Agree m m')
    (x : Register) : Outcome.Alike P (m.takeKey x) (m'.takeKey x) := by
  cases taken : m.keys.lowest? with
  | none =>
    rw [takeKey_of_up taken, takeKey_of_up (keys ▸ taken)]
    exact alike_proceed rfl parts
  | some key =>
    rw [takeKey_of_down taken, takeKey_of_down (keys ▸ taken)]
    exact alike_proceed rfl fun p h => (parts p h).set (.register x) rfl

/-! ## The new values -/

theorem agree_with_registers {v v' : Registers} (h : p.Agree m m')
    (same : ∀ r, p = .register r → v.get r = v'.get r) :
    p.Agree { m with registers := v } { m' with registers := v' } := by
  cases p with
  | register r => exact same r rfl
  | _ => exact h

theorem agree_setRegister {x : Register} {a b : UInt8} (h : p.Agree m m')
    (same : p = .register x → a = b) : p.Agree (m.setRegister x a) (m'.setRegister x b) := by
  refine agree_with_registers h ?_
  rintro r rfl
  by_cases at_x : r = x
  · subst at_x
    rw [Registers.get_set_self, Registers.get_set_self, same rfl]
  · rw [Registers.get_set_of_ne _ at_x, Registers.get_set_of_ne _ at_x]
    exact h

theorem agree_with_noise {noise noise' : Noise} (h : p.Agree m m')
    (same : noise.upcoming = noise'.upcoming) :
    p.Agree { m with noise := noise } { m' with noise := noise' } := by
  cases p with
  | noise => exact same
  | _ => exact h

/-- An operation uses no other registers than its inputs. -/
theorem alu_of_inputs {op : Alu} {x y : Register}
    (inputs : ∀ p ∈ op.inputs x y, p.Agree m m') :
    op.result (m.registers.get x) (m.registers.get y) =
        op.result (m'.registers.get x) (m'.registers.get y) ∧
      op.flag? (m.registers.get x) (m.registers.get y) =
        op.flag? (m'.registers.get x) (m'.registers.get y) := by
  have value : ∀ {r : Register}, Part.register r ∈ op.inputs x y →
      m.registers.get r = m'.registers.get r := fun mem => inputs _ mem
  cases op with
  | copy => exact ⟨value (by simp [Alu.inputs]), rfl⟩
  | shiftRight | shiftLeft =>
    simp only [Alu.result, Alu.flag?, value (r := x) (by simp [Alu.inputs]), and_self]
  | or | and | xor | add | sub | subFrom =>
    rw [value (r := x) (by simp [Alu.inputs]), value (r := y) (by simp [Alu.inputs])]
    exact ⟨rfl, rfl⟩

theorem agree_operate {op : Alu} {x y : Register} (inputs : ∀ p ∈ op.inputs x y, p.Agree m m')
    (h : p.Agree m m') :
    p.Agree { m with registers := m.registers.operate op x y }
      { m' with registers := m'.registers.operate op x y } := by
  obtain ⟨result, flag⟩ := alu_of_inputs inputs
  refine agree_with_registers h ?_
  rintro r rfl
  have own : m.registers.get r = m'.registers.get r := h
  rw [Registers.get_operate, Registers.get_operate, result, flag, own]

/-- A condition looks at no other parts than its inputs. -/
theorem holds_of_inputs {condition : Condition}
    (inputs : ∀ p ∈ condition.inputs, p.Agree m m') :
    condition.holds m.registers m.keys = condition.holds m'.registers m'.keys := by
  have value : ∀ {x : Register}, Part.register x ∈ condition.inputs →
      m.registers.get x = m'.registers.get x := fun mem => inputs _ mem
  cases condition with
  | isByte x kk | isNotByte x kk =>
    simp only [Condition.holds, value (x := x) (by simp [Condition.inputs])]
  | same x y | differ x y =>
    simp only [Condition.holds, value (x := x) (by simp [Condition.inputs]),
      value (x := y) (by simp [Condition.inputs])]
  | keyDown x | keyUp x =>
    have keys : m.keys = m'.keys := inputs .keys (by simp [Condition.inputs])
    simp only [Condition.holds, value (x := x) (by simp [Condition.inputs]), keys]

/-- Drawing leaves the same screen under every rule and whatever the flag register held. -/
theorem screen_draw (rule rule' : CollisionRule) (screen : Screen) (held held' : UInt8) (x y : ℕ)
    (rows : List UInt8) :
    (Sprite.draw rule screen held x y rows).1 = (Sprite.draw rule' screen held' x y rows).1 := by
  apply Screen.ext_cell
  intro p
  rw [Sprite.draw, Sprite.draw, Sprite.cell_paint, Sprite.cell_paint]

/-- The registers that an instruction saves are its inputs. -/
theorem saved_of_inputs {x : Register} (inputs : ∀ p ∈ (Instruction.save x).inputs, p.Agree m m') :
    m.registers.toList.take (x + 1) = m'.registers.toList.take (x + 1) := by
  refine List.ext_getElem (by simp) ?_
  intro k hk hk'
  rw [List.length_take, Vector.length_toList] at hk
  let r : Register := ⟨k, by omega⟩
  have low : r ≤ x := Nat.le_of_lt_succ (by change k < x + 1; omega)
  have value : m.registers.get r = m'.registers.get r :=
    inputs (.register r) (by simpa [Instruction.inputs] using low)
  rw [List.getElem_take, List.getElem_take, Vector.getElem_toList, Vector.getElem_toList]
  exact value

/-! ## Instructions -/

theorem alike_draw {x y : Register} {height : Fin 16} (pc : m.pc = m'.pc)
    (inputs : ∀ p ∈ (Instruction.draw x y height).inputs, p.Agree m m') :
    Outcome.Alike (fun p => p.Agree m m' ∧
        (p = .register Registers.flag → m.collision = m'.collision))
      (m.drawSprite x y height) (m'.drawSprite x y height) := by
  have memory : m.memory = m'.memory := inputs .memory (by simp [Instruction.inputs])
  have index : m.index = m'.index := inputs .index (by simp [Instruction.inputs])
  have screen : m.screen = m'.screen := inputs .screen (by simp [Instruction.inputs])
  have column : m.registers.get x = m'.registers.get x :=
    inputs (.register x) (by simp [Instruction.inputs])
  have row : m.registers.get y = m'.registers.get y :=
    inputs (.register y) (by simp [Instruction.inputs])
  refine alike_withBlock pc memory index (fun p h => h.1) ?_
  rintro rows - p ⟨h, rule⟩
  have pixels : (Sprite.draw m.collision m.screen (m.registers.get Registers.flag)
        (m.registers.get x).toNat (m.registers.get y).toNat rows).1 =
      (Sprite.draw m'.collision m'.screen (m'.registers.get Registers.flag)
        (m'.registers.get x).toNat (m'.registers.get y).toNat rows).1 := by
    rw [screen, column, row]
    exact screen_draw _ _ _ _ _ _ _ _
  -- The flag register is the only part that the rule has a say in.
  refine ((agree_setRegister h ?_).set .screen pixels).set .redraw rfl
  rintro rfl
  have held : m.registers.get Registers.flag = m'.registers.get Registers.flag := h
  rw [rule rfl, screen, held, column, row]

/-- On machines that agree on its inputs and stand at the same address an instruction ends
alike: with the same result, and agreement on all parts on which they agreed before. What a
draw instruction leaves in the flag register is excepted, unless they follow the same rule. -/
theorem alike_execute (pc : m.pc = m'.pc) (inputs : ∀ p ∈ i.inputs, p.Agree m m') :
    Outcome.Alike (fun p => p.Agree m m' ∧ (p ∈ i.ruled → m.collision = m'.collision))
      (m.execute i) (m'.execute i) := by
  have value : ∀ {r : Register}, Part.register r ∈ i.inputs →
      m.registers.get r = m'.registers.get r := fun mem => inputs _ mem
  have before : ∀ p, p.Agree m m' ∧ (p ∈ i.ruled → m.collision = m'.collision) →
      p.Agree m m' := fun p h => h.1
  cases i with
  | sys target | jump target => exact alike_proceed rfl before
  | clear =>
    have blank : Screen.blank = Screen.blank := rfl
    exact alike_proceed rfl fun p h => (h.1.set .screen blank).set .redraw (Eq.refl true)
  | ret => exact alike_leave pc (inputs .calls (by simp [Instruction.inputs])) before
  | call target => exact alike_enter pc (inputs .calls (by simp [Instruction.inputs])) before target
  | skipIf condition =>
    refine alike_proceed ?_ before
    rw [holds_of_inputs inputs]
  | setByte x kk => exact alike_proceed rfl fun p h => h.1.set (.register x) rfl
  | addByte x kk =>
    have same := value (r := x) (by simp [Instruction.inputs])
    exact alike_proceed rfl fun p h => h.1.set (.register x) (congrArg (· + kk) same)
  | alu op x y => exact alike_proceed rfl fun p h => agree_operate inputs h.1
  | setIndex target => exact alike_proceed rfl fun p h => h.1.set .index rfl
  | jumpPlus target =>
    refine alike_proceed ?_ before
    rw [value (r := 0) (by simp [Instruction.inputs])]
  | random x mask =>
    have upcoming : m.noise.upcoming = m'.noise.upcoming :=
      inputs .noise (by simp [Instruction.inputs])
    have next : m.noise.next = m'.noise.next := congrFun upcoming 0
    refine alike_proceed rfl fun p h => ?_
    refine agree_with_noise (h.1.set (.register x) (congrArg (· &&& mask) next)) ?_
    rw [Noise.upcoming_advance, Noise.upcoming_advance, upcoming]
  | draw x y height =>
    have ends := alike_draw pc inputs
    refine ⟨ends.result, fun p h => ends.parts p ⟨h.1, ?_⟩⟩
    rintro rfl
    exact h.2 (by simp [Instruction.ruled])
  | readDelay x =>
    have delay : m.delay = m'.delay := inputs .delay (by simp [Instruction.inputs])
    exact alike_proceed rfl fun p h => h.1.set (.register x) delay
  | awaitKey x => exact alike_takeKey (inputs .keys (by simp [Instruction.inputs])) before x
  | setDelay x =>
    have same := value (r := x) (by simp [Instruction.inputs])
    exact alike_proceed rfl fun p h => h.1.set .delay same
  | setSound x =>
    have same := value (r := x) (by simp [Instruction.inputs])
    exact alike_proceed rfl fun p h => h.1.set .sound same
  | addIndex x =>
    have index : m.index = m'.index := inputs .index (by simp [Instruction.inputs])
    have same := value (r := x) (by simp [Instruction.inputs])
    exact alike_proceed rfl fun p h => h.1.set .index (by rw [index, same])
  | glyph x =>
    have same := value (r := x) (by simp [Instruction.inputs])
    exact alike_proceed rfl fun p h => h.1.set .index (congrArg Font.address same)
  | decimal x =>
    have memory : m.memory = m'.memory := inputs .memory (by simp [Instruction.inputs])
    have index : m.index = m'.index := inputs .index (by simp [Instruction.inputs])
    have same := value (r := x) (by simp [Instruction.inputs])
    refine alike_withBlock pc memory index before fun _ _ p h => h.1.set .memory ?_
    rw [memory, index, same]
  | save x =>
    have memory : m.memory = m'.memory := inputs .memory (by simp [Instruction.inputs])
    have index : m.index = m'.index := inputs .index (by simp [Instruction.inputs])
    refine alike_withBlock pc memory index before fun _ _ p h => h.1.set .memory ?_
    rw [memory, index, saved_of_inputs inputs]
  | restore x =>
    have memory : m.memory = m'.memory := inputs .memory (by simp [Instruction.inputs])
    have index : m.index = m'.index := inputs .index (by simp [Instruction.inputs])
    refine alike_withBlock pc memory index before fun values _ p h => ?_
    refine agree_with_registers h.1 ?_
    rintro r rfl
    have own : m.registers[r.val] = m'.registers[r.val] := h.1
    change (Block.write m.registers 0 values)[r.val] = (Block.write m'.registers 0 values)[r.val]
    rw [Block.getElem_write, Block.getElem_write, own]

end Machine
end Chip8
