import Chip8.Proofs.Bounds

/-!
# Where a program goes on

An executed instruction moves the program counter in one of four ways: to the address that a
jump or a call names, to the newest return address, past the next instruction, or to it. Each
of them is told here in plain numbers from the machine before the step, with the conditions
of the six skips spelled out. No sum wraps around: an instruction is found below the last cell
of memory only, and an address with a byte added to it is short of the largest word.

## Main definitions

* `Condition.Met` — when a skip is taken.
* `Machine.successor?` — where the program goes on.

## Main statements

* `Machine.successor_of_proceed` — an instruction that is carried out.
* `Machine.pc_step_of_executed` — a step that executes an instruction.
-/

namespace Chip8

/-! ## Skips -/

/-- When a skip is taken. A key is named by the value of a register modulo sixteen. -/
def Condition.Met (v : Registers) (keys : Keypad) : Condition → Prop
  | .isByte x kk => v.get x = kk
  | .isNotByte x kk => v.get x ≠ kk
  | .same x y => v.get x = v.get y
  | .differ x y => v.get x ≠ v.get y
  | .keyDown x => ∃ key : Fin 16, key.val = (v.get x).toNat % 16 ∧ keys.get key = true
  | .keyUp x => ∃ key : Fin 16, key.val = (v.get x).toNat % 16 ∧ keys.get key = false

theorem Keypad.get_named_iff {keys : Keypad} {value : UInt8} {down : Bool} :
    keys.get (named value) = down ↔
      ∃ key : Fin 16, key.val = value.toNat % 16 ∧ keys.get key = down := by
  constructor
  · intro shown
    exact ⟨named value, rfl, shown⟩
  · rintro ⟨key, number, shown⟩
    have same : key = named value := Fin.ext number
    rwa [← same]

theorem Condition.holds_iff_met {condition : Condition} {v : Registers} {keys : Keypad} :
    condition.holds v keys = true ↔ condition.Met v keys := by
  cases condition with
  | isByte x kk => exact beq_iff_eq
  | isNotByte x kk => exact bne_iff_ne
  | same x y => exact beq_iff_eq
  | differ x y => exact bne_iff_ne
  | keyDown x => exact Keypad.get_named_iff
  | keyUp x =>
    rw [holds, Bool.not_eq_true']
    exact Keypad.get_named_iff

instance (v : Registers) (keys : Keypad) (condition : Condition) :
    Decidable (condition.Met v keys) :=
  decidable_of_iff _ Condition.holds_iff_met

namespace Machine

variable {m m' : Machine} {i : Instruction} {flow : Flow} {pc : Word}

/-! ## The next address -/

/-- The address at which the program goes on after an instruction, as a plain number. After a
return there is none if no call has been left open. -/
def successor? (m : Machine) : Instruction → Option ℕ
  | .jump target => some target
  | .call target => some target
  | .jumpPlus target => some (target + (m.registers.get 0).toNat)
  | .ret => m.stack.head?.map UInt16.toNat
  | .skipIf condition =>
    some (if condition.Met m.registers m.keys then m.pc.toNat + 4 else m.pc.toNat + 2)
  | _ => some (m.pc.toNat + 2)

/-- The newest return address is the first one on the stack. -/
theorem head?_stack (range : m.calls.InRange) (held : m.calls.isEmpty = false) :
    m.stack.head? = some m.calls.newest := by
  rw [State.stack, CallStack.addresses_eq_pop_append range held, List.reverse_append]
  rfl

/-- Behind an instruction inside memory even a skip does not wrap around. -/
theorem toNat_pc_add_four (below : m.pc.toNat < 4095) : (m.pc + 4).toNat = m.pc.toNat + 4 := by
  rw [UInt16.toNat_add]
  change (m.pc.toNat + 4) % 65536 = _
  omega

/-- An address with a byte added to it is still a word. -/
theorem toNat_address_add_byte (target : Address) (byte : UInt8) :
    (UInt16.ofNat target + byte.toUInt16).toNat = target + byte.toNat := by
  have small := byte.toNat_lt
  rw [UInt16.toNat_add, toNat_ofNat_address, UInt8.toNat_toUInt16]
  omega

/-- Where an instruction that is carried out lets the program go on. -/
theorem successor_of_proceed (range : m.calls.InRange) (below : m.pc.toNat < 4095)
    (carried : m.execute i = m'.proceed flow) (goes : flow.target? m.pc = some pc) :
    m.successor? i = some pc.toNat := by
  have course := flow_of_proceed carried
  have straight : flow = .next → some (m.pc.toNat + 2) = some pc.toNat := by
    rintro rfl
    have moved : m.pc + 2 = pc := Option.some_inj.1 goes
    rw [← moved, toNat_pc_add_two below]
  cases i with
  | jump target | call target =>
    obtain rfl : flow = .jump (.ofNat target) := course
    have moved : .ofNat target = pc := Option.some_inj.1 goes
    rw [← moved, toNat_ofNat_address]
    rfl
  | jumpPlus target =>
    obtain rfl : flow = .jump (.ofNat target + (m.registers.get 0).toUInt16) := course
    have moved : .ofNat target + (m.registers.get 0).toUInt16 = pc := Option.some_inj.1 goes
    rw [← moved, toNat_address_add_byte]
    rfl
  | ret =>
    obtain ⟨held, -, rfl⟩ := leave_eq_proceed_iff.1 carried
    have moved : m.calls.newest = pc := Option.some_inj.1 goes
    change m.stack.head?.map UInt16.toNat = _
    rw [head?_stack range held, ← moved, Option.map_some]
  | skipIf condition =>
    change some (if _ then _ else _) = _
    by_cases met : condition.Met m.registers m.keys
    · obtain rfl : flow = .skip := course.trans (if_pos (Condition.holds_iff_met.2 met))
      have moved : m.pc + 4 = pc := Option.some_inj.1 goes
      rw [if_pos met, ← moved, toNat_pc_add_four below]
    · rw [if_neg met]
      exact straight (course.trans (if_neg (mt Condition.holds_iff_met.1 met)))
  | awaitKey x =>
    -- A wait that goes on has found a key.
    by_cases up : m.keys.lowest? = none
    · obtain rfl : flow = .wait := course.trans (if_pos up)
      cases goes
    · exact straight (course.trans (if_neg up))
  | _ => exact straight course

/-- The new program counter after every executed instruction. Jumps and calls lead to the
address that they name, with `V0` added for one of them, and returns to the newest address on
the stack; a skip that is taken leads past the next instruction; and everything else, a skip
that is not taken and a key wait that has found a key included, leads to the next one. The
registers, the keys and the stack are those before the step. -/
theorem pc_step_of_executed (m : Machine) (i : Instruction) (range : m.calls.InRange)
    (executed : m.step.result = .ok (.executed i)) :
    m.successor? i = some m.step.machine.pc.toNat := by
  have ends := m.stepped
  generalize m.step = out at executed ends
  cases ends with
  | faulted fault => cases executed
  | waiting x found up => cases executed
  | executed i m' flow pc found carried goes =>
    cases executed
    exact successor_of_proceed (m := { m with redraw := false }) range (pc_lt_of_instruction found)
      carried goes

/-- A machine at the last word of memory, which skips if a key is down. The register names
the key by a value above fifteen. -/
def brink : Machine :=
  { memory := Block.write Memory.initial 0xFFE [0xE5, 0x9E]
    registers := Registers.zero.set 5 0xF3
    pc := 0xFFE
    keys := Keypad.ofList [3]
    collision := .lastBit
    noise := { bytes := fun k => .ofNat k } }

theorem pc_step_of_executed_brink :
    brink.step.result = .ok (.executed (.skipIf (.keyDown 5))) ∧
      brink.step.machine.pc.toNat = 0x1002 := by
  have range : brink.calls.InRange := by decide +kernel
  obtain ⟨executed, skips⟩ : brink.step.result = .ok (.executed (.skipIf (.keyDown 5))) ∧
      brink.successor? (.skipIf (.keyDown 5)) = some 0x1002 := by
    decide +kernel
  refine ⟨executed, ?_⟩
  have goes := pc_step_of_executed brink _ range executed
  rw [skips] at goes
  exact (Option.some_inj.1 goes).symm

end Machine
end Chip8
