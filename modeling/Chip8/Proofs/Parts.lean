import Chip8.Proofs.Execution

/-!
# The parts of a machine and who writes them

Every instruction has a short list of parts of the machine that it may write. Whatever is
not on the list stays as it is, also when the instruction is refused, so a statement about
one part needs to know only the instructions that list it.

## Main definitions

* `Part`, `Part.get` — a part of a machine, and what it holds.
* `Instruction.writes` — the parts that an instruction may write.
-/

namespace Chip8

/-- A part of a machine. The program counter is not one of them, since no instruction sets
it by itself: the step does, when the instruction has been carried out. -/
inductive Part where
  | memory
  | register (x : Register)
  | index
  | calls
  | screen
  | delay
  | sound
  | keys
  | redraw
  | collision
  | noise
  deriving DecidableEq

namespace Part

/-- What a part can hold. -/
def Value : Part → Type
  | .memory => Memory
  | .register _ => UInt8
  | .index => Word
  | .calls => CallStack
  | .screen => Screen
  | .delay => UInt8
  | .sound => UInt8
  | .keys => Keypad
  | .redraw => Bool
  | .collision => CollisionRule
  | .noise => Noise

/-- What a part holds in a machine. -/
def get (m : Machine) : (p : Part) → p.Value
  | .memory => m.memory
  | .register x => m.registers.get x
  | .index => m.index
  | .calls => m.calls
  | .screen => m.screen
  | .delay => m.delay
  | .sound => m.sound
  | .keys => m.keys
  | .redraw => m.redraw
  | .collision => m.collision
  | .noise => m.noise

/-- A machine in which a part holds another value. -/
def set (m : Machine) : (p : Part) → p.Value → Machine
  | .memory, value => { m with memory := value }
  | .register x, value => m.setRegister x value
  | .index, value => { m with index := value }
  | .calls, value => { m with calls := value }
  | .screen, value => { m with screen := value }
  | .delay, value => { m with delay := value }
  | .sound, value => { m with sound := value }
  | .keys, value => { m with keys := value }
  | .redraw, value => { m with redraw := value }
  | .collision, value => { m with collision := value }
  | .noise, value => { m with noise := value }

/-- Setting a part leaves every other one alone. -/
theorem get_set_of_ne {p q : Part} (other : q ≠ p) (m : Machine) (value : p.Value) :
    q.get (p.set m value) = q.get m := by
  cases p with
  | register x =>
    cases q with
    | register r => exact Registers.get_set_of_ne _ (fun same => other (congrArg _ same)) _
    | _ => rfl
  | _ => cases q <;> first | rfl | exact absurd rfl other

end Part

/-- Whether an operation on two registers reports in the flag register. -/
def Alu.reports : Alu → Bool
  | .copy | .or | .and | .xor => false
  | .add | .sub | .shiftRight | .subFrom | .shiftLeft => true

/-- The parts that an instruction may write. -/
def Instruction.writes : Instruction → List Part
  | .sys _ | .jump _ | .jumpPlus _ | .skipIf _ => []
  | .clear => [.screen, .redraw]
  | .ret | .call _ => [.calls]
  | .setByte x _ | .addByte x _ | .readDelay x | .awaitKey x => [.register x]
  | .alu op x _ => if op.reports then [.register x, .register Registers.flag] else [.register x]
  | .setIndex _ | .addIndex _ | .glyph _ => [.index]
  | .random x _ => [.register x, .noise]
  | .draw _ _ _ => [.register Registers.flag, .screen, .redraw]
  | .setDelay _ => [.delay]
  | .setSound _ => [.sound]
  | .decimal _ | .save _ => [.memory]
  | .restore x => ((List.finRange 16).filter (· ≤ x)).map .register

namespace Instruction

variable {i : Instruction}

theorem calls_mem_writes : Part.calls ∈ i.writes ↔ i = .ret ∨ ∃ target, i = .call target := by
  cases i with
  | alu op x y => cases reports : op.reports <;> simp [writes, reports]
  | _ => simp [writes]

theorem memory_mem_writes :
    Part.memory ∈ i.writes ↔ (∃ x, i = .decimal x) ∨ ∃ x, i = .save x := by
  cases i with
  | alu op x y => cases reports : op.reports <;> simp [writes, reports]
  | _ => simp [writes]

theorem screen_mem_writes :
    Part.screen ∈ i.writes ↔ i = .clear ∨ ∃ x y height, i = .draw x y height := by
  cases i with
  | alu op x y => cases reports : op.reports <;> simp [writes, reports]
  | _ => simp [writes]

theorem noise_mem_writes : Part.noise ∈ i.writes ↔ ∃ x mask, i = .random x mask := by
  cases i with
  | alu op x y => cases reports : op.reports <;> simp [writes, reports]
  | _ => simp [writes]

theorem delay_mem_writes : Part.delay ∈ i.writes ↔ ∃ x, i = .setDelay x := by
  cases i with
  | alu op x y => cases reports : op.reports <;> simp [writes, reports]
  | _ => simp [writes]

theorem sound_mem_writes : Part.sound ∈ i.writes ↔ ∃ x, i = .setSound x := by
  cases i with
  | alu op x y => cases reports : op.reports <;> simp [writes, reports]
  | _ => simp [writes]

end Instruction

theorem Alu.flag?_eq_none {op : Alu} (silent : op.reports = false) (a b : UInt8) :
    op.flag? a b = none := by
  cases op with
  | copy | or | and | xor => rfl
  | add | sub | shiftRight | subFrom | shiftLeft => cases silent

namespace Machine

variable {m m' : Machine} {i : Instruction} {p : Part}

/-! ## Frames

What an operation leaves alone, it leaves alone also when it is refused, so these
statements need not know how the operation ended. -/

theorem Ends.frame {β : Type} {out : Outcome Fault Flow} (ends : m.Ends out) (f : Machine → β)
    (keeps : ∀ m' flow, out = m'.proceed flow → f m' = f m) : f out.machine = f m := by
  cases ends with
  | refused fault => rfl
  | carried m' flow => exact keeps m' flow rfl

theorem frame_withBlock {β : Type} (f : Machine → β) {len : ℕ} {next : List UInt8 → Machine}
    (keeps : ∀ block, Block.read? m.memory m.index.toNat len = some block →
      f (next block) = f m) : f (m.withBlock len next).machine = f m := by
  refine (ends_withBlock m len next).frame f ?_
  intro m' flow h
  obtain ⟨block, read, rfl, -⟩ := withBlock_eq_proceed_iff.1 h
  exact keeps block read

theorem frame_takeKey {β : Type} (f : Machine → β) {x : Register}
    (keeps : ∀ value, f (m.setRegister x value) = f m) : f (m.takeKey x).machine = f m := by
  refine (ends_takeKey m x).frame f ?_
  intro m' flow h
  rcases takeKey_eq_proceed_iff.1 h with ⟨-, rfl, -⟩ | ⟨key, -, rfl, -⟩
  · rfl
  · exact keeps _

theorem frame_enter {β : Type} (f : Machine → β) {target : Address}
    (keeps : ∀ calls, f { m with calls := calls } = f m) : f (m.enter target).machine = f m := by
  refine (ends_enter m target).frame f ?_
  intro m' flow h
  obtain ⟨-, rfl, -⟩ := enter_eq_proceed_iff.1 h
  exact keeps _

theorem frame_leave {β : Type} (f : Machine → β)
    (keeps : ∀ calls, f { m with calls := calls } = f m) : f m.leave.machine = f m := by
  refine (ends_leave m).frame f ?_
  intro m' flow h
  obtain ⟨-, rfl, -⟩ := leave_eq_proceed_iff.1 h
  exact keeps _

/-! ## Writing parts -/

@[simp] theorem get_with_pc (m : Machine) (p : Part) (pc : Word) :
    p.get { m with pc := pc } = p.get m := by
  cases p <;> rfl

/-- Of the registers only those matter that hold another value afterwards. -/
theorem get_with_registers {v : Registers}
    (same : ∀ r, p = .register r → v.get r = m.registers.get r) :
    p.get { m with registers := v } = p.get m := by
  cases p with
  | register r => exact same r rfl
  | _ => rfl

/-- An operation on two registers writes the first, and the flag register if it reports. -/
theorem get_operate_of_spared {op : Alu} {x y r : Register}
    (spared : Part.register r ∉ (Instruction.alu op x y).writes) :
    (m.registers.operate op x y).get r = m.registers.get r := by
  rw [Registers.get_operate]
  cases reports : op.reports with
  | true =>
    obtain ⟨other, unflagged⟩ : r ≠ x ∧ r ≠ Registers.flag := by
      simpa [Instruction.writes, reports] using spared
    rw [if_neg other, if_neg unflagged]
  | false =>
    have other : r ≠ x := by simpa [Instruction.writes, reports] using spared
    rw [if_neg other, Alu.flag?_eq_none reports]
    split <;> rfl

/-- Fetching a run of registers leaves those behind it alone. -/
theorem get_write_of_spared {x r : Register} {values : List UInt8}
    (length : values.length = x + 1)
    (spared : Part.register r ∉ (Instruction.restore x).writes) :
    Vector.get (Block.write m.registers 0 values) r = m.registers.get r := by
  have behind : x < r := by simpa [Instruction.writes] using spared
  refine Block.getElem_write_of_outside m.registers r.isLt (.inr ?_)
  rw [Nat.zero_add, length]
  exact behind

/-- An instruction leaves every part alone that it does not list. -/
theorem get_execute (m : Machine) (spared : p ∉ i.writes) :
    p.get (m.execute i).machine = p.get m := by
  have only : ∀ {q : Part}, i.writes = [q] → p ≠ q := by
    rintro q e rfl
    rw [e] at spared
    exact spared (List.mem_singleton_self p)
  cases i with
  | sys target => rfl
  | jump target => rfl
  | jumpPlus target => rfl
  | skipIf condition => rfl
  | clear =>
    obtain ⟨screen, redraw⟩ : p ≠ .screen ∧ p ≠ .redraw := by
      simpa [Instruction.writes] using spared
    exact (Part.get_set_of_ne redraw (Part.set m .screen .blank) true).trans
      (Part.get_set_of_ne screen m .blank)
  | ret => exact frame_leave p.get (Part.get_set_of_ne (only rfl) m)
  | call target => exact frame_enter p.get (Part.get_set_of_ne (only rfl) m)
  | setByte x kk => exact Part.get_set_of_ne (only rfl) m _
  | addByte x kk => exact Part.get_set_of_ne (only rfl) m _
  | alu op x y =>
    refine get_with_registers ?_
    rintro r rfl
    exact get_operate_of_spared spared
  | setIndex target => exact Part.get_set_of_ne (only rfl) m _
  | random x mask =>
    obtain ⟨register, noise⟩ : p ≠ .register x ∧ p ≠ .noise := by
      simpa [Instruction.writes] using spared
    exact (Part.get_set_of_ne noise (m.setRegister x _) _).trans (Part.get_set_of_ne register m _)
  | draw x y height =>
    obtain ⟨flag, screen, redraw⟩ : p ≠ .register Registers.flag ∧ p ≠ .screen ∧ p ≠ .redraw := by
      simpa [Instruction.writes] using spared
    refine frame_withBlock p.get fun rows _ => ?_
    calc
      _ = p.get (Part.set (m.setRegister Registers.flag _) .screen _) :=
        Part.get_set_of_ne redraw _ true
      _ = p.get (m.setRegister Registers.flag _) := Part.get_set_of_ne screen _ _
      _ = p.get m := Part.get_set_of_ne flag m _
  | readDelay x => exact Part.get_set_of_ne (only rfl) m _
  | awaitKey x => exact frame_takeKey p.get (Part.get_set_of_ne (only rfl) m)
  | setDelay x => exact Part.get_set_of_ne (only rfl) m _
  | setSound x => exact Part.get_set_of_ne (only rfl) m _
  | addIndex x => exact Part.get_set_of_ne (only rfl) m _
  | glyph x => exact Part.get_set_of_ne (only rfl) m _
  | decimal x => exact frame_withBlock p.get fun _ _ => Part.get_set_of_ne (only rfl) m _
  | save x => exact frame_withBlock p.get fun _ _ => Part.get_set_of_ne (only rfl) m _
  | restore x =>
    refine frame_withBlock p.get fun values read => get_with_registers ?_
    rintro r rfl
    exact get_write_of_spared (Block.length_of_read? read) spared

end Machine
end Chip8
