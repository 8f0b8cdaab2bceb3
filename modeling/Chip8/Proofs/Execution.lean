import Chip8.Machine.Execution
import Mathlib.Tactic.Common

/-!
# What executing an instruction can do

An instruction is either refused, and then the machine is the one it was given, or
carried out. This file says which of the two happens, and inverts the four operations
that can go either way, so that no other file has to open them.

## Main definitions

* `Instruction.blockLength` — how many cells at `I` an instruction works on.
* `Machine.Admits` — nothing stands in the way of an instruction.
-/

namespace Chip8

/-- The number of cells at `I` that an instruction works on. -/
def Instruction.blockLength : Instruction → ℕ
  | .draw _ _ height => height
  | .decimal _ => 3
  | .save x => x + 1
  | .restore x => x + 1
  | _ => 0

namespace Machine

variable {m m' : Machine} {i : Instruction} {flow : Flow} {fault : Fault}

/-! ## The two endings -/

@[simp] theorem proceed_inj {flow' : Flow} :
    m.proceed flow = m'.proceed flow' ↔ m = m' ∧ flow = flow' := by
  constructor
  · intro h
    cases h
    exact ⟨rfl, rfl⟩
  · rintro ⟨rfl, rfl⟩
    rfl

@[simp] theorem refuse_ne_proceed : m.refuse fault ≠ m'.proceed flow := by
  intro h
  cases h

/-! ## The operations that can go either way -/

theorem withBlock_of_none {len : ℕ} (missing : Block.read? m.memory m.index.toNat len = none)
    (next : List UInt8 → Machine) :
    m.withBlock len next =
      m.refuse (.addressOutOfRange (max m.index.toNat Layout.memorySize) m.pc) := by
  rw [withBlock, missing]

theorem withBlock_of_some {len : ℕ} {block : List UInt8}
    (read : Block.read? m.memory m.index.toNat len = some block)
    (next : List UInt8 → Machine) : m.withBlock len next = (next block).proceed .next := by
  rw [withBlock, read]

theorem enter_of_full (full : m.calls.isFull = true) (target : Address) :
    m.enter target = m.refuse (.stackOverflow m.pc) :=
  if_pos full

theorem enter_of_room (room : m.calls.isFull = false) (target : Address) :
    m.enter target =
      proceed { m with calls := m.calls.push (m.pc + 2) } (.jump (.ofNat target)) := by
  rw [enter, room]
  rfl

theorem leave_of_empty (empty : m.calls.isEmpty = true) :
    m.leave = m.refuse (.stackUnderflow m.pc) :=
  if_pos empty

theorem leave_of_held (held : m.calls.isEmpty = false) :
    m.leave = proceed { m with calls := m.calls.pop } (.jump m.calls.newest) := by
  rw [leave, held]
  rfl

theorem takeKey_of_up (up : m.keys.lowest? = none) (x : Register) :
    m.takeKey x = m.proceed .wait := by
  rw [takeKey, up]

theorem takeKey_of_down {key : Fin 16} (down : m.keys.lowest? = some key) (x : Register) :
    m.takeKey x = (m.setRegister x (.ofNat key)).proceed .next := by
  rw [takeKey, down]

/-- A run of cells that reaches past memory is refused, and the fault names its first
cell outside. -/
theorem withBlock_of_outside {len : ℕ} (pos : 0 < len) (beyond : 4096 < m.index.toNat + len)
    (next : List UInt8 → Machine) :
    m.withBlock len next =
      m.refuse (.addressOutOfRange (max m.index.toNat Layout.memorySize) m.pc) :=
  withBlock_of_none (Block.read?_eq_none_iff.2 ⟨pos, beyond⟩) next

/-- A run of cells inside memory is handed over, and the program goes on behind. -/
theorem withBlock_of_inside {len : ℕ} (inside : len = 0 ∨ m.index.toNat + len ≤ 4096)
    (next : List UInt8 → Machine) :
    ∃ block, Block.read? m.memory m.index.toNat len = some block ∧
      m.withBlock len next = (next block).proceed .next := by
  obtain ⟨block, read⟩ := Option.isSome_iff_exists.1 (Block.isSome_read?_iff.2 inside)
  exact ⟨block, read, withBlock_of_some read next⟩

theorem withBlock_eq_proceed_iff {len : ℕ} {next : List UInt8 → Machine} :
    m.withBlock len next = m'.proceed flow ↔
      ∃ block, Block.read? m.memory m.index.toNat len = some block ∧ m' = next block ∧
        flow = .next := by
  cases read : Block.read? m.memory m.index.toNat len with
  | none => simp [withBlock_of_none read]
  | some block => simp [withBlock_of_some read, eq_comm]

theorem enter_eq_proceed_iff {target : Address} :
    m.enter target = m'.proceed flow ↔
      m.calls.isFull = false ∧ m' = { m with calls := m.calls.push (m.pc + 2) } ∧
        flow = .jump (.ofNat target) := by
  cases room : m.calls.isFull with
  | true => simp [enter_of_full room]
  | false => simp [enter_of_room room, eq_comm]

theorem leave_eq_proceed_iff :
    m.leave = m'.proceed flow ↔
      m.calls.isEmpty = false ∧ m' = { m with calls := m.calls.pop } ∧
        flow = .jump m.calls.newest := by
  cases held : m.calls.isEmpty with
  | true => simp [leave_of_empty held]
  | false => simp [leave_of_held held, eq_comm]

theorem takeKey_eq_proceed_iff {x : Register} :
    m.takeKey x = m'.proceed flow ↔
      (m.keys.lowest? = none ∧ m' = m ∧ flow = .wait) ∨
        ∃ key, m.keys.lowest? = some key ∧ m' = m.setRegister x (.ofNat key) ∧
          flow = .next := by
  cases taken : m.keys.lowest? with
  | none => simp [takeKey_of_up taken, eq_comm]
  | some key => simp [takeKey_of_down taken, eq_comm]

/-! ## Refused or carried out -/

/-- How executing an instruction on `m` can end. -/
inductive Ends (m : Machine) : Outcome Fault Flow → Prop where
  /-- The machine stays as it is. -/
  | refused (fault : Fault) : Ends m (m.refuse fault)
  | carried (m' : Machine) (flow : Flow) : Ends m (m'.proceed flow)

theorem ends_withBlock (m : Machine) (len : ℕ) (next : List UInt8 → Machine) :
    m.Ends (m.withBlock len next) := by
  cases read : Block.read? m.memory m.index.toNat len with
  | none =>
    rw [withBlock_of_none read]
    exact .refused _
  | some block =>
    rw [withBlock_of_some read]
    exact .carried _ _

theorem ends_leave (m : Machine) : m.Ends m.leave := by
  cases held : m.calls.isEmpty with
  | true =>
    rw [leave_of_empty held]
    exact .refused _
  | false =>
    rw [leave_of_held held]
    exact .carried _ _

theorem ends_enter (m : Machine) (target : Address) : m.Ends (m.enter target) := by
  cases room : m.calls.isFull with
  | true =>
    rw [enter_of_full room]
    exact .refused _
  | false =>
    rw [enter_of_room room]
    exact .carried _ _

theorem ends_takeKey (m : Machine) (x : Register) : m.Ends (m.takeKey x) := by
  cases taken : m.keys.lowest? with
  | none =>
    rw [takeKey_of_up taken]
    exact .carried _ _
  | some key =>
    rw [takeKey_of_down taken]
    exact .carried _ _

/-- Every instruction is refused or carried out. -/
theorem ends_execute (m : Machine) (i : Instruction) : m.Ends (m.execute i) := by
  cases i with
  | ret => exact ends_leave m
  | call target => exact ends_enter m target
  | awaitKey x => exact ends_takeKey m x
  | draw x y height => exact ends_withBlock m _ _
  | decimal x => exact ends_withBlock m _ _
  | save x => exact ends_withBlock m _ _
  | restore x => exact ends_withBlock m _ _
  | _ => exact .carried _ _

/-- An instruction whose cells reach past memory is refused. -/
theorem execute_of_outside (pos : 0 < i.blockLength)
    (beyond : 4096 < m.index.toNat + i.blockLength) :
    m.execute i = m.refuse (.addressOutOfRange (max m.index.toNat Layout.memorySize) m.pc) := by
  cases i with
  | draw x y height => exact withBlock_of_outside pos beyond _
  | decimal x => exact withBlock_of_outside pos beyond _
  | save x => exact withBlock_of_outside pos beyond _
  | restore x => exact withBlock_of_outside pos beyond _
  | _ => exact absurd pos (Nat.lt_irrefl 0)

/-- Nothing stands in the way of an instruction: a return finds an address and a call a
slot, all cells at `I` exist, and a key wait finds a key down. -/
structure Admits (m : Machine) (i : Instruction) : Prop where
  held : i = .ret → m.depth ≠ -1
  room : ∀ target, i = .call target → m.depth ≠ 15
  inside : i.blockLength = 0 ∨ m.index.toNat + i.blockLength ≤ 4096
  down : ∀ x, i = .awaitKey x → ∃ key : Fin 16, m.keys.get key = true

/-- An admitted instruction is carried out, and the program goes on. -/
theorem execute_of_admits (range : m.calls.InRange) (h : m.Admits i) :
    ∃ (m' : Machine) (flow : Flow), m.execute i = m'.proceed flow ∧ flow ≠ .wait := by
  have block : ∀ len next, i.blockLength = len →
      ∃ (m' : Machine) (flow : Flow), m.withBlock len next = m'.proceed flow ∧ flow ≠ .wait := by
    intro len next e
    obtain ⟨values, -, carried⟩ := withBlock_of_inside (e ▸ h.inside) next
    exact ⟨_, _, carried, by decide⟩
  cases i with
  | ret =>
    have some : m.calls.isEmpty = false := by
      have low := range.1
      have held : m.calls.pointer.toInt ≠ -1 := h.held rfl
      rw [CallStack.isEmpty_eq_false_iff]
      omega
    exact ⟨_, _, leave_eq_proceed_iff.2 ⟨some, rfl, rfl⟩, by simp⟩
  | call target =>
    have free : m.calls.isFull = false := by
      have high := range.2
      have room : m.calls.pointer.toInt ≠ 15 := h.room target rfl
      rw [CallStack.isFull_eq_false_iff]
      omega
    exact ⟨_, _, enter_eq_proceed_iff.2 ⟨free, rfl, rfl⟩, by simp⟩
  | awaitKey x =>
    obtain ⟨key, down⟩ := h.down x rfl
    cases found : m.keys.lowest? with
    | none =>
      rw [Keypad.lowest?_eq_none_iff.1 found key] at down
      cases down
    | some lowest => exact ⟨_, _, takeKey_eq_proceed_iff.2 (.inr ⟨lowest, found, rfl, rfl⟩), by simp⟩
  | skipIf condition =>
    refine ⟨_, _, rfl, ?_⟩
    split <;> simp
  | draw x y height => exact block _ _ rfl
  | decimal x => exact block _ _ rfl
  | save x => exact block _ _ rfl
  | restore x => exact block _ _ rfl
  | _ => exact ⟨_, _, rfl, by simp⟩

end Machine
end Chip8
