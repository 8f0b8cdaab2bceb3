import Chip8.Proofs.Storing

/-!
# Saved registers come back

A program saves registers to the cells at `I` and fetches them back later. In between it may
do whatever it likes, and its driver as well, as long as nothing is written to these cells.
What writes to a cell is known of every call: a load that covers it, a reset, and the two
instructions that store. A call that does not write to a cell leaves it alone, hence so does a
course of any length; and a fetch that reads the cells again cannot fault, since they have
been written once.

## Main definitions

* `Machine.WritesTo` — a call writes to a cell.
* `Machine.SparesBlock` — a course that does not write to a run of cells.

## Main statements

* `Machine.cell_of_unwritten`, `Machine.Follows.cell_of_spared` — one call, and a course.
* `Machine.registers_of_restored` — saved registers are fetched back.
-/

namespace Chip8.Machine

variable {m m' after : Machine} {c : Call} {answer : Answer} {calls : List Call}
  {answers : List Answer} {a start len : ℕ} {x : Register}

/-! ## What is written -/

/-- The call of `m` that is answered so writes to this address. -/
inductive WritesTo (m : Machine) : Call → Answer → ℕ → Prop where
  /-- A load that succeeds writes all of the program. -/
  | load {source : Source} {rom : List UInt8} {a : ℕ} (contents : source.contents = .ok rom)
      (low : 0x200 ≤ a) (high : a < 0x200 + rom.length) :
      WritesTo m (.op (.load source)) (.loaded (.ok ())) a
  /-- A reset writes all of memory. -/
  | reset {answer : Answer} {a : ℕ} : WritesTo m (.op .reset) answer a
  | store {c : Call} {answer : Answer} {i : Instruction} {a : ℕ}
      (executed : answer.executed? = some i) (stores : m.Stores i a) : WritesTo m c answer a

/-- No call of the course writes to the `len` cells from `start` on. -/
def SparesBlock (m : Machine) (calls : List Call) (answers : List Answer) (after : Machine)
    (start len : ℕ) : Prop :=
  ∀ o : Occasion m calls answers after, ∀ a, start ≤ a → a < start + len →
    ¬ o.here.WritesTo o.call o.answer a

/-- What has overwritten a cell has written to it. -/
theorem Overwrites.writesTo {a : Address} (overwrites : m.Overwrites c answer m' a) :
    m.WritesTo c answer a := by
  cases overwrites with
  | loaded source rom given contents result low covered value =>
    subst given result
    exact .load contents low covered
  | digits x executed low high => exact .store executed ⟨low, high⟩
  | registers x r executed within place value =>
    have length := m.length_stored_save x
    have number : r.val ≤ x.val := within
    exact .store executed ⟨by omega, by omega⟩
  | reset given =>
    subst given
    exact .reset

/-- A cell that a call does not write to stays as it is. -/
theorem cell_of_unwritten (next : m.Follows [c] [answer] m')
    (unwritten : ¬ m.WritesTo c answer a) : m'.memory[a]? = m.memory[a]? := by
  by_cases inside : a < 4096
  · rw [Vector.getElem?_eq_getElem inside, Vector.getElem?_eq_getElem inside, Option.some_inj]
    by_contra changed
    have overwrites := next.changesMemory.changed ⟨a, inside⟩ changed
    exact unwritten overwrites.writesTo
  · rw [Vector.getElem?_eq_none (Nat.le_of_not_lt inside),
      Vector.getElem?_eq_none (Nat.le_of_not_lt inside)]

/-- Cells that a course does not write to stay as they are. -/
theorem Follows.cell_of_spared (course : m.Follows calls answers after)
    (spared : m.SparesBlock calls answers after start len) (low : start ≤ a)
    (high : a < start + len) : after.memory[a]? = m.memory[a]? := by
  refine course.keeps (P := fun m' => m'.memory[a]? = m.memory[a]?) rfl ?_
  intro o same
  exact (cell_of_unwritten o.happens (spared o a low high)).trans same

/-- A history without loads and resets that has executed no instruction that stores writes
nowhere. -/
theorem sparesBlock_of_quiet {ops : List Operation} (goesOn : ∀ op ∈ ops, op.goesOn = true)
    (quiet : ∀ answer ∈ answers, ∀ i, answer.executed? = some i → Part.memory ∉ i.writes) :
    m.SparesBlock (ops.map .op) answers after start len := by
  intro o a _ _ writes
  have among := o.call_mem
  have told := o.answer_mem
  generalize o.call = call at among writes
  generalize o.answer = answer at told writes
  obtain ⟨op, given, rfl⟩ := List.mem_map.1 among
  cases writes with
  | load => cases goesOn _ given
  | reset => cases goesOn _ given
  | store executed stores => exact quiet _ told _ executed stores.listed

/-! ## Saving and fetching -/

/-- Saved registers come back. Let a call of any machine execute a save of `V0` to `Vx`, and let
any course follow that does not write to the cells where they have been stored and that ends
with `I` at these cells again. Then a fetch of `V0` to `Vx` does not fault, and a call that
executes it puts back the values that were saved, leaves the other registers as they are and
leaves `I` where it was at the save. -/
theorem registers_of_restored (m saved used : Machine) (x : Register) (save : Call)
    (kept : Answer) (calls : List Call) (answers : List Answer)
    (saving : m.Follows [save] [kept] saved) (stored : kept.executed? = some (.save x))
    (course : saved.Follows calls answers used)
    (spared : saved.SparesBlock calls answers used m.index.toNat (x + 1))
    (pointed : used.index = m.index) :
    (used.instruction = .ok (.restore x) →
        used.step.result = .ok (.executed (.restore x))) ∧
      ∀ restore given after, used.Follows [restore] [given] after →
        given.executed? = some (.restore x) →
        (∀ r, r ≤ x → after.registers.get r = m.registers.get r) ∧
          (∀ r, x < r → after.registers.get r = used.registers.get r) ∧
          after.index = m.index := by
  have stores := saving.changesMemory.saves x stored
  constructor
  · intro found
    exact result_step_of_restore found (pointed ▸ stores.inside)
  · intro restore given after restoring fetched
    have fetches := restoring.changesMemory.restores x fetched
    refine ⟨?_, fetches.others, fetches.index.trans pointed⟩
    intro r within
    have number : r.val ≤ x.val := within
    have cell := course.cell_of_spared spared (a := m.index.toNat + r) (by omega) (by omega)
    have value := fetches.values r within
    rw [pointed, cell, stores.values r within] at value
    exact (Option.some_inj.1 value).symm

/-- A machine about to save two registers in the last two cells of memory. The program goes on
to change one of them, points `I` elsewhere and back again, and fetches both. -/
def stowing : Machine :=
  { memory := Block.write Memory.initial 0x200
      [0xF1, 0x55, 0x60, 0x05, 0xA2, 0x00, 0xAF, 0xFE, 0xF1, 0x65]
    registers := (Registers.zero.set 0 7).set 1 9
    index := 0xFFE
    collision := .lastBit
    noise := { bytes := fun k => .ofNat k } }

theorem registers_of_restored_stowing :
    ∃ saved used after : Machine, (stowing.perform .step).2 = saved ∧
      (saved.run [.step, .tick, .step, .step]).2 = used ∧ used.registers.get 0 = 5 ∧
      used.step.result = .ok (.executed (.restore 1)) ∧ used.step.machine = after ∧
      after.registers.get 0 = 7 ∧ after.registers.get 1 = 9 ∧ after.index = 0xFFE := by
  have facts : (stowing.perform .step).1.executed? = some (.save 1) ∧
      stowing.registers.get 0 = 7 ∧ stowing.registers.get 1 = 9 ∧
      ((stowing.perform .step).2.run [.step, .tick, .step, .step]).2.registers.get 0 = 5 ∧
      ((stowing.perform .step).2.run [.step, .tick, .step, .step]).2.index = 0xFFE ∧
      ((stowing.perform .step).2.run [.step, .tick, .step, .step]).2.instruction =
        .ok (.restore 1) ∧
      ∀ answer ∈ ((stowing.perform .step).2.run [.step, .tick, .step, .step]).1,
        ∀ i, answer.executed? = some i → Part.memory ∉ i.writes := by
    decide +kernel
  obtain ⟨stored, first, second, facts⟩ := facts
  have saving : stowing.Follows [.op .step] _ _ := Follows.start.op .step
  generalize (stowing.perform .step).2 = saved at saving facts ⊢
  have course := saved.follows_run [.step, .tick, .step, .step]
  generalize reached : (saved.run [.step, .tick, .step, .step]).2 = used at course facts
  obtain ⟨changed, pointed, found, quiet⟩ := facts
  obtain ⟨ready, restored⟩ := registers_of_restored stowing saved used 1 _ _ _ _ saving stored
    course (sparesBlock_of_quiet (by decide) quiet) pointed
  have executed := ready found
  obtain ⟨registers, -, index⟩ := restored _ _ _ (Follows.start.op .step)
    (show (used.perform .step).1.executed? = _ by rw [perform, executed]; rfl)
  exact ⟨saved, used, _, rfl, reached, changed, executed, rfl, (registers 0 (by decide)).trans first,
    (registers 1 (by decide)).trans second, index⟩

end Chip8.Machine
