import Chip8.Proofs.Stepping
import Mathlib.Order.Bounds.Basic

/-!
# The verdict on a step

`Machine.Verdict` tells the outcome of a step from the machine before it, without
executing anything: which of the five faults arises, whether the program waits, and
which instruction is executed otherwise. A step has exactly the outcome that the verdict
names.

## Main definitions

* `Machine.Verdict` — the outcome that a step must have.
-/

namespace Chip8.Machine

variable {m : Machine} {i : Instruction} {r r' : Except Fault Progress} {fault : Fault}

/-- The outcome that a step must have, told from the machine before it. Addresses are
added without wrapping around. -/
inductive Verdict (m : Machine) : Except Fault Progress → Prop where
  | unfetched (outside : 4095 ≤ m.pc.toNat) :
      Verdict m (.error (.addressOutOfRange m.pc.toNat m.pc))
  | undecoded {w : Word} (holds : m.HoldsWord w) (unknown : Instruction.decode? w = none) :
      Verdict m (.error (.invalidOpcode w m.pc))
  | underflow {w : Word} (holds : m.HoldsWord w) (decoded : Instruction.decode? w = some .ret)
      (empty : m.depth = -1) : Verdict m (.error (.stackUnderflow m.pc))
  | overflow {w : Word} {target : Address} (holds : m.HoldsWord w)
      (decoded : Instruction.decode? w = some (.call target)) (full : m.depth = 15) :
      Verdict m (.error (.stackOverflow m.pc))
  | overrun {w : Word} {i : Instruction} {a : ℕ} (holds : m.HoldsWord w)
      (decoded : Instruction.decode? w = some i) (pos : 0 < i.blockLength)
      (beyond : 4096 < m.index.toNat + i.blockLength)
      (first : IsLeast {a | m.index.toNat ≤ a ∧ a < m.index.toNat + i.blockLength ∧ 4096 ≤ a} a) :
      Verdict m (.error (.addressOutOfRange a m.pc))
  | awaiting {w : Word} {x : Register} (holds : m.HoldsWord w)
      (decoded : Instruction.decode? w = some (.awaitKey x))
      (up : ∀ key : Fin 16, m.keys.get key = false) : Verdict m (.ok .awaitingKey)
  | executed {w : Word} {i : Instruction} (holds : m.HoldsWord w)
      (decoded : Instruction.decode? w = some i) (admits : m.Admits i) :
      Verdict m (.ok (.executed i))

/-! ## A verdict is the outcome -/

theorem result_step_of_refused {after : Machine} (found : m.instruction = .ok i)
    (refused : execute { m with redraw := false } i = after.refuse fault) :
    m.step.result = .error fault := by
  rw [step_of_ok found, carryOut, refused]
  rfl

theorem result_step_of_proceeded {after : Machine} {flow : Flow} (found : m.instruction = .ok i)
    (carried : execute { m with redraw := false } i = after.proceed flow) (goes : flow ≠ .wait) :
    m.step.result = .ok (.executed i) := by
  rw [step_of_ok found, carryOut, carried]
  cases flow with
  | wait => exact absurd rfl goes
  | _ => rfl

theorem isLeast_outside {start len : ℕ} (beyond : 4096 < start + len) (pos : 0 < len) :
    IsLeast {a | start ≤ a ∧ a < start + len ∧ 4096 ≤ a} (max start 4096) := by
  constructor
  · exact ⟨le_max_left _ _, by omega, le_max_right _ _⟩
  · rintro a ⟨low, -, outside⟩
    exact max_le low outside

/-- A step has the outcome that a verdict names. -/
theorem result_step_of_verdict (range : m.calls.InRange) (h : m.Verdict r) :
    m.step.result = r := by
  cases h with
  | unfetched outside =>
    have missing := fetch_of_outside outside
    have unfound : m.instruction = .error (.addressOutOfRange m.pc.toNat m.pc) := by
      rw [instruction, missing]
    rw [step_of_error unfound]
  | @undecoded w holds unknown =>
    have unfound : m.instruction = .error (.invalidOpcode w m.pc) := by
      rw [instruction, fetch_eq_ok_iff.2 holds]
      simp only [unknown]
    rw [step_of_error unfound]
  | underflow holds decoded empty =>
    have found := instruction_eq_ok_iff.2 ⟨_, holds, decoded⟩
    have bare : m.calls.isEmpty = true := by
      change m.calls.pointer.toInt = -1 at empty
      rw [CallStack.isEmpty_iff]
      omega
    exact result_step_of_refused found (leave_of_empty (m := { m with redraw := false }) bare)
  | @overflow w target holds decoded full =>
    have found := instruction_eq_ok_iff.2 ⟨_, holds, decoded⟩
    have stuffed : m.calls.isFull = true := by
      change m.calls.pointer.toInt = 15 at full
      rw [CallStack.isFull_iff]
      omega
    exact result_step_of_refused found
      (enter_of_full (m := { m with redraw := false }) stuffed target)
  | overrun holds decoded pos beyond first =>
    have found := instruction_eq_ok_iff.2 ⟨_, holds, decoded⟩
    rw [first.unique (isLeast_outside beyond pos)]
    exact result_step_of_refused found (execute_of_outside pos beyond)
  | @awaiting w x holds decoded up =>
    have found := instruction_eq_ok_iff.2 ⟨_, holds, decoded⟩
    have none : m.keys.lowest? = none := Keypad.lowest?_eq_none_iff.2 up
    have waits : execute { m with redraw := false } (.awaitKey x) =
        proceed { m with redraw := false } .wait :=
      takeKey_of_up (m := { m with redraw := false }) none x
    rw [step_of_ok found, carryOut, waits]
    rfl
  | executed holds decoded admits =>
    have found := instruction_eq_ok_iff.2 ⟨_, holds, decoded⟩
    obtain ⟨after, flow, carried, goes⟩ := execute_of_admits (m := { m with redraw := false })
      range ⟨admits.held, admits.room, admits.inside, admits.down⟩
    exact result_step_of_proceeded found carried goes

/-! ## There is always a verdict -/

/-- Whatever is not admitted falls under a verdict of its own. -/
theorem exists_verdict_of_decoded {w : Word} (holds : m.HoldsWord w)
    (decoded : Instruction.decode? w = some i) : ∃ r, m.Verdict r := by
  by_cases held : i = .ret ∧ m.depth = -1
  · obtain ⟨rfl, empty⟩ := held
    exact ⟨_, .underflow holds decoded empty⟩
  by_cases room : (∃ target, i = .call target) ∧ m.depth = 15
  · obtain ⟨⟨target, rfl⟩, full⟩ := room
    exact ⟨_, .overflow holds decoded full⟩
  by_cases beyond : 0 < i.blockLength ∧ 4096 < m.index.toNat + i.blockLength
  · exact ⟨_, .overrun holds decoded beyond.1 beyond.2 (isLeast_outside beyond.2 beyond.1)⟩
  by_cases up : (∃ x, i = .awaitKey x) ∧ ∀ key : Fin 16, m.keys.get key = false
  · obtain ⟨⟨x, rfl⟩, none⟩ := up
    exact ⟨_, .awaiting holds decoded none⟩
  refine ⟨_, .executed holds decoded ⟨?_, ?_, ?_, ?_⟩⟩
  · rintro rfl empty
    exact held ⟨rfl, empty⟩
  · rintro target rfl full
    exact room ⟨⟨target, rfl⟩, full⟩
  · omega
  · rintro x rfl
    by_contra none
    refine up ⟨⟨x, rfl⟩, ?_⟩
    intro key
    rw [← Bool.not_eq_true]
    intro down
    exact none ⟨key, down⟩

theorem exists_verdict (m : Machine) : ∃ r, m.Verdict r := by
  by_cases inside : m.pc.toNat < 4095
  · obtain ⟨w, holds⟩ := exists_holdsWord inside
    cases decoded : Instruction.decode? w with
    | none => exact ⟨_, .undecoded holds decoded⟩
    | some i => exact exists_verdict_of_decoded holds decoded
  · exact ⟨_, .unfetched (by omega)⟩

/-- A step has an outcome exactly when the verdict names it, so no other one occurs. -/
theorem result_step_iff_verdict (m : Machine) (range : m.calls.InRange)
    (r : Except Fault Progress) : m.step.result = r ↔ m.Verdict r := by
  constructor
  · rintro rfl
    obtain ⟨r, h⟩ := m.exists_verdict
    rw [result_step_of_verdict range h]
    exact h
  · exact result_step_of_verdict range

/-- A machine about to execute an instruction that writes its own two bytes over. -/
def overwriting : Machine :=
  { memory := Block.write Memory.initial 0x200 [0xF1, 0x55]
    index := 0x200
    collision := .lastBit
    noise := { bytes := fun k => .ofNat k } }

theorem result_step_iff_verdict_overwriting :
    overwriting.step.result = .ok (.executed (.save 1)) ∧
      (overwriting.step.machine.memory[0x200], overwriting.step.machine.memory[0x201]) =
        (0x00, 0x00) := by
  have holds : overwriting.HoldsWord 0xF155 := ⟨by decide +kernel, by decide +kernel⟩
  have decoded : Instruction.decode? 0xF155 = some (.save 1) := by decide +kernel
  have admits : overwriting.Admits (.save 1) := {
    held := by
      intro h
      cases h
    room := by
      intro target h
      cases h
    inside := by decide +kernel
    down := by
      intro x h
      cases h }
  have verdict : overwriting.Verdict (.ok (.executed (.save 1))) :=
    .executed holds decoded admits
  have range : overwriting.calls.InRange := by decide +kernel
  exact ⟨(result_step_iff_verdict overwriting range _).2 verdict, by decide +kernel⟩

end Chip8.Machine
