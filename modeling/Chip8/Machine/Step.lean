import Chip8.Machine.Execution

/-!
# Steps

A step fetches the word at the program counter, decodes it and executes the
instruction. It ends with the program counter at the instruction that comes next, or
with a fault, or at a key wait that no key has ended; in the last two cases the
program counter has not moved. The redraw flag tells about the last step only: each
step clears it, unless it faults.

A blocking step goes on with a key wait: it looks at the keys, as often as a script of
frames goes on, and tries again after each look.

## Main definitions

* `Progress` — what a step that does not fault has done.
* `Waited` — the outcome of a step that may wait.
* `Machine.instruction` — the instruction at the program counter.
* `Machine.step` — one step.
* `Machine.stepBlocking` — a step that looks at the keys while it has to wait.
-/

namespace Chip8

/-- What a step that does not fault has done. -/
inductive Progress where
  | executed (i : Instruction)
  /-- A key wait found no key down; the next step tries again. -/
  | awaitingKey
  deriving DecidableEq

/-- Whether a step has found no key to take. -/
def Outcome.isAwaiting (out : Outcome Fault Progress) : Bool :=
  match out.result with
  | .ok .awaitingKey => true
  | _ => false

theorem Outcome.eq_of_isAwaiting {out : Outcome Fault Progress} (h : out.isAwaiting = true) :
    out = ⟨.ok .awaitingKey, out.machine⟩ := by
  obtain ⟨result, m⟩ := out
  unfold Outcome.isAwaiting at h
  split at h
  · rename_i e
    cases e
    rfl
  · cases h

/-- The outcome of a step that may wait, and how often it has looked at the keys. -/
structure Waited extends Outcome Fault Progress where
  polls : Nat

/-- The same outcome after one more look. -/
def Waited.polledBefore (w : Waited) : Waited :=
  { w with polls := w.polls + 1 }

namespace Machine

/-! ## One step -/

/-- The word at the program counter, which takes up two cells. -/
def fetch (m : Machine) : Except Fault Word :=
  match m.memory.word? m.pc.toNat with
  | none => .error (.addressOutOfRange m.pc.toNat m.pc)
  | some word => .ok word

/-- The instruction at the program counter. -/
def instruction (m : Machine) : Except Fault Instruction :=
  match m.fetch with
  | .error fault => .error fault
  | .ok word =>
    match Instruction.decode? word with
    | none => .error (.invalidOpcode word m.pc)
    | some i => .ok i

/-- Ends a step that began at `before`. A fault puts the redraw flag back; otherwise the
program counter moves, unless the program has to wait. -/
def conclude (before : Machine) (i : Instruction) : Outcome Fault Flow → Outcome Fault Progress
  | ⟨.error fault, m⟩ => ⟨.error fault, { m with redraw := before.redraw }⟩
  | ⟨.ok flow, m⟩ =>
    match flow.target? before.pc with
    | some pc => ⟨.ok (.executed i), { m with pc := pc }⟩
    | none => ⟨.ok .awaitingKey, m⟩

/-- Executes an instruction, beginning with the redraw flag cleared. -/
def carryOut (m : Machine) (i : Instruction) : Outcome Fault Progress :=
  m.conclude i (execute { m with redraw := false } i)

/-- One step. -/
def step (m : Machine) : Outcome Fault Progress :=
  match m.instruction with
  | .error fault => ⟨.error fault, m⟩
  | .ok i => m.carryOut i

/-! ## Steps that wait for a key -/

/-- A step that looks at the keys while it has to wait. Each look shows the next frame
of a script; a frame that does not go on ends the wait, whatever keys it shows, and a
look past the last frame shows the keys unchanged and does not go on. -/
def stepBlocking (m : Machine) (frames : List Frame) : Waited :=
  let out := m.step
  if out.isAwaiting then
    match frames with
    | [] => ⟨out, 1⟩
    | frame :: rest =>
      let shown := { out.machine with keys := frame.keys }
      if frame.go then (stepBlocking shown rest).polledBefore
      else ⟨⟨.ok .awaitingKey, shown⟩, 1⟩
  else ⟨out, 0⟩

/-! ## Equations -/

theorem step_of_error {m : Machine} {fault : Fault} (h : m.instruction = .error fault) :
    m.step = ⟨.error fault, m⟩ := by
  simp [step, h]

theorem step_of_ok {m : Machine} {i : Instruction} (h : m.instruction = .ok i) :
    m.step = m.carryOut i := by
  simp [step, h]

@[simp] theorem conclude_next (before : Machine) (i : Instruction) (m : Machine) :
    before.conclude i (m.proceed .next) =
      ⟨.ok (.executed i), { m with pc := before.pc + 2 }⟩ := rfl

@[simp] theorem conclude_wait (before : Machine) (i : Instruction) (m : Machine) :
    before.conclude i (m.proceed .wait) = ⟨.ok .awaitingKey, m⟩ := rfl

/-- A step that does not have to wait does not look at the keys. -/
theorem stepBlocking_of_not_awaiting {m : Machine} (h : m.step.isAwaiting = false)
    (frames : List Frame) : m.stepBlocking frames = ⟨m.step, 0⟩ := by
  unfold stepBlocking
  simp [h]

/-- Past the last frame a wait is given up at the first look. -/
theorem stepBlocking_nil {m : Machine} (h : m.step.isAwaiting = true) :
    m.stepBlocking [] = ⟨m.step, 1⟩ := by
  unfold stepBlocking
  simp [h]

/-- A frame replaces all keys, and then the step is tried again or given up. -/
theorem stepBlocking_cons {m : Machine} (h : m.step.isAwaiting = true) (frame : Frame)
    (rest : List Frame) :
    m.stepBlocking (frame :: rest) =
      if frame.go then
        (stepBlocking { m.step.machine with keys := frame.keys } rest).polledBefore
      else ⟨⟨.ok .awaitingKey, { m.step.machine with keys := frame.keys }⟩, 1⟩ := by
  rw [stepBlocking]
  simp [h]

end Machine
end Chip8
