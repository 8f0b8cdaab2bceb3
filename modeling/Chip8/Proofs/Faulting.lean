import Chip8.Proofs.History
import Chip8.Proofs.Stepping

/-!
# Faults stay

Whether a step faults, and how, is told from memory, the program counter, the call stack
and `I`. A failed step leaves all of them alone, and whoever drives the machine can reach
them only by a load or a reset. So a machine that has faulted goes on to fault in the same
way, whatever becomes of its keys and timers, and it never looks at its keys.

## Main definitions

* `Operation.refusal`, `Call.refusal` — what a machine answers that cannot go on.

## Main statements

* `Machine.step_of_same_place` — machines with the same memory, program counter, call stack
  and `I` fault alike.
* `Machine.fault_persists` — a fault stays for ever.
-/

namespace Chip8

/-- What a machine whose steps end in a fault answers to an operation that goes on. -/
def Operation.refusal (fault : Fault) : Operation → Answer
  | .step => .stepped (.error fault)
  | .stepBlocking _ => .waited (.error fault) 0
  | _ => .done

/-- What it answers to a call: no host is asked. -/
def Call.refusal (fault : Fault) : Call → Answer
  | .op given => given.refusal fault
  | .ask _ _ => .waited (.error fault) 0

/-- The call neither loads a program nor resets the machine. -/
def Call.goesOn : Call → Bool
  | .op given => given.goesOn
  | .ask _ _ => true

namespace Machine

variable {m m' : Machine} {i : Instruction} {fault : Fault}

/-! ## Refusals -/

@[simp] theorem proceed_ne_refuse {flow : Flow} : m.proceed flow ≠ m'.refuse fault := by
  intro h
  cases h

theorem refuse_inj {fault' : Fault} (h : m.refuse fault = m.refuse fault') : fault = fault' := by
  cases h
  rfl

theorem withBlock_eq_refuse {len : ℕ} {next : List UInt8 → Machine}
    (h : m.withBlock len next = m.refuse fault) :
    0 < len ∧ 4096 < m.index.toNat + len ∧
      fault = .addressOutOfRange (max m.index.toNat Layout.memorySize) m.pc := by
  by_cases beyond : 0 < len ∧ 4096 < m.index.toNat + len
  · rw [withBlock_of_outside beyond.1 beyond.2] at h
    exact ⟨beyond.1, beyond.2, (refuse_inj h).symm⟩
  · have inside : len = 0 ∨ m.index.toNat + len ≤ 4096 := by omega
    obtain ⟨block, -, carried⟩ := withBlock_of_inside inside next
    rw [carried] at h
    exact absurd h proceed_ne_refuse

/-- An instruction is refused for what the call stack, `I` and the program counter hold. -/
theorem refuse_of_same_place (pc : m.pc = m'.pc) (index : m.index = m'.index)
    (calls : m.calls = m'.calls) (h : m.execute i = m.refuse fault) :
    m'.execute i = m'.refuse fault := by
  have block : ∀ {len : ℕ} {next next' : List UInt8 → Machine},
      m.withBlock len next = m.refuse fault → m'.withBlock len next' = m'.refuse fault := by
    intro len next next' refused
    obtain ⟨pos, beyond, rfl⟩ := withBlock_eq_refuse refused
    rw [pc, index]
    exact withBlock_of_outside pos (index ▸ beyond) next'
  cases i with
  | ret =>
    change m.leave = _ at h
    cases empty : m.calls.isEmpty with
    | true =>
      rw [leave_of_empty empty] at h
      rw [← refuse_inj h, pc]
      exact leave_of_empty (calls ▸ empty)
    | false =>
      rw [leave_of_held empty] at h
      exact absurd h proceed_ne_refuse
  | call target =>
    change m.enter target = _ at h
    cases full : m.calls.isFull with
    | true =>
      rw [enter_of_full full] at h
      rw [← refuse_inj h, pc]
      exact enter_of_full (calls ▸ full) target
    | false =>
      rw [enter_of_room full] at h
      exact absurd h proceed_ne_refuse
  | awaitKey x =>
    change m.takeKey x = _ at h
    cases taken : m.keys.lowest? with
    | none =>
      rw [takeKey_of_up taken] at h
      exact absurd h proceed_ne_refuse
    | some key =>
      rw [takeKey_of_down taken] at h
      exact absurd h proceed_ne_refuse
  | draw x y height => exact block h
  | decimal x => exact block h
  | save x => exact block h
  | restore x => exact block h
  | _ => exact absurd h proceed_ne_refuse

/-! ## Failed steps -/

theorem instruction_of_same_place (memory : m.memory = m'.memory) (pc : m.pc = m'.pc) :
    m.instruction = m'.instruction := by
  simp only [instruction, fetch, memory, pc]

/-- A step fails because it finds no instruction, or because the instruction is refused. -/
theorem refused_of_step_error (failed : m.step.result = .error fault) :
    m.instruction = .error fault ∨
      ∃ i, m.instruction = .ok i ∧
        execute { m with redraw := false } i = refuse { m with redraw := false } fault := by
  cases found : m.instruction with
  | error cause =>
    rw [step_of_error found] at failed
    cases failed
    exact .inl rfl
  | ok i =>
    refine .inr ⟨i, rfl, ?_⟩
    rw [step_of_ok found, carryOut] at failed
    generalize ran : execute { m with redraw := false } i = out at failed
    have ends := ends_execute { m with redraw := false } i
    rw [ran] at ends
    cases ends with
    | refused cause =>
      cases failed
      rfl
    | carried after flow =>
      cases goes : flow.target? m.pc with
      | some pc =>
        rw [conclude_carried goes] at failed
        cases failed
      | none =>
        simp only [conclude, proceed, goes] at failed
        cases failed

/-- Machines with the same memory, program counter, call stack and `I` fault alike. -/
theorem step_of_same_place (memory : m.memory = m'.memory) (pc : m.pc = m'.pc)
    (index : m.index = m'.index) (calls : m.calls = m'.calls)
    (failed : m.step.result = .error fault) : m'.step = ⟨.error fault, m'⟩ := by
  have same := instruction_of_same_place memory pc
  rcases refused_of_step_error failed with missing | ⟨i, found, refused⟩
  · exact step_of_error (same ▸ missing)
  · have alike : execute { m' with redraw := false } i =
        refuse { m' with redraw := false } fault :=
      refuse_of_same_place (m := { m with redraw := false }) pc index calls refused
    rw [step_of_ok (same ▸ found), carryOut, alike]
    rfl

/-! ## Machines that cannot go on -/

/-- Of `m` only the keys and the timers have been moved. -/
def Tended (m after : Machine) : Prop :=
  after = { m with keys := after.keys, delay := after.delay, sound := after.sound }

theorem Tended.refl (m : Machine) : m.Tended m := rfl

theorem Tended.trans {after : Machine} (h : m.Tended m') (later : m'.Tended after) :
    m.Tended after := by
  unfold Tended at h later ⊢
  rw [later, h]

theorem Tended.pc (h : m.Tended m') : m'.pc = m.pc := by rw [h]
theorem Tended.redraw (h : m.Tended m') : m'.redraw = m.redraw := by rw [h]

/-- With other keys and timers a machine that has faulted faults again. -/
theorem Tended.step_of_error (h : m.Tended m') (failed : m.step.result = .error fault) :
    m'.step = ⟨.error fault, m'⟩ := by
  refine step_of_same_place (m := m) ?_ ?_ ?_ ?_ failed <;> rw [h]

/-- A machine whose step faults does not ask its host. -/
theorem blocks_of_error {σ : Type} {host : Host σ} {s t : σ} {w : Waited}
    (stuck : m.step = ⟨.error fault, m⟩) :
    m.Blocks host s w t ↔ w = ⟨⟨.error fault, m⟩, 0⟩ ∧ t = s := by
  have ready : m.step.isAwaiting = false := by rw [stuck]; rfl
  rw [blocks_of_not_awaiting ready, stuck]

/-- An operation that goes on is refused, and reaches the keys and the timers only. -/
theorem perform_of_error (stuck : m.step = ⟨.error fault, m⟩) {op : Operation}
    (goesOn : op.goesOn = true) :
    (m.perform op).1 = op.refusal fault ∧ m.Tended (m.perform op).2 := by
  cases op with
  | load source => cases goesOn
  | reset => cases goesOn
  | step =>
    rw [perform, stuck]
    exact ⟨rfl, rfl⟩
  | stepBlocking frames =>
    have ready : m.step.isAwaiting = false := by rw [stuck]; rfl
    rw [perform, stepBlocking_of_not_awaiting ready, stuck]
    exact ⟨rfl, rfl⟩
  | _ => exact ⟨rfl, rfl⟩

/-- Calls without loads and resets are refused by a machine that has faulted. The induction
is on the calls; each of them finds the machine with other keys and timers at most. -/
theorem Follows.of_error {calls : List Call} {answers : List Answer} {after : Machine}
    (h : m.Follows calls answers after) (failed : m.step.result = .error fault)
    (goesOn : ∀ c ∈ calls, c.goesOn = true) :
    answers = calls.map (Call.refusal fault) ∧ m.Tended after := by
  induction h with
  | start => exact ⟨rfl, .refl m⟩
  | op before op ih =>
    obtain ⟨refused, tended⟩ := ih fun c mem => goesOn c (List.mem_append_left _ mem)
    have allowed : Call.goesOn (.op op) = true :=
      goesOn _ (List.mem_append_right _ (List.mem_singleton_self _))
    obtain ⟨answer, moved⟩ := perform_of_error (tended.step_of_error failed) allowed
    refine ⟨?_, tended.trans moved⟩
    rw [List.map_append, refused, answer]
    rfl
  | ask before ends ih =>
    obtain ⟨refused, tended⟩ := ih fun c mem => goesOn c (List.mem_append_left _ mem)
    obtain ⟨rfl, rfl⟩ := (blocks_of_error (tended.step_of_error failed)).1 ends
    refine ⟨?_, tended⟩
    rw [List.map_append, refused]
    rfl

/-- Every course without loads and resets can be taken from a machine that has faulted: no
blocking step keeps it waiting. -/
theorem exists_follows_of_error (failed : m.step.result = .error fault) {calls : List Call}
    (goesOn : ∀ c ∈ calls, c.goesOn = true) :
    ∃ answers after, m.Follows calls answers after := by
  induction calls using List.reverseRecOn with
  | nil => exact ⟨[], m, .start⟩
  | append_singleton calls c ih =>
    have fewer : ∀ c ∈ calls, c.goesOn = true := by
      intro c mem
      exact goesOn c (List.mem_append_left _ mem)
    obtain ⟨answers, after, course⟩ := ih fewer
    have stuck := (course.of_error failed fewer).2.step_of_error failed
    cases c with
    | op op => exact ⟨_, _, course.op op⟩
    | ask host memory => exact ⟨_, _, course.ask ((blocks_of_error stuck).2 ⟨rfl, rfl⟩)⟩

/-- A fault stays for ever. Whatever calls follow, with whatever hosts, none of them being a
load or a reset: all can be made; every step and every blocking step answers with the same
fault, and no host is asked; and nothing is moved but keys and timers. -/
theorem fault_persists (m : Machine) (fault : Fault) (failed : m.step.result = .error fault)
    (calls : List Call) (goesOn : ∀ c ∈ calls, c.goesOn = true) :
    (∃ answers after, m.Follows calls answers after) ∧
      ∀ answers after, m.Follows calls answers after →
        answers = calls.map (Call.refusal fault) ∧
          after = { m with keys := after.keys, delay := after.delay, sound := after.sound } ∧
          after.step = ⟨.error fault, after⟩ ∧
          ∀ (σ : Type) (host : Host σ) (s t : σ) (w : Waited),
            after.Blocks host s w t ↔ w = ⟨⟨.error fault, after⟩, 0⟩ ∧ t = s := by
  refine ⟨exists_follows_of_error failed goesOn, ?_⟩
  intro answers after course
  obtain ⟨refused, tended⟩ := course.of_error failed goesOn
  have stuck := tended.step_of_error failed
  refine ⟨refused, tended, stuck, ?_⟩
  intro σ host s t w
  exact blocks_of_error stuck

/-- A machine that has cleared its screen and has come to a word of no instruction. -/
def beached : Machine :=
  ((ofConfig {} { bytes := fun k => .ofNat k }).run
    [.load (.ofBytes [0x00, 0xE0, 0xFF, 0xFF]), .step]).2

/-- A host that shows a key at once and never gives a wait up. -/
def eager : Host Unit where
  poll _ _ := (⟨.ofList [3], true⟩, ())

/-- Steps of every kind, with ticks and keys in between. -/
def refusedCalls : List Call :=
  [.op .step, .op (.setKey 3 true), .ask eager (), .op .tick,
    .op (.stepBlocking [⟨.released, false⟩]), .op .step]

theorem fault_persists_beached :
    beached.step.result = .error (.invalidOpcode 0xFFFF 0x202) ∧
      ∃ after, beached.Follows refusedCalls
          (refusedCalls.map (Call.refusal (.invalidOpcode 0xFFFF 0x202))) after ∧
        after.pc = 0x202 ∧ after.redraw = true ∧
        after.step.result = .error (.invalidOpcode 0xFFFF 0x202) := by
  obtain ⟨failed, place, pending⟩ :
      beached.step.result = .error (.invalidOpcode 0xFFFF 0x202) ∧ beached.pc = 0x202 ∧
        beached.redraw = true := by
    decide +kernel
  obtain ⟨⟨answers, after, course⟩, stays⟩ :=
    fault_persists beached _ failed refusedCalls
      (by simp [refusedCalls, Call.goesOn, Operation.goesOn])
  obtain ⟨rfl, same, stuck, -⟩ := stays answers after course
  refine ⟨failed, after, course, ?_, ?_, ?_⟩
  · exact (Tended.pc same).trans place
  · exact (Tended.redraw same).trans pending
  · rw [stuck]

end Machine
end Chip8
