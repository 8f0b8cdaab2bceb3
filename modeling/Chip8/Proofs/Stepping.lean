import Chip8.Machine.Step
import Chip8.Proofs.Effect

/-!
# What a step can do

A step ends in one of three ways: it faults and leaves the machine alone, it finds no key
to take and only clears the redraw flag, or it carries its instruction out and moves the
program counter. Every property of a step is read off this inversion. A blocking step
ends in a step as well, if it does not give the wait up, so it adds no ways of its own.

## Main definitions

* `Machine.HoldsWord` — the word in the two cells at the program counter.
* `Machine.Stepped` — the three ways for a step to end.
* `Machine.Blocked` — the three ways for a blocking step to end.
-/

namespace Chip8.Machine

variable {m : Machine} {i : Instruction} {w : Word} {fault : Fault}

/-! ## The word at the program counter -/

/-- The two cells at the program counter exist and hold this word, its high byte first. -/
def HoldsWord (m : Machine) (w : Word) : Prop :=
  ∃ inside : m.pc.toNat + 1 < 4096,
    w.toNat = m.memory[m.pc.toNat].toNat * 256 + m.memory[m.pc.toNat + 1].toNat

theorem fetch_eq_ok_iff : m.fetch = .ok w ↔ m.HoldsWord w := by
  by_cases inside : m.pc.toNat + 1 < 4096
  · rw [fetch, Memory.word?_of_lt inside]
    simp only [HoldsWord, Except.ok.injEq, inside, exists_true_left]
    rw [← UInt16.toNat_inj, Word.toNat_ofBytes, eq_comm]
  · rw [fetch, Memory.word?_eq_none_iff.2 (by omega)]
    simp [HoldsWord, inside]

theorem fetch_of_outside (outside : 4095 ≤ m.pc.toNat) :
    m.fetch = .error (.addressOutOfRange m.pc.toNat m.pc) := by
  rw [fetch, Memory.word?_eq_none_iff.2 outside]

/-- At most one word is held. -/
theorem HoldsWord.unique {w' : Word} (h : m.HoldsWord w) (h' : m.HoldsWord w') : w = w' := by
  have e := fetch_eq_ok_iff.2 h
  rw [fetch_eq_ok_iff.2 h'] at e
  cases e
  rfl

theorem exists_holdsWord (inside : m.pc.toNat < 4095) : ∃ w, m.HoldsWord w := by
  have room : m.pc.toNat + 1 < 4096 := by omega
  refine ⟨.ofBytes m.memory[m.pc.toNat] m.memory[m.pc.toNat + 1], fetch_eq_ok_iff.1 ?_⟩
  rw [fetch, Memory.word?_of_lt room]

theorem instruction_eq_ok_iff :
    m.instruction = .ok i ↔ ∃ w, m.HoldsWord w ∧ Instruction.decode? w = some i := by
  constructor
  · intro h
    cases fetched : m.fetch with
    | error fault =>
      rw [instruction, fetched] at h
      cases h
    | ok word =>
      rw [instruction, fetched] at h
      cases decoded : Instruction.decode? word with
      | none =>
        simp only [decoded] at h
        cases h
      | some found =>
        simp only [decoded] at h
        cases h
        exact ⟨word, fetch_eq_ok_iff.1 fetched, decoded⟩
  · rintro ⟨word, holds, decoded⟩
    rw [instruction, fetch_eq_ok_iff.2 holds]
    simp only [decoded]

/-- An instruction is found only below the last cell of memory. -/
theorem pc_lt_of_instruction (h : m.instruction = .ok i) : m.pc.toNat < 4095 := by
  obtain ⟨w, ⟨inside, -⟩, -⟩ := instruction_eq_ok_iff.1 h
  omega

/-! ## The three endings -/

/-- How a step of `m` can end. -/
inductive Stepped (m : Machine) : Outcome Fault Progress → Prop where
  | faulted (fault : Fault) : Stepped m ⟨.error fault, m⟩
  | waiting (x : Register) (found : m.instruction = .ok (.awaitKey x))
      (up : m.keys.lowest? = none) : Stepped m ⟨.ok .awaitingKey, { m with redraw := false }⟩
  | executed (i : Instruction) (m' : Machine) (flow : Flow) (pc : Word)
      (found : m.instruction = .ok i)
      (carried : execute { m with redraw := false } i = m'.proceed flow)
      (goes : flow.target? m.pc = some pc) :
      Stepped m ⟨.ok (.executed i), { m' with pc := pc }⟩

/-- Only a key wait lets the program go nowhere. -/
theorem eq_awaitKey_of_wait {m' : Machine} (h : m.execute i = m'.proceed .wait) :
    ∃ x, i = .awaitKey x ∧ m.keys.lowest? = none ∧ m' = m := by
  have course := flow_of_proceed h
  cases i with
  | awaitKey x =>
    rcases takeKey_eq_proceed_iff.1 h with ⟨up, same, -⟩ | ⟨key, -, -, moved⟩
    · exact ⟨x, rfl, up, same⟩
    · cases moved
  | skipIf condition =>
    change _ = if _ then _ else _ at course
    split at course <;> cases course
  | _ => cases course

theorem conclude_carried {before m' : Machine} {flow : Flow} {pc : Word}
    (goes : flow.target? before.pc = some pc) :
    before.conclude i (m'.proceed flow) = ⟨.ok (.executed i), { m' with pc := pc }⟩ := by
  simp only [conclude, proceed, goes]

/-- Every step ends in one of the three ways. -/
theorem stepped (m : Machine) : m.Stepped m.step := by
  cases found : m.instruction with
  | error fault =>
    rw [step_of_error found]
    exact .faulted fault
  | ok i =>
    rw [step_of_ok found, carryOut]
    generalize ran : execute { m with redraw := false } i = out
    have ends := ends_execute { m with redraw := false } i
    rw [ran] at ends
    cases ends with
    | refused fault => exact .faulted fault
    | carried m' flow =>
      cases goes : flow.target? m.pc with
      | some pc =>
        rw [conclude_carried goes]
        exact .executed i m' flow pc found ran goes
      | none =>
        -- Only a wait goes nowhere, and only a key wait waits.
        have stays : flow = .wait := by
          cases flow <;> cases goes
          rfl
        subst stays
        obtain ⟨x, rfl, up, rfl⟩ := eq_awaitKey_of_wait ran
        rw [conclude_wait]
        exact .waiting x found up

/-- A fault leaves the machine alone. -/
theorem machine_step_of_error (h : m.step.result = .error fault) : m.step.machine = m := by
  have ends := m.stepped
  cases ran : m.step with
  | mk result after =>
    rw [ran] at h ends
    cases h
    cases ends
    rfl

/-- What a step has executed is the instruction at the program counter. -/
theorem instruction_of_executed (executed : m.step.result = .ok (.executed i)) :
    m.instruction = .ok i := by
  have ends := m.stepped
  generalize m.step = out at executed ends
  cases ends with
  | faulted fault => cases executed
  | waiting x found up => cases executed
  | executed i m' flow pc found carried goes =>
    cases executed
    exact found

/-- A step that waits has found a key wait and no key. -/
theorem step_of_isAwaiting (waits : m.step.isAwaiting = true) :
    ∃ x, m.instruction = .ok (.awaitKey x) ∧ m.keys.lowest? = none ∧
      m.step = ⟨.ok .awaitingKey, { m with redraw := false }⟩ := by
  have ends := m.stepped
  generalize m.step = out at waits ends
  cases ends with
  | faulted fault => cases waits
  | waiting x found up => exact ⟨x, found, up, rfl⟩
  | executed i m' flow pc found carried goes => cases waits

/-- A key wait cannot fault. -/
theorem result_step_ne_error_of_awaitKey {x : Register}
    (found : m.instruction = .ok (.awaitKey x)) : m.step.result ≠ .error fault := by
  rw [step_of_ok found, carryOut]
  change (conclude m _ (takeKey { m with redraw := false } x)).result ≠ _
  cases taken : m.keys.lowest? with
  | none =>
    rw [takeKey_of_up (m := { m with redraw := false }) taken]
    intro h
    cases h
  | some key =>
    rw [takeKey_of_down (m := { m with redraw := false }) taken]
    intro h
    cases h

/-! ## Blocking steps -/

/-- How a blocking step of `m` can end. Between its looks only the keys change. -/
inductive Blocked (m : Machine) : Outcome Fault Progress → Prop where
  | atOnce (ready : m.step.isAwaiting = false) : Blocked m m.step
  | later (waits : m.step.isAwaiting = true) (keys : Keypad)
      (ready : (step { m with redraw := false, keys := keys }).isAwaiting = false) :
      Blocked m (step { m with redraw := false, keys := keys })
  | gaveUp (waits : m.step.isAwaiting = true) (keys : Keypad) :
      Blocked m ⟨.ok .awaitingKey, { m with redraw := false, keys := keys }⟩

/-- Every blocking step ends in one of the three ways. -/
theorem blocked (m : Machine) (frames : List Frame) :
    m.Blocked (m.stepBlocking frames).toOutcome := by
  induction frames generalizing m with
  | nil =>
    cases waits : m.step.isAwaiting with
    | false =>
      rw [stepBlocking_of_not_awaiting waits]
      exact .atOnce waits
    | true =>
      obtain ⟨x, -, -, e⟩ := step_of_isAwaiting waits
      rw [stepBlocking_nil waits, e]
      exact .gaveUp waits m.keys
  | cons frame rest ih =>
    cases waits : m.step.isAwaiting with
    | false =>
      rw [stepBlocking_of_not_awaiting waits]
      exact .atOnce waits
    | true =>
      obtain ⟨x, -, -, e⟩ := step_of_isAwaiting waits
      rw [stepBlocking_cons waits, e]
      cases frame.go with
      | false => exact .gaveUp waits frame.keys
      | true =>
        -- The later looks begin at `m` itself but for its keys, so their end is one of `m`.
        have ends := ih { m with redraw := false, keys := frame.keys }
        generalize stepBlocking { m with redraw := false, keys := frame.keys } rest = w at ends
        obtain ⟨out, polls⟩ := w
        change m.Blocked out
        cases ends with
        | atOnce ready => exact .later waits frame.keys ready
        | later _ keys ready => exact .later waits keys ready
        | gaveUp _ keys => exact .gaveUp waits keys

end Chip8.Machine
