import Chip8.Machine.Host
import Chip8.Proofs.Stepping

/-!
# Failures leave no trace

A step that faults leaves the machine as it was before, with every register, cell and
pixel, the redraw flag and the place in the random bytes. A blocking step that faults
has moreover not looked at the keys: once it waits, all that it can do is to take a key
or to give the wait up, whatever its host shows.
-/

namespace Chip8.Machine

variable {σ : Type} {host : Host σ} {m : Machine} {s t : σ} {w : Waited} {fault : Fault}

/-- What a wait is tried again on finds the same wait. -/
theorem instruction_of_isAwaiting {x : Register} (found : m.instruction = .ok (.awaitKey x))
    (waits : m.step.isAwaiting = true) (keys : Keypad) :
    instruction { m.step.machine with keys := keys } = .ok (.awaitKey x) := by
  obtain ⟨-, -, -, e⟩ := step_of_isAwaiting waits
  rw [e]
  exact found

/-- A blocking step that finds a key wait never faults. The induction is on the looks;
what carries it is that the wait is still the next instruction after each of them. -/
theorem Blocks.result_ne_error (h : m.Blocks host s w t) {x : Register}
    (found : m.instruction = .ok (.awaitKey x)) : w.result ≠ .error fault := by
  induction h with
  | done => exact result_step_ne_error_of_awaitKey found
  | stop => simp
  | again waits _ _ _ ih => exact ih (instruction_of_isAwaiting found waits _)

/-- A blocking step faults at once or not at all. -/
theorem Blocks.of_error (h : m.Blocks host s w t) (failed : w.result = .error fault) :
    w.machine = m ∧ w.polls = 0 ∧ t = s := by
  cases h with
  | done => exact ⟨machine_step_of_error failed, rfl, rfl⟩
  | stop => cases failed
  | again waits _ _ rest =>
    obtain ⟨x, found, -, -⟩ := step_of_isAwaiting waits
    exact absurd failed (rest.result_ne_error (instruction_of_isAwaiting found waits _))

/-- A failed step changes nothing, and a failed blocking step changes nothing and has not
looked at the keys, whether a script or any other host would have shown them. -/
theorem failed_step_atomic (m : Machine) (fault : Fault) :
    (m.step.result = .error fault → m.step.machine = m) ∧
      (∀ frames, (m.stepBlocking frames).result = .error fault →
        (m.stepBlocking frames).machine = m ∧ (m.stepBlocking frames).polls = 0) ∧
      ∀ (σ : Type) (host : Host σ) (s t : σ) (w : Waited), m.Blocks host s w t →
        w.result = .error fault → w.machine = m ∧ w.polls = 0 ∧ t = s := by
  refine ⟨machine_step_of_error, ?_, ?_⟩
  · intro frames failed
    obtain ⟨rest, h⟩ := m.blocks_scripted frames
    obtain ⟨same, unasked, -⟩ := h.of_error failed
    exact ⟨same, unasked⟩
  · intro σ host s t w h failed
    exact h.of_error failed

/-- A machine with a redraw pending that is about to draw a sprite whose second row lies
outside memory. -/
def overhanging : Machine :=
  { memory := Block.write (.replicate 4096 0) 0x200 [0xD0, 0x12]
    registers := (Registers.zero.set 0xF 7)
    index := 0xFFF
    redraw := true
    collision := .anyPixel
    noise := { bytes := fun k => .ofNat k } }

/-- A host that counts its looks, shows no key down and never gives a wait up. -/
def patient : Host ℕ where
  poll looks _ := (⟨.released, true⟩, looks + 1)

theorem failed_step_atomic_overhanging :
    overhanging.step.result = .error (.addressOutOfRange 0x1000 0x200) ∧
      overhanging.step.machine = overhanging ∧
      (overhanging.stepBlocking [⟨.ofList [3], true⟩]).machine = overhanging ∧
      (overhanging.stepBlocking [⟨.ofList [3], true⟩]).polls = 0 ∧
      ∃ w t, overhanging.Blocks patient 0 w t ∧ w.machine = overhanging ∧ w.polls = 0 ∧
        t = 0 := by
  have failed : overhanging.step.result = .error (.addressOutOfRange 0x1000 0x200) := by
    decide +kernel
  have failedToo : (overhanging.stepBlocking [⟨.ofList [3], true⟩]).result =
      .error (.addressOutOfRange 0x1000 0x200) := by
    decide +kernel
  have ready : overhanging.step.isAwaiting = false := by decide +kernel
  have asks : overhanging.Blocks patient 0 ⟨overhanging.step, 0⟩ 0 := .done ready
  have atomic := failed_step_atomic overhanging (.addressOutOfRange 0x1000 0x200)
  obtain ⟨same, unasked⟩ := atomic.2.1 _ failedToo
  exact ⟨failed, atomic.1 failed, same, unasked, _, _, asks, atomic.2.2 ℕ _ _ _ _ asks failed⟩

end Chip8.Machine
