import Chip8.Proofs.Execution
import Chip8.Proofs.History

/-!
# The driver and the program do not meet

Between its steps a machine is tended by its driver, who moves keys and counts timers down.
Only six kinds of instruction depend on that: those that ask for a key, and those that read or
set a timer. Every other step, one that faults included, ends in the same way whether it
comes before the driver's doing or after it, and both orders leave the same machine. So as
long as no step meets one of these, it makes no difference how the steps and the driver's
doings are interleaved.

## Main definitions

* `Instruction.usesKeysOrTimers` — the instructions that have to do with keys and timers.
* `Turn`, `Machine.turns` — what happens to a machine in turn, and a course of it.
* `Interleaves` — the interleavings of two lists.
* `Machine.Overlooks` — no step of a course meets such an instruction.

## Main statements

* `Machine.step_tend` — any other step commutes with the driver's doing.
* `Machine.turns_of_interleaves` — an interleaving ends as if all steps had come first.
* `Machine.interleavings_agree` — all interleavings answer and end alike.
-/

namespace Chip8

/-! ## Instructions that use keys or timers -/

/-- The condition looks at a key. -/
def Condition.looksAtKey : Condition → Bool
  | .keyDown _ | .keyUp _ => true
  | _ => false

/-- The instruction looks at keys, or reads or sets a timer. -/
def Instruction.usesKeysOrTimers : Instruction → Bool
  | .skipIf condition => condition.looksAtKey
  | .awaitKey _ | .readDelay _ | .setDelay _ | .setSound _ => true
  | _ => false

/-- A condition that looks at no key holds whatever keys are down. -/
theorem Condition.holds_of_keys {condition : Condition} (calm : condition.looksAtKey = false)
    (registers : Registers) (keys keys' : Keypad) :
    condition.holds registers keys = condition.holds registers keys' := by
  cases condition with
  | keyDown x | keyUp x => cases calm
  | _ => rfl

/-- A change of keys and timers that looks at nothing else. -/
structure Tending where
  keys : Keypad → Keypad := id
  delay : UInt8 → UInt8 := id
  sound : UInt8 → UInt8 := id

/-- What a tick does to a timer. -/
def Tending.countDown (timer : UInt8) : UInt8 :=
  if timer = 0 then 0 else timer - 1

namespace Machine

/-- The machine after its keys and timers have been changed. -/
def tend (m : Machine) (t : Tending) : Machine :=
  { m with keys := t.keys m.keys, delay := t.delay m.delay, sound := t.sound m.sound }

end Machine

/-- The same answer, and the machine that is left after a change of its keys and timers. -/
def Outcome.tend {ε α : Type} (out : Outcome ε α) (t : Tending) : Outcome ε α :=
  ⟨out.result, out.machine.tend t⟩

namespace Machine

variable {m : Machine} {i : Instruction} {t : Tending}

/-! ## One step -/

/-- The cells at `I` are found alike, so it matters only what is made of them. -/
theorem withBlock_tend {len : ℕ} {next next' : List UInt8 → Machine}
    (same : ∀ block, next' block = (next block).tend t) :
    (m.tend t).withBlock len next' = (m.withBlock len next).tend t := by
  cases read : Block.read? m.memory m.index.toNat len with
  | none =>
    rw [withBlock_of_none read, withBlock_of_none (m := m.tend t) read]
    rfl
  | some block =>
    rw [withBlock_of_some read, withBlock_of_some (m := m.tend t) read, same]
    rfl

theorem leave_tend (m : Machine) (t : Tending) : (m.tend t).leave = m.leave.tend t := by
  cases empty : m.calls.isEmpty with
  | true =>
    rw [leave_of_empty empty, leave_of_empty (m := m.tend t) empty]
    rfl
  | false =>
    rw [leave_of_held empty, leave_of_held (m := m.tend t) empty]
    rfl

theorem enter_tend (m : Machine) (t : Tending) (target : Address) :
    (m.tend t).enter target = (m.enter target).tend t := by
  cases full : m.calls.isFull with
  | true =>
    rw [enter_of_full full, enter_of_full (m := m.tend t) full]
    rfl
  | false =>
    rw [enter_of_room full, enter_of_room (m := m.tend t) full]
    rfl

/-- An instruction that uses no key and no timer can be executed before the change or after
it, whether it is carried out or refused. -/
theorem execute_tend (calm : i.usesKeysOrTimers = false) (m : Machine) (t : Tending) :
    (m.tend t).execute i = (m.execute i).tend t := by
  cases i with
  | awaitKey x | readDelay x | setDelay x | setSound x => cases calm
  | skipIf condition =>
    change proceed _ (if condition.holds m.registers (t.keys m.keys) then _ else _) = _
    rw [condition.holds_of_keys calm m.registers (t.keys m.keys) m.keys]
    rfl
  | ret => exact m.leave_tend t
  | call target => exact m.enter_tend t target
  | draw x y height => exact withBlock_tend fun _ => rfl
  | decimal x => exact withBlock_tend fun _ => rfl
  | save x => exact withBlock_tend fun _ => rfl
  | restore x => exact withBlock_tend fun _ => rfl
  | _ => rfl

theorem conclude_tend (m : Machine) (t : Tending) (i : Instruction)
    (out : Outcome Fault Flow) :
    (m.tend t).conclude i (out.tend t) = (m.conclude i out).tend t := by
  obtain ⟨result, after⟩ := out
  cases result with
  | error fault => rfl
  | ok flow => cases flow <;> rfl

theorem instruction_tend (m : Machine) (t : Tending) :
    (m.tend t).instruction = m.instruction := rfl

/-- The next step meets an instruction that uses keys or timers. A word of no instruction uses
none. -/
def usesKeysOrTimers (m : Machine) : Bool :=
  match m.instruction with
  | .ok i => i.usesKeysOrTimers
  | .error _ => false

theorem usesKeysOrTimers_tend (m : Machine) (t : Tending) :
    (m.tend t).usesKeysOrTimers = m.usesKeysOrTimers := rfl

theorem usesKeysOrTimers_of_instruction (found : m.instruction = .ok i) :
    m.usesKeysOrTimers = i.usesKeysOrTimers := by
  rw [usesKeysOrTimers, found]

/-- A step that uses no key and no timer can be made before the change or after it. -/
theorem step_tend (calm : m.usesKeysOrTimers = false) (t : Tending) :
    (m.tend t).step = m.step.tend t := by
  cases found : m.instruction with
  | error fault =>
    rw [step_of_error found, step_of_error ((m.instruction_tend t).trans found)]
    rfl
  | ok i =>
    rw [usesKeysOrTimers_of_instruction found] at calm
    rw [step_of_ok found, step_of_ok ((m.instruction_tend t).trans found), carryOut, carryOut,
      ← conclude_tend, ← execute_tend calm]
    rfl

end Machine

/-! ## Courses of turns -/

/-- What can happen to a machine in turn: an operation, or a change of its keys that may look
at them. -/
inductive Turn where
  | op (op : Operation)
  | keys (change : Keypad → Keypad)

/-- It is the driver who moves keys or counts timers down. -/
def Turn.isInput : Turn → Bool
  | .op (.setKey _ _) | .op (.setKeys _) | .op (.pressKeys _) | .op .releaseKeys => true
  | .op .tick | .op .tickDelay | .op .tickSound => true
  | .keys _ => true
  | _ => false

/-- It is the program that goes on. -/
def Turn.isStep : Turn → Bool
  | .op .step => true
  | _ => false

theorem Turn.isStep_of_isInput {t : Turn} (input : t.isInput = true) : t.isStep = false := by
  cases t with
  | keys change => rfl
  | op op =>
    cases op with
    | step => cases input
    | _ => rfl

/-- The result of a step, if the answer is one to a step. -/
def Answer.stepped? : Answer → Option (Except Fault Progress)
  | .stepped result => some result
  | _ => none

/-- `Interleaves first second whole`: the whole holds the elements of both lists, those of
each list in its own order. -/
inductive Interleaves {α : Type} : List α → List α → List α → Prop where
  | nil : Interleaves [] [] []
  | left (a : α) {first second whole : List α} (rest : Interleaves first second whole) :
      Interleaves (a :: first) second (a :: whole)
  | right (a : α) {first second whole : List α} (rest : Interleaves first second whole) :
      Interleaves first (a :: second) (a :: whole)

namespace Machine

variable {m : Machine}

/-- Does what happens in one turn. -/
def turn (m : Machine) : Turn → Answer × Machine
  | .op op => m.perform op
  | .keys change => (.done, { m with keys := change m.keys })

/-- Does what happens in one turn after another. -/
def turns (m : Machine) : List Turn → List Answer × Machine
  | [] => ([], m)
  | t :: rest =>
    let first := m.turn t
    let later := first.2.turns rest
    (first.1 :: later.1, later.2)

theorem turns_cons (m : Machine) (t : Turn) (rest : List Turn) :
    m.turns (t :: rest) =
      ((m.turn t).1 :: ((m.turn t).2.turns rest).1, ((m.turn t).2.turns rest).2) := rfl

/-- No step of a course meets an instruction that uses keys or timers. -/
def Overlooks : Machine → List Turn → Prop
  | _, [] => True
  | m, t :: rest => (t.isStep = true → m.usesKeysOrTimers = false) ∧ Overlooks (m.turn t).2 rest

instance decidableOverlooks (m : Machine) : (course : List Turn) → Decidable (m.Overlooks course)
  | [] => inferInstanceAs (Decidable True)
  | t :: rest =>
    have := decidableOverlooks (m.turn t).2 rest
    inferInstanceAs (Decidable ((t.isStep = true → m.usesKeysOrTimers = false) ∧
      (m.turn t).2.Overlooks rest))

theorem overlooks_step {rest : List Turn} :
    m.Overlooks (.op .step :: rest) ↔ m.usesKeysOrTimers = false ∧ m.step.machine.Overlooks rest :=
  and_congr_left' (forall_prop_of_true rfl)

theorem overlooks_input {t : Turn} (input : t.isInput = true) {rest : List Turn} :
    m.Overlooks (t :: rest) ↔ (m.turn t).2.Overlooks rest := by
  refine and_iff_right fun step => ?_
  rw [Turn.isStep_of_isInput input] at step
  cases step

/-- What the driver does is a change of keys and timers. -/
theorem exists_tending {t : Turn} (input : t.isInput = true) :
    ∃ c : Tending, ∀ m : Machine, m.turn t = (.done, m.tend c) := by
  cases t with
  | keys change => exact ⟨{ keys := change }, fun m => rfl⟩
  | op op =>
    cases op with
    | setKey key down => exact ⟨{ keys := (·.set key down) }, fun m => rfl⟩
    | setKeys keys => exact ⟨{ keys := fun _ => keys }, fun m => rfl⟩
    | pressKeys keys => exact ⟨{ keys := (·.press keys) }, fun m => rfl⟩
    | releaseKeys => exact ⟨{ keys := fun _ => .released }, fun m => rfl⟩
    | tick => exact ⟨{ delay := Tending.countDown, sound := Tending.countDown }, fun m => rfl⟩
    | tickDelay => exact ⟨{ delay := Tending.countDown }, fun m => rfl⟩
    | tickSound => exact ⟨{ sound := Tending.countDown }, fun m => rfl⟩
    | load source => cases input
    | step => cases input
    | stepBlocking frames => cases input
    | reset => cases input

/-- Steps that use no keys and no timers can all be made before a change or after it. The
induction is on the steps; each of them hands the changed machine on to the next. -/
theorem turns_tend {steps : List Turn} (paced : ∀ s ∈ steps, s = .op .step) (m : Machine)
    (t : Tending) :
    ((m.tend t).Overlooks steps ↔ m.Overlooks steps) ∧
      (m.Overlooks steps →
        (m.tend t).turns steps = ((m.turns steps).1, (m.turns steps).2.tend t)) := by
  induction steps generalizing m with
  | nil => exact ⟨Iff.rfl, fun _ => rfl⟩
  | cons s rest ih =>
    obtain rfl := paced s List.mem_cons_self
    obtain ⟨carries, alike⟩ :=
      ih (fun s among => paced s (List.mem_cons_of_mem _ among)) m.step.machine
    constructor
    · rw [overlooks_step, overlooks_step, usesKeysOrTimers_tend]
      refine and_congr_right fun calm => ?_
      rw [step_tend calm]
      exact carries
    · intro overlooks
      obtain ⟨calm, later⟩ := overlooks_step.1 overlooks
      have first : (m.tend t).turn (.op .step) =
          (.stepped m.step.result, m.step.machine.tend t) := by
        rw [turn, perform, step_tend calm]
        rfl
      rw [turns_cons, turns_cons, first, alike later]
      rfl

/-- An interleaving of steps with what the driver does ends as if all steps had come first:
with the same results, and in the same machine. The induction is on the interleaving, and
takes what the driver does first behind all the steps. -/
theorem turns_of_interleaves {steps inputs course : List Turn}
    (woven : Interleaves steps inputs course) (paced : ∀ s ∈ steps, s = .op .step)
    (moved : ∀ t ∈ inputs, t.isInput = true) (m : Machine) :
    (m.Overlooks course ↔ m.Overlooks steps) ∧
      (m.Overlooks course →
        (m.turns course).1.filterMap Answer.stepped? =
            (m.turns steps).1.filterMap Answer.stepped? ∧
          (m.turns course).2 = ((m.turns steps).2.turns inputs).2) := by
  induction woven generalizing m with
  | nil => exact ⟨Iff.rfl, fun _ => ⟨rfl, rfl⟩⟩
  | left s rest ih =>
    obtain rfl := paced s List.mem_cons_self
    obtain ⟨carries, alike⟩ :=
      ih (fun s among => paced s (List.mem_cons_of_mem _ among)) moved m.step.machine
    constructor
    · rw [overlooks_step, overlooks_step]
      exact and_congr_right fun _ => carries
    · intro overlooks
      obtain ⟨results, ends⟩ := alike (overlooks_step.1 overlooks).2
      refine ⟨?_, ends⟩
      change m.step.result :: _ = m.step.result :: _
      exact congrArg _ results
  | @right t steps inputs course rest ih =>
    have input := moved t List.mem_cons_self
    obtain ⟨c, turned⟩ := exists_tending input
    obtain ⟨carries, alike⟩ :=
      ih paced (fun t among => moved t (List.mem_cons_of_mem _ among)) (m.tend c)
    obtain ⟨before, after⟩ := turns_tend paced m c
    have tended : m.Overlooks (t :: course) ↔ (m.tend c).Overlooks course := by
      rw [overlooks_input input, turned]
    refine ⟨tended.trans (carries.trans before), ?_⟩
    intro overlooks
    have still := tended.1 overlooks
    obtain ⟨results, ends⟩ := alike still
    have same := after (before.1 (carries.1 still))
    rw [same] at results ends
    rw [turns_cons, turns_cons, turned, turned]
    exact ⟨results, ends⟩

/-- What the driver does and what the program does are independent, unless the program looks.
Take any machine, any number of steps and any list of what the driver does to its keys and
timers. If in one interleaving of the two no step meets an instruction that uses keys or timers,
then none does in any other, and all of them give the same result for each step and leave the
same machine. -/
theorem interleavings_agree (m : Machine) (n : ℕ) (inputs : List Turn)
    (moved : ∀ t ∈ inputs, t.isInput = true) (course course' : List Turn)
    (woven : Interleaves (List.replicate n (.op .step)) inputs course)
    (woven' : Interleaves (List.replicate n (.op .step)) inputs course')
    (overlooks : m.Overlooks course) :
    (m.turns course).1.filterMap Answer.stepped? =
        (m.turns course').1.filterMap Answer.stepped? ∧
      (m.turns course).2 = (m.turns course').2 ∧ m.Overlooks course' := by
  have paced : ∀ s ∈ List.replicate n (Turn.op .step), s = .op .step := fun s among =>
    List.eq_of_mem_replicate among
  obtain ⟨carries, alike⟩ := turns_of_interleaves woven paced moved m
  obtain ⟨carries', alike'⟩ := turns_of_interleaves woven' paced moved m
  have overlooks' := carries'.2 (carries.1 overlooks)
  obtain ⟨results, ends⟩ := alike overlooks
  obtain ⟨results', ends'⟩ := alike' overlooks'
  exact ⟨results.trans results'.symm, ends.trans ends'.symm, overlooks'⟩

/-- A machine about to draw, to take a random byte and then to meet a word of no
instruction. -/
def absorbed : Machine :=
  { memory := Block.write Memory.initial 0x200 [0xD0, 0x11, 0xC2, 0xFF, 0xFF, 0xFF]
    delay := 1
    sound := 9
    collision := .anyPixel
    noise := { bytes := fun k => .ofNat (7 * k + 3) } }

/-- A key goes down and all keys change places, and the timers are counted down. -/
def driverInputs : List Turn :=
  [.op (.setKey 3 true), .keys Vector.reverse, .op .tick, .op .tickDelay]

theorem interleavings_agree_absorbed :
    (absorbed.turns (List.replicate 3 (.op .step) ++ driverInputs)).2 =
        (absorbed.turns (driverInputs ++ List.replicate 3 (.op .step))).2 ∧
      ((absorbed.turns (List.replicate 3 (.op .step) ++ driverInputs)).1.filterMap
          Answer.stepped?).length = 3 ∧
      (absorbed.turns (List.replicate 3 (.op .step) ++ driverInputs)).2.keys.lowest? = some 12 := by
  have moved : ∀ t ∈ driverInputs, t.isInput = true := by
    simp [driverInputs, Turn.isInput]
  have last : Interleaves (List.replicate 3 (.op .step)) driverInputs
      (List.replicate 3 (.op .step) ++ driverInputs) :=
    .left _ (.left _ (.left _ (.right _ (.right _ (.right _ (.right _ .nil))))))
  have first : Interleaves (List.replicate 3 (.op .step)) driverInputs
      (driverInputs ++ List.replicate 3 (.op .step)) :=
    .right _ (.right _ (.right _ (.right _ (.left _ (.left _ (.left _ .nil))))))
  have overlooks : absorbed.Overlooks (List.replicate 3 (.op .step) ++ driverInputs) := by
    decide +kernel
  obtain ⟨-, same, -⟩ := interleavings_agree absorbed 3 driverInputs moved _ _ last first overlooks
  exact ⟨same, by decide +kernel, by decide +kernel⟩

end Machine
end Chip8
