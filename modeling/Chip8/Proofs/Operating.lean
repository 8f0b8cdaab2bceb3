import Chip8.Proofs.History
import Chip8.Proofs.Stepping

/-!
# What an operation can do

Whoever drives a machine does one of four things to it: the machine executes the
instruction at the program counter, and then that instruction's list of parts says what may
have changed; or it executes nothing, and then the program has not gone on; or a program is
loaded; or the machine is reset. A blocking step adds nothing of its own, since what it
executes in the end it executes as a step would, with the keys that it was shown last.

## Main definitions

* `Machine.Performed` — the four ways for an operation to end.

## Main statements

* `Machine.performed` — every operation ends in one of them.
* `Machine.get_perform` — an operation keeps what the executed instruction does not list.
-/

namespace Chip8.Machine

variable {m m' : Machine} {i : Instruction} {p : Part} {op : Operation} {flow : Flow}
  {keys : Keypad} {out : Outcome Fault Progress}

/-! ## One step -/

/-- A machine is its parts and its program counter. -/
theorem eq_of_get (same : ∀ p : Part, p.get m' = p.get m) : m' = { m with pc := m'.pc } := by
  have registers : m'.registers = m.registers := by
    apply Vector.ext
    intro r hr
    exact same (.register ⟨r, hr⟩)
  have memory : m'.memory = m.memory := same .memory
  have index : m'.index = m.index := same .index
  have calls : m'.calls = m.calls := same .calls
  have screen : m'.screen = m.screen := same .screen
  have delay : m'.delay = m.delay := same .delay
  have sound : m'.sound = m.sound := same .sound
  have keys : m'.keys = m.keys := same .keys
  have redraw : m'.redraw = m.redraw := same .redraw
  have collision : m'.collision = m.collision := same .collision
  have noise : m'.noise = m.noise := same .noise
  rw [← registers, ← memory, ← index, ← calls, ← screen, ← delay, ← sound, ← keys, ← redraw,
    ← collision, ← noise]

theorem get_of_proceed (h : m.execute i = m'.proceed flow) (spared : p ∉ i.writes) :
    p.get m' = p.get m := by
  have same := get_execute m spared
  rw [h] at same
  exact same

/-- What an instruction does not list is after the step as it was before, but for the redraw
flag, which the step begins by clearing. -/
theorem get_step (executed : m.step.result = .ok (.executed i)) (spared : p ∉ i.writes) :
    p.get m.step.machine = p.get { m with redraw := false } := by
  have ends := m.stepped
  generalize m.step = out at executed ends
  cases ends with
  | faulted fault => cases executed
  | waiting x found up => cases executed
  | executed i m' flow pc found carried goes =>
    cases executed
    exact (get_with_pc m' p pc).trans (get_of_proceed carried spared)

/-- A step that executes an instruction changes no part but those that the instruction
lists, apart from the redraw flag; and an instruction that lists nothing only moves the
program counter. -/
theorem step_writes (m : Machine) (i : Instruction)
    (executed : m.step.result = .ok (.executed i)) :
    (∀ p : Part, p ≠ .redraw → p.get m.step.machine ≠ p.get m → p ∈ i.writes) ∧
      (i.writes = [] →
        m.step.machine = { m with pc := m.step.machine.pc, redraw := false }) := by
  constructor
  · intro p other changed
    by_contra spared
    exact changed ((get_step executed spared).trans (Part.get_set_of_ne other m false))
  · intro none
    refine eq_of_get (m := { m with redraw := false }) fun p => get_step executed ?_
    rw [none]
    exact List.not_mem_nil

/-- A machine about to fetch three registers from the cells of the instruction itself. -/
def fetching : Machine :=
  { memory := Block.write Memory.initial 0x200 [0xF2, 0x65, 0x07]
    registers := Registers.zero.set 3 9
    index := 0x200
    redraw := true
    collision := .lastBit
    noise := { bytes := fun k => .ofNat k } }

theorem step_writes_fetching :
    fetching.step.result = .ok (.executed (.restore 2)) ∧
      fetching.step.machine.registers.get 2 = 7 ∧
      fetching.step.machine.registers.get 3 = 9 ∧ fetching.step.machine.index = 0x200 := by
  obtain ⟨executed, fetched⟩ : fetching.step.result = .ok (.executed (.restore 2)) ∧
      fetching.step.machine.registers.get 2 = 7 := by
    decide +kernel
  have changes := (step_writes fetching (.restore 2) executed).1
  have kept : ∀ p ∉ (Instruction.restore 2).writes, p ≠ .redraw →
      p.get fetching.step.machine = p.get fetching := by
    intro p spared other
    by_contra changed
    exact spared (changes p other changed)
  refine ⟨executed, fetched, ?_, ?_⟩
  · exact kept (.register 3) (by decide) (by decide)
  · exact kept .index (by decide) (by decide)

/-! ## One operation -/

/-- How an operation of `m` can end that has executed an instruction, or none. -/
inductive Performed (m : Machine) : Operation → Option Instruction → Machine → Prop where
  /-- The instruction at the program counter has been carried out, with these keys. -/
  | executed {op : Operation} (i : Instruction) (keys : Keypad) (m' : Machine) (flow : Flow)
      (pc : Word) (found : m.instruction = .ok i)
      (carried : execute { m with redraw := false, keys := keys } i = m'.proceed flow)
      (goes : flow.target? m.pc = some pc) : Performed m op (some i) { m' with pc := pc }
  /-- The program has not gone on. -/
  | idle {op : Operation} {m' : Machine}
      (quiet : ∀ p, p ∉ [Part.keys, .delay, .sound, .redraw] → p.get m' = p.get m)
      (stays : m'.pc = m.pc) : Performed m op none m'
  | loaded (source : Source) : Performed m (.load source) none (m.load source).machine
  | reset : Performed m .reset none m.reset

/-- The keys and the redraw flag are among the parts that an idle operation may change. -/
theorem get_with_keys_redraw (quiet : p ∉ [Part.keys, .delay, .sound, .redraw]) (m : Machine)
    (keys : Keypad) (redraw : Bool) :
    p.get { m with redraw := redraw, keys := keys } = p.get m := by
  obtain ⟨keypad, -, -, flag⟩ : p ≠ .keys ∧ p ≠ .delay ∧ p ≠ .sound ∧ p ≠ .redraw := by
    simpa using quiet
  exact (Part.get_set_of_ne keypad { m with redraw := redraw } keys).trans
    (Part.get_set_of_ne flag m redraw)

theorem Stepped.performed (ends : m.Stepped out) :
    m.Performed op (Answer.stepped out.result).executed? out.machine := by
  cases ends with
  | faulted fault => exact .idle (fun _ _ => rfl) rfl
  | waiting x found up =>
    exact .idle (fun p quiet => get_with_keys_redraw quiet m m.keys false) rfl
  | executed i m' flow pc found carried goes =>
    exact .executed i m.keys m' flow pc found carried goes

/-- What a later look ends with is an end of the blocking step that began at `m`. -/
theorem Performed.of_look {executed : Option Instruction} {frames : List Frame}
    (h : Performed { m with redraw := false, keys := keys } (.stepBlocking frames) executed m') :
    m.Performed (.stepBlocking frames) executed m' := by
  cases h with
  | executed i keys m' flow pc found carried goes =>
    exact .executed i keys m' flow pc found carried goes
  | idle quiet stays =>
    refine .idle (fun p calm => ?_) stays
    rw [quiet p calm, get_with_keys_redraw calm]

theorem Blocked.performed {frames : List Frame} (ends : m.Blocked out) :
    m.Performed (.stepBlocking frames) (Answer.stepped out.result).executed? out.machine := by
  cases ends with
  | atOnce ready => exact m.stepped.performed
  | later waits keys ready => exact (stepped _).performed.of_look
  | gaveUp waits keys =>
    exact .idle (fun p quiet => get_with_keys_redraw quiet m keys false) rfl

/-- The number of looks is not counted among the instructions. -/
theorem executed_waited (result : Except Fault Progress) (polls : ℕ) :
    (Answer.waited result polls).executed? = (Answer.stepped result).executed? := by
  cases result with
  | error fault => rfl
  | ok progress => cases progress <;> rfl

theorem result_of_executed {result : Except Fault Progress}
    (executed : (Answer.stepped result).executed? = some i) : result = .ok (.executed i) := by
  cases result with
  | error fault => cases executed
  | ok progress =>
    cases progress with
    | executed found =>
      cases executed
      rfl
    | awaitingKey => cases executed

/-- Every operation ends in one of the four ways. -/
theorem performed (m : Machine) (op : Operation) :
    m.Performed op (m.perform op).1.executed? (m.perform op).2 := by
  cases op with
  | load source => exact .loaded source
  | step => exact m.stepped.performed
  | stepBlocking frames =>
    rw [perform, executed_waited]
    exact (m.blocked frames).performed
  | reset => exact .reset
  | _ =>
    -- What is left moves keys and timers.
    refine .idle (fun p quiet => ?_) rfl
    cases p with
    | keys | delay | sound | redraw => simp at quiet
    | _ => rfl

/-- What executes an instruction has found it at the program counter and carried it out, with
some keys. -/
theorem proceeded_of_executed (executed : (m.perform op).1.executed? = some i) :
    ∃ (keys : Keypad) (m' : Machine) (flow : Flow) (pc : Word), m.instruction = .ok i ∧
      execute { m with redraw := false, keys := keys } i = m'.proceed flow ∧
      flow.target? m.pc = some pc ∧ (m.perform op).2 = { m' with pc := pc } := by
  have ends := m.performed op
  rw [executed] at ends
  generalize (m.perform op).2 = after at ends
  cases ends with
  | executed i keys m' flow pc found carried goes =>
    exact ⟨keys, m', flow, pc, found, carried, goes, rfl⟩

/-- What executes an instruction other than a key wait has done a step and nothing else: a
blocking step that looks at the keys can only execute the wait that it has met. -/
theorem perform_of_executed (executed : (m.perform op).1.executed? = some i)
    (ready : ∀ x, i ≠ .awaitKey x) :
    m.step.result = .ok (.executed i) ∧ (m.perform op).2 = m.step.machine := by
  cases op with
  | step => exact ⟨result_of_executed executed, rfl⟩
  | stepBlocking frames =>
    rw [perform, executed_waited] at executed
    have ends := m.blocked frames
    change _ ∧ (m.stepBlocking frames).toOutcome.machine = _
    generalize (m.stepBlocking frames).toOutcome = out at executed ends
    cases ends with
    | atOnce _ => exact ⟨result_of_executed executed, rfl⟩
    | later waits keys _ =>
      obtain ⟨x, found, -, -⟩ := step_of_isAwaiting waits
      have same := instruction_of_executed (result_of_executed executed)
      exact absurd (Except.ok.inj (same.symm.trans found)) (ready x)
    | gaveUp _ keys => cases executed
  | _ => cases executed

/-- What an instruction does not list is after every operation that executes it as it was
before, but for the keys and the redraw flag. -/
theorem get_perform (executed : (m.perform op).1.executed? = some i) (spared : p ∉ i.writes)
    (quiet : p ∉ [Part.keys, .delay, .sound, .redraw]) :
    p.get (m.perform op).2 = p.get m := by
  obtain ⟨keys, m', flow, pc, -, carried, -, e⟩ := proceeded_of_executed executed
  rw [e, get_with_pc, get_of_proceed carried spared, get_with_keys_redraw quiet]

/-! ## Loading -/

/-- A load copies the whole program into memory, or fails and changes nothing. -/
theorem load_cases (m : Machine) (source : Source) :
    (∃ rom, source.contents = .ok rom ∧ rom.length ≤ Layout.programLimit ∧
        m.load source =
          ⟨.ok (), { m with memory := Block.write m.memory Layout.programStart.toNat rom }⟩) ∨
      ∃ error, m.load source = ⟨.error error, m⟩ := by
  cases contents : source.contents with
  | error cause => exact .inr ⟨.unreadable cause, m.load_of_unreadable contents⟩
  | ok rom =>
    by_cases large : Layout.programLimit < rom.length
    · exact .inr ⟨.tooLarge rom.length, m.load_of_large contents large⟩
    · have fits := Nat.le_of_not_lt large
      exact .inl ⟨rom, rfl, fits, m.load_of_fits contents fits⟩

/-- A load touches nothing but memory, whether it succeeds or not. -/
theorem machine_load (m : Machine) (source : Source) :
    (m.load source).machine = { m with memory := (m.load source).machine.memory } := by
  obtain ⟨rom, -, -, e⟩ | ⟨error, e⟩ := m.load_cases source <;> rw [e]

end Chip8.Machine
