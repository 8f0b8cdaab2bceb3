import Chip8.Proofs.Agreement
import Chip8.Proofs.Faulting

/-!
# What a program cannot tell apart

Two machines that differ only in some hidden parts go the same way, and go on to differ in
these parts only, as long as no instruction that they execute takes a hidden part as an
input. A step that faults has no say in this: what it faults on is never hidden. For the
flag register and the collision rule this means that a program which never uses the flag
register as an operand cannot tell which rule is in force.

## Main definitions

* `Machine.AgreeBut` — two machines agree on all but some hidden parts.
* `Machine.Hideable` — the parts that can be hidden from a program.
* `Machine.reporting` — the flag register and the collision rule.

## Main statements

* `Machine.AgreeBut.step`, `Machine.AgreeBut.perform` — one step, and one operation, of two
  machines that agree on all but the hidden parts.
* `Machine.Follows.agreeBut`, `Machine.AgreeBut.run` — whole histories of two such machines.
* `Machine.flag_confined` — the flag register and the collision rule are hidden from every
  program that does not use the flag register.
-/

namespace Chip8

namespace Part

variable {m m' : Machine} {p : Part}

theorem Agree.with_pc (h : p.Agree m m') (pc pc' : Word) :
    p.Agree { m with pc := pc } { m' with pc := pc' } :=
  (Agree.of_get (Machine.get_with_pc m p pc)).trans
    (h.trans (.of_get (Machine.get_with_pc m' p pc').symm))

/-- Machines in which a part is moved on by itself agree on as much as before. -/
theorem Agree.modify (h : p.Agree m m') {q : Part} (quiet : q ≠ .noise) (f : q.Value → q.Value) :
    p.Agree (q.set m (f (q.get m))) (q.set m' (f (q.get m'))) := by
  by_cases here : p = q
  · subst here
    have same : p.get m = p.get m' := by
      cases p with
      | noise => exact absurd rfl quiet
      | _ => exact h
    exact h.set p (congrArg f same)
  · have kept : ∀ (m : Machine) (value : q.Value), p.get (q.set m value) = p.get m :=
      get_set_of_ne here
    exact (Agree.of_get (kept m _)).trans (h.trans (.of_get (kept m' _).symm))

end Part

/-- No instruction takes the collision rule as an input. -/
theorem Instruction.collision_notMem_inputs (i : Instruction) : Part.collision ∉ i.inputs := by
  cases i with
  | alu op x y => cases op <;> simp [inputs, Alu.inputs]
  | skipIf condition => cases condition <;> simp [inputs, Condition.inputs]
  | _ => simp [inputs]

/-- The collision rule has a say in no other part than the flag register. -/
theorem Instruction.eq_flag_of_mem_ruled {i : Instruction} {p : Part} (ruled : p ∈ i.ruled) :
    p = .register Registers.flag := by
  cases i with
  | draw x y height => exact List.mem_singleton.1 ruled
  | _ => cases ruled

namespace Machine

variable {m m' : Machine} {hidden : List Part} {op : Operation}

/-- Two machines stand at the same address and agree on all parts that are not hidden. -/
structure AgreeBut (hidden : List Part) (m m' : Machine) : Prop where
  pc : m.pc = m'.pc
  parts : ∀ p ∉ hidden, p.Agree m m'

/-- Parts that can be hidden from a program: a fault does not depend on them, nor does a key
wait, and with the collision rule the part is hidden that the rule has a say in. -/
structure Hideable (hidden : List Part) : Prop where
  memory : Part.memory ∉ hidden
  index : Part.index ∉ hidden
  calls : Part.calls ∉ hidden
  keys : Part.keys ∉ hidden
  rule : Part.collision ∈ hidden → Part.register Registers.flag ∈ hidden

/-! ## One step -/

theorem AgreeBut.unflagged (h : m.AgreeBut hidden m') :
    AgreeBut hidden { m with redraw := false } { m' with redraw := false } :=
  ⟨h.pc, fun p seen => (h.parts p seen).set .redraw (Eq.refl false)⟩

/-- A step whose instruction takes its inputs from parts that are not hidden ends alike,
whether it is refused, waits or is carried out. -/
theorem AgreeBut.step_of_inputs (h : m.AgreeBut hidden m')
    (rule : Part.collision ∈ hidden → Part.register Registers.flag ∈ hidden)
    {i : Instruction} (found : m.instruction = .ok i) (found' : m'.instruction = .ok i)
    (blind : ∀ p ∈ i.inputs, p ∉ hidden) :
    m.step.result = m'.step.result ∧ m.step.machine.AgreeBut hidden m'.step.machine := by
  have cleared := h.unflagged
  have alike : Outcome.Alike
      (fun p => p.Agree { m with redraw := false } { m' with redraw := false } ∧
        (p ∈ i.ruled → m.collision = m'.collision))
      (execute { m with redraw := false } i) (execute { m' with redraw := false } i) :=
    alike_execute h.pc fun p mem => cleared.parts p (blind p mem)
  -- Where the collision rule is hidden, so is the flag register, in which alone it has a say.
  have ruled : ∀ p ∉ hidden, p ∈ i.ruled → m.collision = m'.collision := by
    intro p seen mem
    rw [Instruction.eq_flag_of_mem_ruled mem] at seen
    exact h.parts .collision fun concealed => seen (rule concealed)
  rw [step_of_ok found, step_of_ok found', carryOut, carryOut]
  generalize ran : execute { m with redraw := false } i = out at alike
  generalize ran' : execute { m' with redraw := false } i = out' at alike
  have ends := ends_execute { m with redraw := false } i
  have ends' := ends_execute { m' with redraw := false } i
  rw [ran] at ends
  rw [ran'] at ends'
  cases ends with
  | refused fault =>
    cases ends' with
    | refused fault' =>
      cases alike.result
      exact ⟨rfl, h⟩
    | carried after' flow' => cases alike.result
  | carried after flow =>
    cases ends' with
    | refused fault' => cases alike.result
    | carried after' flow' =>
      cases alike.result
      have parts : ∀ p ∉ hidden, p.Agree after after' := fun p hp =>
        alike.parts p ⟨cleared.parts p hp, ruled p hp⟩
      cases goes : flow.target? m.pc with
      | some pc =>
        rw [conclude_carried goes, conclude_carried (h.pc ▸ goes)]
        exact ⟨rfl, rfl, fun p hp => (parts p hp).with_pc pc pc⟩
      | none =>
        have waits : flow = .wait := by
          cases flow <;> cases goes
          rfl
        subst waits
        obtain ⟨-, -, -, rfl⟩ := eq_awaitKey_of_wait ran
        obtain ⟨-, -, -, rfl⟩ := eq_awaitKey_of_wait ran'
        exact ⟨rfl, h.pc, parts⟩

/-- A step ends alike if the instruction that it executes takes its inputs from parts that
are not hidden. -/
theorem AgreeBut.step (h : m.AgreeBut hidden m') (hide : Hideable hidden)
    (blind : ∀ i, m.step.result = .ok (.executed i) → ∀ p ∈ i.inputs, p ∉ hidden) :
    m.step.result = m'.step.result ∧ m.step.machine.AgreeBut hidden m'.step.machine := by
  have memory : m.memory = m'.memory := h.parts .memory hide.memory
  have index : m.index = m'.index := h.parts .index hide.index
  have calls : m.calls = m'.calls := h.parts .calls hide.calls
  have same := instruction_of_same_place memory h.pc
  have ends := m.stepped
  cases ran : m.step with
  | mk result after =>
    rw [ran] at ends
    cases ends with
    | faulted fault =>
      have failed : m.step.result = .error fault := by rw [ran]
      rw [step_of_same_place memory h.pc index calls failed]
      exact ⟨rfl, h⟩
    | waiting x found up =>
      have visible : ∀ p ∈ (Instruction.awaitKey x).inputs, p ∉ hidden := by
        simpa [Instruction.inputs] using hide.keys
      have alike := h.step_of_inputs hide.rule found (same ▸ found) visible
      rwa [ran] at alike
    | executed i after flow pc found carried goes =>
      have alike := h.step_of_inputs hide.rule found (same ▸ found) (blind i (by rw [ran]))
      rwa [ran] at alike

/-! ## Blocking steps -/

theorem isAwaiting_of_result {out out' : Outcome Fault Progress} (same : out.result = out'.result) :
    out.isAwaiting = out'.isAwaiting := by
  rw [Outcome.isAwaiting, Outcome.isAwaiting, same]

/-- A try that waits leaves two machines that agree on the keys, and still do so after both
have been shown the same ones. -/
theorem AgreeBut.look (h : m.AgreeBut hidden m') (hide : Hideable hidden)
    (waits : m.step.isAwaiting = true) :
    m'.step.isAwaiting = true ∧ m.step.machine.keys = m'.step.machine.keys ∧
      ∀ keys : Keypad, AgreeBut hidden { m.step.machine with keys := keys }
        { m'.step.machine with keys := keys } := by
  have idle : ∀ i, m.step.result = .ok (.executed i) → ∀ p ∈ i.inputs, p ∉ hidden := by
    intro i executed
    rw [Outcome.eq_of_isAwaiting waits] at executed
    cases executed
  obtain ⟨result, after⟩ := h.step hide idle
  refine ⟨(isAwaiting_of_result result).symm.trans waits, after.parts .keys hide.keys, ?_⟩
  intro keys
  exact ⟨after.pc, fun p seen => (after.parts p seen).set .keys (Eq.refl keys)⟩

/-- A blocking step ends alike, whatever host is asked, since the host is shown the same
keys. The induction is on the looks of the first machine. -/
theorem AgreeBut.blocks (hide : Hideable hidden) {σ : Type} {host : Host σ} {s t : σ} {w : Waited}
    (course : m.Blocks host s w t) (h : m.AgreeBut hidden m')
    (blind : ∀ i, w.result = .ok (.executed i) → ∀ p ∈ i.inputs, p ∉ hidden) :
    ∃ w', m'.Blocks host s w' t ∧ w.result = w'.result ∧ w.polls = w'.polls ∧
      w.machine.AgreeBut hidden w'.machine := by
  induction course generalizing m' with
  | done ready =>
    obtain ⟨result, after⟩ := h.step hide blind
    have ready' := (isAwaiting_of_result result).symm.trans ready
    exact ⟨⟨m'.step, 0⟩, .done ready', result, rfl, after⟩
  | stop waits look ends =>
    obtain ⟨waits', keys, shown⟩ := h.look hide waits
    rw [keys] at look
    exact ⟨_, .stop waits' look ends, rfl, rfl, shown _⟩
  | again waits look goes rest ih =>
    obtain ⟨waits', keys, shown⟩ := h.look hide waits
    rw [keys] at look
    obtain ⟨w', course', result, polls, after⟩ := ih (shown _) blind
    exact ⟨w'.polledBefore, .again waits' look goes course', result, congrArg (· + 1) polls, after⟩

theorem AgreeBut.stepBlocking (h : m.AgreeBut hidden m') (hide : Hideable hidden)
    (frames : List Frame)
    (blind : ∀ i, (m.stepBlocking frames).result = .ok (.executed i) →
      ∀ p ∈ i.inputs, p ∉ hidden) :
    (m.stepBlocking frames).result = (m'.stepBlocking frames).result ∧
      (m.stepBlocking frames).polls = (m'.stepBlocking frames).polls ∧
      (m.stepBlocking frames).machine.AgreeBut hidden (m'.stepBlocking frames).machine := by
  obtain ⟨left, course⟩ := m.blocks_scripted frames
  obtain ⟨w', course', result, polls, after⟩ := AgreeBut.blocks hide course h blind
  obtain ⟨left', scripted⟩ := m'.blocks_scripted frames
  obtain ⟨rfl, -⟩ := course'.deterministic scripted
  exact ⟨result, polls, after⟩

/-! ## Operations -/

/-- A load answers the same on every machine. -/
theorem result_load (m m' : Machine) (source : Source) :
    (m.load source).result = (m'.load source).result := by
  cases contents : source.contents with
  | error cause => rw [m.load_of_unreadable contents, m'.load_of_unreadable contents]
  | ok rom =>
    by_cases large : Layout.programLimit < rom.length
    · rw [m.load_of_large contents large, m'.load_of_large contents large]
    · have fits := Nat.le_of_not_lt large
      rw [m.load_of_fits contents fits, m'.load_of_fits contents fits]

theorem AgreeBut.load (h : m.AgreeBut hidden m') (memory : Part.memory ∉ hidden) (source : Source) :
    (m.load source).machine.AgreeBut hidden (m'.load source).machine := by
  have same : m.memory = m'.memory := h.parts .memory memory
  cases contents : source.contents with
  | error cause =>
    rw [m.load_of_unreadable contents, m'.load_of_unreadable contents]
    exact h
  | ok rom =>
    by_cases large : Layout.programLimit < rom.length
    · rw [m.load_of_large contents large, m'.load_of_large contents large]
      exact h
    · have fits := Nat.le_of_not_lt large
      rw [m.load_of_fits contents fits, m'.load_of_fits contents fits]
      exact ⟨h.pc, fun p seen => (h.parts p seen).set .memory (by rw [same])⟩

/-- Machines that are given the same state agree on as much as before. -/
theorem AgreeBut.with_state (h : m.AgreeBut hidden m') (s : State) :
    AgreeBut hidden { m with toState := s } { m' with toState := s } := by
  refine ⟨rfl, ?_⟩
  intro p seen
  cases p with
  | collision => exact h.parts .collision seen
  | noise => exact h.parts .noise seen
  | _ => exact .of_get rfl

/-- A part that is moved on by itself keeps the agreement. -/
theorem AgreeBut.modify (h : m.AgreeBut hidden m') {q : Part} (quiet : q ≠ .noise)
    (pc : ∀ m value, (q.set m value).pc = m.pc) (f : q.Value → q.Value) :
    AgreeBut hidden (q.set m (f (q.get m))) (q.set m' (f (q.get m'))) := by
  refine ⟨?_, fun p seen => (h.parts p seen).modify quiet f⟩
  rw [pc, pc]
  exact h.pc

theorem AgreeBut.tickDelay (h : m.AgreeBut hidden m') :
    AgreeBut hidden { m with toState := m.toState.tickDelay }
      { m' with toState := m'.toState.tickDelay } :=
  h.modify (q := .delay) (by decide) (fun _ _ => rfl)
    fun (delay : UInt8) => (if delay = 0 then 0 else delay - 1 : UInt8)

theorem AgreeBut.tickSound (h : m.AgreeBut hidden m') :
    AgreeBut hidden { m with toState := m.toState.tickSound }
      { m' with toState := m'.toState.tickSound } :=
  h.modify (q := .sound) (by decide) (fun _ _ => rfl)
    fun (sound : UInt8) => (if sound = 0 then 0 else sound - 1 : UInt8)

/-- An operation answers alike on two machines that agree on all but the hidden parts, and
leaves them so. -/
theorem AgreeBut.perform (h : m.AgreeBut hidden m') (hide : Hideable hidden) (op : Operation)
    (blind : ∀ i ∈ (m.perform op).1.executed?, ∀ p ∈ i.inputs, p ∉ hidden) :
    (m.perform op).1 = (m'.perform op).1 ∧
      (m.perform op).2.AgreeBut hidden (m'.perform op).2 := by
  cases op with
  | load source =>
    exact ⟨congrArg Answer.loaded (result_load m m' source), h.load hide.memory source⟩
  | step =>
    obtain ⟨result, after⟩ := h.step hide fun i executed => blind i (by
      rw [Machine.perform, executed]
      rfl)
    exact ⟨congrArg Answer.stepped result, after⟩
  | stepBlocking frames =>
    obtain ⟨result, polls, after⟩ := h.stepBlocking hide frames fun i executed => blind i (by
      rw [Machine.perform, executed]
      rfl)
    refine ⟨?_, after⟩
    simp only [Machine.perform, result, polls]
  | reset => exact ⟨rfl, h.with_state {}⟩
  | setKey key down =>
    exact ⟨rfl, h.modify (q := .keys) (by decide) (fun _ _ => rfl)
      fun (held : Keypad) => held.set key down⟩
  | setKeys keys =>
    exact ⟨rfl, h.modify (q := .keys) (by decide) (fun _ _ => rfl) fun _ => keys⟩
  | pressKeys pressed =>
    exact ⟨rfl, h.modify (q := .keys) (by decide) (fun _ _ => rfl)
      fun (held : Keypad) => held.press pressed⟩
  | releaseKeys =>
    exact ⟨rfl, h.modify (q := .keys) (by decide) (fun _ _ => rfl) fun _ => Keypad.released⟩
  | tickDelay => exact ⟨rfl, h.tickDelay⟩
  | tickSound => exact ⟨rfl, h.tickSound⟩
  | tick => exact ⟨rfl, h.tickDelay.tickSound⟩

/-! ## Histories -/

/-- Whatever host a blocking step asks, it is asked equally often, and shown the same keys
each time. The induction is on the calls of the first machine; each of them finds the
second one alike. -/
theorem Follows.agreeBut (hide : Hideable hidden) (h : m.AgreeBut hidden m') {calls : List Call}
    {answers : List Answer} {after : Machine} (course : m.Follows calls answers after)
    (blind : ∀ i ∈ answers.filterMap Answer.executed?, ∀ p ∈ i.inputs, p ∉ hidden) :
    ∃ after', m'.Follows calls answers after' ∧ after.AgreeBut hidden after' := by
  induction course with
  | start => exact ⟨m', .start, h⟩
  | op before op ih =>
    rw [List.filterMap_append] at blind
    obtain ⟨middle, course', alike⟩ := ih fun i mem => blind i (List.mem_append_left _ mem)
    obtain ⟨answer, left⟩ := alike.perform hide op fun i executed =>
      blind i (List.mem_append_right _
        (List.mem_filterMap.2 ⟨_, List.mem_singleton_self _, executed⟩))
    rw [answer]
    exact ⟨_, course'.op op, left⟩
  | @ask _ _ _ _ _ _ _ w before ends ih =>
    rw [List.filterMap_append] at blind
    obtain ⟨middle, course', alike⟩ := ih fun i mem => blind i (List.mem_append_left _ mem)
    obtain ⟨w', ends', result, polls, left⟩ := AgreeBut.blocks hide ends alike fun i executed =>
      blind i (List.mem_append_right _ (List.mem_filterMap.2
        ⟨.waited w.result w.polls, List.mem_singleton_self _, by
          rw [executed]
          rfl⟩))
    rw [result, polls]
    exact ⟨w'.machine, course'.ask ends', left⟩

/-- The same for a history without hosts. -/
theorem AgreeBut.run (hide : Hideable hidden) (ops : List Operation) (h : m.AgreeBut hidden m')
    (blind : ∀ i ∈ (m.run ops).1.filterMap Answer.executed?, ∀ p ∈ i.inputs, p ∉ hidden) :
    (m.run ops).1 = (m'.run ops).1 ∧ (m.run ops).2.AgreeBut hidden (m'.run ops).2 := by
  obtain ⟨after', course, left⟩ := (follows_run m ops).agreeBut hide h blind
  obtain ⟨answers, rfl⟩ := course.deterministic (follows_run m' ops)
  exact ⟨answers, left⟩

/-! ## The flag register and the collision rule -/

/-- The parts in which collisions are reported: the flag register, and the rule for it. -/
def reporting : List Part := [.register Registers.flag, .collision]

theorem hideable_reporting : Hideable reporting where
  memory := by decide
  index := by decide
  calls := by decide
  keys := by decide
  rule := by
    intro _
    exact List.mem_cons_self

/-- No instruction can see the rule but one that uses the flag register. -/
theorem notMem_reporting_of_inputs {i : Instruction} (blind : .register Registers.flag ∉ i.inputs) :
    ∀ p ∈ i.inputs, p ∉ reporting := by
  intro p mem concealed
  rcases List.mem_cons.1 concealed with rfl | rule
  · exact blind mem
  · rw [List.mem_singleton.1 rule] at mem
    exact i.collision_notMem_inputs mem

/-- The flag register and the collision rule are hidden from every program that does not use
the flag register. Take machines that agree on all else, the random bytes to come included,
and do the same with both, with or without hosts. As long as the first executes no
instruction with the flag register among its inputs, both answer alike, and what they differ
in afterwards are these two at most. -/
theorem flag_confined (m m' : Machine) (alike : m.AgreeBut reporting m') :
    (∀ ops : List Operation,
      (∀ i ∈ (m.run ops).1.filterMap Answer.executed?, .register Registers.flag ∉ i.inputs) →
      (m.run ops).1 = (m'.run ops).1 ∧ (m.run ops).2.AgreeBut reporting (m'.run ops).2) ∧
    ∀ (calls : List Call) (answers : List Answer) (after : Machine),
      m.Follows calls answers after →
      (∀ i ∈ answers.filterMap Answer.executed?, .register Registers.flag ∉ i.inputs) →
      (∃ after', m'.Follows calls answers after') ∧
        ∀ answers' after', m'.Follows calls answers' after' →
          answers = answers' ∧ after.AgreeBut reporting after' := by
  constructor
  · intro ops blind
    exact alike.run hideable_reporting ops fun i mem => notMem_reporting_of_inputs (blind i mem)
  · intro calls answers after course blind
    obtain ⟨last, course', left⟩ := course.agreeBut hideable_reporting alike fun i mem =>
      notMem_reporting_of_inputs (blind i mem)
    refine ⟨⟨last, course'⟩, ?_⟩
    intro answers' after' other
    obtain ⟨rfl, rfl⟩ := course'.deterministic other
    exact ⟨rfl, left⟩

/-- A new machine under a collision rule. -/
def ruledBy (rule : CollisionRule) : Machine :=
  ofConfig { collision := rule } { bytes := fun k => .ofNat (7 * k) }

/-- A program that draws the same row of pixels twice and does not ask what became of the
flag. It takes a random byte, waits for a key and ends in a word of no instruction. -/
def indifferent : List Operation :=
  [.load (.ofBytes [0xD0, 0x11, 0xD0, 0x11, 0xC2, 0xFF, 0xF3, 0x0A, 0xFF, 0xFF]), .step, .step,
    .tick, .step, .step, .stepBlocking [⟨.released, true⟩, ⟨.ofList [7], true⟩], .step]

theorem flag_confined_indifferent :
    ((ruledBy .lastBit).run indifferent).1 = ((ruledBy .anyPixel).run indifferent).1 ∧
      ((ruledBy .lastBit).run indifferent).2.AgreeBut reporting
        ((ruledBy .anyPixel).run indifferent).2 ∧
      ((ruledBy .lastBit).run indifferent).2.registers.get Registers.flag = 0 ∧
      ((ruledBy .anyPixel).run indifferent).2.registers.get Registers.flag = 1 := by
  have alike : (ruledBy .lastBit).AgreeBut reporting (ruledBy .anyPixel) := by
    refine ⟨rfl, ?_⟩
    intro p seen
    cases p with
    | collision => exact absurd (by decide) seen
    | _ => exact .of_get rfl
  obtain ⟨answers, left⟩ := (flag_confined _ _ alike).1 indifferent (by decide +kernel)
  exact ⟨answers, left, by decide +kernel, by decide +kernel⟩

end Machine
end Chip8
