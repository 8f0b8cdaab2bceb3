import Chip8.Proofs.Operating

/-!
# What the timers count

A timer counts the ticks of the driver and nothing else. Each of the two is set by one
instruction, from a register, and is counted down by two operations, of which they share
one. So after every course in which the instruction is not executed a timer holds what it
held before, less its ticks, and zero if there were more of them; and after a course in
which it is executed, the count has begun again with the register's value. What the other
timer does meanwhile makes no difference, nor do failed steps, waits and loads.

## Main definitions

* `Timer`, `Timer.value` — the two timers, and what they hold.
* `Timer.source?`, `Timer.setBy?` — the register that a timer is set from.
* `Timer.counts` — the calls that count a timer down.

## Main statements

* `Machine.value_perform` — what one operation does to a timer.
* `Machine.timer_counts_ticks` — what a course does to it.
-/

namespace Chip8

inductive Timer where
  | delay
  | sound
  deriving DecidableEq, Repr

namespace Timer

/-- What a timer holds. -/
def value (s : State) : Timer → UInt8
  | .delay => s.delay
  | .sound => s.sound

/-- The register that an instruction copies into the timer. -/
def source? : Timer → Instruction → Option Register
  | .delay, .setDelay x => some x
  | .sound, .setSound x => some x
  | _, _ => none

/-- The register that has been copied into the timer, as an answer tells. -/
def setBy? (timer : Timer) (answer : Answer) : Option Register :=
  answer.executed?.bind timer.source?

/-- No answer tells of a register that has been copied into the timer. -/
def Unset (timer : Timer) (answers : List Answer) : Prop :=
  ∀ answer ∈ answers, timer.setBy? answer = none

/-- The operation counts the timer down. -/
def countedBy : Timer → Operation → Bool
  | _, .tick => true
  | .delay, .tickDelay => true
  | .sound, .tickSound => true
  | _, _ => false

/-- The call counts the timer down. A host counts nothing. -/
def counts (timer : Timer) : Call → Bool
  | .op op => timer.countedBy op
  | .ask _ _ => false

/-- A call is told by an operation that counts the same timers. -/
theorem countedBy_of_tells {c : Call} {op : Operation} (told : c.Tells op) (timer : Timer) :
    timer.countedBy op = timer.counts c := by
  cases told with
  | op op => rfl
  | ask host memory frames => cases timer <;> rfl

end Timer

namespace Machine

variable {m m' after : Machine} {i : Instruction} {flow : Flow} {out : Outcome Fault Progress}
  {op : Operation} {timer : Timer} {x : Register}

/-! ## One operation -/

/-- An instruction that copies a register into the timer puts the register's value there. -/
theorem value_of_source (carried : m.execute i = m'.proceed flow)
    (sets : timer.source? i = some x) : timer.value m'.toState = m.registers.get x := by
  cases timer with
  | delay =>
    cases i with
    | setDelay y =>
      cases sets
      obtain ⟨rfl, -⟩ := proceed_inj.1 carried
      rfl
    | _ => cases sets
  | sound =>
    cases i with
    | setSound y =>
      cases sets
      obtain ⟨rfl, -⟩ := proceed_inj.1 carried
      rfl
    | _ => cases sets

/-- No other instruction touches the timer. -/
theorem value_of_no_source (carried : m.execute i = m'.proceed flow)
    (leaves : timer.source? i = none) : timer.value m'.toState = timer.value m.toState := by
  cases timer with
  | delay =>
    refine get_of_proceed (p := .delay) carried fun listed => ?_
    obtain ⟨x, rfl⟩ := Instruction.delay_mem_writes.1 listed
    cases leaves
  | sound =>
    refine get_of_proceed (p := .sound) carried fun listed => ?_
    obtain ⟨x, rfl⟩ := Instruction.sound_mem_writes.1 listed
    cases leaves

theorem value_with_keys_redraw (m : Machine) (keys : Keypad) (redraw : Bool) (timer : Timer) :
    timer.value { m with keys := keys, redraw := redraw }.toState = timer.value m.toState := by
  cases timer <;> rfl

/-- A step does not count the timers down, however it ends. -/
theorem Stepped.value (ends : m.Stepped out)
    (leaves : timer.setBy? (.stepped out.result) = none) :
    timer.value out.machine.toState = timer.value m.toState := by
  cases ends with
  | faulted fault => rfl
  | waiting x found up => exact value_with_keys_redraw m m.keys false timer
  | executed i m' flow pc found carried goes =>
    have kept := value_of_no_source carried leaves
    cases timer <;> exact kept

/-- Nor does a blocking step, since its looks are steps. -/
theorem Blocked.value (ends : m.Blocked out)
    (leaves : timer.setBy? (.stepped out.result) = none) :
    timer.value out.machine.toState = timer.value m.toState := by
  cases ends with
  | atOnce ready => exact m.stepped.value leaves
  | later waits keys ready =>
    exact ((stepped _).value leaves).trans (value_with_keys_redraw m keys false timer)
  | gaveUp waits keys => exact value_with_keys_redraw m keys false timer

/-- An operation that copies a register into the timer puts the register's value there. -/
theorem value_perform_of_set (sets : timer.setBy? (m.perform op).1 = some x) :
    timer.value (m.perform op).2.toState = m.registers.get x := by
  obtain ⟨i, executed, copies⟩ := Option.bind_eq_some_iff.1 sets
  obtain ⟨keys, m', flow, pc, -, carried, -, e⟩ := proceeded_of_executed executed
  have copied := value_of_source carried copies
  rw [e]
  cases timer <;> exact copied

/-- Every other operation but a reset takes one from the timer, if it counts the timer down,
and nothing if it does not. -/
theorem value_perform (kept : op ≠ .reset)
    (leaves : timer.setBy? (m.perform op).1 = none) :
    (timer.value (m.perform op).2.toState).toNat =
      (timer.value m.toState).toNat - (timer.countedBy op).toNat := by
  have uncounted : ∀ {m' : Machine}, timer.countedBy op = false →
      timer.value m'.toState = timer.value m.toState →
      (timer.value m'.toState).toNat =
        (timer.value m.toState).toNat - (timer.countedBy op).toNat := by
    intro m' idle same
    rw [idle, same]
    rfl
  cases op with
  | reset => exact absurd rfl kept
  | load source =>
    refine uncounted (by cases timer <;> rfl) ?_
    rw [perform, machine_load]
    cases timer <;> rfl
  | step => exact uncounted (by cases timer <;> rfl) (m.stepped.value leaves)
  | stepBlocking frames =>
    refine uncounted (by cases timer <;> rfl) ((m.blocked frames).value ?_)
    rwa [Timer.setBy?, perform, executed_waited] at leaves
  | tick =>
    cases timer with
    | delay => exact m.toState.toNat_delay_tickDelay
    | sound => exact m.toState.tickDelay.toNat_sound_tickSound
  | tickDelay =>
    cases timer with
    | delay => exact m.toState.toNat_delay_tickDelay
    | sound => rfl
  | tickSound =>
    cases timer with
    | delay => rfl
    | sound => exact m.toState.toNat_sound_tickSound
  | _ => exact uncounted (by cases timer <;> rfl) (by cases timer <;> rfl)

/-! ## Courses -/

variable {calls : List Call} {answers : List Answer}

/-- As long as it is not set, a timer holds what it held before, less the calls that count it
down. Subtraction stops at zero, so a call too many is not remembered. -/
theorem Follows.value_of_unset (course : m.Follows calls answers after)
    (kept : ∀ c ∈ calls, c ≠ .op .reset) (unset : timer.Unset answers) :
    (timer.value after.toState).toNat =
      (timer.value m.toState).toNat - calls.countP timer.counts := by
  revert kept unset
  refine Follows.induction (P := fun calls answers after => (∀ c ∈ calls, c ≠ .op .reset) →
    timer.Unset answers → (timer.value after.toState).toNat =
      (timer.value m.toState).toNat - calls.countP timer.counts) ?_ ?_ course
  · intro _ _
    rfl
  · intro calls answers m' c answer m'' _ ih next kept unset
    have so_far := ih (fun c among => kept c (List.mem_append_left _ among))
      (fun a among => unset a (List.mem_append_left _ among))
    obtain ⟨op, told, e⟩ := next.exists_perform
    have goesOn : op ≠ .reset := by
      rintro rfl
      cases told
      exact kept _ (List.mem_append_right _ (List.mem_singleton_self _)) rfl
    have leaves : timer.setBy? (m'.perform op).1 = none := by
      rw [e]
      exact unset answer (List.mem_append_right _ (List.mem_singleton_self _))
    have last := value_perform goesOn leaves
    rw [e, so_far, Timer.countedBy_of_tells told] at last
    rw [last, List.countP_append, List.countP_singleton, Nat.sub_sub]
    cases timer.counts c <;> rfl

/-- The timers count the ticks of the driver and nothing else. Take any machine, either timer
and any course without a reset. If the timer is not set in it, then it holds at the end what
it held at the start less its ticks, or zero; and if it is, then it holds the value of the
register that was copied last, less the ticks since, or zero. -/
theorem timer_counts_ticks (timer : Timer) (m : Machine) (calls : List Call)
    (answers : List Answer) (after : Machine) (course : m.Follows calls answers after)
    (kept : ∀ c ∈ calls, c ≠ .op .reset) :
    (timer.Unset answers →
      (timer.value after.toState).toNat =
        (timer.value m.toState).toNat - calls.countP timer.counts) ∧
    (¬ timer.Unset answers →
      ∃ (o : Occasion m calls answers after) (x : Register),
        timer.setBy? o.answer = some x ∧ timer.Unset o.rest ∧
          (timer.value after.toState).toNat =
            (o.here.registers.get x).toNat - o.late.countP timer.counts) := by
  refine ⟨course.value_of_unset kept, ?_⟩
  intro set
  have any : ∃ a ∈ answers, timer.setBy? a ≠ none := by
    simpa [Timer.Unset] using set
  obtain ⟨o, sets, last⟩ := course.exists_last any
  obtain ⟨x, copied⟩ := Option.ne_none_iff_exists'.1 sets
  have unset : timer.Unset o.rest := fun a later => not_not.1 (last a later)
  refine ⟨o, x, copied, unset, ?_⟩
  have start : timer.value o.there.toState = o.here.registers.get x := by
    obtain ⟨op, -, e⟩ := o.happens.exists_perform
    have sets : timer.setBy? (o.here.perform op).1 = some x := by rwa [e]
    have put := value_perform_of_set sets
    rwa [e] at put
  have later : ∀ c ∈ o.late, c ≠ .op .reset := by
    intro c among
    refine kept c ?_
    rw [o.calls_eq]
    exact List.mem_append_right _ (List.mem_cons_of_mem _ among)
  rw [o.behind.value_of_unset later unset, start]

/-- A machine that is about to set its delay timer from a register that holds two. -/
def metered : Machine :=
  { memory := Block.write Memory.initial 0x200 [0xF0, 0x15, 0xF1, 0x0A]
    registers := Registers.zero.set 0 2
    delay := 9
    sound := 200
    collision := .lastBit
    noise := { bytes := fun k => .ofNat k } }

/-- Ticks before and after the timer is set, a wait that is given up, a load and a fault. -/
def timedRun : List Operation :=
  [.tick, .step, .stepBlocking [], .tickDelay, .load (.ofBytes [0x00, 0xE0, 0xFF, 0xFF]), .step,
    .tick, .tick, .setKey 3 true, .tickDelay, .tickSound]

theorem timer_counts_ticks_metered :
    (metered.run timedRun).2.sound.toNat = 200 - 4 ∧
      ∃ (o : Occasion metered (timedRun.map .op) (metered.run timedRun).1 (metered.run timedRun).2)
        (x : Register),
        Timer.delay.setBy? o.answer = some x ∧
          (metered.run timedRun).2.delay.toNat =
            (o.here.registers.get x).toNat - o.late.countP Timer.delay.counts := by
  have course := follows_run metered timedRun
  have kept : ∀ c ∈ timedRun.map Call.op, c ≠ .op .reset := by
    simp [timedRun]
  have facts : (∀ a ∈ (metered.run timedRun).1, Timer.sound.setBy? a = none) ∧
      ¬ ∀ a ∈ (metered.run timedRun).1, Timer.delay.setBy? a = none := by
    decide +kernel
  generalize (metered.run timedRun).1 = answers at course facts
  generalize (metered.run timedRun).2 = after at course
  refine ⟨?_, ?_⟩
  · exact (timer_counts_ticks .sound metered _ answers after course kept).1 facts.1
  · obtain ⟨o, x, sets, -, value⟩ :=
      (timer_counts_ticks .delay metered _ answers after course kept).2 facts.2
    exact ⟨o, x, sets, value⟩

end Machine
end Chip8
