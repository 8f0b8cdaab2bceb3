import Chip8.Machine.Host
import Chip8.Proofs.Reachability

/-!
# Waiting for a key

A wait goes on as long as the frames that it is shown go on and have no key down. The
first frame of another kind ends it: with its lowest key, if it goes on, and without any
key otherwise. So the frames alone decide how often a blocking step looks and how it ends,
and each later try of a wait does what the first would have done with the same keys.

A wait that is given up has changed the keys, and has cleared the redraw flag, so that a
pending redraw is lost. Nothing else has changed, whatever the host.

## Main definitions

* `Frame.ends` — whether a frame ends a wait.
* `Machine.Takes`, `Machine.GivesUp` — the two ways for a wait to end.
-/

namespace Chip8

/-- Whether a frame ends a wait: it does not go on, or it shows a key that is down. -/
def Frame.ends (f : Frame) : Bool :=
  !f.go || f.keys.lowest?.isSome

theorem Outcome.isAwaiting_iff {out : Outcome Fault Progress} :
    out.isAwaiting = true ↔ out.result = .ok .awaitingKey := by
  constructor
  · intro waits
    rw [Outcome.eq_of_isAwaiting waits]
  · intro waits
    rw [Outcome.isAwaiting, waits]

theorem Outcome.isAwaiting_eq_false_iff {out : Outcome Fault Progress} :
    out.isAwaiting = false ↔ out.result ≠ .ok .awaitingKey := by
  rw [← Bool.not_eq_true, Outcome.isAwaiting_iff]

namespace Machine

variable {m : Machine} {x : Register} {frames : List Frame} {keys : Keypad}
  {out : Outcome Fault Progress}

/-! ## One try -/

theorem step_awaitKey_up (found : m.instruction = .ok (.awaitKey x))
    (up : m.keys.lowest? = none) : m.step = ⟨.ok .awaitingKey, { m with redraw := false }⟩ := by
  have waits : execute { m with redraw := false } (.awaitKey x) =
      proceed { m with redraw := false } .wait :=
    takeKey_of_up (m := { m with redraw := false }) up x
  rw [step_of_ok found, carryOut, waits, conclude_wait]

theorem step_awaitKey_down (found : m.instruction = .ok (.awaitKey x)) {key : Fin 16}
    (down : m.keys.lowest? = some key) :
    m.step =
      ⟨.ok (.executed (.awaitKey x)),
        { m with
          registers := m.registers.set x (.ofNat key)
          redraw := false
          pc := m.pc + 2 }⟩ := by
  have taken : execute { m with redraw := false } (.awaitKey x) =
      (setRegister { m with redraw := false } x (.ofNat key)).proceed .next :=
    takeKey_of_down (m := { m with redraw := false }) down x
  rw [step_of_ok found, carryOut, taken, conclude_next]
  rfl

/-- A later try of a wait is a first try with the keys shown: the redraw flag that the
first try has cleared does not matter. -/
theorem step_retry (found : m.instruction = .ok (.awaitKey x)) (keys : Keypad) :
    step { m with redraw := false, keys := keys } = step { m with keys := keys } := by
  cases taken : keys.lowest? with
  | none =>
    rw [step_awaitKey_up (m := { m with redraw := false, keys := keys }) found taken,
      step_awaitKey_up (m := { m with keys := keys }) found taken]
  | some key =>
    rw [step_awaitKey_down (m := { m with redraw := false, keys := keys }) found taken,
      step_awaitKey_down (m := { m with keys := keys }) found taken]

/-! ## How a wait ends -/

/-- A wait of `m` for `Vx` has ended with the lowest of the keys that are down. -/
structure Takes (m : Machine) (x : Register) (keys : Keypad) (out : Outcome Fault Progress) :
    Prop where
  /-- It has ended as a single step with these keys would. -/
  single : out = step { m with keys := keys }
  result : out.result = .ok (.executed (.awaitKey x))
  lowest : ∃ key : Fin 16, keys.get key = true ∧ (∀ lower < key, keys.get lower = false) ∧
    out.machine.registers.get x = .ofNat key

/-- A wait of `m` for `Vx` has been given up, these keys being shown last. -/
structure GivesUp (m : Machine) (x : Register) (keys : Keypad) (out : Outcome Fault Progress) :
    Prop where
  result : out.result = .ok .awaitingKey
  pc : out.machine.pc = m.pc
  instruction : out.machine.instruction = .ok (.awaitKey x)
  /-- No key is stored. -/
  register : out.machine.registers.get x = m.registers.get x
  machine : out.machine = { m with redraw := false, keys := keys }

theorem takes_step (found : m.instruction = .ok (.awaitKey x)) {key : Fin 16}
    (down : keys.lowest? = some key) : m.Takes x keys (step { m with keys := keys }) := by
  have e := step_awaitKey_down (m := { m with keys := keys }) found down
  exact {
    single := rfl
    result := by rw [e]
    lowest := by
      refine ⟨key, Keypad.down_of_lowest? down, fun lower => Keypad.up_of_lowest? down, ?_⟩
      rw [e]
      exact Registers.get_set_self _ _ _ }

theorem givesUp_keys (found : m.instruction = .ok (.awaitKey x)) (keys : Keypad) :
    m.GivesUp x keys ⟨.ok .awaitingKey, { m with redraw := false, keys := keys }⟩ :=
  ⟨rfl, rfl, found, rfl, rfl⟩

/-- What a later try ends with is an end of the wait that began at `m`. -/
theorem Takes.retry {before : Keypad} (found : m.instruction = .ok (.awaitKey x))
    (h : Takes { m with redraw := false, keys := before } x keys out) : m.Takes x keys out :=
  ⟨h.single.trans (step_retry found keys), h.result, h.lowest⟩

theorem GivesUp.retry {before : Keypad}
    (h : GivesUp { m with redraw := false, keys := before } x keys out) : m.GivesUp x keys out :=
  ⟨h.result, h.pc, h.instruction, h.register, h.machine⟩

/-! ## Scripts -/

/-- How a wait ends that is shown the frames of a script, `k` being the place of the first
frame that ends it. -/
structure Waits (m : Machine) (x : Register) (frames : List Frame) (k : ℕ) (w : Waited) :
    Prop where
  polls : w.polls = k + 1
  takes : ∀ frame, frames[k]? = some frame → frame.go = true →
    m.Takes x frame.keys w.toOutcome
  stops : ∀ frame, frames[k]? = some frame → frame.go = false →
    m.GivesUp x frame.keys w.toOutcome
  /-- Past the script the keys stay as the last frame has shown them. -/
  runsOut : frames[k]? = none →
    m.GivesUp x ((frames.getLast?.map Frame.keys).getD m.keys) w.toOutcome

/-- A wait that meets a frame which does not end it goes on to the next frame. -/
theorem Waits.cons {frame : Frame} {k : ℕ} {w : Waited}
    (found : m.instruction = .ok (.awaitKey x))
    (h : Waits { m with redraw := false, keys := frame.keys } x frames k w) :
    m.Waits x (frame :: frames) (k + 1) w.polledBefore where
  polls := congrArg (· + 1) h.polls
  takes := by
    intro last at_k goes
    exact (h.takes last at_k goes).retry found
  stops := by
    intro last at_k ends
    exact (h.stops last at_k ends).retry
  runsOut := by
    intro beyond
    have shown : (((frame :: frames).getLast?.map Frame.keys).getD m.keys) =
        (frames.getLast?.map Frame.keys).getD frame.keys := by
      rw [List.getLast?_cons]
      cases frames.getLast? <;> rfl
    rw [shown]
    exact (h.runsOut beyond).retry

theorem waits_nil (found : m.instruction = .ok (.awaitKey x)) :
    m.Waits x [] 0 ⟨⟨.ok .awaitingKey, { m with redraw := false }⟩, 1⟩ where
  polls := rfl
  takes := by
    intro frame at_k
    cases at_k
  stops := by
    intro frame at_k
    cases at_k
  runsOut := fun _ => givesUp_keys found m.keys

theorem waits_stop {frame : Frame} (found : m.instruction = .ok (.awaitKey x))
    (stops : frame.go = false) :
    m.Waits x (frame :: frames) 0
      ⟨⟨.ok .awaitingKey, { m with redraw := false, keys := frame.keys }⟩, 1⟩ where
  polls := rfl
  takes := by
    rintro last ⟨⟩ goes
    rw [stops] at goes
    cases goes
  stops := by
    rintro last ⟨⟩ -
    exact givesUp_keys found frame.keys
  runsOut := by
    intro beyond
    cases beyond

theorem waits_take {frame : Frame} (found : m.instruction = .ok (.awaitKey x))
    (goes : frame.go = true) {key : Fin 16} (down : frame.keys.lowest? = some key) :
    m.Waits x (frame :: frames) 0 ⟨step { m with redraw := false, keys := frame.keys }, 1⟩ where
  polls := rfl
  takes := by
    rintro last ⟨⟩ -
    rw [step_retry found]
    exact takes_step found down
  stops := by
    rintro last ⟨⟩ stops
    rw [goes] at stops
    cases stops
  runsOut := by
    intro beyond
    cases beyond

/-- The first frame that ends a wait decides. The induction is on the script; after a frame
that goes on and has no key down the machine is at the same wait. -/
theorem waits_stepBlocking (found : m.instruction = .ok (.awaitKey x))
    (up : m.keys.lowest? = none) (frames : List Frame) :
    m.Waits x frames (frames.findIdx Frame.ends) (m.stepBlocking frames) := by
  induction frames generalizing m with
  | nil =>
    have e := step_awaitKey_up found up
    rw [stepBlocking_nil (by rw [e]; rfl), e]
    exact waits_nil found
  | cons frame rest ih =>
    have e := step_awaitKey_up found up
    rw [stepBlocking_cons (by rw [e]; rfl), e, List.findIdx_cons]
    cases goes : frame.go with
    | false =>
      have ends : frame.ends = true := by simp [Frame.ends, goes]
      rw [ends, if_neg Bool.false_ne_true]
      exact waits_stop found goes
    | true =>
      rw [if_pos rfl]
      cases shown : frame.keys.lowest? with
      | none =>
        have on : frame.ends = false := by simp [Frame.ends, goes, shown]
        rw [on]
        exact (ih (m := { m with redraw := false, keys := frame.keys }) found shown).cons found
      | some key =>
        have ends : frame.ends = true := by simp [Frame.ends, shown]
        have taken := step_awaitKey_down
          (m := { m with redraw := false, keys := frame.keys }) found shown
        rw [ends, stepBlocking_of_not_awaiting (by rw [taken]; rfl)]
        exact waits_take found goes shown

/-- A blocking step that is shown a script comes to an end. It is a step if that does not
wait; otherwise the first frame that ends the wait decides how often it looks and how it
ends. -/
theorem stepBlocking_scripted (m : Machine) (frames : List Frame) :
    (∃ left, m.Blocks .scripted frames (m.stepBlocking frames) left) ∧
      (m.step.result ≠ .ok .awaitingKey →
        (m.stepBlocking frames).toOutcome = m.step ∧ (m.stepBlocking frames).polls = 0) ∧
      (m.step.result = .ok .awaitingKey →
        ∃ x, m.instruction = .ok (.awaitKey x) ∧
          m.Waits x frames (frames.findIdx Frame.ends) (m.stepBlocking frames)) := by
  refine ⟨m.blocks_scripted frames, ?_, ?_⟩
  · intro ready
    rw [stepBlocking_of_not_awaiting (Outcome.isAwaiting_eq_false_iff.2 ready)]
    exact ⟨rfl, rfl⟩
  · intro waits
    obtain ⟨x, found, up, -⟩ := step_of_isAwaiting (Outcome.isAwaiting_iff.2 waits)
    exact ⟨x, found, waits_stepBlocking found up frames⟩

/-- A machine that has just cleared its screen and is now at a key wait. -/
def cleared : Machine :=
  ((ofConfig {} { bytes := fun k => .ofNat k }).run
    [.load (.ofBytes [0x00, 0xE0, 0xF5, 0x0A]), .step]).2

/-- Two looks without a key, one that shows two keys, and one that stops. -/
def hesitant : List Frame :=
  [⟨.released, true⟩, ⟨.released, true⟩, ⟨.ofList [9, 4], true⟩, ⟨.ofList [1], false⟩]

theorem stepBlocking_scripted_cleared :
    cleared.step.result = .ok .awaitingKey ∧ (cleared.stepBlocking hesitant).polls = 3 ∧
      cleared.Takes 5 (.ofList [9, 4]) (cleared.stepBlocking hesitant).toOutcome := by
  obtain ⟨waiting, known⟩ :
      cleared.step.result = .ok .awaitingKey ∧ cleared.instruction = .ok (.awaitKey 5) := by
    decide +kernel
  have place : hesitant.findIdx Frame.ends = 2 := by decide +kernel
  obtain ⟨-, -, ends⟩ := stepBlocking_scripted cleared hesitant
  obtain ⟨x, found, waits⟩ := ends waiting
  rw [known] at found
  cases found
  rw [place] at waits
  exact ⟨waiting, waits.polls, waits.takes _ rfl rfl⟩

/-! ## Waits that are given up -/

/-- What a wait that is given up leaves of the machine, whatever the host has shown. The
induction is on the looks. -/
theorem Blocks.machine_of_awaiting {σ : Type} {host : Host σ} {s t : σ} {w : Waited}
    (h : m.Blocks host s w t) (gaveUp : w.result = .ok .awaitingKey) :
    w.machine = { m with redraw := false, keys := w.machine.keys } := by
  induction h with
  | done ready => exact absurd gaveUp (Outcome.isAwaiting_eq_false_iff.1 ready)
  | stop waits =>
    obtain ⟨-, -, -, e⟩ := step_of_isAwaiting waits
    rw [e]
  | again waits _ _ _ ih =>
    obtain ⟨-, -, -, e⟩ := step_of_isAwaiting waits
    rw [e] at ih
    exact ih gaveUp

/-- A wait that is given up changes the keys and clears the redraw flag, and nothing else.
So it leaves all but the keys alone exactly if no redraw was pending. -/
theorem abandoned_wait_frame {σ : Type} (host : Host σ) (m : Machine) (s t : σ) (w : Waited)
    (h : m.Blocks host s w t) (gaveUp : w.result = .ok .awaitingKey) :
    w.machine = { m with redraw := false, keys := w.machine.keys } ∧
      (w.machine = { m with keys := w.machine.keys } ↔ m.redraw = false) := by
  have left := h.machine_of_awaiting gaveUp
  refine ⟨left, ?_, ?_⟩
  · intro same
    rw [left] at same
    exact (congrArg (fun m' : Machine => m'.redraw) same).symm
  · intro still
    rw [left, ← still]

/-- The frames up to the one that stops, which shows a key all the same. -/
def impatient : List Frame :=
  [⟨.released, true⟩, ⟨.ofList [4], false⟩]

theorem abandoned_wait_frame_cleared :
    ∃ left, cleared.Blocks .scripted impatient (cleared.stepBlocking impatient) left ∧
      (cleared.stepBlocking impatient).result = .ok .awaitingKey ∧
      (cleared.stepBlocking impatient).machine =
        { cleared with
          redraw := false
          keys := (cleared.stepBlocking impatient).machine.keys } := by
  have gaveUp : (cleared.stepBlocking impatient).result = .ok .awaitingKey := by decide +kernel
  obtain ⟨left, asks⟩ := cleared.blocks_scripted impatient
  exact ⟨left, asks, gaveUp, (abandoned_wait_frame .scripted cleared _ _ _ asks gaveUp).1⟩

/-- A redraw that is pending before a wait is lost when the wait is given up. -/
theorem abandoned_wait_loses_redraw :
    cleared.Reachable ∧ cleared.redraw = true ∧
      (∃ left, cleared.Blocks .scripted [⟨.released, false⟩]
        (cleared.stepBlocking [⟨.released, false⟩]) left) ∧
      (cleared.stepBlocking [⟨.released, false⟩]).result = .ok .awaitingKey ∧
      (cleared.stepBlocking [⟨.released, false⟩]).machine.redraw = false := by
  obtain ⟨pending, gaveUp, lost⟩ :
      cleared.redraw = true ∧
        (cleared.stepBlocking [⟨.released, false⟩]).result = .ok .awaitingKey ∧
        (cleared.stepBlocking [⟨.released, false⟩]).machine.redraw = false := by
    decide +kernel
  exact ⟨reachable_run _ _ _, pending, cleared.blocks_scripted _, gaveUp, lost⟩

end Machine
end Chip8
