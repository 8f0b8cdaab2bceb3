import Chip8.Proofs.Operating

/-!
# What the redraw flag tells

Whoever shows the screen asks the redraw flag whether it has to be shown again. The flag
can be told from the history: the last instruction that has been executed decides it, and
nothing that executes no instruction touches it but a key wait, which clears it, and a
reset. So a redraw is neither lost to a fault nor to anything that is done between steps.

## Main definitions

* `Instruction.redraws` — the instructions after which the screen has to be shown again.
* `Answer.redraw` — the redraw flag after an operation with this answer.
* `Entry.RedrawTold` — what entries tell about the redraw flag.

## Main statements

* `Machine.redraw_perform` — one operation.
* `Machine.redraw_run` — the redraw flag after a history.
* `Machine.redraw_told` — no redraw is lost or made up.
-/

namespace Chip8

/-- The instruction clears the screen or draws on it. A sprite may have no rows. -/
def Instruction.redraws : Instruction → Bool
  | .clear | .draw _ _ _ => true
  | _ => false

theorem Instruction.redraws_iff {i : Instruction} :
    i.redraws = true ↔ i = .clear ∨ ∃ x y height, i = .draw x y height := by
  cases i <;> simp [redraws]

theorem Instruction.redraw_mem_writes {i : Instruction} :
    Part.redraw ∈ i.writes ↔ i.redraws = true := by
  cases i with
  | alu op x y => cases reports : op.reports <;> simp [writes, redraws, reports]
  | _ => simp [writes, redraws]

namespace Answer

/-- The operation has come to a key wait and has ended there. -/
def awaits : Answer → Bool
  | .stepped (.ok .awaitingKey) | .waited (.ok .awaitingKey) _ => true
  | _ => false

/-- The redraw flag after an operation with this answer. It holds `pending` before. -/
def redraw (pending : Bool) (answer : Answer) : Bool :=
  match answer.executed? with
  | some i => i.redraws
  | none => pending && !answer.awaits

theorem redraw_of_executed {pending : Bool} {answer : Answer} {i : Instruction}
    (executed : answer.executed? = some i) : answer.redraw pending = i.redraws := by
  rw [redraw, executed]

theorem redraw_of_awaits {pending : Bool} {answer : Answer} (awaits : answer.awaits = true) :
    answer.redraw pending = false := by
  cases answer with
  | stepped result | waited result polls =>
    rcases result with fault | progress
    · cases awaits
    · cases progress with
      | executed i => cases awaits
      | awaitingKey => exact Bool.and_false pending
  | _ => cases awaits

theorem redraw_of_idle {pending : Bool} {answer : Answer} (none : answer.executed? = none)
    (ready : answer.awaits = false) : answer.redraw pending = pending := by
  rw [redraw, none, ready]
  exact Bool.and_true pending

/-- The number of looks has no say in the redraw flag. -/
theorem redraw_waited (pending : Bool) (result : Except Fault Progress) (polls : ℕ) :
    (waited result polls).redraw pending = (stepped result).redraw pending := by
  cases result with
  | error fault => rfl
  | ok progress => cases progress <;> rfl

end Answer

namespace Entry

variable {after : List Entry}

/-- The entry has executed no instruction and come to no key wait. -/
def Idle (e : Entry) : Prop :=
  e.2.executed? = none ∧ e.2.awaits = false

instance : DecidablePred Idle := fun _ => inferInstanceAs (Decidable (_ ∧ _))

/-- The redraw flag after entries, if it is down before them. -/
def redraw (es : List Entry) : Bool :=
  es.foldl (fun pending e => e.2.redraw pending) false

theorem redraw_concat (es : List Entry) (e : Entry) :
    redraw (es ++ [e]) = e.2.redraw (redraw es) := by
  simp [redraw]

/-- Idle entries leave the flag alone. -/
theorem redraw_append_of_idle (before : List Entry) (idle : ∀ e ∈ after, e.Idle) :
    redraw (before ++ after) = redraw before := by
  induction after using List.reverseRecOn with
  | nil => rw [List.append_nil]
  | append_singleton after e ih =>
    obtain ⟨none, ready⟩ := idle e (List.mem_append_right _ (List.mem_singleton_self e))
    have earlier : ∀ e ∈ after, e.Idle := by
      intro e mem
      exact idle e (List.mem_append_left _ mem)
    rw [← List.append_assoc, redraw_concat, Answer.redraw_of_idle none ready, ih earlier]

/-- An entry with nothing but idle ones behind it decides. -/
theorem redraw_of_last (before : List Entry) (e : Entry) (idle : ∀ a ∈ after, a.Idle) :
    redraw (before ++ e :: after) = e.2.redraw (redraw before) := by
  rw [List.append_cons, redraw_append_of_idle _ idle, redraw_concat]

/-- What entries tell about the redraw flag. None of them is a reset, and the flag is down
before them. -/
structure RedrawTold (es : List Entry) (flag : Bool) : Prop where
  /-- As long as nothing has been executed the screen need not be shown. -/
  untouched : (∀ e ∈ es, e.Idle) → flag = false
  /-- The last executed instruction decides, whatever idle entries follow. -/
  last : ∀ before e after i, es = before ++ e :: after → e.2.executed? = some i →
    (∀ a ∈ after, Idle a) → (flag = true ↔ i = .clear ∨ ∃ x y height, i = .draw x y height)
  /-- A key wait clears the flag. -/
  waited : ∀ before e after, es = before ++ e :: after → e.2.awaits = true →
    (∀ a ∈ after, Idle a) → flag = false

theorem redrawTold (es : List Entry) : RedrawTold es (redraw es) where
  untouched := by
    intro idle
    exact redraw_append_of_idle [] idle
  last := by
    rintro before e after i rfl executed idle
    rw [redraw_of_last before e idle, Answer.redraw_of_executed executed]
    exact Instruction.redraws_iff
  waited := by
    rintro before e after rfl awaits idle
    rw [redraw_of_last before e idle, Answer.redraw_of_awaits awaits]

end Entry

namespace Machine

variable {m m' : Machine} {i : Instruction} {flow : Flow} {op : Operation}
  {out : Outcome Fault Progress}

/-! ## One operation -/

/-- An instruction raises the flag if it redraws, and leaves it alone otherwise. -/
theorem redraw_of_proceed (carried : m.execute i = m'.proceed flow) :
    m'.redraw = (i.redraws || m.redraw) := by
  cases redraws : i.redraws with
  | true =>
    rcases Instruction.redraws_iff.1 redraws with rfl | ⟨x, y, height, rfl⟩
    · obtain ⟨rfl, -⟩ := proceed_inj.1 carried
      rfl
    · obtain ⟨rows, -, rfl, -⟩ := withBlock_eq_proceed_iff.1 carried
      rfl
  | false =>
    have spared : Part.redraw ∉ i.writes := by simp [Instruction.redraw_mem_writes, redraws]
    have kept := get_execute m spared
    rw [carried] at kept
    exact kept

theorem Stepped.redraw (ends : m.Stepped out) :
    out.machine.redraw = (Answer.stepped out.result).redraw m.redraw := by
  cases ends with
  | faulted fault => exact (Bool.and_true _).symm
  | waiting x found up => exact (Bool.and_false _).symm
  | executed i m' flow pc found carried goes =>
    exact (redraw_of_proceed carried).trans (Bool.or_false _)

/-- A key wait clears the flag, and what ends the wait is executed: it cannot fault. -/
theorem Blocked.redraw (ends : m.Blocked out) :
    out.machine.redraw = (Answer.stepped out.result).redraw m.redraw := by
  cases ends with
  | atOnce ready => exact m.stepped.redraw
  | gaveUp waits keys => exact (Bool.and_false _).symm
  | later waits keys ready =>
    obtain ⟨x, found, -, -⟩ := step_of_isAwaiting waits
    have sound : ∀ fault,
        (step { m with redraw := false, keys := keys }).result ≠ .error fault := by
      intro fault
      exact result_step_ne_error_of_awaitKey found
    have ends := stepped { m with redraw := false, keys := keys }
    generalize step { m with redraw := false, keys := keys } = out at ready sound ends
    rw [ends.redraw]
    cases ends with
    | faulted fault => exact absurd rfl (sound fault)
    | waiting x found up => cases ready
    | executed i m' flow pc found carried goes => rfl

/-- An operation other than a reset leaves the redraw flag as its answer tells. -/
theorem redraw_perform (m : Machine) (kept : op ≠ .reset) :
    (m.perform op).2.redraw = (m.perform op).1.redraw m.redraw := by
  cases op with
  | load source =>
    rw [perform, machine_load]
    exact (Bool.and_true _).symm
  | step => exact m.stepped.redraw
  | stepBlocking frames =>
    rw [perform, Answer.redraw_waited]
    exact (m.blocked frames).redraw
  | reset => exact absurd rfl kept
  | _ => exact (Bool.and_true _).symm

/-! ## Histories -/

/-- After every history the redraw flag is as the entries since the last reset tell. -/
theorem redraw_run (config : Config) (noise : Noise) (ops : List Operation) :
    ((ofConfig config noise).run ops).2.redraw =
      Entry.redraw (Entry.sinceReset ((ofConfig config noise).entries ops)) := by
  refine run_induction (P := fun es m => m.redraw = Entry.redraw (Entry.sinceReset es)) rfl ?_ ops
  intro es m op told
  by_cases reset : op = .reset
  · subst reset
    rw [Entry.sinceReset_concat]
    rfl
  · rw [redraw_perform m reset, told, Entry.sinceReset_concat, Entry.isReset_eq_false reset,
      if_neg Bool.false_ne_true, Entry.redraw_concat]

/-- No redraw is lost or made up. After every history of a new machine, told since the last
reset: the flag is down as long as no instruction has been executed; the last executed
instruction decides it, whatever faults, loads, keys and ticks have followed; and only a key
wait clears it in between. Histories with hosts are told by scripts and fare the same. -/
theorem redraw_told (config : Config) (noise : Noise) :
    (∀ ops, Entry.RedrawTold (Entry.sinceReset ((ofConfig config noise).entries ops))
      ((ofConfig config noise).run ops).2.redraw) ∧
    ∀ calls answers after, (ofConfig config noise).Follows calls answers after →
      ∃ ops, List.Forall₂ Call.Tells calls ops ∧
        Entry.RedrawTold (Entry.sinceReset (ops.zip answers)) after.redraw := by
  have told : ∀ ops, Entry.RedrawTold (Entry.sinceReset ((ofConfig config noise).entries ops))
      ((ofConfig config noise).run ops).2.redraw := by
    intro ops
    rw [redraw_run]
    exact Entry.redrawTold _
  refine ⟨told, ?_⟩
  intro calls answers after course
  obtain ⟨ops, tells, e⟩ := course.exists_run
  refine ⟨ops, tells, ?_⟩
  have flag := told ops
  rw [entries, e] at flag
  exact flag

/-- A history with a reset, which ends with a fault and a tick after a sprite of no rows. -/
def stranded : List Operation :=
  [.step, .reset, .load (.ofBytes [0xD0, 0x10, 0xFF, 0xFF]), .step, .step, .tick]

/-- Random bytes for it. -/
def counting : Noise :=
  { bytes := fun k => .ofNat k }

theorem redraw_told_stranded :
    ((ofConfig {} counting).run stranded).2.redraw = true ∧
      ∃ answers after, (ofConfig {} counting).Follows (stranded.map .op) answers after ∧
        ∃ ops, List.Forall₂ Call.Tells (stranded.map .op) ops ∧
          Entry.RedrawTold (Entry.sinceReset (ops.zip answers)) after.redraw := by
  obtain ⟨told, hosted⟩ := redraw_told {} counting
  constructor
  · have facts : ((Entry.sinceReset ((ofConfig {} counting).entries stranded))[1]?.bind
          fun e => e.2.executed?) = some (.draw 0 1 0) ∧
        ∀ e ∈ (Entry.sinceReset ((ofConfig {} counting).entries stranded)).drop 2,
          Entry.Idle e := by
      decide +kernel
    have tells := told stranded
    generalize Entry.sinceReset ((ofConfig {} counting).entries stranded) = past at facts tells
    obtain ⟨executed, idle⟩ := facts
    obtain ⟨e, second, drawn⟩ := Option.bind_eq_some_iff.1 executed
    obtain ⟨inside, rfl⟩ := List.getElem?_eq_some_iff.1 second
    have split : past = past.take 1 ++ past[1] :: past.drop 2 := by
      rw [List.getElem_cons_drop, List.take_append_drop]
    exact (tells.last _ _ _ _ split drawn idle).2 (.inr ⟨0, 1, 0, rfl⟩)
  · have course := follows_run (ofConfig {} counting) stranded
    exact ⟨_, _, course, hosted _ _ _ course⟩

end Machine
end Chip8
