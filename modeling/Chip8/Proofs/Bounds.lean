import Chip8.Proofs.Operating
import Mathlib.Data.Int.Notation

/-!
# The bounds that every machine keeps

The program counter is fed by jumps, skips and popped return addresses, and what is pushed
comes from the program counter, so their bounds only hold together. Every operation keeps
them, together with the pixels being zero or one, and the depth of the call stack follows
the calls and returns that have been executed.

## Main definitions

* `State.Bounded` — the bounds.
* `Instruction.nesting` — calls less returns.
* `Machine.BoundedAfter` — the bounds together with what the depth tells.

## Main statements

* `Machine.bounded_perform` — every operation keeps the bounds.
* `Machine.run_bounded` — every history keeps them, with hosts or without.
-/

namespace Chip8

/-- What holds of every state of a machine that began as a new one. -/
structure State.Bounded (s : State) : Prop where
  range : s.calls.InRange
  returns : ∀ a ∈ s.calls.addresses, 2 ≤ a.toNat ∧ a.toNat ≤ 0x1000
  pc : s.pc.toNat ≤ 0x10FE
  binary : s.screen.Binary

namespace Instruction

def isCall : Instruction → Bool
  | .call _ => true
  | _ => false

def isReturn : Instruction → Bool
  | .ret => true
  | _ => false

/-- How many calls there are among instructions, less the returns. -/
def nesting (is : List Instruction) : ℤ :=
  is.countP isCall - is.countP isReturn

theorem nesting_append (is js : List Instruction) :
    nesting (is ++ js) = nesting is + nesting js := by
  simp only [nesting, List.countP_append, Int.natCast_add]
  omega

theorem nesting_singleton_of_ne {i : Instruction} (call : ∀ target, i ≠ .call target)
    (ret : i ≠ .ret) : nesting [i] = 0 := by
  cases i with
  | call target => exact absurd rfl (call target)
  | ret => exact absurd rfl ret
  | _ => rfl

end Instruction

/-! ## New machines -/

theorem State.bounded_initial : ({} : State).Bounded where
  range := by decide
  returns := by
    intro a ha
    cases ha
  pc := by decide
  binary := Screen.binary_blank

namespace Machine

variable {m m' : Machine} {i : Instruction} {flow : Flow} {pc : Word}

/-! ## One instruction -/

/-- The depth follows the calls and returns. -/
theorem depth_of_proceed (range : m.calls.InRange) (h : m.execute i = m'.proceed flow) :
    m'.depth = m.depth + Instruction.nesting [i] := by
  rcases calls_of_proceed h with ⟨target, rfl, room, e⟩ | ⟨rfl, held, e⟩ | ⟨call, ret, e⟩
  · rw [State.depth, e]
    exact CallStack.toInt_pointer_push range _
  · rw [State.depth, e]
    exact CallStack.toInt_pointer_pop range
  · rw [State.depth, e, Instruction.nesting_singleton_of_ne call ret]
    exact (Int.add_zero _).symm

theorem toNat_ofNat_address (target : Address) : (UInt16.ofNat target).toNat = target := by
  have small := target.isLt
  rw [UInt16.toNat_ofNat']
  omega

/-- The address behind an instruction inside memory has not wrapped around. -/
theorem toNat_pc_add_two (below : m.pc.toNat < 4095) : (m.pc + 2).toNat = m.pc.toNat + 2 := by
  rw [UInt16.toNat_add]
  change (m.pc.toNat + 2) % 65536 = _
  omega

/-- What a jump or a call names is at most the largest address plus the largest byte. -/
theorem toNat_destination_le {a : Word} (named : m.destination? i = some a) :
    a.toNat ≤ 0x10FE := by
  cases i with
  | jump address | call address =>
    cases named
    rw [toNat_ofNat_address]
    omega
  | jumpPlus address =>
    cases named
    have byte := (m.registers.get 0).toNat_lt
    rw [UInt16.toNat_add, toNat_ofNat_address, UInt8.toNat_toUInt16]
    omega
  | _ => cases named

/-- Wherever an instruction lets the program go on, it is not far behind memory. -/
theorem toNat_target_le (bounded : m.Bounded) (below : m.pc.toNat < 4095)
    (h : m.execute i = m'.proceed flow) (goes : flow.target? m.pc = some pc) :
    pc.toNat ≤ 0x10FE := by
  rcases target_cases h goes with rfl | rfl | named | ⟨held, rfl⟩
  · rw [toNat_pc_add_two below]
    omega
  · rw [UInt16.toNat_add]
    change (m.pc.toNat + 4) % 65536 ≤ _
    omega
  · exact toNat_destination_le named
  · have newest := CallStack.newest_mem_addresses bounded.range held
    have inside := (bounded.returns _ newest).2
    omega

/-- An instruction that is carried out keeps the bounds. -/
theorem Bounded.proceed (bounded : m.Bounded) (below : m.pc.toNat < 4095)
    (h : m.execute i = m'.proceed flow) (goes : flow.target? m.pc = some pc) :
    State.Bounded { m'.toState with pc := pc } where
  range := inRange_of_proceed bounded.range h
  returns := by
    intro a ha
    rcases mem_addresses_of_proceed bounded.range h ha with old | rfl
    · exact bounded.returns a old
    -- A push comes from a program counter inside memory, so its address is bounded too.
    · rw [toNat_pc_add_two below]
      omega
  pc := toNat_target_le bounded below h goes
  binary := by
    have binary := binary_execute bounded.binary i
    rw [h] at binary
    exact binary

/-! ## Operations and histories -/

/-- Every operation keeps the bounds. -/
theorem bounded_perform (bounded : m.Bounded) (op : Operation) :
    (m.perform op).2.Bounded := by
  obtain ⟨range, returns, below, binary⟩ := bounded
  have ends := m.performed op
  generalize (m.perform op).1.executed? = executed at ends
  generalize (m.perform op).2 = after at ends
  cases ends with
  | executed i keys m' flow pc found carried goes =>
    -- The keys and the redraw flag are not bounded by anything.
    have shown : State.Bounded { m.toState with redraw := false, keys := keys } :=
      ⟨range, returns, below, binary⟩
    exact Bounded.proceed (m := { m with redraw := false, keys := keys }) shown
      (pc_lt_of_instruction found) carried goes
  | idle quiet stays =>
    have calls : after.calls = m.calls := quiet .calls (by decide)
    have screen : after.screen = m.screen := quiet .screen (by decide)
    rw [← calls] at range returns
    rw [← stays] at below
    rw [← screen] at binary
    exact ⟨range, returns, below, binary⟩
  | loaded source =>
    rw [machine_load]
    exact ⟨range, returns, below, binary⟩
  | reset => exact State.bounded_initial

/-- Every operation but a reset moves the depth by what it has executed. -/
theorem depth_perform (range : m.calls.InRange) {op : Operation} (kept : op ≠ .reset) :
    (m.perform op).2.depth =
      m.depth + Instruction.nesting (m.perform op).1.executed?.toList := by
  have ends := m.performed op
  generalize (m.perform op).1.executed? = executed at ends
  generalize (m.perform op).2 = after at ends
  cases ends with
  | executed i keys m' flow pc found carried goes =>
    have moved := depth_of_proceed (m := { m with redraw := false, keys := keys }) range carried
    exact moved
  | idle quiet stays =>
    have calls : after.calls = m.calls := quiet .calls (by decide)
    rw [State.depth, calls]
    exact (Int.add_zero _).symm
  | loaded source =>
    rw [machine_load]
    exact (Int.add_zero _).symm
  | reset => exact absurd rfl kept

/-- What every operation keeps of a machine that began as a new one. -/
theorem bounded_and_nested (config : Config) (noise : Noise) (ops : List Operation) :
    ((ofConfig config noise).run ops).2.Bounded ∧
      ((ofConfig config noise).run ops).2.depth + 1 =
        Instruction.nesting
          (Entry.executed (Entry.sinceReset ((ofConfig config noise).entries ops))) := by
  refine run_induction (P := fun es m => m.Bounded ∧
    m.depth + 1 = Instruction.nesting (Entry.executed (Entry.sinceReset es))) ?_ ?_ ops
  · exact ⟨State.bounded_initial, rfl⟩
  · rintro es m op ⟨bounded, nested⟩
    refine ⟨bounded_perform bounded op, ?_⟩
    -- A reset empties both sides, and any other operation moves both by what it executes.
    by_cases reset : op = .reset
    · subst reset
      rw [Entry.sinceReset_concat]
      rfl
    · rw [depth_perform bounded.range reset, Entry.sinceReset_concat,
        Entry.isReset_eq_false reset, if_neg Bool.false_ne_true, Entry.executed_concat,
        Instruction.nesting_append, ← nested]
      exact Int.add_right_comm _ _ _

/-- What holds of a machine that a history with these entries has led to from a new one. -/
structure BoundedAfter (after : Machine) (es : List Entry) : Prop where
  depth : -1 ≤ after.depth ∧ after.depth ≤ 15
  /-- The depth tells the calls that have not returned since the last reset. -/
  nested : after.depth + 1 =
    (Entry.executed (Entry.sinceReset es)).countP Instruction.isCall -
      (Entry.executed (Entry.sinceReset es)).countP Instruction.isReturn
  returns : ∀ a ∈ after.stack, 2 ≤ a.toNat ∧ a.toNat ≤ 0x1000
  pc : after.pc.toNat ≤ 0x10FE
  binary : ∀ p, after.screen.cell p = 0 ∨ after.screen.cell p = 1

theorem boundedAfter_run (config : Config) (noise : Noise) (ops : List Operation) :
    ((ofConfig config noise).run ops).2.BoundedAfter ((ofConfig config noise).entries ops) := by
  obtain ⟨⟨range, returns, pc, binary⟩, nested⟩ := bounded_and_nested config noise ops
  refine ⟨range, nested, ?_, pc, binary⟩
  intro a ha
  exact returns a (List.mem_reverse.1 ha)

/-- After every history a machine is within its bounds, and its depth tells the calls that
have not returned since it was made or last reset. A history with hosts is told by scripts,
and hosts cannot drive a machine out of its bounds either. -/
theorem run_bounded (config : Config) (noise : Noise) :
    (∀ ops,
      ((ofConfig config noise).run ops).2.BoundedAfter ((ofConfig config noise).entries ops)) ∧
    ∀ calls answers after, (ofConfig config noise).Follows calls answers after →
      ∃ ops, List.Forall₂ Call.Tells calls ops ∧ after.BoundedAfter (ops.zip answers) := by
  refine ⟨boundedAfter_run config noise, ?_⟩
  intro calls answers after course
  obtain ⟨ops, tells, e⟩ := course.exists_run
  have bounded := boundedAfter_run config noise ops
  rw [entries, e] at bounded
  exact ⟨ops, tells, bounded⟩

/-- A call of a subroutine, which begins with a key wait. -/
def enterWaiting : List Operation :=
  [.load (.ofBytes [0x22, 0x02, 0xF0, 0x0A]), .step]

/-- A host that shows a key at the second look. -/
def secondLook : Call :=
  .ask .scripted [⟨.released, true⟩, ⟨.ofList [3], true⟩]

theorem run_bounded_enterWaiting :
    ∃ answers after, (ofConfig {} { bytes := fun k => .ofNat k }).Follows
        (enterWaiting.map .op ++ [secondLook]) answers after ∧
      (∃ ops, List.Forall₂ Call.Tells (enterWaiting.map .op ++ [secondLook]) ops ∧
        after.BoundedAfter (ops.zip answers)) ∧
      after.depth = 0 ∧ after.pc = 0x204 := by
  have before := follows_run (ofConfig {} { bytes := fun k => .ofNat k }) enterWaiting
  obtain ⟨rest, ends⟩ := blocks_scripted
    ((ofConfig {} { bytes := fun k => .ofNat k }).run enterWaiting).2
    [⟨.released, true⟩, ⟨.ofList [3], true⟩]
  have course := before.ask ends
  refine ⟨_, _, course, (run_bounded _ _).2 _ _ _ course, ?_, ?_⟩
  · decide +kernel
  · decide +kernel

end Machine
end Chip8
