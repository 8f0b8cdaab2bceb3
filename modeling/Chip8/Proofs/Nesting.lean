import Chip8.Proofs.Reachability

/-!
# Calls and their returns

A call pushes the address behind it, and the first return that balances it pops this
address again, whatever lies between: further calls and their returns, calls that fail
because the stack is full, waits, loads, and programs that rewrite themselves. All that
time the addresses pushed before the call, and its own, stay at the bottom of the stack.

## Main definitions

* `Machine.Moves` — what an operation does to the return addresses.
* `Machine.nested` — the calls less the returns that a history has executed.
* `Machine.Encloses` — a history from a call to the return that balances it.
-/

namespace Chip8.Machine

variable {m m' : Machine} {first : Operation} {ops rest : List Operation}

/-! ## One operation -/

/-- What an operation of `m` that has executed an instruction, or none, does to the return
addresses. -/
inductive Moves (m : Machine) : Option Instruction → Machine → Prop where
  | called {m' : Machine} (target : Address) (below : m.pc.toNat < 4095)
      (pushed : m'.calls.addresses = m.calls.addresses ++ [m.pc + 2]) :
      Moves m (some (.call target)) m'
  | returned {m' : Machine} (popped : m.calls.addresses = m'.calls.addresses ++ [m'.pc]) :
      Moves m (some .ret) m'
  | stayed {executed : Option Instruction} {m' : Machine}
      (even : Instruction.nesting executed.toList = 0)
      (same : m'.calls.addresses = m.calls.addresses) : Moves m executed m'

/-- Every operation but a reset moves the addresses as the instruction says that it has
executed. -/
theorem moves_perform (range : m.calls.InRange) {op : Operation} (kept : op ≠ .reset) :
    m.Moves (m.perform op).1.executed? (m.perform op).2 := by
  have ends := m.performed op
  generalize (m.perform op).1.executed? = executed at ends ⊢
  generalize (m.perform op).2 = after at ends ⊢
  cases ends with
  | executed i keys m' flow pc found carried goes =>
    rcases calls_of_proceed carried with ⟨target, rfl, room, e⟩ | ⟨rfl, held, e⟩ | ⟨call, ret, e⟩
    · refine .called target (pc_lt_of_instruction found) ?_
      change m'.calls.addresses = _
      rw [e]
      exact CallStack.addresses_push range room _
    · refine .returned ?_
      have course := flow_of_proceed carried
      subst course
      cases goes
      change m.calls.addresses = m'.calls.addresses ++ _
      rw [e]
      exact CallStack.addresses_eq_pop_append range held
    · refine .stayed (Instruction.nesting_singleton_of_ne call ret) ?_
      change m'.calls.addresses = _
      rw [e]
  | idle quiet stays =>
    have calls : after.calls = m.calls := quiet .calls (by decide)
    exact .stayed rfl (by rw [calls])
  | loaded source => exact .stayed rfl (by rw [machine_load])
  | reset => exact absurd rfl kept

/-- An operation that executes a call pushes the address behind it. -/
theorem addresses_of_call (range : m.calls.InRange) {target : Address}
    (call : (m.perform first).1.executed? = some (.call target)) :
    m.pc.toNat < 4095 ∧
      (m.perform first).2.calls.addresses = m.calls.addresses ++ [m.pc + 2] := by
  have kept : first ≠ .reset := by
    rintro rfl
    cases call
  have moved := moves_perform range kept
  rw [call] at moved
  cases moved with
  | called target below pushed => exact ⟨below, pushed⟩
  | stayed even same => cases even

/-- An address on the stack, with those below it, stays there as long as there are others
above it, which an operation makes one more or one fewer. The return that finds none above
pops it and jumps to it. -/
theorem Moves.above {executed : Option Instruction} (moved : m.Moves executed m')
    {old above : List Word} {back : Word} (lies : m.calls.addresses = old ++ back :: above) :
    (∃ above', m'.calls.addresses = old ++ back :: above' ∧
        (above'.length : ℤ) = above.length + Instruction.nesting executed.toList) ∨
      (above = [] ∧ Instruction.nesting executed.toList = -1 ∧ m'.calls.addresses = old ∧
        m'.pc = back) := by
  cases moved with
  | called target below pushed =>
    refine .inl ⟨above ++ [m.pc + 2], ?_, ?_⟩
    · rw [pushed, lies, List.append_assoc, List.cons_append]
    · rw [List.length_append]
      rfl
  | returned popped =>
    have one : Instruction.nesting (some Instruction.ret).toList = -1 := rfl
    rw [lies] at popped
    cases above using List.reverseRecOn with
    | nil =>
      obtain ⟨same, jump⟩ := List.append_inj' popped rfl
      exact .inr ⟨rfl, one, same.symm, (List.singleton_inj.1 jump).symm⟩
    | append_singleton above newest =>
      rw [← List.cons_append, ← List.append_assoc] at popped
      refine .inl ⟨above, (List.append_inj' popped rfl).1.symm, ?_⟩
      rw [List.length_append, List.length_singleton, one]
      omega
  | stayed even same =>
    refine .inl ⟨above, same.trans lies, ?_⟩
    rw [even, Int.add_zero]

/-! ## Histories -/

/-- The number of calls less the number of returns that a history has executed. -/
def nested (m : Machine) (ops : List Operation) : ℤ :=
  Instruction.nesting (Entry.executed (m.entries ops))

theorem nested_concat (m : Machine) (ops : List Operation) (op : Operation) :
    m.nested (ops ++ [op]) =
      m.nested ops + Instruction.nesting ((m.run ops).2.perform op).1.executed?.toList := by
  rw [nested, entries_concat, Entry.executed_concat, Instruction.nesting_append]
  rfl

theorem nested_of_call {target : Address}
    (call : (m.perform first).1.executed? = some (.call target)) : m.nested [first] = 1 := by
  have count := m.nested_concat [] first
  rw [run_nil, call] at count
  exact count

/-- The history of `first` and `rest` begins with a call, has no reset, and ends when for
the first time as many returns as calls have been executed in it. -/
structure Encloses (m : Machine) (first : Operation) (rest : List Operation) : Prop where
  call : ∃ target, (m.perform first).1.executed? = some (.call target)
  kept : ∀ op ∈ rest, op ≠ .reset
  inner : ∀ k < rest.length, m.nested (first :: rest.take k) ≠ 0
  balanced : m.nested (first :: rest) = 0

/-- While a call has not been balanced, its address and the older ones lie at the bottom of
the stack, and above them are as many addresses as inner calls are open. The induction is
on the history; a return that finds no address above would have balanced the call. -/
theorem addresses_of_unbalanced (h : m.Reachable) {target : Address}
    (call : (m.perform first).1.executed? = some (.call target))
    (kept : ∀ op ∈ ops, op ≠ .reset)
    (inner : ∀ k ≤ ops.length, m.nested (first :: ops.take k) ≠ 0) :
    ∃ above, (m.run (first :: ops)).2.calls.addresses =
        m.calls.addresses ++ (m.pc + 2) :: above ∧
      m.nested (first :: ops) = above.length + 1 := by
  induction ops using List.reverseRecOn with
  | nil => exact ⟨[], (addresses_of_call h.bounded.range call).2, nested_of_call call⟩
  | append_singleton ops op ih =>
    have fewer : ∀ k ≤ ops.length, m.nested (first :: ops.take k) ≠ 0 := by
      intro k within
      have opened := inner k (by rw [List.length_append]; omega)
      rwa [List.take_append_of_le_length within] at opened
    obtain ⟨above, lies, count⟩ :=
      ih (fun op mem => kept op (List.mem_append_left _ mem)) fewer
    have moved := moves_perform (h.run (first :: ops)).bounded.range
      (kept op (List.mem_append_right _ (List.mem_singleton_self op)))
    have total := m.nested_concat (first :: ops) op
    have last := inner (ops ++ [op]).length (Nat.le_refl _)
    rw [List.take_length, ← List.cons_append] at last
    rw [← List.cons_append, run_concat]
    obtain ⟨above', lies', length⟩ | ⟨rfl, one, -, -⟩ := moved.above lies
    · exact ⟨above', lies', by omega⟩
    · rw [total, count, one] at last
      exact absurd rfl last

/-- The operation that balances a call is its return. -/
theorem returned_of_encloses (h : m.Reachable) (course : m.Encloses first rest) :
    (m.run (first :: rest)).2.calls.addresses = m.calls.addresses ∧
      (m.run (first :: rest)).2.pc = m.pc + 2 := by
  obtain ⟨⟨target, call⟩, kept, inner, balanced⟩ := course
  cases rest using List.reverseRecOn with
  | nil =>
    rw [nested_of_call call] at balanced
    cases balanced
  | append_singleton rest last =>
    have unbalanced : ∀ k ≤ rest.length, m.nested (first :: rest.take k) ≠ 0 := by
      intro k within
      have opened := inner k (by rw [List.length_append, List.length_singleton]; omega)
      rwa [List.take_append_of_le_length within] at opened
    obtain ⟨above, lies, count⟩ := addresses_of_unbalanced h call
      (fun op mem => kept op (List.mem_append_left _ mem)) unbalanced
    have moved := moves_perform (h.run (first :: rest)).bounded.range
      (kept last (List.mem_append_right _ (List.mem_singleton_self last)))
    have total := m.nested_concat (first :: rest) last
    rw [List.cons_append, balanced] at total
    rw [← List.cons_append, run_concat]
    obtain ⟨above', -, length⟩ | ⟨-, -, same, jump⟩ := moved.above lies
    · omega
    · exact ⟨same, jump⟩

/-- Calls nest: when a call has been balanced by its return, the program goes on behind the
call, with the stack as it was before it. In between, the stack never loses the address of
the call and those before it. -/
theorem stack_of_encloses (m : Machine) (h : m.Reachable) (first : Operation)
    (rest : List Operation) (course : m.Encloses first rest) :
    (m.run (first :: rest)).2.pc.toNat = m.pc.toNat + 2 ∧
      (m.run (first :: rest)).2.depth = m.depth ∧
      (m.run (first :: rest)).2.calls.addresses = m.calls.addresses ∧
      ∀ k < rest.length,
        m.calls.addresses ++ [m.pc + 2] <+:
          (m.run (first :: rest.take k)).2.calls.addresses := by
  obtain ⟨target, call⟩ := course.call
  obtain ⟨below, -⟩ := addresses_of_call h.bounded.range call
  obtain ⟨same, jump⟩ := returned_of_encloses h course
  refine ⟨?_, ?_, same, ?_⟩
  · rw [jump, UInt16.toNat_add]
    change (m.pc.toNat + 2) % 65536 = _
    omega
  · have size := CallStack.length_addresses (h.run (first :: rest)).bounded.range
    rw [same, CallStack.length_addresses h.bounded.range] at size
    change (m.run (first :: rest)).2.calls.pointer.toInt = m.calls.pointer.toInt
    omega
  · intro k inside
    have unbalanced : ∀ j ≤ (rest.take k).length,
        m.nested (first :: (rest.take k).take j) ≠ 0 := by
      intro j within
      rw [List.length_take] at within
      rw [List.take_take, Nat.min_eq_left (by omega)]
      exact course.inner j (by omega)
    obtain ⟨above, lies, -⟩ := addresses_of_unbalanced h call
      (fun op mem => course.kept op (List.mem_of_mem_take mem)) unbalanced
    rw [lies]
    exact ⟨above, List.append_assoc _ _ _⟩

/-- A machine inside a subroutine that is about to call another one, which waits for a key
and then calls a third. -/
def descending : Machine :=
  ((ofConfig {} { bytes := fun k => .ofNat k }).run
    [.load (.ofBytes [0x22, 0x04, 0x00, 0xE0, 0x22, 0x08, 0x00, 0xE0, 0xF0, 0x0A, 0x22, 0x0E,
      0x00, 0xEE, 0x00, 0xEE]), .step]).2

/-- A wait, a key put down, a tick, the key taken, a call, and two returns. -/
def descent : List Operation :=
  [.step, .setKey 3 true, .tick, .step, .step, .step, .step]

theorem stack_of_encloses_descending :
    descending.Encloses .step descent ∧
      descending.calls.addresses = [0x202] ∧ descending.pc = 0x204 ∧
      (descending.run (.step :: descent)).2.pc.toNat = 0x206 ∧
      (descending.run (.step :: descent)).2.calls.addresses = [0x202] ∧
      [0x202, 0x206] <+: (descending.run (.step :: descent.take 5)).2.calls.addresses := by
  obtain ⟨held, place, call, inner, balanced⟩ :
      descending.calls.addresses = [0x202] ∧ descending.pc = 0x204 ∧
        (descending.perform .step).1.executed? = some (.call 0x208) ∧
        (∀ k < descent.length, descending.nested (.step :: descent.take k) ≠ 0) ∧
        descending.nested (.step :: descent) = 0 := by
    decide +kernel
  have course : descending.Encloses .step descent :=
    ⟨⟨0x208, call⟩, by simp [descent], inner, balanced⟩
  obtain ⟨back, -, same, between⟩ :=
    stack_of_encloses descending (reachable_run _ _ _) .step descent course
  have inside := between 5 (by decide)
  rw [held] at same inside
  rw [place] at back inside
  exact ⟨course, held, place, back, same, inside⟩

end Chip8.Machine
