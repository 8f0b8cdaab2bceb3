import Chip8.Proofs.Parts

/-!
# The effect of an instruction

For each part of a machine that more than one property speaks of, this file says what an
instruction leaves there and where the program goes on. A proof about a part cites its
lemma here and opens no instruction.

## Main definitions

* `Machine.course` — where the program goes on after an instruction.
* `Machine.destination?` — the address that an instruction names for it.
-/

namespace Chip8.Machine

variable {m m' : Machine} {i : Instruction} {flow : Flow}

/-! ## The call stack -/

/-- Only calls and returns touch the call stack. -/
theorem calls_execute (call : ∀ target, i ≠ .call target) (ret : i ≠ .ret) :
    (m.execute i).machine.calls = m.calls := by
  refine get_execute (p := .calls) m ?_
  rw [Instruction.calls_mem_writes]
  rintro (rfl | ⟨target, rfl⟩)
  · exact ret rfl
  · exact call target rfl

/-- An instruction that is carried out pushes, pops or leaves the call stack alone. -/
theorem calls_of_proceed (h : m.execute i = m'.proceed flow) :
    (∃ target, i = .call target ∧ m.calls.isFull = false ∧
        m'.calls = m.calls.push (m.pc + 2)) ∨
      (i = .ret ∧ m.calls.isEmpty = false ∧ m'.calls = m.calls.pop) ∨
      ((∀ target, i ≠ .call target) ∧ i ≠ .ret ∧ m'.calls = m.calls) := by
  by_cases call : ∃ target, i = .call target
  · obtain ⟨target, rfl⟩ := call
    obtain ⟨room, rfl, -⟩ := enter_eq_proceed_iff.1 h
    exact .inl ⟨target, rfl, room, rfl⟩
  by_cases ret : i = .ret
  · subst ret
    obtain ⟨held, rfl, -⟩ := leave_eq_proceed_iff.1 h
    exact .inr (.inl ⟨rfl, held, rfl⟩)
  have others : ∀ target, i ≠ .call target := fun target same => call ⟨target, same⟩
  have same := calls_execute (m := m) others ret
  rw [h] at same
  exact .inr (.inr ⟨others, ret, same⟩)

theorem inRange_of_proceed (range : m.calls.InRange) (h : m.execute i = m'.proceed flow) :
    m'.calls.InRange := by
  rcases calls_of_proceed h with ⟨target, -, room, e⟩ | ⟨-, held, e⟩ | ⟨-, -, e⟩
  · rw [e]
    exact range.push room _
  · rw [e]
    exact range.pop held
  · rwa [e]

/-- A return address is an old one, or that of the next instruction. -/
theorem mem_addresses_of_proceed (range : m.calls.InRange) (h : m.execute i = m'.proceed flow)
    {a : Word} (ha : a ∈ m'.calls.addresses) : a ∈ m.calls.addresses ∨ a = m.pc + 2 := by
  rcases calls_of_proceed h with ⟨target, -, room, e⟩ | ⟨-, held, e⟩ | ⟨-, -, e⟩
  · rw [e, CallStack.addresses_push range room, List.mem_append, List.mem_singleton] at ha
    exact ha
  · rw [e] at ha
    rw [CallStack.addresses_eq_pop_append range held]
    exact .inl (List.mem_append_left _ ha)
  · rw [e] at ha
    exact .inl ha

/-! ## The screen -/

/-- Only clearing and drawing touch the screen. -/
theorem screen_execute (clear : i ≠ .clear) (draw : ∀ x y height, i ≠ .draw x y height) :
    (m.execute i).machine.screen = m.screen := by
  refine get_execute (p := .screen) m ?_
  rw [Instruction.screen_mem_writes]
  rintro (rfl | ⟨x, y, height, rfl⟩)
  · exact clear rfl
  · exact draw x y height rfl

/-- No instruction puts other bytes than zero and one on the screen. -/
theorem binary_execute (binary : m.screen.Binary) (i : Instruction) :
    (m.execute i).machine.screen.Binary := by
  by_cases clear : i = .clear
  · subst clear
    exact Screen.binary_blank
  by_cases draw : ∃ x y height, i = .draw x y height
  · obtain ⟨x, y, height, rfl⟩ := draw
    have ends := ends_execute m (.draw x y height)
    generalize ran : m.execute (.draw x y height) = out at ends
    cases ends with
    | refused fault => exact binary
    | carried m' flow =>
      obtain ⟨rows, -, rfl, -⟩ := withBlock_eq_proceed_iff.1 ran
      exact Sprite.binary_paint binary _ _ _
  rw [screen_execute clear fun x y height same => draw ⟨x, y, height, same⟩]
  exact binary

/-! ## Where the program goes on -/

/-- Where the program goes on after an instruction. -/
def course (m : Machine) : Instruction → Flow
  | .jump target => .jump (.ofNat target)
  | .call target => .jump (.ofNat target)
  | .jumpPlus target => .jump (.ofNat target + (m.registers.get 0).toUInt16)
  | .ret => .jump m.calls.newest
  | .skipIf condition => if condition.holds m.registers m.keys then .skip else .next
  | .awaitKey _ => if m.keys.lowest? = none then .wait else .next
  | _ => .next

theorem flow_of_proceed (h : m.execute i = m'.proceed flow) : flow = m.course i := by
  cases i with
  | ret =>
    obtain ⟨-, -, rfl⟩ := leave_eq_proceed_iff.1 h
    rfl
  | call target =>
    obtain ⟨-, -, rfl⟩ := enter_eq_proceed_iff.1 h
    rfl
  | awaitKey x =>
    rcases takeKey_eq_proceed_iff.1 h with ⟨up, -, rfl⟩ | ⟨key, down, -, rfl⟩
    · exact (if_pos up).symm
    · exact (if_neg (by simp [down])).symm
  | draw x y height =>
    obtain ⟨rows, -, -, rfl⟩ := withBlock_eq_proceed_iff.1 h
    rfl
  | decimal x =>
    obtain ⟨values, -, -, rfl⟩ := withBlock_eq_proceed_iff.1 h
    rfl
  | save x =>
    obtain ⟨values, -, -, rfl⟩ := withBlock_eq_proceed_iff.1 h
    rfl
  | restore x =>
    obtain ⟨values, -, -, rfl⟩ := withBlock_eq_proceed_iff.1 h
    rfl
  | _ =>
    obtain ⟨-, rfl⟩ := proceed_inj.1 h
    rfl

/-- The address that a jump or a call names. -/
def destination? (m : Machine) : Instruction → Option Word
  | .jump target => some (.ofNat target)
  | .call target => some (.ofNat target)
  | .jumpPlus target => some (.ofNat target + (m.registers.get 0).toUInt16)
  | _ => none

/-- The program goes on at the next instruction, behind it, at the address that the
instruction names, or where the newest return address leads. -/
theorem target_cases (h : m.execute i = m'.proceed flow) {pc : Word}
    (goes : flow.target? m.pc = some pc) :
    pc = m.pc + 2 ∨ pc = m.pc + 4 ∨ m.destination? i = some pc ∨
      (m.calls.isEmpty = false ∧ pc = m.calls.newest) := by
  cases flow with
  | next => exact .inl (Option.some_inj.1 goes).symm
  | skip => exact .inr (.inl (Option.some_inj.1 goes).symm)
  | wait => cases goes
  | jump target =>
    obtain rfl := Option.some_inj.1 goes
    have course := flow_of_proceed h
    cases i with
    | jump address | call address | jumpPlus address =>
      cases course
      exact .inr (.inr (.inl rfl))
    | ret =>
      obtain ⟨held, -, -⟩ := leave_eq_proceed_iff.1 h
      cases course
      exact .inr (.inr (.inr ⟨held, rfl⟩))
    | skipIf condition =>
      change _ = if _ then _ else _ at course
      split at course <;> cases course
    | awaitKey x =>
      change _ = if _ then _ else _ at course
      split at course <;> cases course
    | _ => cases course

end Chip8.Machine
