import Chip8.Proofs.Loading

/-!
# What is written to memory

A cell of memory is written by a load, a reset, and the two instructions that store at `I`:
the one its three decimal digits, the other a run of registers. Both are told by the bytes
that they store, so what an instruction makes of memory is one equation for all of them.

## Main definitions

* `Machine.stored`, `Machine.Stores` — the bytes that an instruction stores, and the cells.
* `Machine.StoresDigits`, `Machine.StoresRegisters`, `Machine.FetchesRegisters` — what the
  instructions that work on cells at `I` do.
* `Machine.Overwrites` — what can have changed a cell.
* `Machine.ChangesMemory` — what a call does to memory.

## Main statements

* `Machine.memory_of_proceed` — memory after an instruction.
* `Machine.overwrites_of_changed` — what has changed a cell.
-/

namespace Chip8

namespace Registers

/-- The digits of a byte are decimal digits, and they are those of its value. -/
theorem decimalDigits_spec (value : UInt8) :
    ∃ h t u : UInt8, decimalDigits value = [h, t, u] ∧ h ≤ 9 ∧ t ≤ 9 ∧ u ≤ 9 ∧
      100 * h.toNat + 10 * t.toNat + u.toNat = value.toNat := by
  have small := value.toNat_lt
  have h : (value / 100).toNat = value.toNat / 100 := UInt8.toNat_div _ _
  have t : (value / 10 % 10).toNat = value.toNat / 10 % 10 := UInt8.toNat_mod _ _
  have u : (value % 10).toNat = value.toNat % 10 := UInt8.toNat_mod _ _
  have nine : (9 : UInt8).toNat = 9 := rfl
  refine ⟨_, _, _, rfl, ?_, ?_, ?_, ?_⟩
  · rw [UInt8.le_iff_toNat_le, h, nine]
    omega
  · rw [UInt8.le_iff_toNat_le, t, nine]
    omega
  · rw [UInt8.le_iff_toNat_le, u, nine]
    omega
  · rw [h, t, u]
    omega

end Registers

namespace Machine

variable {m m' : Machine} {i : Instruction} {flow : Flow} {op : Operation} {x : Register}

/-! ## The bytes that are stored -/

/-- The bytes that an instruction stores, from `I` on. -/
def stored (m : Machine) : Instruction → List UInt8
  | .decimal x => Registers.decimalDigits (m.registers.get x)
  | .save x => m.registers.toList.take (x + 1)
  | _ => []

/-- An instruction stores to this address. -/
def Stores (m : Machine) (i : Instruction) (a : ℕ) : Prop :=
  m.index.toNat ≤ a ∧ a < m.index.toNat + (m.stored i).length

instance (m : Machine) (i : Instruction) (a : ℕ) : Decidable (m.Stores i a) :=
  inferInstanceAs (Decidable (_ ∧ _))

theorem length_stored_save (m : Machine) (x : Register) :
    (m.stored (.save x)).length = x + 1 := by
  have registers : m.registers.toList.length = 16 := Vector.length_toList
  rw [stored, List.length_take, registers]
  omega

theorem getElem?_stored_save (m : Machine) {x r : Register} (within : r ≤ x) :
    (m.stored (.save x))[r.val]? = some (m.registers.get r) := by
  rw [stored, List.getElem?_take_of_lt (Nat.lt_succ_of_le within), Vector.getElem?_toList,
    Vector.getElem?_eq_getElem r.isLt]
  rfl

theorem stored_of_spared (spared : Part.memory ∉ i.writes) : m.stored i = [] := by
  cases i with
  | decimal x => exact absurd (List.mem_singleton_self _) spared
  | save x => exact absurd (List.mem_singleton_self _) spared
  | _ => rfl

theorem Stores.listed {a : ℕ} (h : m.Stores i a) : Part.memory ∈ i.writes := by
  by_contra spared
  rw [Stores, stored_of_spared spared] at h
  exact absurd h.1 (Nat.not_le_of_lt h.2)

theorem getElem_write_stored (m : Machine) {a : ℕ} (ha : a < 4096) (apart : ¬ m.Stores i a) :
    (Block.write m.memory m.index.toNat (m.stored i))[a] = m.memory[a] := by
  refine Block.getElem_write_of_outside m.memory ha ?_
  rw [Stores] at apart
  omega

/-- Memory after an instruction has been carried out, whichever it is. -/
theorem memory_of_proceed (h : m.execute i = m'.proceed flow) :
    m'.memory = Block.write m.memory m.index.toNat (m.stored i) := by
  by_cases listed : Part.memory ∈ i.writes
  · rcases Instruction.memory_mem_writes.1 listed with ⟨x, rfl⟩ | ⟨x, rfl⟩
    · obtain ⟨values, -, rfl, -⟩ := withBlock_eq_proceed_iff.1 h
      rfl
    · obtain ⟨values, -, rfl, -⟩ := withBlock_eq_proceed_iff.1 h
      rfl
  · have same := get_execute m listed
    rw [h] at same
    rw [stored_of_spared listed, Block.write_nil]
    exact same

/-- What is stored lies inside memory. -/
theorem inside_of_proceed (h : m.execute i = m'.proceed flow) :
    m.stored i = [] ∨ m.index.toNat + (m.stored i).length ≤ 4096 := by
  by_cases listed : Part.memory ∈ i.writes
  · rcases Instruction.memory_mem_writes.1 listed with ⟨x, rfl⟩ | ⟨x, rfl⟩
    · obtain ⟨values, read, -, -⟩ := withBlock_eq_proceed_iff.1 h
      have inside := Block.isSome_read?_iff.1 (Option.isSome_of_mem read)
      exact .inr (inside.resolve_left (by decide))
    · obtain ⟨values, read, -, -⟩ := withBlock_eq_proceed_iff.1 h
      have inside := Block.isSome_read?_iff.1 (Option.isSome_of_mem read)
      rw [length_stored_save]
      exact .inr (inside.resolve_left (Nat.succ_ne_zero _))
  · exact .inl (stored_of_spared listed)

/-! ## What an operation makes of memory -/

/-- Memory after an operation that has executed an instruction. -/
theorem memory_of_executed (executed : (m.perform op).1.executed? = some i) :
    (m.perform op).2.memory = Block.write m.memory m.index.toNat (m.stored i) ∧
      (m.stored i = [] ∨ m.index.toNat + (m.stored i).length ≤ 4096) := by
  obtain ⟨keys, m', flow, pc, -, carried, -, e⟩ := proceeded_of_executed executed
  rw [e]
  have memory := memory_of_proceed carried
  have inside := inside_of_proceed carried
  exact ⟨memory, inside⟩

/-- A cell that an instruction does not store to stays as it is. -/
theorem getElem_memory_of_apart (executed : (m.perform op).1.executed? = some i) {a : ℕ}
    (ha : a < 4096) (apart : ¬ m.Stores i a) : (m.perform op).2.memory[a] = m.memory[a] := by
  simp only [(memory_of_executed executed).1]
  exact m.getElem_write_stored ha apart

/-- A cell that an instruction stores to holds its byte. -/
theorem getElem?_memory_of_stored (executed : (m.perform op).1.executed? = some i) {k : ℕ}
    (hk : k < (m.stored i).length) :
    (m.perform op).2.memory[m.index.toNat + k]? = (m.stored i)[k]? := by
  obtain ⟨memory, none | inside⟩ := memory_of_executed executed
  · rw [none] at hk
    cases hk
  · rw [memory, Block.getElem?_write_of_inside m.memory (by omega) (Nat.le_add_right _ k)
      (Nat.add_lt_add_left hk _), Nat.add_sub_cancel_left]

/-! ## The instructions at `I` -/

/-- `m'` is `m` after the digits of `Vx` have been stored. -/
structure StoresDigits (m m' : Machine) (x : Register) : Prop where
  inside : m.index.toNat + 3 ≤ 4096
  digits : ∃ h t u : UInt8, h ≤ 9 ∧ t ≤ 9 ∧ u ≤ 9 ∧
    100 * h.toNat + 10 * t.toNat + u.toNat = (m.registers.get x).toNat ∧
    m'.memory[m.index.toNat]? = some h ∧ m'.memory[m.index.toNat + 1]? = some t ∧
    m'.memory[m.index.toNat + 2]? = some u
  registers : m'.registers = m.registers
  index : m'.index = m.index

/-- `m'` is `m` after `V0` to `Vx` have been stored. -/
structure StoresRegisters (m m' : Machine) (x : Register) : Prop where
  inside : m.index.toNat + x < 4096
  values : ∀ r : Register, r ≤ x →
    m'.memory[m.index.toNat + r]? = some (m.registers.get r)
  registers : m'.registers = m.registers
  index : m'.index = m.index

/-- `m'` is `m` after `V0` to `Vx` have been fetched. -/
structure FetchesRegisters (m m' : Machine) (x : Register) : Prop where
  inside : m.index.toNat + x < 4096
  values : ∀ r : Register, r ≤ x →
    m.memory[m.index.toNat + r]? = some (m'.registers.get r)
  others : ∀ r : Register, x < r → m'.registers.get r = m.registers.get r
  memory : m'.memory = m.memory
  index : m'.index = m.index

theorem registers_of_executed (executed : (m.perform op).1.executed? = some i)
    (spared : ∀ r, Part.register r ∉ i.writes) :
    (m.perform op).2.registers = m.registers := by
  apply Vector.ext
  intro r hr
  exact get_perform executed (p := .register ⟨r, hr⟩) (spared _) (by simp)

theorem storesDigits_of_executed (executed : (m.perform op).1.executed? = some (.decimal x)) :
    m.StoresDigits (m.perform op).2 x where
  inside := (memory_of_executed executed).2.resolve_left (List.cons_ne_nil _ _)
  digits := by
    obtain ⟨h, t, u, e, hundreds, tens, ones, sum⟩ :=
      Registers.decimalDigits_spec (m.registers.get x)
    have cell : ∀ k < 3, (m.perform op).2.memory[m.index.toNat + k]? = [h, t, u][k]? := by
      intro k hk
      rw [getElem?_memory_of_stored executed hk, stored, e]
    exact ⟨h, t, u, hundreds, tens, ones, sum, cell 0 (by decide), cell 1 (by decide),
      cell 2 (by decide)⟩
  registers := registers_of_executed executed (by simp [Instruction.writes])
  index := get_perform executed (p := .index) (by simp [Instruction.writes]) (by decide)

theorem storesRegisters_of_executed (executed : (m.perform op).1.executed? = some (.save x)) :
    m.StoresRegisters (m.perform op).2 x where
  inside := by
    have length := m.length_stored_save x
    have inside := (memory_of_executed executed).2.resolve_left
      (List.ne_nil_of_length_eq_add_one length)
    omega
  values := by
    intro r within
    have hr : r.val < (m.stored (.save x)).length := by
      rw [length_stored_save]
      exact Nat.lt_succ_of_le within
    rw [getElem?_memory_of_stored executed hr, getElem?_stored_save m within]
  registers := registers_of_executed executed (by simp [Instruction.writes])
  index := get_perform executed (p := .index) (by simp [Instruction.writes]) (by decide)

theorem fetchesRegisters_of_executed
    (executed : (m.perform op).1.executed? = some (.restore x)) :
    m.FetchesRegisters (m.perform op).2 x := by
  have unlisted : ∀ p : Part, (∀ r, p ≠ .register r) → p ∉ (Instruction.restore x).writes := by
    intro p other listed
    obtain ⟨r, -, same⟩ := List.mem_map.1 listed
    exact other r same.symm
  have others : ∀ r, x < r → (m.perform op).2.registers.get r = m.registers.get r := by
    intro r behind
    refine get_perform executed (p := .register r) ?_ (by simp)
    simpa [Instruction.writes] using behind
  have memory := get_perform executed (p := .memory) (unlisted _ (by simp)) (by decide)
  have index := get_perform executed (p := .index) (unlisted _ (by simp)) (by decide)
  obtain ⟨keys, m', flow, pc, -, carried, -, e⟩ := proceeded_of_executed executed
  obtain ⟨block, read, rfl, -⟩ := withBlock_eq_proceed_iff.1 carried
  have inside : m.index.toNat + (x + 1) ≤ 4096 :=
    (Block.isSome_read?_iff.1 (Option.isSome_of_mem read)).resolve_left (Nat.succ_ne_zero _)
  refine ⟨inside, ?_, others, memory, index⟩
  intro r within
  have hr : r.val < x + 1 := Nat.lt_succ_of_le within
  have place : r.val < block.length := by
    rw [Block.length_of_read? read]
    exact hr
  rw [e]
  calc
    m.memory[m.index.toNat + r]? = block[r.val]? := (Block.getElem?_of_read? read hr).symm
    _ = (Block.write m.registers 0 block)[r.val]? :=
      (Block.getElem?_write_of_inside m.registers r.isLt (Nat.zero_le r)
        (by rwa [Nat.zero_add])).symm
    _ = some (Vector.get (Block.write m.registers 0 block) r) :=
      Vector.getElem?_eq_getElem r.isLt

/-- Registers can be fetched wherever the cells exist. -/
theorem result_step_of_restore (found : m.instruction = .ok (.restore x))
    (inside : m.index.toNat + x < 4096) : m.step.result = .ok (.executed (.restore x)) := by
  have room : x.val + 1 = 0 ∨ m.index.toNat + (x.val + 1) ≤ 4096 := .inr inside
  obtain ⟨block, -, carried⟩ := withBlock_of_inside (m := { m with redraw := false }) room
    fun block => { m with redraw := false, registers := Block.write m.registers 0 block }
  have ran : execute { m with redraw := false } (.restore x) = _ := carried
  rw [step_of_ok found, carryOut, ran, conclude_next]

/-! ## Cell by cell -/

/-- What the call `c` of `m`, with this answer and this machine left behind, can have done to
the cell `a`. -/
inductive Overwrites (m : Machine) (c : Call) (answer : Answer) (after : Machine)
    (a : Address) : Prop where
  /-- A program that covers the cell has been loaded. -/
  | loaded (source : Source) (rom : List UInt8) (given : c = .op (.load source))
      (contents : source.contents = .ok rom) (result : answer = .loaded (.ok ()))
      (low : 0x200 ≤ a.val) (covered : a.val < 0x200 + rom.length)
      (value : rom[a.val - 0x200]? = some after.memory[a])
  | digits (x : Register) (executed : answer.executed? = some (.decimal x))
      (low : m.index.toNat ≤ a) (high : a < m.index.toNat + 3)
  | registers (x r : Register) (executed : answer.executed? = some (.save x))
      (within : r ≤ x) (place : a.val = m.index.toNat + r)
      (value : after.memory[a] = m.registers.get r)
  | reset (given : c = .op .reset)

/-- What a call of `m`, with this answer and this machine left behind, does to memory. -/
structure ChangesMemory (m : Machine) (c : Call) (answer : Answer) (after : Machine) : Prop where
  changed : ∀ a : Address, after.memory[a] ≠ m.memory[a] → m.Overwrites c answer after a
  loads : ∀ source, c = .op (.load source) → answer = .loaded (.ok ()) →
    ∃ rom, source.contents = .ok rom ∧ rom.length ≤ 3584 ∧ m.Loads rom ⟨.ok (), after⟩
  digits : ∀ x, answer.executed? = some (.decimal x) → m.StoresDigits after x
  saves : ∀ x, answer.executed? = some (.save x) → m.StoresRegisters after x
  restores : ∀ x, answer.executed? = some (.restore x) → m.FetchesRegisters after x

theorem loads_of_loaded {source : Source}
    (loaded : (m.perform (.load source)).1 = .loaded (.ok ())) :
    ∃ rom, source.contents = .ok rom ∧ rom.length ≤ 3584 ∧
      m.Loads rom ⟨.ok (), (m.perform (.load source)).2⟩ := by
  rcases m.load_cases source with ⟨rom, contents, fits, e⟩ | ⟨error, e⟩
  · have loads := loads_of_fits (m := m) contents fits
    rw [e] at loads
    rw [perform, e]
    exact ⟨rom, contents, fits, loads⟩
  · rw [perform, e] at loaded
    cases loaded

theorem overwrites_of_stores {a : Address} (executed : (m.perform op).1.executed? = some i)
    (stores : m.Stores i a) :
    m.Overwrites (.op op) (m.perform op).1 (m.perform op).2 a := by
  rcases Instruction.memory_mem_writes.1 stores.listed with ⟨x, rfl⟩ | ⟨x, rfl⟩
  · exact .digits x executed stores.1 stores.2
  · obtain ⟨low, high⟩ := stores
    rw [length_stored_save] at high
    have place : a.val = m.index.toNat + (a.val - m.index.toNat) := by omega
    have offset : a.val - m.index.toNat ≤ x := by omega
    let r : Register := ⟨a.val - m.index.toNat, by omega⟩
    have within : r ≤ x := offset
    have value := (storesRegisters_of_executed executed).values r within
    rw [← place, Vector.getElem?_eq_getElem a.isLt] at value
    exact .registers x r executed within place (Option.some_inj.1 value)

theorem overwrites_of_load {a : Address} (source : Source)
    (changed : (m.perform (.load source)).2.memory[a] ≠ m.memory[a]) :
    m.Overwrites (.op (.load source)) (m.perform (.load source)).1
      (m.perform (.load source)).2 a := by
  rcases m.load_cases source with ⟨rom, contents, fits, e⟩ | ⟨error, e⟩
  · have memory : (m.perform (.load source)).2.memory = Block.write m.memory 0x200 rom := by
      rw [perform, e]
      rfl
    rw [memory] at changed
    by_cases outside : a.val < 0x200 ∨ 0x200 + rom.length ≤ a.val
    · exact absurd (Block.getElem_write_of_outside m.memory a.isLt outside) changed
    · have low : 0x200 ≤ a.val := by omega
      have covered : a.val < 0x200 + rom.length := by omega
      have result : (m.perform (.load source)).1 = .loaded (.ok ()) := by rw [perform, e]
      have value : (Block.write m.memory 0x200 rom)[a.val]? = rom[a.val - 0x200]? :=
        Block.getElem?_write_of_inside m.memory a.isLt low covered
      rw [Vector.getElem?_eq_getElem a.isLt, ← memory] at value
      exact .loaded source rom rfl contents result low covered value.symm
  · rw [perform, e] at changed
    exact absurd rfl changed

/-- A cell changes only if it is overwritten. -/
theorem overwrites_of_changed {a : Address}
    (changed : (m.perform op).2.memory[a] ≠ m.memory[a]) :
    m.Overwrites (.op op) (m.perform op).1 (m.perform op).2 a := by
  cases executed : (m.perform op).1.executed? with
  | some i =>
    by_cases stores : m.Stores i a
    · exact overwrites_of_stores executed stores
    · exact absurd (getElem_memory_of_apart executed a.isLt stores) changed
  | none =>
    have ends := m.performed op
    rw [executed] at ends
    generalize left : (m.perform op).2 = after at ends
    cases ends with
    | idle quiet stays =>
      have same : after.memory = m.memory := quiet .memory (by decide)
      rw [left, same] at changed
      exact absurd rfl changed
    | loaded source =>
      rw [← left]
      exact overwrites_of_load source changed
    | reset => exact .reset rfl

theorem changesMemory_perform (m : Machine) (op : Operation) :
    m.ChangesMemory (.op op) (m.perform op).1 (m.perform op).2 where
  changed _ := overwrites_of_changed
  loads := by
    rintro source given loaded
    cases given
    exact loads_of_loaded loaded
  digits _ := storesDigits_of_executed
  saves _ := storesRegisters_of_executed
  restores _ := fetchesRegisters_of_executed

/-- What a script tells of a call holds of the call: no host is a load or a reset. -/
theorem ChangesMemory.of_tells {c : Call} {answer : Answer} {after : Machine}
    (told : c.Tells op) (h : m.ChangesMemory (.op op) answer after) :
    m.ChangesMemory c answer after := by
  cases told with
  | op op => exact h
  | ask host s frames =>
    refine ⟨?_, ?_, h.digits, h.saves, h.restores⟩
    · intro a changed
      cases h.changed a changed with
      | loaded source rom given => cases given
      | digits x executed low high => exact .digits x executed low high
      | registers x r executed within place value =>
        exact .registers x r executed within place value
      | reset given => cases given
    · intro source given
      cases given

theorem Follows.changesMemory {c : Call} {answer : Answer} {after : Machine}
    (course : m.Follows [c] [answer] after) : m.ChangesMemory c answer after := by
  obtain ⟨op, told, e⟩ := course.exists_perform
  have changes := m.changesMemory_perform op
  rw [e] at changes
  exact changes.of_tells told

/-- A call changes a cell of memory only by loading a program that covers it, by one of the
two instructions that store, or by a reset. A load that succeeds and these instructions store
all that they should, inside memory, and leave `I` and the registers alone, and the one that
fetches registers leaves `I`, memory and the other registers alone; it is executed whenever
its cells exist. -/
theorem memory_perform (m : Machine) :
    (∀ op, m.ChangesMemory (.op op) (m.perform op).1 (m.perform op).2) ∧
      (∀ c answer after, m.Follows [c] [answer] after → m.ChangesMemory c answer after) ∧
      ∀ x, m.instruction = .ok (.restore x) → m.index.toNat + x < 4096 →
        m.step.result = .ok (.executed (.restore x)) := by
  refine ⟨m.changesMemory_perform, ?_, ?_⟩
  · intro c answer after course
    exact course.changesMemory
  · intro x found inside
    exact result_step_of_restore found inside

/-- A machine about to store two registers in the last two cells of memory. -/
def brimming : Machine :=
  { memory := Block.write Memory.initial 0x200 [0xF1, 0x55]
    registers := (Registers.zero.set 0 7).set 1 9
    index := 0xFFE
    collision := .lastBit
    noise := { bytes := fun k => .ofNat k } }

theorem memory_perform_brimming :
    (brimming.perform .step).1.executed? = some (.save 1) ∧
      brimming.StoresRegisters (brimming.perform .step).2 1 ∧
      (brimming.perform .step).2.memory[0xFFF]? = some 9 ∧
      (brimming.perform .step).2.memory[0xFFD] = brimming.memory[0xFFD] := by
  have executed : (brimming.perform .step).1.executed? = some (.save 1) := by decide +kernel
  have changes := (memory_perform brimming).2.1 _ _ _ (Follows.start.op .step)
  have stores := changes.saves 1 executed
  refine ⟨executed, stores, stores.values 1 (by decide), ?_⟩
  by_contra changed
  cases changes.changed 0xFFD changed with
  | loaded source rom given contents result low covered value => cases given
  | digits x other low high =>
    rw [executed] at other
    cases other
  | registers x r other within place value =>
    have start : brimming.index.toNat = 0xFFE := rfl
    have behind : 0xFFD = brimming.index.toNat + r.val := place
    omega
  | reset given => cases given

end Machine
end Chip8
