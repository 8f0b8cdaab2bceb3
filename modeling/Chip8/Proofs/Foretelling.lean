import Chip8.Proofs.Assembly
import Chip8.Proofs.Reachability
import Chip8.Proofs.Storing
import Chip8.Proofs.Verdict

/-!
# What a listing foretells

A listing is read off the bytes of a program, two by two, before anything is executed; a
machine reads its instructions from memory, wherever its program counter stands. The two
agree as long as a run leaves the bytes alone and names no odd address. Then the program
lies in memory as it was loaded, and since everything that feeds the program counter is
even, so is the program counter: it stands at the first byte of an entry.

## Main definitions

* `Machine.Spares` — the runs that leave a program alone.
* `Machine.Aligned` — what these runs keep.
* `Listing.Entry.Foretells` — the outcomes of a step that an entry allows.

## Main statements

* `Machine.Aligned.run` — a run that spares the program keeps the machine aligned with it.
* `Machine.Verdict.foretold` — the entry with the word at the program counter allows the
  outcome of the step.
-/

namespace Chip8

namespace Machine

variable {m m' : Machine} {i : Instruction} {flow : Flow} {op : Operation}
  {rom : List UInt8} {e : Listing.Entry}

/-! ## Runs that leave a program alone -/

/-- An operation of `m` leaves the program `rom` alone: what it executes does not store to
it, and does not name an odd address to go on at. -/
structure Respects (m : Machine) (rom : List UInt8) (op : Operation) : Prop where
  goesOn : op.goesOn = true
  apart : ∀ i ∈ (m.perform op).1.executed?, ∀ k < rom.length, ¬ m.Stores i (0x200 + k)
  even : ∀ i ∈ (m.perform op).1.executed?, ∀ a ∈ m.destination? i, 2 ∣ a.toNat

/-- Only the address that is named is looked at, not all words. -/
instance (m : Machine) (i : Instruction) : Decidable (∀ a ∈ m.destination? i, 2 ∣ a.toNat) :=
  Option.decidableForallMem (m.destination? i)

instance (m : Machine) (rom : List UInt8) (op : Operation) : Decidable (m.Respects rom op) :=
  decidable_of_iff (op.goesOn = true ∧
      (∀ i ∈ (m.perform op).1.executed?, ∀ k < rom.length, ¬ m.Stores i (0x200 + k)) ∧
      ∀ i ∈ (m.perform op).1.executed?, ∀ a ∈ m.destination? i, 2 ∣ a.toNat)
    ⟨fun ⟨goesOn, apart, even⟩ => ⟨goesOn, apart, even⟩,
      fun ⟨goesOn, apart, even⟩ => ⟨goesOn, apart, even⟩⟩

/-- All operations of a run leave the program alone. -/
def Spares (rom : List UInt8) : Machine → List Operation → Prop
  | _, [] => True
  | m, op :: rest => m.Respects rom op ∧ Spares rom (m.perform op).2 rest

instance decidableSpares (rom : List UInt8) :
    (m : Machine) → (ops : List Operation) → Decidable (Spares rom m ops)
  | _, [] => .isTrue trivial
  | m, op :: rest => @instDecidableAnd _ _ _ (decidableSpares rom (m.perform op).2 rest)

/-! ## Alignment -/

/-- The program lies where it was loaded, and the program counter and all return addresses
are even. -/
structure Aligned (m : Machine) (rom : List UInt8) : Prop where
  image : ∀ k < rom.length, m.memory[0x200 + k]? = rom[k]?
  pc : 2 ∣ m.pc.toNat
  returns : ∀ a ∈ m.calls.addresses, 2 ∣ a.toNat

theorem even_add {a b : Word} (ha : 2 ∣ a.toNat) (hb : 2 ∣ b.toNat) : 2 ∣ (a + b).toNat := by
  rw [UInt16.toNat_add]
  omega

/-- A new machine is aligned with the program that has been loaded into it. -/
theorem aligned_load (config : Config) (noise : Noise) {source : Source}
    (contents : source.contents = .ok rom) (fits : rom.length ≤ 3584) :
    ((ofConfig config noise).load source).machine.Aligned rom := by
  have even : 2 ∣ Layout.programStart.toNat := by decide
  rw [load_of_fits _ contents fits]
  refine ⟨?_, even, ?_⟩
  · intro k hk
    have inside : 0x200 + k < 4096 := by omega
    have value := Block.getElem?_write_of_inside Memory.initial inside (Nat.le_add_right 0x200 k)
      (Nat.add_lt_add_left hk 0x200)
    rwa [Nat.add_sub_cancel_left] at value
  · intro a ha
    cases ha

/-- An instruction that is carried out leaves the machine aligned, if it stores outside the
program and names no odd address. -/
theorem Aligned.proceed (aligned : m.Aligned rom) (range : m.calls.InRange)
    (fits : rom.length ≤ 3584) (h : m.execute i = m'.proceed flow) {pc : Word}
    (goes : flow.target? m.pc = some pc) (apart : ∀ k < rom.length, ¬ m.Stores i (0x200 + k))
    (even : ∀ a ∈ m.destination? i, 2 ∣ a.toNat) : Aligned { m' with pc := pc } rom where
  image := by
    intro k hk
    have inside : 0x200 + k < 4096 := by omega
    rw [← aligned.image k hk, Vector.getElem?_eq_getElem inside, Vector.getElem?_eq_getElem inside]
    simp only [memory_of_proceed h]
    rw [m.getElem_write_stored inside (apart k hk)]
  pc := by
    rcases target_cases h goes with rfl | rfl | named | ⟨held, rfl⟩
    · exact even_add aligned.pc (by decide)
    · exact even_add aligned.pc (by decide)
    · exact even pc named
    · exact aligned.returns _ (CallStack.newest_mem_addresses range held)
  returns := by
    intro a ha
    rcases mem_addresses_of_proceed range h ha with old | rfl
    · exact aligned.returns a old
    · exact even_add aligned.pc (by decide)

/-- An operation that leaves the program alone leaves the machine aligned with it. -/
theorem Aligned.perform (aligned : m.Aligned rom) (range : m.calls.InRange)
    (fits : rom.length ≤ 3584) (respects : m.Respects rom op) :
    (m.perform op).2.Aligned rom := by
  obtain ⟨goesOn, apart, even⟩ := respects
  have ends := m.performed op
  generalize (m.perform op).1.executed? = executed at apart even ends
  generalize (m.perform op).2 = after at ends
  cases ends with
  | executed i keys m' flow pc found carried goes =>
    have shown : Aligned { m with redraw := false, keys := keys } rom :=
      ⟨aligned.image, aligned.pc, aligned.returns⟩
    exact shown.proceed range fits carried goes (apart i rfl) (even i rfl)
  | idle quiet stays =>
    have memory : after.memory = m.memory := quiet .memory (by decide)
    have calls : after.calls = m.calls := quiet .calls (by decide)
    refine ⟨?_, ?_, ?_⟩
    · rw [memory]
      exact aligned.image
    · rw [stays]
      exact aligned.pc
    · rw [calls]
      exact aligned.returns
  | loaded source => cases goesOn
  | reset => cases goesOn

/-- A run that leaves the program alone leaves the machine aligned with it. -/
theorem Aligned.run (aligned : m.Aligned rom) (reachable : m.Reachable)
    (fits : rom.length ≤ 3584) {ops : List Operation} (spares : Spares rom m ops) :
    (m.run ops).2.Aligned rom := by
  induction ops generalizing m with
  | nil => exact aligned
  | cons op rest ih =>
    obtain ⟨respects, spares⟩ := spares
    exact ih (aligned.perform reachable.bounded.range fits respects) (reachable.perform op) spares

/-! ## Entries and steps -/

/-- The stack and address faults that an instruction can raise. -/
inductive Raises (m : Machine) : Instruction → Fault → Prop where
  | underflow (empty : m.depth = -1) : Raises m .ret (.stackUnderflow m.pc)
  | overflow (target : Address) (full : m.depth = 15) :
      Raises m (.call target) (.stackOverflow m.pc)
  | overrun (i : Instruction) (pos : 0 < i.blockLength)
      (beyond : 4096 < m.index.toNat + i.blockLength) :
      Raises m i (.addressOutOfRange (max m.index.toNat 4096) m.pc)

end Machine

/-- An entry of a listing allows a step of `m` to end so. -/
inductive Listing.Entry.Foretells (e : Entry) (m : Machine) : Except Fault Progress → Prop where
  | unknown (unlisted : e.instruction = none) :
      Foretells e m (.error (.invalidOpcode e.word m.pc))
  | executed (i : Instruction) (listed : e.instruction = some i) :
      Foretells e m (.ok (.executed i))
  | waiting (x : Register) (listed : e.instruction = some (.awaitKey x)) :
      Foretells e m (.ok .awaitingKey)
  | faulted (i : Instruction) (fault : Fault) (listed : e.instruction = some i)
      (raised : m.Raises i fault) : Foretells e m (.error fault)

namespace Machine

variable {m : Machine} {rom : List UInt8} {e : Listing.Entry} {r : Except Fault Progress}

/-- An entry with the word at the program counter allows what the verdict names. -/
theorem Verdict.foretold (h : m.Verdict r) (holds : m.HoldsWord e.word)
    (read : e.instruction = Instruction.decode? e.word) : e.Foretells m r := by
  cases h with
  | unfetched outside =>
    obtain ⟨inside, -⟩ := holds
    omega
  | undecoded held unknown =>
    cases holds.unique held
    exact .unknown (read.trans unknown)
  | underflow held decoded empty =>
    cases holds.unique held
    exact .faulted .ret _ (read.trans decoded) (.underflow empty)
  | @overflow w target held decoded full =>
    cases holds.unique held
    exact .faulted (.call target) _ (read.trans decoded) (.overflow target full)
  | @overrun w i a held decoded pos beyond first =>
    cases holds.unique held
    rw [first.unique (isLeast_outside beyond pos)]
    exact .faulted i _ (read.trans decoded) (.overrun i pos beyond)
  | @awaiting w x held decoded up =>
    cases holds.unique held
    exact .waiting x (read.trans decoded)
  | @executed w i held decoded admits =>
    cases holds.unique held
    exact .executed i (read.trans decoded)

/-- Where the program counter of an aligned machine stands at a word of the program, the
listing has an entry with this address and this word. -/
theorem Aligned.exists_entry (aligned : m.Aligned rom) (fits : rom.length ≤ 3584) {k : ℕ}
    (place : m.pc.toNat = 0x200 + 2 * k) (listed : 2 * k + 1 < rom.length) :
    ∃ e, (Listing.disassemble rom)[k]? = some e ∧ e.address = m.pc ∧ m.HoldsWord e.word ∧
      e.instruction = Instruction.decode? e.word := by
  have inside : m.pc.toNat + 1 < 4096 := by omega
  have first := aligned.image (2 * k) (by omega)
  have second := aligned.image (2 * k + 1) listed
  rw [← place, Vector.getElem?_eq_getElem (Nat.lt_of_succ_lt inside)] at first
  rw [← Nat.add_assoc, ← place, Vector.getElem?_eq_getElem inside] at second
  refine ⟨_, Listing.getElem?_disassemble first.symm second.symm, ?_, ?_, rfl⟩
  · have start : Layout.programStart.toNat = 0x200 := rfl
    apply UInt16.toNat_inj.1
    rw [Listing.entry, Listing.addressOf, UInt16.toNat_add, UInt16.toNat_ofNat', start, place]
    omega
  · exact ⟨inside, Word.toNat_ofBytes _ _⟩

/-- A listing tells the truth about execution. After every run of a loaded program that
leaves the program alone and names no odd address, the program counter and all return
addresses are even, and wherever the program counter stands at a word of the program, the
next step does what the entry of this word says. -/
theorem step_foretold (config : Config) (noise : Noise) (source : Source) (rom : List UInt8)
    (contents : source.contents = .ok rom) (fits : rom.length ≤ 3584) (ops : List Operation)
    (spares : Spares rom ((ofConfig config noise).load source).machine ops) :
    let m := (((ofConfig config noise).load source).machine.run ops).2
    2 ∣ m.pc.toNat ∧ (∀ a ∈ m.stack, 2 ∣ a.toNat) ∧
      ∀ k, m.pc.toNat = 0x200 + 2 * k → 2 * k + 1 < rom.length →
        ∃ e, (Listing.disassemble rom)[k]? = some e ∧ e.address = m.pc ∧
          e.Foretells m m.step.result := by
  intro m
  have loaded : ((ofConfig config noise).load source).machine.Reachable :=
    reachable_run config noise [.load source]
  have aligned : m.Aligned rom :=
    (aligned_load config noise contents fits).run loaded fits spares
  have reachable : m.Reachable := loaded.run ops
  refine ⟨aligned.pc, ?_, ?_⟩
  · intro a ha
    exact aligned.returns a (List.mem_reverse.1 ha)
  · intro k place listed
    obtain ⟨e, entry, address, holds, read⟩ := aligned.exists_entry fits place listed
    obtain ⟨r, verdict⟩ := m.exists_verdict
    refine ⟨e, entry, address, ?_⟩
    rw [result_step_of_verdict reachable.bounded.range verdict]
    exact verdict.foretold holds read

/-- The bytes of a program that stores two registers and calls a subroutine, which begins
with a word of no instruction. An odd byte ends it. -/
def subroutine : List UInt8 :=
  [0xF1, 0x55, 0x22, 0x06, 0x00, 0xEE, 0x80, 0x08, 0xFF]

theorem step_foretold_subroutine :
    let start := ((ofConfig {} { bytes := fun k => .ofNat k }).load (.ofBytes subroutine)).machine
    let ops := [.step, .tick, .setKey 3 true, .step]
    Spares subroutine start ops ∧ (start.run ops).2.pc = 0x206 ∧
      (start.run ops).2.step.result = .error (.invalidOpcode 0x8008 0x206) := by
  intro start ops
  have spares : Spares subroutine start ops := by decide +kernel
  have place : (start.run ops).2.pc.toNat = 0x206 := by decide +kernel
  have counter : (start.run ops).2.pc = 0x206 := UInt16.toNat_inj.1 place
  have listed : (Listing.disassemble subroutine)[3]? = some ⟨0x206, 0x8008, none⟩ := by
    decide +kernel
  obtain ⟨-, -, foretold⟩ := step_foretold {} { bytes := fun k => .ofNat k } (.ofBytes subroutine)
    subroutine (by rfl) (by decide) ops spares
  obtain ⟨e, entry, -, allowed⟩ := foretold 3 (by rw [place]) (by decide)
  refine ⟨spares, counter, ?_⟩
  cases listed.symm.trans entry
  generalize (start.run ops).2.step.result = result at allowed
  cases allowed with
  | unknown unlisted => rw [counter]
  | executed i listed => cases listed
  | waiting x listed => cases listed
  | faulted i fault listed raised => cases listed

end Machine
end Chip8
