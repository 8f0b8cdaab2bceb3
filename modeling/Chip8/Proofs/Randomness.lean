import Chip8.Proofs.Operating

/-!
# Which random byte an instruction gets

The random bytes of a machine are an endless stream, which its seed fixes if it has one, and
the machine keeps its place in the stream apart from its state. So the place is told by the
random instructions that have been executed since the machine was made: each of them moves it
by one, whatever its mask, and nothing else moves it, neither a failed step nor a wait, a load
or a reset, and not even a replacement of the whole state.

## Main definitions

* `Noise.skip` — a source after some bytes have been taken.
* `Answer.draws` — how many random instructions answers tell of.
* `Deed`, `Machine.Undergoes` — courses of calls in which the state may be replaced.
* `Machine.DrawsInOrder` — the bytes of a stream have been given out in order.

## Main statements

* `Machine.noise_perform` — the bytes that one operation takes.
* `Machine.random_bytes_in_order` — the random instruction number `k` gets byte number `k`.
-/

namespace Chip8

namespace Noise

/-- The source after `n` bytes have been taken. -/
def skip (noise : Noise) (n : ℕ) : Noise :=
  { noise with taken := noise.taken + n }

@[simp] theorem skip_zero (noise : Noise) : noise.skip 0 = noise := rfl

theorem skip_skip (noise : Noise) (a b : ℕ) : (noise.skip a).skip b = noise.skip (a + b) :=
  congrArg (Noise.mk noise.bytes) (Nat.add_assoc noise.taken a b)

end Noise

def Instruction.isRandom : Instruction → Bool
  | .random _ _ => true
  | _ => false

theorem Instruction.isRandom_iff {i : Instruction} :
    i.isRandom = true ↔ ∃ x mask, i = .random x mask := by
  cases i <;> simp [isRandom]

/-- How many random instructions have been executed, as answers tell. -/
def Answer.draws (answers : List Answer) : ℕ :=
  (answers.filterMap Answer.executed?).countP Instruction.isRandom

theorem Answer.draws_append (answers later : List Answer) :
    draws (answers ++ later) = draws answers + draws later := by
  rw [draws, List.filterMap_append, List.countP_append]
  rfl

theorem Answer.draws_singleton (answer : Answer) :
    draws [answer] = answer.executed?.toList.countP Instruction.isRandom := by
  rw [draws]
  cases h : answer.executed? <;> simp [h]

namespace Machine

variable {m m' after : Machine} {i : Instruction} {flow : Flow} {op : Operation}

/-! ## One operation -/

/-- Only a random instruction takes a byte, and it takes one. -/
theorem noise_of_proceed (carried : m.execute i = m'.proceed flow) :
    m'.noise = m.noise.skip ([i].countP Instruction.isRandom) := by
  by_cases random : ∃ x mask, i = .random x mask
  · obtain ⟨x, mask, rfl⟩ := random
    obtain ⟨rfl, -⟩ := proceed_inj.1 carried
    rfl
  · have spared : Part.noise ∉ i.writes := fun listed =>
      random (Instruction.noise_mem_writes.1 listed)
    have other : ¬ i.isRandom = true := fun drawn => random (Instruction.isRandom_iff.1 drawn)
    rw [List.countP_singleton, if_neg other]
    exact get_of_proceed carried spared

/-- An operation takes a byte for the random instruction that it executes, if it executes
one. -/
theorem noise_perform (m : Machine) (op : Operation) :
    (m.perform op).2.noise = m.noise.skip (Answer.draws [(m.perform op).1]) := by
  rw [Answer.draws_singleton]
  have ends := m.performed op
  generalize (m.perform op).1.executed? = executed at ends
  generalize (m.perform op).2 = after at ends
  cases ends with
  | executed i keys m' flow pc found carried goes =>
    exact (noise_of_proceed carried :)
  | idle quiet stays => exact quiet .noise (by decide)
  | loaded source =>
    rw [machine_load]
    rfl
  | reset => rfl

/-- A random instruction puts the next byte into its register, masked. -/
theorem register_of_random {answer : Answer} {x : Register} {mask : UInt8}
    (e : m.perform op = (answer, m'))
    (drawn : answer.executed? = some (.random x mask)) :
    m'.registers.get x = m.noise.next &&& mask := by
  have ends := m.performed op
  rw [e, drawn] at ends
  cases ends with
  | executed i keys m' flow pc found carried goes =>
    obtain ⟨rfl, -⟩ := proceed_inj.1 carried
    exact Registers.get_set_self _ _ _

end Machine

/-! ## Courses -/

/-- What can become of a machine in its driver's hands: a call, or another state in the place
of its own. -/
inductive Deed where
  | call (c : Call)
  | replace (s : State)

namespace Machine

/-- `m.Undergoes deeds answers m'`: the deeds lead from `m` to `m'` and are answered so. -/
inductive Undergoes (m : Machine) : List Deed → List Answer → Machine → Prop where
  | start : Undergoes m [] [] m
  | call {deeds : List Deed} {answers : List Answer} {m' m'' : Machine} {c : Call}
      {answer : Answer} (before : Undergoes m deeds answers m')
      (next : m'.Follows [c] [answer] m'') :
      Undergoes m (deeds ++ [.call c]) (answers ++ [answer]) m''
  | replace {deeds : List Deed} {answers : List Answer} {m' : Machine}
      (before : Undergoes m deeds answers m') (s : State) :
      Undergoes m (deeds ++ [.replace s]) (answers ++ [.done]) { m' with toState := s }

variable {m after : Machine} {deeds : List Deed} {answers : List Answer}

/-- A course of calls is one in which no state is replaced. -/
theorem Follows.undergoes {calls : List Call} (course : m.Follows calls answers after) :
    m.Undergoes (calls.map .call) answers after := by
  refine Follows.induction (P := fun calls answers after =>
    m.Undergoes (calls.map .call) answers after) .start ?_ course
  intro calls answers m' c answer m'' _ told last
  rw [List.map_append]
  exact told.call last

/-- A course takes one byte for each random instruction in it. The induction is on the course;
a replaced state takes none, since the source is not part of the state. -/
theorem Undergoes.noise (course : m.Undergoes deeds answers after) :
    after.noise = m.noise.skip (Answer.draws answers) := by
  induction course with
  | start => exact m.noise.skip_zero.symm
  | @call _ _ m' _ _ _ before next ih =>
    obtain ⟨op, -, e⟩ := next.exists_perform
    have taken := m'.noise_perform op
    rw [e, ih, Noise.skip_skip, ← Answer.draws_append] at taken
    exact taken
  | replace before s ih =>
    rw [Answer.draws_append]
    exact ih

/-- The bytes of the stream `r` have been given out in order, one for each random instruction
that the answers tell of: the next byte is the one with their number, and a call of `after`
that executes a random instruction leaves it, masked, in the register. -/
structure DrawsInOrder (r : ℕ → UInt8) (answers : List Answer) (after : Machine) : Prop where
  place : after.noise = { bytes := r, taken := Answer.draws answers }
  next : ∀ c answer later x mask, after.Follows [c] [answer] later →
    answer.executed? = some (.random x mask) →
    later.registers.get x = r (Answer.draws answers) &&& mask

theorem Undergoes.drawsInOrder {r : ℕ → UInt8} (course : m.Undergoes deeds answers after)
    (untouched : m.noise = { bytes := r }) : DrawsInOrder r answers after := by
  have place : after.noise = { bytes := r, taken := Answer.draws answers } := by
    rw [course.noise, untouched]
    exact congrArg (Noise.mk r) (Nat.zero_add _)
  refine ⟨place, ?_⟩
  intro c answer later x mask next drawn
  obtain ⟨op, -, e⟩ := next.exists_perform
  rw [register_of_random e drawn, place]
  rfl

/-- What a step leaves in the register, if it executes a random instruction. -/
theorem DrawsInOrder.register_step {r : ℕ → UInt8} {x : Fin 16} {mask : UInt8}
    (order : DrawsInOrder r answers after)
    (drawn : (after.perform .step).1.executed? = some (.random x mask)) :
    after.step.machine.registers.get x = r (Answer.draws answers) &&& mask :=
  order.next _ _ _ x mask (Follows.start.op .step) drawn

/-- Random bytes are given out in order, one for each random instruction that is executed and
none for anything else. This holds after every course of a machine, whatever stream its bytes
come from, if none has been taken before; in particular of every new machine with a seed and
the stream that the seed fixes. In a course there may be whatever there likes: failed steps,
waits with any host, loads, resets and states put in the place of the machine's own. -/
theorem random_bytes_in_order (deeds : List Deed) (answers : List Answer) (after : Machine) :
    (∀ (m : Machine) (r : ℕ → UInt8), m.noise = { bytes := r } →
      m.Undergoes deeds answers after → DrawsInOrder r answers after) ∧
    ∀ (rule : CollisionRule) (seed : UInt64) (spare : Noise),
      (ofConfig { collision := rule, seed := some seed } spare).Undergoes deeds answers after →
      DrawsInOrder (Noise.ofSeed seed).bytes answers after := by
  constructor
  · intro m r untouched course
    exact course.drawsInOrder untouched
  · intro rule seed spare course
    exact course.drawsInOrder rfl

/-- A new machine with the seed eight. -/
def seeded : Machine :=
  ofConfig { seed := some 8 } { bytes := fun k => .ofNat k }

/-- A new machine whose bytes count up from 40. -/
def countingUp : Machine :=
  ofConfig {} { bytes := fun k => .ofNat (40 + k) }

/-- A random instruction with the mask zero, a wait and a fault, then a tick and a reset. -/
def drawThenReset : List Operation :=
  [.load (.ofBytes [0xC1, 0x00, 0xF2, 0x0A, 0xFF, 0xFF]), .step,
    .stepBlocking [⟨.released, true⟩, ⟨.ofList [7], true⟩], .step, .tick, .reset]

/-- A state about to execute another random instruction. -/
def beforeDraw : State :=
  { memory := Block.write Memory.initial 0x200 [0xC3, 0x0F] }

/-- The course of a machine that draws a byte in vain and another one from a new state. -/
def twoDraws : List Deed :=
  (drawThenReset.map .op).map .call ++ [.replace beforeDraw]

theorem undergoes_twoDraws (m : Machine) :
    m.Undergoes twoDraws ((m.run drawThenReset).1 ++ [.done])
      { (m.run drawThenReset).2 with toState := beforeDraw } :=
  (follows_run m drawThenReset).undergoes.replace beforeDraw

theorem random_bytes_in_order_twoDraws :
    (∃ answers after, seeded.Undergoes twoDraws answers after ∧ Answer.draws answers = 1 ∧
      after.noise.taken = 1 ∧ after.step.machine.registers.get 3 = 2) ∧
    ∃ answers after, countingUp.Undergoes twoDraws answers after ∧ Answer.draws answers = 1 ∧
      after.step.machine.registers.get 3 = 41 &&& 0x0F := by
  constructor
  · have course := undergoes_twoDraws seeded
    have facts : Answer.draws ((seeded.run drawThenReset).1 ++ [.done]) = 1 ∧
        (perform { (seeded.run drawThenReset).2 with toState := beforeDraw } .step).1.executed? =
          some (.random 3 0x0F) ∧
        (Noise.ofSeed 8).bytes 1 &&& 0x0F = 2 := by
      decide +kernel
    generalize (seeded.run drawThenReset).1 ++ [.done] = answers at course facts
    generalize { (seeded.run drawThenReset).2 with toState := beforeDraw : Machine } = after
      at course facts
    obtain ⟨one, drawn, value⟩ := facts
    have order := (random_bytes_in_order twoDraws answers after).2 .lastBit 8 _ course
    refine ⟨answers, after, course, one, ?_, ?_⟩
    · rw [order.place, one]
    · rw [order.register_step drawn, one, value]
  · have course := undergoes_twoDraws countingUp
    have facts : Answer.draws ((countingUp.run drawThenReset).1 ++ [.done]) = 1 ∧
        (perform { (countingUp.run drawThenReset).2 with toState := beforeDraw }
          .step).1.executed? = some (.random 3 0x0F) := by
      decide +kernel
    generalize (countingUp.run drawThenReset).1 ++ [.done] = answers at course facts
    generalize { (countingUp.run drawThenReset).2 with toState := beforeDraw : Machine } = after
      at course facts
    obtain ⟨one, drawn⟩ := facts
    have order := (random_bytes_in_order twoDraws answers after).1 countingUp _ rfl course
    refine ⟨answers, after, course, one, ?_⟩
    rw [order.register_step drawn, one]
    rfl

end Machine
end Chip8
