import Chip8.Machine.Step

/-!
# Many steps in a row

Steps are repeated until one faults, one finds no key to take, or a given number of
them has been made.

## Main definitions

* `Machine.trace` — the outcomes of the steps, one by one.
* `Burst`, `Machine.burst` — only their number, how many of them ask for a redraw, and
  why they ended.
-/

namespace Chip8

/-- Why a row of steps ended. -/
inductive Stop where
  /-- All steps were made. -/
  | limit
  /-- A step found no key to take. -/
  | awaitingKey
  | fault (fault : Fault)
  deriving DecidableEq

/-- What a row of steps did. -/
structure Burst where
  /-- How many instructions were executed. -/
  executed : Nat
  /-- How many of them cleared the screen or drew on it. -/
  redraws : Nat
  stop : Stop
  machine : Machine

namespace Machine

/-- The outcomes of at most `n` steps, the last of which alone may have failed to
execute an instruction. -/
def trace (m : Machine) : Nat → List (Outcome Fault Progress)
  | 0 => []
  | n + 1 =>
    let out := m.step
    match out.result with
    | .ok (.executed _) => out :: out.machine.trace n
    | _ => [out]

/-- At most `n` steps after a number of them that have been counted already. -/
def burstFrom (executed redraws : Nat) (m : Machine) : Nat → Burst
  | 0 => ⟨executed, redraws, .limit, m⟩
  | n + 1 =>
    let out := m.step
    match out.result with
    | .ok (.executed _) =>
      burstFrom (executed + 1) (if out.machine.redraw then redraws + 1 else redraws) out.machine n
    | .ok .awaitingKey => ⟨executed, redraws, .awaitingKey, out.machine⟩
    | .error fault => ⟨executed, redraws, .fault fault, out.machine⟩

/-- At most `n` steps. -/
def burst (m : Machine) (n : Nat) : Burst :=
  burstFrom 0 0 m n

end Machine
end Chip8
