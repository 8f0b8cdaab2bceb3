import Chip8.Machine.Step

/-!
# Histories of a machine

Whoever drives a machine loads programs, makes it step, moves its keys, counts its
timers down and resets it. A history is a list of such operations.

## Main definitions

* `Operation` — what can be done with a machine.
* `Answer`, `Answer.executed?` — what an operation answers, and what it has executed.
* `Machine.perform` — one operation.
* `Machine.run` — a history.
-/

namespace Chip8

/-- What can be done with a machine. -/
inductive Operation where
  | load (source : Source)
  | step
  | stepBlocking (frames : List Frame)
  | setKey (key : Fin 16) (down : Bool)
  | setKeys (keys : Keypad)
  /-- Put keys down and leave the others. -/
  | pressKeys (keys : List (Fin 16))
  | releaseKeys
  /-- Count both timers down by one. -/
  | tick
  | tickDelay
  | tickSound
  /-- Replace the state by that of a new machine. -/
  | reset

/-- What an operation answers. -/
inductive Answer where
  | done
  | loaded (result : Except LoadError Unit)
  | stepped (result : Except Fault Progress)
  | waited (result : Except Fault Progress) (polls : Nat)

/-- The instruction that an operation has executed, if it has executed one. -/
def Answer.executed? : Answer → Option Instruction
  | .stepped (.ok (.executed i)) => some i
  | .waited (.ok (.executed i)) _ => some i
  | _ => none

namespace Machine

/-- Does one operation. -/
def perform (m : Machine) : Operation → Answer × Machine
  | .load source =>
    let out := m.load source
    (.loaded out.result, out.machine)
  | .step =>
    let out := m.step
    (.stepped out.result, out.machine)
  | .stepBlocking frames =>
    let out := m.stepBlocking frames
    (.waited out.result out.polls, out.machine)
  | .setKey key down => (.done, { m with keys := m.keys.set key down })
  | .setKeys keys => (.done, { m with keys := keys })
  | .pressKeys keys => (.done, { m with keys := m.keys.press keys })
  | .releaseKeys => (.done, { m with keys := .released })
  | .tick => (.done, { m with toState := m.toState.tick })
  | .tickDelay => (.done, { m with toState := m.toState.tickDelay })
  | .tickSound => (.done, { m with toState := m.toState.tickSound })
  | .reset => (.done, m.reset)

/-- Does the operations of a history one after another. -/
def run (m : Machine) : List Operation → List Answer × Machine
  | [] => ([], m)
  | op :: rest =>
    let first := m.perform op
    let later := first.2.run rest
    (first.1 :: later.1, later.2)

@[simp] theorem run_nil (m : Machine) : m.run [] = ([], m) := rfl

theorem run_cons (m : Machine) (op : Operation) (rest : List Operation) :
    m.run (op :: rest) =
      ((m.perform op).1 :: ((m.perform op).2.run rest).1, ((m.perform op).2.run rest).2) := rfl

/-- A history can be done in two parts. -/
theorem run_append (m : Machine) (first second : List Operation) :
    m.run (first ++ second) =
      ((m.run first).1 ++ ((m.run first).2.run second).1, ((m.run first).2.run second).2) := by
  induction first generalizing m with
  | nil => simp
  | cons op rest ih => simp [run_cons, ih]

end Machine
end Chip8
