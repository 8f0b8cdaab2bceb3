import Chip8.Machine.Step

/-!
# What a waiting machine looks at

A blocking step asks its host for the keys. The host may remember what it has been
asked before, and it is shown the keys that it is about to replace, so it can answer
anything at any look, and it can keep a machine waiting for ever. A call that comes to
an end has looked finitely often, and then a script of the frames that it was shown
leads to the same outcome.

## Main definitions

* `Host` — what answers a look, with a memory of its own.
* `Host.scripted` — the host that shows the frames of a script.
* `Machine.Blocks` — a blocking step that asks a host, and what it ends with.
-/

namespace Chip8

/-- What answers when a waiting machine looks at its keys. It sees the keys as they are
and its own memory, and shows a frame. -/
structure Host (σ : Type) where
  poll : σ → Keypad → Frame × σ

/-- The host that shows one frame of a script after another. Past the last one it leaves
the keys as they are and gives the wait up. -/
def Host.scripted : Host (List Frame) where
  poll
    | [], keys => (⟨keys, false⟩, [])
    | frame :: rest, _ => (frame, rest)

namespace Machine

/-- `m.Blocks host s w t`: a blocking step of `m` that asks a host with the memory `s`
comes to the end `w` and leaves the host with the memory `t`. -/
inductive Blocks {σ : Type} (host : Host σ) : Machine → σ → Waited → σ → Prop where
  | done {m : Machine} {s : σ} (ready : m.step.isAwaiting = false) :
      Blocks host m s ⟨m.step, 0⟩ s
  | stop {m : Machine} {s t : σ} {frame : Frame} (waits : m.step.isAwaiting = true)
      (look : host.poll s m.step.machine.keys = (frame, t)) (ends : frame.go = false) :
      Blocks host m s ⟨⟨.ok .awaitingKey, { m.step.machine with keys := frame.keys }⟩, 1⟩ t
  | again {m : Machine} {s t u : σ} {frame : Frame} {w : Waited}
      (waits : m.step.isAwaiting = true)
      (look : host.poll s m.step.machine.keys = (frame, t)) (goes : frame.go = true)
      (rest : Blocks host { m.step.machine with keys := frame.keys } t w u) :
      Blocks host m s w.polledBefore u

/-- Whatever a host does, a call that ends is one that a script describes. -/
theorem Blocks.exists_script {σ : Type} {host : Host σ} {m : Machine} {s t : σ} {w : Waited}
    (h : m.Blocks host s w t) : ∃ frames, m.stepBlocking frames = w := by
  induction h with
  | done ready => exact ⟨[], stepBlocking_of_not_awaiting ready []⟩
  | @stop _ _ _ frame waits _ ends =>
    refine ⟨[frame], ?_⟩
    rw [stepBlocking_cons waits, ends]
    rfl
  | @again _ _ _ _ frame _ waits _ goes _ ih =>
    obtain ⟨frames, e⟩ := ih
    refine ⟨frame :: frames, ?_⟩
    rw [stepBlocking_cons waits, if_pos goes, e]

/-- A script is followed by the host that shows its frames. -/
theorem blocks_scripted (m : Machine) (frames : List Frame) :
    ∃ rest, m.Blocks .scripted frames (m.stepBlocking frames) rest := by
  induction frames generalizing m with
  | nil =>
    cases waits : m.step.isAwaiting with
    | false =>
      rw [stepBlocking_of_not_awaiting waits]
      exact ⟨[], .done waits⟩
    | true =>
      rw [stepBlocking_nil waits]
      have stopped : m.Blocks .scripted [] ⟨⟨.ok .awaitingKey, m.step.machine⟩, 1⟩ [] :=
        .stop waits rfl rfl
      refine ⟨[], ?_⟩
      rw [Outcome.eq_of_isAwaiting waits]
      exact stopped
  | cons frame rest ih =>
    cases waits : m.step.isAwaiting with
    | false =>
      rw [stepBlocking_of_not_awaiting waits]
      exact ⟨frame :: rest, .done waits⟩
    | true =>
      rw [stepBlocking_cons waits]
      cases goes : frame.go with
      | false => exact ⟨rest, .stop waits rfl goes⟩
      | true =>
        obtain ⟨left, later⟩ := ih { m.step.machine with keys := frame.keys }
        exact ⟨left, .again waits rfl goes later⟩

/-- One host leads to at most one end. -/
theorem Blocks.deterministic {σ : Type} {host : Host σ} {m : Machine} {s t t' : σ}
    {w w' : Waited} (h : m.Blocks host s w t) (h' : m.Blocks host s w' t') : w = w' ∧ t = t' := by
  induction h generalizing w' t' with
  | done ready =>
    cases h' with
    | done => exact ⟨rfl, rfl⟩
    | stop waits => rw [ready] at waits; cases waits
    | again waits => rw [ready] at waits; cases waits
  | stop waits look ends =>
    cases h' with
    | done ready => rw [waits] at ready; cases ready
    | stop _ look' _ =>
      rw [look] at look'
      cases look'
      exact ⟨rfl, rfl⟩
    | again _ look' goes _ =>
      rw [look] at look'
      cases look'
      rw [ends] at goes
      cases goes
  | again waits look goes _ ih =>
    cases h' with
    | done ready => rw [waits] at ready; cases ready
    | stop _ look' ends =>
      rw [look] at look'
      cases look'
      rw [goes] at ends
      cases ends
    | again _ look' _ rest' =>
      rw [look] at look'
      cases look'
      obtain ⟨rfl, rfl⟩ := ih rest'
      exact ⟨rfl, rfl⟩

/-- A step that does not have to wait does not ask the host. -/
theorem blocks_of_not_awaiting {σ : Type} {host : Host σ} {m : Machine} {s t : σ} {w : Waited}
    (ready : m.step.isAwaiting = false) : m.Blocks host s w t ↔ w = ⟨m.step, 0⟩ ∧ t = s := by
  constructor
  · intro h
    exact h.deterministic (.done ready)
  · rintro ⟨rfl, rfl⟩
    exact .done ready

end Machine
end Chip8
