import Chip8.Proofs.Bounds

/-!
# Reachable machines

A machine is reachable if some history leads to it from a new one. A machine in the midst
of a blocking step is reachable too, since a step and a replacement of all keys lead there;
so what holds of every reachable machine holds also while a host keeps one waiting, for
ever if it likes.

## Main definitions

* `Machine.Reachable` — the machines that histories lead to.
-/

namespace Chip8.Machine

variable {m m' : Machine}

/-- Some history leads to the machine from a new one. -/
def Reachable (m : Machine) : Prop :=
  ∃ (config : Config) (noise : Noise) (ops : List Operation),
    ((ofConfig config noise).run ops).2 = m

theorem reachable_run (config : Config) (noise : Noise) (ops : List Operation) :
    ((ofConfig config noise).run ops).2.Reachable :=
  ⟨config, noise, ops, rfl⟩

theorem Reachable.run (h : m.Reachable) (ops : List Operation) : (m.run ops).2.Reachable := by
  obtain ⟨config, noise, before, rfl⟩ := h
  refine ⟨config, noise, before ++ ops, ?_⟩
  rw [run_append]

theorem Reachable.perform (h : m.Reachable) (op : Operation) : (m.perform op).2.Reachable :=
  h.run [op]

theorem Reachable.bounded (h : m.Reachable) : m.Bounded := by
  obtain ⟨config, noise, ops, rfl⟩ := h
  exact (bounded_and_nested config noise ops).1

end Chip8.Machine
