import Chip8.Machine

/-!
# How programs come to a machine

A program comes to a machine on four paths: as bytes that are given to the machine or to its
state, from a reader, or from a file, which has to be opened first.

## Main definitions

* `Delivery` — the paths.
* `Machine.deliver` — loading on one of them.
* `Delivery.source` — where the bytes of a delivery come from.
-/

namespace Chip8

/-- A path on which a program comes to a machine. -/
inductive Delivery where
  /-- Its bytes are given to the machine. -/
  | toMachine (rom : List UInt8)
  /-- Its bytes are given to the state of the machine. -/
  | toState (rom : List UInt8)
  /-- A reader is given to the state of the machine. -/
  | reader (source : Source)
  /-- A file is named to the machine, which opens and reads it. -/
  | file (opened : Except ReadError Source)

/-- Loads a program on one of the paths. -/
def Machine.deliver (m : Machine) : Delivery → Outcome LoadError Unit
  | .toMachine rom => m.loadBytes rom
  | .toState rom => m.onState (·.loadBytes rom)
  | .reader source => m.onState (·.loadFrom source)
  | .file (.error cause) => ⟨.error (.unreadable cause), m⟩
  | .file (.ok source) => m.onState (·.loadFrom source)

/-- Where the bytes of a delivery come from. -/
def Delivery.source : Delivery → Source
  | .toMachine rom => .ofBytes rom
  | .toState rom => .ofBytes rom
  | .reader source => source
  | .file (.error cause) => .broken cause
  | .file (.ok source) => source

/-- On each path a machine loads what the source gives. -/
theorem Machine.deliver_eq_load (m : Machine) (d : Delivery) : m.deliver d = m.load d.source := by
  cases d with
  | toMachine rom => exact (m.load_ofBytes rom).symm
  | toState rom => exact (m.load_ofBytes rom).symm
  | reader source => rfl
  | file opened =>
    cases opened with
    | error cause => rfl
    | ok source => rfl

end Chip8
