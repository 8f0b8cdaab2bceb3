import Chip8.Machine.Delivery
import Chip8.Proofs.Operating

/-!
# Loading, on every path

On each of the four paths a program is loaded as a whole or not at all. A program that fits
replaces the cells it covers and nothing else, so behind it the end of a longer program stays;
one that does not fit is refused by its size; and a source that fails is refused as
unreadable, whatever it has given before, and be it more than fits.

## Main definitions

* `Delivery.Gives`, `Delivery.Fails` — what a delivery comes to.
* `Machine.Loads` — what loading a program means, cell by cell.

## Main statements

* `Machine.load_whole_or_nothing` — each path ends in one of three ways, the same on all.
-/

namespace Chip8

namespace Delivery

/-- The delivery gives these bytes, in whatever pieces, and ends. Behind an empty piece, which
tells that it has ended, nothing is read any more. -/
def Gives (d : Delivery) (rom : List UInt8) : Prop :=
  (d.source.failure = none ∨ [] ∈ d.source.pieces) ∧
    (d.source.pieces.takeWhile fun piece => !piece.isEmpty).flatten = rom

/-- The delivery fails for this cause before it has ended, whatever it has given before. -/
def Fails (d : Delivery) (cause : ReadError) : Prop :=
  d.source.failure = some cause ∧ [] ∉ d.source.pieces

theorem gives_toMachine (rom : List UInt8) : (toMachine rom).Gives rom := by
  refine ⟨.inl rfl, ?_⟩
  cases rom with
  | nil => rfl
  | cons b rest => exact List.append_nil (b :: rest)

theorem Gives.contents {d : Delivery} {rom : List UInt8} (gives : d.Gives rom) :
    d.source.contents = .ok rom := by
  rw [Source.contents_of_end gives.1, gives.2]

theorem Fails.contents {d : Delivery} {cause : ReadError} (fails : d.Fails cause) :
    d.source.contents = .error cause :=
  Source.contents_of_failure fails.1 fails.2

end Delivery

namespace Machine

variable {m : Machine} {source : Source} {rom : List UInt8}

/-! ## What loading does -/

/-- Loading has put a program into memory and done nothing else. -/
structure Loads (m : Machine) (rom : List UInt8) (out : Outcome LoadError Unit) : Prop where
  result : out.result = .ok ()
  /-- Each byte lies in its cell, counted from the start address. -/
  inside : ∀ k < rom.length, out.machine.memory[0x200 + k]? = rom[k]?
  /-- The cells before the program and behind it hold what they held before. -/
  outside : ∀ a (ha : a < 4096), a < 0x200 ∨ 0x200 + rom.length ≤ a →
    out.machine.memory[a] = m.memory[a]
  /-- Only memory has changed. -/
  others : out.machine = { m with memory := out.machine.memory }

theorem loads_of_fits (contents : source.contents = .ok rom)
    (fits : rom.length ≤ Layout.programLimit) : m.Loads rom (m.load source) := by
  rw [m.load_of_fits contents fits]
  refine ⟨rfl, ?_, ?_, rfl⟩
  · intro k inside
    have room : 0x200 + k < 4096 := by
      have limit : rom.length ≤ 3584 := fits
      omega
    have put : (Block.write m.memory 0x200 rom)[0x200 + k]? = rom[0x200 + k - 0x200]? :=
      Block.getElem?_write_of_inside m.memory room (Nat.le_add_right 0x200 k)
        (Nat.add_lt_add_left inside 0x200)
    rwa [Nat.add_sub_cancel_left] at put
  · intro a ha outside
    exact Block.getElem_write_of_outside m.memory ha outside

/-- What is loaded is told by what the source gives. -/
theorem load_congr {other : Source} (same : source.contents = other.contents) :
    m.load source = m.load other := by
  simp only [load, onState, State.loadFrom, same]

/-- Loading is atomic, and the same on every path. Take any machine, in the middle of a run or
not. If a delivery gives at most 3584 bytes, in whatever pieces, they are copied and nothing
else changes; if it gives more, it is refused by its size and nothing changes; and if it
fails, at whatever point, it is refused as unreadable and nothing changes. Deliveries that
give the same bytes end alike. -/
theorem load_whole_or_nothing (m : Machine) (d : Delivery) :
    (∀ rom, d.Gives rom → rom.length ≤ 3584 → m.Loads rom (m.deliver d)) ∧
    (∀ rom, d.Gives rom → 3584 < rom.length →
      m.deliver d = ⟨.error (.tooLarge rom.length), m⟩ ∧
        (LoadError.tooLarge rom.length).record =
          Record.render "RomTooLarge" [("size", Nat.repr rom.length), ("max", "3584")]) ∧
    (∀ cause, d.Fails cause → m.deliver d = ⟨.error (.unreadable cause), m⟩) ∧
    ∀ (d' : Delivery) (rom : List UInt8), d.Gives rom → d'.Gives rom →
      m.deliver d = m.deliver d' := by
  refine ⟨?_, ?_, ?_, ?_⟩
  · intro rom gives fits
    rw [deliver_eq_load]
    exact loads_of_fits gives.contents fits
  · intro rom gives large
    rw [deliver_eq_load]
    exact ⟨m.load_of_large gives.contents large, rfl⟩
  · intro cause fails
    rw [deliver_eq_load]
    exact m.load_of_unreadable fails.contents
  · intro d' rom gives gives'
    rw [deliver_eq_load, deliver_eq_load, load_congr (gives.contents.trans gives'.contents.symm)]

/-- A machine in the middle of a program of five bytes. -/
def replaceable : Machine :=
  { memory := Block.write Memory.initial 0x200 [0x60, 0x07, 0x12, 0x00, 0x99]
    registers := Registers.zero.set 0 7
    pc := 0x202
    delay := 3
    redraw := true
    collision := .lastBit
    noise := { bytes := fun k => .ofNat k } }

/-- A file of three bytes that is read in three pieces. -/
def shorter : Delivery :=
  .file (.ok { pieces := [[0x00], [0xE0], [0x00]] })

/-- A reader that gives more than fits and then fails. -/
def torn : Delivery :=
  .reader { pieces := [List.replicate 3000 0x11, List.replicate 3000 0x22]
            failure := some (.reported "torn") }

theorem load_whole_or_nothing_replaceable :
    (replaceable.deliver shorter).machine.memory[0x202]? = some 0x00 ∧
      (replaceable.deliver shorter).machine.memory[0x204] = 0x99 ∧
      (replaceable.deliver shorter).machine.pc = 0x202 ∧
      replaceable.deliver shorter = replaceable.deliver (.toState [0x00, 0xE0, 0x00]) ∧
      replaceable.deliver torn = ⟨.error (.unreadable (.reported "torn")), replaceable⟩ ∧
      replaceable.deliver (.toMachine (List.replicate 3585 0)) =
        ⟨.error (.tooLarge 3585), replaceable⟩ := by
  have gives : shorter.Gives [0x00, 0xE0, 0x00] := ⟨.inl rfl, rfl⟩
  obtain ⟨fits, -, -, alike⟩ := load_whole_or_nothing replaceable shorter
  have loads := fits [0x00, 0xE0, 0x00] gives (by decide)
  have tail : replaceable.memory[0x204] = 0x99 := by decide +kernel
  refine ⟨loads.inside 2 (by decide), ?_, ?_, alike (.toState _) _ gives ⟨.inl rfl, rfl⟩, ?_, ?_⟩
  · rw [loads.outside 0x204 (by decide) (.inr (by decide)), tail]
  · rw [loads.others]
    rfl
  · exact (load_whole_or_nothing replaceable torn).2.2.1 _ ⟨rfl, by decide +kernel⟩
  · have large := (load_whole_or_nothing replaceable (.toMachine (List.replicate 3585 0))).2.1
      (List.replicate 3585 0) (Delivery.gives_toMachine _)
    rw [List.length_replicate] at large
    exact (large (by decide)).1

end Machine
end Chip8
