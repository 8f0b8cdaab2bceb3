import Chip8.CommandLine.Arguments
import Chip8.Listing
import Chip8.Machine.Journal

/-!
# Starting the program

Once its arguments are read and the program file has been tried, a start either ends
at once with a report, or leaves a machine with the program loaded. It ends at once
when a listing is asked for, and when the program cannot be read or loaded.

## Main definitions

* `Report` — the text and the exit code that the program ends with.
* `Launch`, `Launch.start` — what becomes of a start.
-/

namespace Chip8

/-- The name of the program. The entries of its journal come from a part of this name. -/
def programName : String := "chip8vm"

/-- The text and the exit code that the program ends with. -/
structure Report where
  code : Nat
  output : List String := []
  errors : List String := []
  deriving DecidableEq

/-- What becomes of a start. -/
inductive Launch where
  | ended (report : Report)
  /-- A machine is ready to run, after these lines of the journal. -/
  | ready (machine : Machine) (journal : List String)

namespace Launch

/-- The line that ends a program that could not go on. -/
def errorLine (record : String) : String :=
  "Error: " ++ record

/-- The listing of a program, or the reason why it could not be read. -/
def list (file : Except ReadError (List UInt8)) : Report :=
  match file with
  | .error cause => { code := 1, errors := [errorLine cause.record] }
  | .ok rom => { code := 0, output := Listing.lines rom }

/-- The source that reading a file was. -/
def source : Except ReadError (List UInt8) → Source
  | .error cause => .broken cause
  | .ok rom => .ofBytes rom

/-- A machine with the program loaded, or the reason why it could not be. The entries of the
journal come from a part of the program with this name. -/
def boot (shown : Selection) (part : String) (a : CommandLine.Arguments) (noise : Noise)
    (file : Except ReadError (List UInt8)) : Launch :=
  let fresh := Machine.ofConfig a.config noise
  let program := source file
  let loaded := fresh.load program
  match loaded.result with
  | .error error =>
    .ended {
      code := 1
      errors := shown.lines part [.starting a.config] ++ [errorLine error.record] }
  | .ok _ =>
    .ready loaded.machine
      (shown.lines part
        (.starting a.config :: fresh.events (.load program) ++ [.opened a.rom.shown]))

/-- A launch before which some lines were written among the errors. -/
def after (lines : List String) : Launch → Launch
  | .ended report => .ended { report with errors := lines ++ report.errors }
  | .ready machine journal => .ready machine (lines ++ journal)

/-- What becomes of a start with these arguments, the program file having been read or
not. The noise is used when there is no seed. What there is to say of the setting of the
journal is written first. -/
def start (shown : Selection) (part : String) (a : CommandLine.Arguments) (noise : Noise)
    (file : Except ReadError (List UInt8)) : Launch :=
  after shown.warnings
    (if a.disassemble then .ended (list file) else boot shown part a noise file)

end Launch
end Chip8
