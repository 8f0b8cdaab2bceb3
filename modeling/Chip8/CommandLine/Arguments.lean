import Chip8.CommandLine.Argument
import Chip8.Config
import Chip8.Text.Decimal
import Chip8.Text.Record

/-!
# Arguments of the program

The program is started with the name of a program file. Three settings take a number,
each with a range, and two of them have a default; two switches are on or off.

## Main definitions

* `Setting`, `Setting.read?` — the settings, and the numbers they accept.
* `Switch` — the switches.
* `Arguments` — what a command line asks for, and `Arguments.record`, its text.
* `Chosen`, `Chosen.arguments` — what has been given, and what it asks for with the defaults.
* `Refusal` — why a command line asks for nothing that can be done.
-/

namespace Chip8.CommandLine

/-! ## What is declared -/

/-- An option that takes a number. -/
inductive Setting where
  /-- The size of a pixel in the window. -/
  | scale
  /-- The number of instructions executed between two ticks of the timers. -/
  | cyclesPerFrame
  /-- The seed of the random bytes. -/
  | seed
  deriving DecidableEq

namespace Setting

/-- The settings. -/
def all : List Setting := [.scale, .cyclesPerFrame, .seed]

/-- A setting's name on the command line, after two dashes. -/
def name : Setting → String
  | .scale => "scale"
  | .cyclesPerFrame => "cycles-per-frame"
  | .seed => "seed"

/-- The least number that a setting accepts. -/
def least : Setting → Nat
  | .scale => 1
  | .cyclesPerFrame | .seed => 0

/-- The greatest number that a setting accepts. Where no range is declared, it is the greatest
of its type, of 32 bits or of 64. -/
def most : Setting → Nat
  | .scale => 100
  | .cyclesPerFrame => 4294967295
  | .seed => 18446744073709551615

/-- The numbers from `least` to `most`, both included. -/
def between (least most : Nat) (n : Int) : Option Nat :=
  if least ≤ n ∧ n ≤ most then some n.toNat else none

/-- The number that a value stands for, whether the setting accepts it or not. A number of 32
bits is read with a sign. -/
def number? (s : Setting) (value : Argument) : Option Int :=
  match s with
  | .scale | .cyclesPerFrame => Decimal.signed? value.latin
  | .seed => (Decimal.unsigned? value.latin).map Int.ofNat

/-- The number that a value sets, if the setting accepts it. -/
def read? (s : Setting) (value : Argument) : Option Nat :=
  (s.number? value).bind (between s.least s.most)

end Setting

/-- An option that is on when it is given. -/
inductive Switch where
  /-- Report a collision when any pixel is erased. -/
  | anyPixelCollision
  /-- Print the program as instructions. -/
  | disassemble
  deriving DecidableEq

namespace Switch

/-- The switches. -/
def all : List Switch := [.anyPixelCollision, .disassemble]

/-- A switch's name on the command line, after two dashes. -/
def name : Switch → String
  | .anyPixelCollision => "any-pixel-collision"
  | .disassemble => "disassemble"

end Switch

/-! ## What is asked for -/

/-- What a command line asks for. -/
structure Arguments where
  /-- The name of the program file. -/
  rom : Argument
  scale : Nat
  cyclesPerFrame : Nat
  seed : Option Nat
  anyPixelCollision : Bool
  disassemble : Bool
  deriving DecidableEq

namespace Arguments

/-- The written form of arguments. -/
def record (a : Arguments) : String :=
  Record.render "Args"
    [("rom", a.rom.quoted), ("scale", Nat.repr a.scale),
      ("cycles_per_frame", Nat.repr a.cyclesPerFrame),
      ("seed", Record.optional (a.seed.map Nat.repr)),
      ("any_pixel_collision", toString a.anyPixelCollision),
      ("disassemble", toString a.disassemble)]

/-- The configuration of the machine that is asked for. -/
def config (a : Arguments) : Config :=
  { collision := if a.anyPixelCollision then .anyPixel else .lastBit
    seed := a.seed.map UInt64.ofNat }

end Arguments

/-- Why a command line asks for nothing that can be done. -/
inductive Refusal where
  /-- It asks how the program is used. -/
  | help
  /-- There is no such option, or there is a second file name. -/
  | unknownArgument
  /-- A setting has no value, or the file name is empty. -/
  | missingValue
  /-- A setting does not accept its value. -/
  | badValue
  /-- A setting or a switch is given twice. -/
  | repeated
  /-- A value is attached to an option that takes none. -/
  | unexpectedValue
  /-- There is no file name. -/
  | missingFile
  deriving DecidableEq

/-! ## What has been given -/

/-- What has been given on a command line. -/
structure Chosen where
  rom : Option Argument := none
  values : Setting → Option Nat := fun _ => none
  switches : Switch → Bool := fun _ => false

namespace Chosen

/-- With the name of the file. -/
def withFile (c : Chosen) (name : Argument) : Chosen :=
  { c with rom := some name }

/-- With a number for a setting. -/
def withValue (c : Chosen) (s : Setting) (n : Nat) : Chosen :=
  { c with values := fun t => if t = s then some n else c.values t }

/-- With a switch turned on. -/
def withSwitch (c : Chosen) (s : Switch) : Chosen :=
  { c with switches := fun t => t = s || c.switches t }

/-- What is asked for, once there is a file name: what has been given, and the defaults. -/
def arguments (c : Chosen) : Except Refusal Arguments :=
  match c.rom with
  | none => .error .missingFile
  | some rom =>
    .ok {
      rom := rom
      scale := (c.values .scale).getD 10
      cyclesPerFrame := (c.values .cyclesPerFrame).getD 10
      seed := c.values .seed
      anyPixelCollision := c.switches .anyPixelCollision
      disassemble := c.switches .disassemble }

end Chosen
end Chip8.CommandLine
