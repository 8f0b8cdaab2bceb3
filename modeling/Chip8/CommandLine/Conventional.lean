import Chip8.CommandLine.Token

/-!
# A reader that keeps to the conventions

A file name and a value that stands apart from its setting are held back: they are checked
only when an option, a file name or the end of the line comes next, so an argument that is
wrong in itself is refused before an earlier value that is not acceptable. A value attached to
its setting is checked at once. After two dashes there are no options. The program is run with
this reader.

## Main definitions

* `Pending`, `Reading` — the place in a line, with what is held back.
* `Reading.read`, `Reading.finish` — one argument, and the end of the line.
* `conventional` — the reader.
-/

namespace Chip8.CommandLine

/-! ## Choices -/

namespace Chosen

/-- Takes the file name; an empty one is no value. -/
def takeFile (c : Chosen) (name : Argument) : Except Refusal Chosen :=
  if name.isEmpty then .error .missingValue else .ok (c.withFile name)

/-- Takes the value of a setting, which may be given once. -/
def takeValue (c : Chosen) (s : Setting) (value : Argument) : Except Refusal Chosen :=
  if (c.values s).isSome then .error .repeated
  else
    match s.read? value with
    | none => .error .badValue
    | some n => .ok (c.withValue s n)

/-- Turns a switch on, which may be done once. -/
def turnOn (c : Chosen) (s : Switch) : Except Refusal Chosen :=
  if c.switches s then .error .repeated else .ok (c.withSwitch s)

end Chosen

/-! ## Reading -/

/-- What is held back. -/
inductive Pending where
  | nothing
  | file (name : Argument)
  /-- A setting whose value stands apart, if it has come already. -/
  | value (s : Setting) (value : Option Argument)
  deriving DecidableEq

/-- A place in a command line. -/
structure Reading where
  chosen : Chosen := {}
  pending : Pending := .nothing
  /-- Whether two dashes have been read. -/
  literal : Bool := false

namespace Reading

/-- Whether a file name has been read. -/
def hasFile (r : Reading) : Bool :=
  match r.pending with
  | .file _ => true
  | _ => r.chosen.rom.isSome

/-- The choices after what is held back has been checked. -/
def settle (r : Reading) : Except Refusal Chosen :=
  match r.pending with
  | .nothing => .ok r.chosen
  | .file name => r.chosen.takeFile name
  | .value _ none => .error .missingValue
  | .value s (some value) => r.chosen.takeValue s value

/-- Goes on after what is held back has been checked and `next` done. -/
def settleThen (r : Reading) (next : Chosen → Except Refusal Chosen) (pending : Pending) :
    Except Refusal Reading :=
  match r.settle with
  | .error refusal => .error refusal
  | .ok chosen =>
    match next chosen with
    | .error refusal => .error refusal
    | .ok chosen => .ok { r with chosen := chosen, pending := pending }

/-- Reads a file name, of which there may be one. -/
def readFile (r : Reading) (name : Argument) : Except Refusal Reading :=
  if r.hasFile then .error .unknownArgument else r.settleThen .ok (.file name)

/-- Reads one argument before two dashes. -/
def readToken (r : Reading) : Token → Except Refusal Reading
  | .unknown => .error .unknownArgument
  | .attached => .error .unexpectedValue
  | .help => r.settleThen (fun _ => .error .help) .nothing
  | .separator => .ok { r with literal := true }
  | .switch s => r.settleThen (·.turnOn s) .nothing
  | .setting s (some value) => r.settleThen (·.takeValue s value) .nothing
  | .setting s none => r.settleThen .ok (.value s none)
  | .plain a =>
    match r.pending with
    | .value s none => .ok { r with pending := .value s (some a) }
    | _ => r.readFile a

/-- Reads one argument. -/
def read (r : Reading) (a : Argument) : Except Refusal Reading :=
  if r.literal then r.readFile a else r.readToken (.ofArgument a)

/-- The arguments at the end of a line. -/
def finish (r : Reading) : Except Refusal Arguments :=
  match r.settle with
  | .error refusal => .error refusal
  | .ok chosen => chosen.arguments

/-- What has been given, with what is held back if it is acceptable. -/
def found (r : Reading) : Chosen :=
  match r.settle with
  | .error _ => r.chosen
  | .ok chosen => chosen

/-- What is expected next. -/
def expects (r : Reading) : Expectation :=
  if r.literal then .other
  else
    match r.settle, r.pending with
    | .ok _, _ => .item
    | .error _, .value s none => .value s
    | .error _, _ => .other

end Reading

/-- The reader that keeps to the conventions. -/
def conventional : Reader where
  Place := Reading
  start := {}
  next := Reading.read
  found := Reading.found
  expects := Reading.expects
  result := Reading.finish

end Chip8.CommandLine
