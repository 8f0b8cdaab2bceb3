import Chip8.CommandLine.Arguments

/-!
# Readers of command lines

The program leaves the reading of its command line to a library, so how it is read is a
parameter here. A reader takes the arguments from left to right. At each place in a line it
has found some of what is declared, and it expects a certain kind of argument next. What it
promises is told argument by argument; what becomes of a whole line follows from that.

## Main definitions

* `Expectation` — the kinds of arguments that can come next.
* `Reader`, `Reader.parse` — a reader, and the arguments that it makes of a line.
* `Reader.Documented` — what a reader promises for each argument.
-/

namespace Chip8.CommandLine

/-- The name of a setting on the command line. -/
def Setting.argument (s : Setting) : Argument :=
  .ofText ("--" ++ s.name)

/-- The name of a switch on the command line. -/
def Switch.argument (s : Switch) : Argument :=
  .ofText ("--" ++ s.name)

namespace Argument

/-- The argument begins with a dash, as the names of options do. -/
def dashed (a : Argument) : Bool :=
  a.head? = some 0x2D

/-- A value attached to a name by an equals sign. -/
def attach (name value : Argument) : Argument :=
  name ++ 0x3D :: value

end Argument

/-- What a reader expects of the next argument. -/
inductive Expectation where
  /-- An option or the file name. -/
  | item
  /-- The value of a setting that has been named. -/
  | value (s : Setting)
  /-- Something else: no more options, since two dashes have been read, or nothing, since the
  line is wrong already. -/
  | other
  deriving DecidableEq

/-- A reader of command lines. -/
structure Reader where
  /-- What a reader knows between two arguments. -/
  Place : Type
  start : Place
  next : Place → Argument → Except Refusal Place
  /-- What the arguments up to a place have given. -/
  found : Place → Chosen
  expects : Place → Expectation
  /-- The arguments that a line asks for that ends at a place. -/
  result : Place → Except Refusal Arguments

namespace Reader

/-- Reads the rest of a line from a place in it. -/
def parseFrom (p : Reader) (place : p.Place) : List Argument → Except Refusal Arguments
  | [] => p.result place
  | a :: rest =>
    match p.next place a with
    | .error refusal => .error refusal
    | .ok place => p.parseFrom place rest

/-- The arguments that a command line stands for. -/
def parse (p : Reader) (line : List Argument) : Except Refusal Arguments :=
  p.parseFrom p.start line

/-- The reader takes an argument at a place. This gives `c`, and what is expected next is
`e`. -/
def Takes (p : Reader) (place : p.Place) (a : Argument) (c : Chosen) (e : Expectation) : Prop :=
  ∃ later, p.next place a = .ok later ∧ p.found later = c ∧ p.expects later = e

/-- What a reader of the declared options promises, argument by argument. Which values a setting
accepts is not up to the reader: a value stands for a decimal number, and the setting declares
the range (`Setting.read?`). -/
structure Documented (p : Reader) : Prop where
  /-- At the start nothing has been found, and anything may come. -/
  start_found : p.found p.start = {}
  start_expects : p.expects p.start = .item
  /-- The value of a setting may be attached to its name. -/
  attached : ∀ {place s v n}, p.expects place = .item → (p.found place).values s = none →
    s.read? v = some n →
    p.Takes place (s.argument.attach v) ((p.found place).withValue s n) .item
  /-- The name of a setting alone is followed by its value. -/
  named : ∀ {place s}, p.expects place = .item → (p.found place).values s = none →
    p.Takes place s.argument (p.found place) (.value s)
  /-- The argument behind the name of a setting is its value, unless it looks like an option. -/
  apart : ∀ {place s v n}, p.expects place = .value s → (p.found place).values s = none →
    v.dashed = false → s.read? v = some n →
    p.Takes place v ((p.found place).withValue s n) .item
  /-- A switch is turned on by its name. -/
  switched : ∀ {place s}, p.expects place = .item → (p.found place).switches s = false →
    p.Takes place s.argument ((p.found place).withSwitch s) .item
  /-- What is neither empty nor looks like an option is the file name, if there is none yet. -/
  placed : ∀ {place} {name : Argument}, p.expects place = .item → (p.found place).rom = none →
    name ≠ [] → name.dashed = false → p.Takes place name ((p.found place).withFile name) .item
  /-- Where anything may come the line may end as well. -/
  ended : ∀ {place}, p.expects place = .item → p.result place = (p.found place).arguments
  /-- A line that is accepted asks for what has been found. -/
  answered : ∀ {place a}, p.result place = .ok a → (p.found place).arguments = .ok a
  /-- A value is found only where a setting has accepted it. -/
  checked : ∀ {place later a s n}, p.next place a = .ok later →
    (p.found later).values s = some n →
    (p.found place).values s = some n ∨ ∃ v, s.read? v = some n
  /-- No empty file name is found. -/
  filled : ∀ {place later a name}, p.next place a = .ok later →
    (p.found later).rom = some name → (p.found place).rom = some name ∨ name ≠ []

end Reader
end Chip8.CommandLine
