/-!
# Degrees of detail

How important an entry of a journal is, and how much of a journal is shown.

## Main definitions

* `Verbosity` — the degrees.
* `Verbosity.ofText?` — the degree that a text names.
* `Verbosity.admits` — whether an entry of some degree is shown.
-/

namespace Chip8

/-- How much of a journal is shown. -/
inductive Verbosity where
  | off
  | error
  | warn
  /-- How a machine was set up. -/
  | info
  /-- The programs loaded and the turns that a program takes, too. -/
  | debug
  /-- Every instruction, too. -/
  | trace
  deriving DecidableEq

namespace Verbosity

/-- The degrees in ascending order. -/
def all : List Verbosity := [off, error, warn, info, debug, trace]

/-- The name of a degree. -/
def name : Verbosity → String
  | off => "OFF"
  | error => "ERROR"
  | warn => "WARN"
  | info => "INFO"
  | debug => "DEBUG"
  | trace => "TRACE"

/-- The degree that a text names, in capital or small basic Latin letters. -/
def ofText? (text : String) : Option Verbosity :=
  all.find? fun v => v.name.toLower = text.toLower

/-- The number of a degree. -/
def rank : Verbosity → Nat
  | off => 0
  | error => 1
  | warn => 2
  | info => 3
  | debug => 4
  | trace => 5

/-- Whether an entry of a degree is shown. -/
def admits (v level : Verbosity) : Bool :=
  level.rank ≤ v.rank

end Verbosity

/-- Which entries of a journal are shown, and what there is to say of the setting that
chooses them. -/
structure Selection where
  warnings : List String
  /-- Whether an entry is shown, by the part of the program that it comes from, its degree
  and its text. -/
  passes (part : String) (level : Verbosity) (text : String) : Bool

end Chip8
