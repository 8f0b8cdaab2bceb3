import Chip8.Text.CharSet.Ranges
import Chip8.Text.Utf8

/-!
# Sets of characters as rows of bytes

The characters of a range are those whose bytes lie in one of a few rows of byte ranges: a
range is divided where the number of bytes changes, and where a byte cannot run through all
its values independently of those before it.

## Main definitions

* `Utf8.rows` — the rows of byte ranges that a range of characters comes to.
* `CharSet.byteRows` — the rows of a set.
-/

namespace Chip8

namespace Utf8

/-- A range of bytes at each place. -/
abbrev Row := List (Nat × Nat)

/-- The numbers where the number of bytes changes, or those of the surrogates begin or
end, which are no characters. -/
def boundaries : List Nat := [0x80, 0x800, 0xD800, 0xE000, 0x10000]

/-- Where a range of characters of as many bytes has to be divided, `unit` characters at a
time sharing all their bytes but the last ones: where the first or the last unit is not
complete. -/
def incomplete? (low high unit : Nat) : Option Nat :=
  if low / unit = high / unit then none
  else if low % unit ≠ 0 then some ((low / unit + 1) * unit)
  else if high % unit ≠ unit - 1 then some (high / unit * unit)
  else none

/-- Where a range has to be divided: the number that the second part begins with. -/
def division? (low high : Nat) : Option Nat :=
  match boundaries.find? fun b => low < b && b ≤ high with
  | some b => some b
  | none =>
    if high < 0x80 then none else [0x40, 0x1000, 0x40000].findSome? (incomplete? low high)

/-- The rows of byte ranges that the characters from `low` to `high` come to. -/
def rows (low high : Nat) : List Row :=
  match division? low high with
  | none => if 0xD800 ≤ low && low < 0xE000 then [] else [(bytes low).zip (bytes high)]
  | some middle =>
    if _inside : low < middle ∧ middle ≤ high then rows low (middle - 1) ++ rows middle high
    else []
termination_by high - low

end Utf8

/-- The rows of byte ranges that the characters of a set come to. -/
def CharSet.byteRows (s : CharSet) : List Utf8.Row :=
  s.ranges.flatMap fun r => Utf8.rows r.1 r.2

end Chip8
