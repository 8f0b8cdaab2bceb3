import Chip8.Text.CharSet

/-!
# Sets of characters as ranges

Whether a character is in a set can change only at a few characters, those where a range
of its description begins or has just ended. So the set is a row of ranges between them,
and two descriptions of one set come to the same row.

## Main definitions

* `CharSet.ranges` — the ranges of a set, in ascending order, by the numbers of the
  characters.
* `CharSet.normal` — the description of a set by its ranges.
-/

namespace Chip8.CharSet

/-- The number after the last character. -/
def numberLimit : Nat := 0x110000

/-- The numbers where membership in a set can change, and some more after them. -/
def cutsBefore (more : List Nat) : CharSet → List Nat
  | none => more
  | range low high => low.toNat :: (high.toNat + 1) :: more
  | union a b | both a b | without a b | exactlyOne a b => a.cutsBefore (b.cutsBefore more)
  | others a => a.cutsBefore more
  | anyCase a => a.cutsBefore (List.range 0x80 ++ more)

/-- The numbers where membership in a set can change. -/
def cuts (s : CharSet) : List Nat :=
  s.cutsBefore []

/-- The first character from a number on. The numbers of surrogates are no characters. -/
def firstFrom (n : Nat) : Char :=
  if h : n.isValidChar then .ofNatAux n h else '\uE000'

/-- The last character up to a number. -/
def lastUpTo (n : Nat) : Char :=
  if h : n.isValidChar then .ofNatAux n h else '\uD7FF'

/-- Ranges with one in front, which is joined with the next if they touch. -/
def extend (low high : Nat) : List (Nat × Nat) → List (Nat × Nat)
  | [] => [(low, high)]
  | (nextLow, nextHigh) :: rest =>
    if high + 1 = nextLow then (low, nextHigh) :: rest
    else (low, high) :: (nextLow, nextHigh) :: rest

/-- The ranges of a set from the first cut on. -/
def between (s : CharSet) : List Nat → List (Nat × Nat)
  | [] => []
  | low :: rest =>
    let after := between s rest
    if s.contains (firstFrom low) then extend low (rest.headD numberLimit - 1) after else after

/-- The ranges of a set, ends included. -/
def ranges (s : CharSet) : List (Nat × Nat) :=
  s.between (((0 :: s.cuts).filter (· < numberLimit)).mergeSort.eraseReps)

/-- The description of a set by its ranges. -/
def normal (s : CharSet) : CharSet :=
  ofList (s.ranges.map fun r => range (firstFrom r.1) (lastUpTo r.2))

end Chip8.CharSet
