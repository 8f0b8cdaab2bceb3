import Chip8.Text.Blank
import Chip8.Text.Pattern.Mistake

/-!
# Places in a pattern that is being read

A cursor holds the characters that have not been read and the place where they begin.
In the spaced form of patterns, white space and comments between the parts of a pattern
mean nothing and are passed over.

## Main definitions

* `Pattern.Cursor` — a place in a pattern.
* `Cursor.next`, `Cursor.skip`, `Cursor.advance` — places further on.
* `Cursor.takeRun`, `Cursor.decimal` — runs of characters, and the numbers of repetitions.
-/

namespace Chip8.Pattern

/-- A place in a pattern. -/
structure Cursor where
  rest : List Char
  position : Position := {}
  /-- Whether white space and comments are passed over. -/
  spaced : Bool := false
  deriving DecidableEq

namespace Cursor

/-- The character at a place. -/
def head? (c : Cursor) : Option Char :=
  c.rest.head?

/-- The place after one character. -/
def next (c : Cursor) : Cursor :=
  match c.rest with
  | [] => c
  | a :: rest => { c with rest := rest, position := c.position.next a }

/-- The place after some characters. -/
def forward (c : Cursor) : Nat → Cursor
  | 0 => c
  | n + 1 => c.next.forward n

/-- How many characters of white space and comments come first. -/
def blanks (inComment : Bool) : List Char → Nat
  | [] => 0
  | c :: rest =>
    if inComment then 1 + blanks (c ≠ '\n') rest
    else if Blank.isBlank c then 1 + blanks false rest
    else if c = '#' then 1 + blanks true rest
    else 0

/-- The place after white space and comments, in the spaced form. -/
def skip (c : Cursor) : Cursor :=
  if c.spaced then c.forward (blanks false c.rest) else c

/-- The place after one character, and after white space and comments. -/
def advance (c : Cursor) : Cursor :=
  c.next.skip

/-- The place after white space, in any form. -/
def pastBlanks (c : Cursor) : Cursor :=
  c.forward (c.rest.takeWhile Blank.isBlank).length

/-- The place after some characters, if they come next. -/
def after? (c : Cursor) (start : String) : Option Cursor :=
  if start.toList.isPrefixOf c.rest then some (c.forward start.length) else none

/-- What lies between two places. -/
def spanTo (c d : Cursor) : Span :=
  ⟨c.position, d.position⟩

/-- The place itself, as an empty piece. -/
def here (c : Cursor) : Span :=
  c.spanTo c

/-- The character at a place, as a piece. -/
def span (c : Cursor) : Span :=
  c.spanTo c.next

@[simp] theorem rest_next (c : Cursor) : c.next.rest = c.rest.tail := by
  unfold next
  split <;> simp [*]

@[simp] theorem rest_forward (c : Cursor) (n : Nat) : (c.forward n).rest = c.rest.drop n := by
  induction n generalizing c with
  | zero => rfl
  | succ n ih => simp [forward, ih]

theorem length_skip_le (c : Cursor) : c.skip.rest.length ≤ c.rest.length := by
  unfold skip
  split <;> simp

theorem length_advance_lt {c : Cursor} {a : Char} (h : c.head? = some a) :
    c.advance.rest.length < c.rest.length := by
  obtain ⟨rest, position, spaced⟩ := c
  cases rest with
  | nil => cases h
  | cons b rest => exact Nat.lt_succ_of_le (length_skip_le _)

/-- The longest run of characters from a place on that pass a test, and the place after
it; white space and comments between them are passed over in the spaced form. -/
def takeRun (test : Char → Bool) (c : Cursor) : List Char × Cursor :=
  match _head : c.head? with
  | none => ([], c)
  | some a =>
    if test a then
      let run := takeRun test c.advance
      (a :: run.1, run.2)
    else ([], c)
termination_by c.rest.length
decreasing_by exact length_advance_lt _head

/-- A number of repetitions, with white space around it, and the place after it. -/
def decimal (c : Cursor) : Except Mistake Nat × Cursor :=
  let first := c.pastBlanks
  let run := first.takeRun Char.isDigit
  let result :=
    if run.1.isEmpty then .error (.blame .countEmpty (first.spanTo run.2))
    else
      let n := Nat.ofDigitChars 10 run.1 0
      if n < UInt32.size then .ok n else .error (.blame .decimalInvalid (first.spanTo run.2))
  (result, run.2.pastBlanks)

end Cursor
end Chip8.Pattern
