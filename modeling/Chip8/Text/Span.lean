/-!
# Places and pieces of a text

A place in a text is a line and a column of it. A piece of a text goes from one place to
another.

## Main definitions

* `Position` — a place in a text, and `Position.next`, the place after a character.
* `Span` — a piece of a text.
-/

namespace Chip8

/-- A place in a text: a line, and a column of it. Both count from zero. -/
structure Position where
  line : Nat := 0
  column : Nat := 0
  deriving DecidableEq

namespace Position

/-- The place after a character. -/
def next (p : Position) (c : Char) : Position :=
  if c = '\n' then { line := p.line + 1 } else { p with column := p.column + 1 }

/-- Whether a place comes before another. -/
def isBefore (p q : Position) : Bool :=
  p.line < q.line || p.line = q.line && p.column < q.column

end Position

/-- What lies between two places of a text. -/
structure Span where
  start : Position
  stop : Position
  deriving DecidableEq

namespace Span

/-- The piece from the start of one piece to the end of another. -/
def through (a b : Span) : Span :=
  ⟨a.start, b.stop⟩

/-- Whether a piece comes before another: it begins first, or ends first. -/
def isBefore (a b : Span) : Bool :=
  a.start.isBefore b.start || a.start = b.start && a.stop.isBefore b.stop

/-- Whether a piece begins and ends on one line. -/
def isOneLine (s : Span) : Bool :=
  s.start.line = s.stop.line

end Span
end Chip8
