import Chip8.Text.Lines
import Chip8.Text.Span

/-!
# Texts with marks under some pieces

A text of one line is shown indented, with marks in the next line under the pieces that
are pointed out. The lines of a longer text are numbered and stand between rules; below
them it is said where the pieces are that go over several lines.

## Main definitions

* `Annotated.marks` — the marks under pieces of one line.
* `Annotated.lines` — a text with its marks.
-/

namespace Chip8.Annotated

/-- Marks under pieces of one line, each at least one wide, from a column on. -/
def marks (column : Nat) : List Span → List Char
  | [] => []
  | s :: rest =>
    let width := max 1 (s.stop.column - s.start.column)
    List.replicate (s.start.column - column) ' ' ++ List.replicate width '^'
      ++ marks (max column s.start.column + width) rest

/-- A number, right-aligned. -/
def padded (width n : Nat) : String :=
  let digits := Nat.repr n
  .ofList (List.replicate (width - digits.length) ' ') ++ digits

/-- A line, and the marks under the pieces of it that are pointed out, after what stands
in front of the line. -/
def marked (front line : String) (spans : List Span) : List String :=
  let shown := front ++ line
  if spans.isEmpty then [shown]
  else [shown, .ofList (List.replicate front.length ' ' ++ marks 0 spans)]

/-- The number of lines of a text, with the one that is about to begin after a line
feed. -/
def lineCount (text : String) : Nat :=
  (text.toList.filter fun c => c = '\n').length + 1

/-- The line between a text and what is around it. -/
def rule : String :=
  .ofList (List.replicate 79 '~')

/-- Where a piece is that goes over several lines. -/
def whereabouts (s : Span) : String :=
  "on line " ++ Nat.repr (s.start.line + 1) ++ " (column " ++ Nat.repr (s.start.column + 1)
    ++ ") through line " ++ Nat.repr (s.stop.line + 1) ++ " (column " ++ Nat.repr s.stop.column
    ++ ")"

/-- The numbered lines of a text, from a number on, with the marks in them. -/
def numbered (width : Nat) (spans : List Span) : Nat → List String → List String
  | _, [] => []
  | n, line :: rest =>
    let inLine := spans.filter fun s => s.isOneLine && s.start.line = n
    marked (padded width (n + 1) ++ ": ") line inLine ++ numbered width spans (n + 1) rest

/-- The lines that show a text and point out some pieces of it, given from left to
right. -/
def lines (text : String) (spans : List Span) : List String :=
  if text.contains '\n' then
    let width := (Nat.repr (lineCount text)).length
    rule :: numbered width spans 0 (Lines.ofText text) ++ [rule]
      ++ (spans.filter fun s => !s.isOneLine).map whereabouts
  else marked "    " text spans

end Chip8.Annotated
