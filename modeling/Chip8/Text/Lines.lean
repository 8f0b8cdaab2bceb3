/-!
# The lines of a text

A line ends at a line feed, which a carriage return may come before, or where the text
ends. After the last line feed no line begins unless there is more text.

## Main definitions

* `Lines.split`, `Lines.ofText` — the lines of a text.
-/

namespace Chip8.Lines

/-- The lines of some characters. -/
def split : List Char → List (List Char)
  | [] => []
  | '\n' :: rest => [] :: split rest
  | '\r' :: '\n' :: rest => [] :: split rest
  | c :: rest =>
    match split rest with
    | [] => [[c]]
    | line :: lines => (c :: line) :: lines

/-- The lines of a text. -/
def ofText (text : String) : List String :=
  (split text.toList).map String.ofList

end Chip8.Lines
