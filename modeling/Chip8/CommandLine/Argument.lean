import Chip8.Text.Hexadecimal
import Chip8.Text.Quoted
import Chip8.Text.Utf8

/-!
# Arguments as the system hands them over

An argument is a run of bytes. Most are texts, but a file may have a name that is none; it is
taken as it is, and only where it has to be shown is what is no text replaced or written by
its bytes.

## Main definitions

* `Argument`, `Argument.ofText` — arguments, and those that are texts.
* `Argument.shown`, `Argument.quoted` — an argument in a message, and in a record.
-/

namespace Chip8.CommandLine

/-- The bytes of an argument. -/
abbrev Argument := List UInt8

namespace Argument

/-- A text as an argument. -/
def ofText (text : String) : Argument :=
  (Utf8.encode text.toList).map .ofNat

/-- An argument as a text, with a sign for each piece that is none. -/
def shown (a : Argument) : String :=
  .ofList ((Utf8.pieces a).map fun
    | .char c => c
    | .broken _ => '\uFFFD')

/-- How a piece of an argument is written between quotes. -/
def escape : Utf8.Piece → List Char
  | .char c => Quoted.escape c
  | .broken bytes =>
    bytes.flatMap fun b => '\\' :: 'x' :: Hexadecimal.paddedDigits 2 b.toNat

/-- An argument between quotes. -/
def quoted (a : Argument) : String :=
  .ofList ('"' :: (Utf8.pieces a).flatMap escape ++ ['"'])

/-- The characters whose numbers are the bytes of an argument. An argument that is a text of
basic Latin characters is this text, and one that is not has a character that is none. -/
def latin (a : Argument) : List Char :=
  a.map fun b => .ofNat b.toNat

end Argument
end Chip8.CommandLine
