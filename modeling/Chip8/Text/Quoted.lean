import Chip8.Text.Unseen

/-!
# Quoted text

Text between double quotes, in which a quote and a backslash follow a backslash, four
control characters have an escape of one letter, and every other character that cannot
be seen is written by its number.

## Main definitions

* `Quoted.escape` — how one character is written.
* `Quoted.encode` — a text between its quotes.
-/

namespace Chip8.Quoted

/-- A character by its number, in hexadecimal digits between braces. -/
def byNumber (c : Char) : List Char :=
  ['\\', 'u', '\x7b'] ++ Nat.toDigits 16 c.toNat ++ ['\x7d']

/-- How a character is written between quotes. -/
def escape (c : Char) : List Char :=
  match c with
  | '"' => ['\\', '"']
  | '\\' => ['\\', '\\']
  | '\n' => ['\\', 'n']
  | '\r' => ['\\', 'r']
  | '\t' => ['\\', 't']
  | '\x00' => ['\\', '0']
  | c => if Unseen.isUnseen c then byNumber c else [c]

/-- A text between quotes. -/
def encode (text : String) : String :=
  .ofList ('"' :: text.toList.flatMap escape ++ ['"'])

end Chip8.Quoted
