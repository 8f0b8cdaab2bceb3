/-!
# Sets of characters

What may stand at one place of a text, put together from ranges of characters.

## Main definitions

* `CharSet` — a description of a set.
* `CharSet.contains` — which characters are in it.
* `CharSet.named?` — the sets that have a name.
-/

namespace Chip8

/-- A description of a set of characters. -/
inductive CharSet where
  | none
  /-- The characters from `low` to `high`, both included. -/
  | range (low high : Char)
  | union (a b : CharSet)
  | both (a b : CharSet)
  /-- What is in the first set and not in the second. -/
  | without (a b : CharSet)
  /-- What is in one of the sets and not in the other. -/
  | exactlyOne (a b : CharSet)
  | others (a : CharSet)
  /-- What is in the set when the case of a basic Latin letter does not count. -/
  | anyCase (a : CharSet)
  deriving DecidableEq

namespace CharSet

/-- Whether a character is in a set. -/
def contains : CharSet → Char → Bool
  | none, _ => false
  | range low high, c => low ≤ c && c ≤ high
  | union a b, c => a.contains c || b.contains c
  | both a b, c => a.contains c && b.contains c
  | without a b, c => a.contains c && !b.contains c
  | exactlyOne a b, c => a.contains c ^^ b.contains c
  | others a, c => !a.contains c
  | anyCase a, c => a.contains c || a.contains c.toLower || a.contains c.toUpper

/-- The set of one character. -/
def single (c : Char) : CharSet := range c c

/-- Every character. -/
def all : CharSet := others none

/-- The union of sets. -/
def ofList : List CharSet → CharSet
  | [] => none
  | [a] => a
  | a :: rest => union a (ofList rest)

/-- The digits `0` to `9`. -/
def digit : CharSet := range '0' '9'

/-- The capital basic Latin letters. -/
def upper : CharSet := range 'A' 'Z'

/-- The small basic Latin letters. -/
def lower : CharSet := range 'a' 'z'

/-- The basic Latin letters. -/
def letter : CharSet := union upper lower

/-- Letters, digits and the low line. -/
def word : CharSet := ofList [letter, digit, single '_']

/-- Blanks, tabs and the characters that end a line or a page. -/
def space : CharSet := union (range '\t' '\r') (single ' ')

/-- The set of a name. -/
def named? : String → Option CharSet
  | "alnum" => some (union letter digit)
  | "alpha" => some letter
  | "ascii" => some (range '\x00' '\x7F')
  | "blank" => some (union (single '\t') (single ' '))
  | "cntrl" => some (union (range '\x00' '\x1F') (single '\x7F'))
  | "digit" => some digit
  | "graph" => some (range '!' '~')
  | "lower" => some lower
  | "print" => some (range ' ' '~')
  | "punct" =>
    some (ofList [range '!' '/', range ':' '@', range '[' (.ofNat 0x60), range '\x7B' '~'])
  | "space" => some space
  | "upper" => some upper
  | "word" => some word
  | "xdigit" => some (ofList [digit, range 'A' 'F', range 'a' 'f'])
  | _ => Option.none

end CharSet
end Chip8
