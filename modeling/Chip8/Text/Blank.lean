/-!
# White space

The twenty-five characters with the Unicode property `White_Space`, and text without
them at its ends.

## Main definitions

* `Blank.isBlank` — whether a character is white space.
* `Blank.trim` — a text without the white space at its ends.
-/

namespace Chip8.Blank

/-- The ranges of white space, ends included. -/
def ranges : List (Nat × Nat) :=
  [(0x09, 0x0D), (0x20, 0x20), (0x85, 0x85), (0xA0, 0xA0), (0x1680, 0x1680), (0x2000, 0x200A),
    (0x2028, 0x2029), (0x202F, 0x202F), (0x205F, 0x205F), (0x3000, 0x3000)]

/-- Whether a character is white space. -/
def isBlank (c : Char) : Bool :=
  ranges.any fun range => range.1 ≤ c.toNat && c.toNat ≤ range.2

/-- Characters without the white space in front. -/
def trimStart (cs : List Char) : List Char :=
  cs.dropWhile isBlank

/-- A text without the white space at its ends. -/
def trim (text : String) : String :=
  .ofList (trimStart (trimStart text.toList).reverse).reverse

end Chip8.Blank
