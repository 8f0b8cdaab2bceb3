/-!
# Characters as bytes

In UTF-8 a character takes one to four bytes. Bytes that come from outside need not be the
bytes of characters. Where they are not, a piece of them is set apart: a byte that begins no
character, or the beginning of one as far as it goes.

## Main definitions

* `Utf8.bytes`, `Utf8.encode` — the bytes of characters.
* `Utf8.Piece`, `Utf8.pieces` — the characters among bytes, and what is none.
-/

namespace Chip8.Utf8

/-! ## Writing -/

/-- The bytes of the character with a number. -/
def bytes (n : Nat) : List Nat :=
  if n < 0x80 then [n]
  else if n < 0x800 then [0xC0 + n / 0x40, 0x80 + n % 0x40]
  else if n < 0x10000 then [0xE0 + n / 0x1000, 0x80 + n / 0x40 % 0x40, 0x80 + n % 0x40]
  else
    [0xF0 + n / 0x40000, 0x80 + n / 0x1000 % 0x40, 0x80 + n / 0x40 % 0x40, 0x80 + n % 0x40]

/-- The bytes of some characters. -/
def encode (cs : List Char) : List Nat :=
  cs.flatMap fun c => bytes c.toNat

/-! ## Reading -/

/-- A part of some bytes: those of a character, or bytes that are none. -/
inductive Piece where
  | char (c : Char)
  | broken (bytes : List UInt8)
  deriving DecidableEq

/-- The beginning of a character. -/
structure Begun where
  bytes : List UInt8
  /-- What these bytes say of the number of the character. -/
  number : Nat
  /-- The least and the greatest byte that can come next. -/
  low : Nat := 0x80
  high : Nat := 0xBF
  /-- How many bytes come behind the next one. -/
  more : Nat
  deriving DecidableEq

/-- What a byte begins between two characters: a piece of its own, or a character of several
bytes. The second byte is confined where a number could be written with fewer bytes, belongs
to a surrogate, or is too large. -/
def first (b : UInt8) : Piece ⊕ Begun :=
  let n := b.toNat
  if n < 0x80 then .inl (.char (.ofNat n))
  else if n < 0xC2 then .inl (.broken [b])
  else if n < 0xE0 then .inr { bytes := [b], number := n - 0xC0, more := 0 }
  else if n = 0xE0 then .inr { bytes := [b], number := 0, low := 0xA0, more := 1 }
  else if n = 0xED then .inr { bytes := [b], number := 0xD, high := 0x9F, more := 1 }
  else if n < 0xF0 then .inr { bytes := [b], number := n - 0xE0, more := 1 }
  else if n = 0xF0 then .inr { bytes := [b], number := 0, low := 0x90, more := 2 }
  else if n < 0xF4 then .inr { bytes := [b], number := n - 0xF0, more := 2 }
  else if n = 0xF4 then .inr { bytes := [b], number := 4, high := 0x8F, more := 2 }
  else .inl (.broken [b])

/-- What a character has come to with one more byte, if this byte can be its next one. -/
def Begun.next? (begun : Begun) (b : UInt8) : Option (Piece ⊕ Begun) :=
  if begun.low ≤ b.toNat ∧ b.toNat ≤ begun.high then
    let number := begun.number * 0x40 + b.toNat % 0x40
    match begun.more with
    | 0 => some (.inl (.char (.ofNat number)))
    | more + 1 => some (.inr { bytes := begun.bytes ++ [b], number := number, more := more })
  else none

/-- The pieces of bytes that stand between characters, or behind the beginning of one. -/
def piecesFrom : Option Begun → List UInt8 → List Piece
  | none, [] => []
  | some begun, [] => [.broken begun.bytes]
  | none, b :: rest =>
    match first b with
    | .inl piece => piece :: piecesFrom none rest
    | .inr begun => piecesFrom (some begun) rest
  | some begun, b :: rest =>
    match begun.next? b with
    | some (.inl piece) => piece :: piecesFrom none rest
    | some (.inr begun) => piecesFrom (some begun) rest
    | none =>
      .broken begun.bytes ::
        match first b with
        | .inl piece => piece :: piecesFrom none rest
        | .inr begun => piecesFrom (some begun) rest

/-- The characters among some bytes, and the pieces that are none. -/
def pieces (bytes : List UInt8) : List Piece :=
  piecesFrom none bytes

/-- A character of two bytes, one that breaks off, and a byte that begins none. -/
example : pieces [0xC3, 0xA9, 0xE2, 0x82, 0x41, 0xFF] =
    [.char 'é', .broken [0xE2, 0x82], .char 'A', .broken [0xFF]] := by decide

end Chip8.Utf8
