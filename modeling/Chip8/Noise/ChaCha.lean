/-!
# A keystream

The ChaCha stream with twenty rounds, in its layout with a block counter of
sixty-four bits: block number `n` is a fixed scrambling of four constants, the key
and `n`, and the stream is the words of the blocks `0`, `1`, `2`, ….

## Main definitions

* `ChaCha.quarter`, `ChaCha.doubleRound` — the scrambling.
* `ChaCha.block key n` — a block of the stream.
* `ChaCha.word key k` — a word of the stream.
-/

namespace Chip8.ChaCha

/-- Sixteen words, four rows of four. -/
abbrev Matrix := Vector UInt32 16

/-- The eight words that choose a stream. -/
abbrev Key := Vector UInt32 8

/-- A word rotated to the left. -/
def rotateLeft (w count : UInt32) : UInt32 :=
  (w <<< count) ||| (w >>> (32 - count))

/-! ## Rounds -/

/-- Scrambles four words of a matrix with one another. -/
def quarter (m : Matrix) (i j k l : Fin 16) : Matrix :=
  let a := m.get i + m.get j
  let d := rotateLeft (m.get l ^^^ a) 16
  let c := m.get k + d
  let b := rotateLeft (m.get j ^^^ c) 12
  let a := a + b
  let d := rotateLeft (d ^^^ a) 8
  let c := c + d
  let b := rotateLeft (b ^^^ c) 7
  (((m.setIfInBounds i a).setIfInBounds j b).setIfInBounds k c).setIfInBounds l d

/-- Scrambles the four columns and then the four diagonals. -/
def doubleRound (m : Matrix) : Matrix :=
  let m := quarter m 0 4 8 12
  let m := quarter m 1 5 9 13
  let m := quarter m 2 6 10 14
  let m := quarter m 3 7 11 15
  let m := quarter m 0 5 10 15
  let m := quarter m 1 6 11 12
  let m := quarter m 2 7 8 13
  quarter m 3 4 9 14

/-! ## Blocks -/

/-- The matrix of a block before it is scrambled: constants, key, the block's number
with its low word first, and zeros. -/
def initial (key : Key) (number : Nat) : Matrix :=
  #v[0x61707865, 0x3320646E, 0x79622D32, 0x6B206574,
    key[0], key[1], key[2], key[3], key[4], key[5], key[6], key[7],
    .ofNat number, .ofNat (number / UInt32.size), 0, 0]

/-- A block: its matrix added to the same matrix after ten double rounds. -/
def block (key : Key) (number : Nat) : Matrix :=
  let m := initial key number
  (Nat.repeat doubleRound 10 m).zipWith (· + ·) m

/-- A word of the stream. -/
def word (key : Key) (k : Nat) : UInt32 :=
  have : k % 16 < 16 := Nat.mod_lt k (by decide)
  (block key (k / 16))[k % 16]

end Chip8.ChaCha
