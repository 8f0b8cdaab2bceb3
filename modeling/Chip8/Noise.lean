import Chip8.Noise.ChaCha
import Chip8.Noise.Pcg

/-!
# Random bytes

A source of random bytes is an endless sequence together with the number of bytes
that have been taken from it. A seed fixes the sequence.

## Main definitions

* `Noise` — a sequence and a place in it.
* `Noise.next`, `Noise.advance` — the byte at the place, and the place after it.
* `Noise.ofSeed` — the sequence that a seed fixes.
-/

namespace Chip8

/-- An endless sequence of bytes and how many of them have been taken. -/
structure Noise where
  bytes : Nat → UInt8
  taken : Nat := 0

namespace Noise

/-- The byte that is taken next. -/
def next (noise : Noise) : UInt8 :=
  noise.bytes noise.taken

/-- The source after one byte has been taken. -/
def advance (noise : Noise) : Noise :=
  { noise with taken := noise.taken + 1 }

@[simp] theorem bytes_advance (noise : Noise) : noise.advance.bytes = noise.bytes := rfl
@[simp] theorem taken_advance (noise : Noise) : noise.advance.taken = noise.taken + 1 := rfl

/-- The key that a seed is stretched to. -/
def key (seed : UInt64) : ChaCha.Key :=
  ⟨(Pcg.words seed 8).toArray, by simp⟩

/-- The bytes that a seed fixes: the low byte of each word of its keystream. -/
def ofSeed (seed : UInt64) : Noise :=
  let key := key seed
  { bytes := fun k => (ChaCha.word key k).toUInt8 }

end Noise
end Chip8
