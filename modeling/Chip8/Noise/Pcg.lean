/-!
# Expansion of a seed

A short seed is stretched to a key of eight words by a linear congruential generator
on sixty-four bits, each of whose states is condensed to one word: the state is mixed
with its own high bits, and the result rotated by the five highest.

## Main definitions

* `Pcg.advance` — the next state.
* `Pcg.output` — the word of a state.
* `Pcg.words` — the words of the states that follow one.
-/

namespace Chip8.Pcg

/-- The state after a state. -/
def advance (state : UInt64) : UInt64 :=
  state * 6364136223846793005 + 11634580027462260723

/-- A word rotated to the right. -/
def rotateRight (w count : UInt32) : UInt32 :=
  (w >>> count) ||| (w <<< (32 - count))

/-- The word that a state gives. -/
def output (state : UInt64) : UInt32 :=
  rotateRight (((state >>> 18) ^^^ state) >>> 27).toUInt32 (state >>> 59).toUInt32

/-- The words of the next states. -/
def words (state : UInt64) : Nat → List UInt32
  | 0 => []
  | count + 1 => output (advance state) :: words (advance state) count

@[simp] theorem length_words (state : UInt64) (count : Nat) :
    (words state count).length = count := by
  induction count generalizing state with
  | zero => rfl
  | succ count ih => simp [words, ih]

end Chip8.Pcg
