import Chip8.Instruction.Encoding
import Chip8.Instruction.Mnemonic
import Chip8.Layout

/-!
# Listings of programs

A program is walked two bytes at a time, as it would lie in memory from the start
address on, and each word is listed with the instruction it spells, whether it is
meant as one or as data. A last odd byte is not listed. Addresses are words, so they
start over at zero in a program that is longer than any memory.

Behind the first 65536 bytes, twice the number of a word does not fit a word either. A
build that checks its products stops there, at word number 32768; the addresses that are
given here to that word and to later ones are those of a build that lets them start over.

## Main definitions

* `Listing.words` — the words of a program.
* `Listing.disassemble` — the entries, in the order of the program.
* `Listing.Entry.line`, `Listing.lines` — their text.
-/

namespace Chip8.Listing

/-- One word of a program. -/
structure Entry where
  address : Word
  word : Word
  /-- The instruction that the word stands for, if any. -/
  instruction : Option Instruction
  deriving DecidableEq

/-- The words that the bytes of a program make up; a last odd byte makes none. -/
def words : List UInt8 → List Word
  | high :: low :: rest => .ofBytes high low :: words rest
  | _ => []

theorem length_words (rom : List UInt8) : (words rom).length = rom.length / 2 := by
  fun_induction words rom with
  | case1 high low rest ih => simp only [List.length_cons, ih]; omega
  | case2 rom short =>
    match rom, short with
    | [], _ => simp
    | [_], _ => simp
    | high :: low :: rest, short => exact absurd rfl (short high low rest)

/-- The address of the word with a given number. Up to word number 32767 only the sum can
start over; from there on the product does. -/
def addressOf (k : Nat) : Word :=
  Layout.programStart + .ofNat (2 * k)

/-- The entry of a word with a given number. -/
def entry (word : Word) (k : Nat) : Entry :=
  ⟨addressOf k, word, Instruction.decode? word⟩

/-- The entries of a program. -/
def disassemble (rom : List UInt8) : List Entry :=
  (words rom).mapIdx fun k word => entry word k

/-- The text that stands for an instruction, also where there is none. -/
def Entry.text (e : Entry) : String :=
  (e.instruction.map Instruction.mnemonic).getD "???"

/-- An entry's address, word and text. -/
def Entry.line (e : Entry) : String :=
  Hexadecimal.marked 3 e.address.toNat ++ ": " ++ Hexadecimal.padded 4 e.word.toNat ++ "  "
    ++ e.text

/-- The lines of a program's listing. -/
def lines (rom : List UInt8) : List String :=
  (disassemble rom).map Entry.line

@[simp] theorem length_disassemble (rom : List UInt8) :
    (disassemble rom).length = rom.length / 2 := by
  simp [disassemble, length_words]

@[simp] theorem length_lines (rom : List UInt8) : (lines rom).length = rom.length / 2 := by
  simp [lines]

end Chip8.Listing
