import Chip8.Listing
import Mathlib.Tactic.Common

/-!
# Listings are exact

To assemble is to write the words of a program one after another, high bytes first. A
listing undoes it: the split into words is the inverse of writing them, whatever odd byte is
left at the end, and the words are read one by one by a decoder that is the inverse of the
encoder. Nothing here bounds the length of a program; only the addresses start over.

## Main definitions

* `Listing.bytes` — the bytes of a list of words.
* `Listing.assemble` — the bytes of a list of instructions.

## Main statements

* `Listing.words_bytes_append`, `Listing.bytes_words` — words and bytes are inverse.
* `Listing.getElem?_disassemble` — the entry of two neighbouring bytes.
-/

namespace Chip8.Listing

/-! ## Words and bytes -/

/-- The bytes that words are written as, high bytes first. -/
def bytes (ws : List Word) : List UInt8 :=
  ws.flatMap fun w => [w.high, w.kk]

/-- Words are read back from their bytes, also if an odd byte follows. -/
theorem words_bytes_append (ws : List Word) (extra : Option UInt8) :
    words (bytes ws ++ extra.toList) = ws := by
  induction ws with
  | nil => cases extra <;> rfl
  | cons w ws ih =>
    change Word.ofBytes w.high w.kk :: words (bytes ws ++ extra.toList) = w :: ws
    rw [Word.ofBytes_high_kk, ih]

/-- Bytes are written back from their words, but for an odd one at the end. -/
theorem bytes_words (rom : List UInt8) : bytes (words rom) = rom.take (2 * (rom.length / 2)) := by
  fun_induction words rom with
  | case1 high low rest ih =>
    have pairs : 2 * ((rest.length + 2) / 2) = 2 * (rest.length / 2) + 2 := by omega
    change (Word.ofBytes high low).high :: (Word.ofBytes high low).kk :: bytes (words rest) = _
    rw [Word.high_ofBytes, Word.kk_ofBytes, ih, List.length_cons, List.length_cons, pairs]
    rfl
  | case2 rom short =>
    rcases rom with _ | ⟨b, _ | ⟨low, rest⟩⟩
    · rfl
    · rw [List.length_singleton]
      rfl
    · exact absurd rfl (short b low rest)

/-- The word with a given number is made of two neighbouring bytes. -/
theorem getElem?_words {rom : List UInt8} {k : ℕ} {high low : UInt8}
    (first : rom[2 * k]? = some high) (second : rom[2 * k + 1]? = some low) :
    (words rom)[k]? = some (.ofBytes high low) := by
  fun_induction words rom generalizing k with
  | case1 a b rest ih =>
    cases k with
    | zero =>
      cases first
      cases second
      rfl
    | succ k =>
      rw [Nat.mul_succ] at first second
      simpa using ih first second
  | case2 rom short =>
    rcases rom with _ | ⟨b, _ | ⟨low, rest⟩⟩
    · cases first
    · simp at second
    · exact absurd rfl (short b low rest)

/-! ## Entries -/

theorem instruction_of_mem_disassemble {rom : List UInt8} {e : Entry} (listed : e ∈ disassemble rom) :
    e.instruction = Instruction.decode? e.word := by
  obtain ⟨k, -, rfl⟩ := List.mem_mapIdx.1 listed
  rfl

theorem map_word_disassemble (rom : List UInt8) :
    (disassemble rom).map Entry.word = words rom := by
  apply List.ext_getElem?
  intro k
  simp [disassemble, entry, Function.comp_def]

/-- The entry of two neighbouring bytes. -/
theorem getElem?_disassemble {rom : List UInt8} {k : ℕ} {high low : UInt8}
    (first : rom[2 * k]? = some high) (second : rom[2 * k + 1]? = some low) :
    (disassemble rom)[k]? = some (entry (.ofBytes high low) k) := by
  simp [disassemble, getElem?_words first second]

/-! ## Programs -/

/-- The bytes of a program. -/
def assemble (program : List Instruction) : List UInt8 :=
  bytes (program.map Instruction.encode)

/-- Disassembling is the exact inverse of assembling. A program of canonical instructions is
read back from its bytes as it was written, also if an odd byte follows; and whatever the
bytes, a listing holds their words in order, each beside the one canonical instruction that
has this word, or beside none if there is none. Words and instructions do not depend on the
length; the addresses beyond 65536 bytes are those of a build that lets products start over. -/
theorem disassemble_assemble :
    (∀ (program : List Instruction) (extra : Option UInt8), (∀ i ∈ program, i.Canonical) →
        disassemble (assemble program ++ extra.toList) =
          program.mapIdx fun k i => ⟨addressOf k, i.encode, some i⟩) ∧
      ∀ rom : List UInt8,
        bytes ((disassemble rom).map Entry.word) = rom.take (2 * (rom.length / 2)) ∧
          ∀ e ∈ disassemble rom,
            (∀ i, e.instruction = some i → i.Canonical ∧ i.encode = e.word) ∧
              (e.instruction = none ↔ ∀ i : Instruction, i.Canonical → i.encode ≠ e.word) := by
  constructor
  · intro program extra canonical
    rw [disassemble, assemble, words_bytes_append]
    refine List.ext_getElem (by simp) fun k _ within => ?_
    rw [List.length_mapIdx] at within
    have read := Instruction.decode?_encode (canonical _ (List.getElem_mem within))
    simp [entry, read]
  · intro rom
    refine ⟨by rw [map_word_disassemble, bytes_words], ?_⟩
    intro e listed
    rw [instruction_of_mem_disassemble listed]
    refine ⟨fun i => Instruction.decode?_eq_some_iff.1, ?_⟩
    rw [Option.eq_none_iff_forall_ne_some]
    simp only [ne_eq, Instruction.decode?_eq_some_iff, not_and]

theorem disassemble_assemble_odd :
    disassemble [0x00, 0xE0, 0xF1, 0x55, 0x80] =
        [⟨0x200, 0x00E0, some .clear⟩, ⟨0x202, 0xF155, some (.save 1)⟩] ∧
      ∀ i : Instruction, i.Canonical → i.encode ≠ 0x8008 := by
  obtain ⟨inverse, honest⟩ := disassemble_assemble
  refine ⟨inverse [.clear, .save 1] (some 0x80) (by decide), ?_⟩
  obtain ⟨-, entries⟩ := honest [0x80, 0x08]
  exact (entries ⟨0x200, 0x8008, none⟩ (by decide +kernel)).2.1 rfl

end Chip8.Listing
