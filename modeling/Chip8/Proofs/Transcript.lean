import Chip8.Launch
import Chip8.Proofs.Mnemonics
import Mathlib.Data.List.Chain
import Mathlib.Data.List.Nodup

/-!
# Listings are read back

A line of a listing is split at its colon and at its two blanks. There is one way only to do
so: a colon stands nowhere else in a line, and no two blanks stand together in a mnemonic. What
stands in front is the numeral of the address, what stands between is the four digits of the
word, and what follows is the text. So the lines of a listing give back the words of the
program, and with them all its bytes but a last odd one. Addresses are told apart as long as
the program is not longer than the addresses reach.

## Main definitions

* `cut` — a text around the first place of a mark.
* `Listing.readLine?` — the row that a line spells.
* `Listing.ReadsBack` — a listing that gives its program back.

## Main statements

* `Listing.Entry.readLine?_line`, `Listing.Entry.fields?_of_split` — a line is read in one way.
* `Listing.lines_eq_iff` — what programs with the same listing have in common.
* `Listing.start_reads_back` — the listing that a start ends with gives the program back.
-/

namespace Chip8

variable {m : Char} {ms xs ys xs' ys' text : List Char}

/-! ## Marks -/

/-- The texts on both sides of the first place of a mark. -/
def cut (mark : List Char) : List Char → Option (List Char × List Char)
  | [] => none
  | c :: cs =>
    if mark.isPrefixOf (c :: cs) then some ([], (c :: cs).drop mark.length)
    else (cut mark cs).map fun sides => (c :: sides.1, sides.2)

/-- A text is cut at a mark whose first character does not stand in front of it. -/
theorem cut_append (before : m ∉ xs) : cut (m :: ms) (xs ++ (m :: ms) ++ ys) = some (xs, ys) := by
  induction xs with
  | nil => simp [cut]
  | cons x xs ih =>
    have other : m ≠ x := fun same => before (same ▸ List.mem_cons_self)
    have later := ih fun mem => before (List.mem_cons_of_mem _ mem)
    rw [List.cons_append, List.cons_append, cut, later]
    simp [other]

/-- There is no other way to split a text at a mark that neither begins in front of it nor
occurs once more behind its first character. -/
theorem append_mark_inj (before : m ∉ xs) (behind : ¬ (m :: ms) <:+: ms ++ ys)
    (split : xs ++ (m :: ms) ++ ys = xs' ++ (m :: ms) ++ ys') : xs = xs' ∧ ys = ys' := by
  simp only [List.append_assoc] at split
  rcases List.append_eq_append_iff.1 split with ⟨between, rfl, rest⟩ | ⟨between, rfl, rest⟩
  · cases between with
    | nil => simpa using rest
    | cons c between =>
      rw [List.cons_append, List.cons_append, List.cons.injEq] at rest
      exact absurd ⟨between, ys', by simp [rest.2]⟩ behind
  · cases between with
    | nil => simpa using rest.symm
    | cons c between =>
      rw [List.cons_append, List.cons_append, List.cons.injEq] at rest
      exact absurd (by simp [rest.1]) before

/-! ## Blanks -/

/-- Blanks stand alone in a text. -/
def Spaced (text : List Char) : Prop :=
  text.IsChain fun c d => ¬ (c = ' ' ∧ d = ' ')

theorem Spaced.not_infix (spaced : Spaced text) : ¬ [' ', ' '] <:+: text := by
  intro both
  have pair := spaced.infix both
  simp at pair

theorem spaced_of_notMem (solid : ' ' ∉ text) : Spaced text := by
  refine (List.pairwise_of_forall_mem_list ?_).isChain
  rintro c mem d - ⟨rfl, -⟩
  exact solid mem

/-- A text may stand behind a blank that does not begin with one. -/
theorem Spaced.cons (spaced : Spaced text) (first : text.head? ≠ some ' ') :
    Spaced (' ' :: text) := by
  refine List.isChain_cons.2 ⟨?_, spaced⟩
  rintro c head ⟨-, rfl⟩
  exact first head

/-- A text without blanks may stand in front of one. -/
theorem spaced_append (solid : ' ' ∉ text) (rest : Spaced (' ' :: ys)) :
    Spaced (text ++ ' ' :: ys) := by
  refine List.isChain_append.2 ⟨spaced_of_notMem solid, rest, ?_⟩
  rintro c last d - ⟨rfl, -⟩
  exact solid (List.mem_of_getLast? last)

/-- A text of one character at least, none of them a blank. -/
def Unbroken (text : List Char) : Prop :=
  ' ' ∉ text ∧ text ≠ []

instance (text : List Char) : Decidable (Unbroken text) :=
  inferInstanceAs (Decidable (_ ∧ _))

theorem Unbroken.head?_append_ne (whole : Unbroken text) (rest : List Char) :
    (text ++ rest).head? ≠ some ' ' := by
  obtain ⟨solid, filled⟩ := whole
  cases text with
  | nil => exact absurd rfl filled
  | cons c cs =>
    intro head
    cases head
    exact solid List.mem_cons_self

theorem Unbroken.spaced_cons (whole : Unbroken text) : Spaced (' ' :: text) := by
  have first : text.head? ≠ some ' ' := by simpa using whole.head?_append_ne []
  exact (spaced_of_notMem whole.1).cons first

/-- Such a text may stand between blanks. -/
theorem Unbroken.spaced_cons_append (whole : Unbroken text) (rest : Spaced (' ' :: ys)) :
    Spaced (' ' :: (text ++ ' ' :: ys)) :=
  (spaced_append whole.1 rest).cons (whole.head?_append_ne _)

/-- Blanks stand alone where such texts follow each other with a comma and a blank between. -/
theorem spaced_intercalate {texts : List (List Char)} (whole : ∀ text ∈ texts, Unbroken text) :
    Spaced (' ' :: [',', ' '].intercalate texts) := by
  induction texts with
  | nil => exact List.isChain_singleton _
  | cons first texts ih =>
    have here := whole first List.mem_cons_self
    have later := ih fun text mem => whole text (List.mem_cons_of_mem _ mem)
    cases texts with
    | nil =>
      rw [List.intercalate_singleton]
      exact here.spaced_cons
    | cons second texts =>
      have comma : Unbroken (first ++ [',']) := by simpa [Unbroken] using here.1
      rw [List.intercalate_cons_cons]
      simpa using comma.spaced_cons_append later

/-- What stands in none of the texts and not between them stands nowhere. -/
theorem notMem_intercalate {c : Char} {between : List Char} {texts : List (List Char)}
    (apart : c ∉ between) (free : ∀ text ∈ texts, c ∉ text) : c ∉ between.intercalate texts := by
  induction texts with
  | nil => exact List.not_mem_nil
  | cons first texts ih =>
    have here := free first List.mem_cons_self
    have later := ih fun text mem => free text (List.mem_cons_of_mem _ mem)
    cases texts with
    | nil => rwa [List.intercalate_singleton]
    | cons second texts =>
      rw [List.intercalate_cons_cons]
      simp [here, apart, later]

/-! ## Mnemonics -/

namespace Operand

theorem unbroken_text (o : Operand) : Unbroken o.text.toList := by
  refine ⟨o.solid_text.2, fun empty => ?_⟩
  have read := o.ofText?_text
  rw [empty] at read
  cases read

end Operand

namespace Instruction

theorem unbroken_operation (i : Instruction) : Unbroken i.operation.toList := by
  refine ⟨i.solid_operation.2, ?_⟩
  cases i with
  | skipIf condition => cases condition <;> simp [operation, Condition.operation]
  | alu op x y => cases op <;> simp [operation, Alu.operation]
  | _ => simp [operation]

theorem spaced_mnemonic (i : Instruction) : Spaced (' ' :: i.mnemonic.toList) := by
  by_cases bare : i.operands = []
  · rw [mnemonic_of_nil bare]
    exact i.unbroken_operation.spaced_cons
  · rw [toList_mnemonic bare]
    refine i.unbroken_operation.spaced_cons_append (spaced_intercalate ?_)
    intro text mem
    obtain ⟨o, -, rfl⟩ := List.mem_map.1 mem
    exact o.unbroken_text

theorem colon_notMem_mnemonic (i : Instruction) : ':' ∉ i.mnemonic.toList := by
  have operation : ':' ∉ i.operation.toList := i.notMem_operation (by decide)
  by_cases bare : i.operands = []
  · rwa [mnemonic_of_nil bare]
  · have operands : ':' ∉ [',', ' '].intercalate (i.operands.map fun o => o.text.toList) := by
      refine notMem_intercalate (by decide) fun text mem => ?_
      obtain ⟨o, -, rfl⟩ := List.mem_map.1 mem
      exact o.notMem_text (by decide) (by decide)
    rw [toList_mnemonic bare, List.mem_append, List.mem_cons]
    simp [operation, operands]

/-- No instruction is written as what stands where there is none. -/
theorem mnemonic_ne (i : Instruction) : i.mnemonic ≠ "???" := by
  intro same
  have read := i.ofMnemonic?_mnemonic
  rw [same] at read
  cases read

end Instruction

/-! ## Lines -/

namespace Listing

/-- What a line of a listing spells. -/
structure Row where
  address : ℕ
  word : Word
  text : String
  deriving DecidableEq

/-- The three parts of a line: in front of its colon, between the colon and two blanks, and
behind these. -/
def fields? (line : List Char) : Option (List Char × List Char × List Char) :=
  (cut [':', ' '] line).bind fun (address, rest) =>
    (cut [' ', ' '] rest).map fun (word, text) => (address, word, text)

/-- The number that a marked numeral stands for. -/
def readAddress? : List Char → Option ℕ
  | '0' :: 'x' :: numeral => Hexadecimal.value? numeral
  | _ => none

/-- The word that four digits stand for. -/
def readWord? (numeral : List Char) : Option Word :=
  if numeral.length = 4 then (Hexadecimal.value? numeral).map .ofNat else none

/-- The row that a line spells. -/
def readLine? (line : String) : Option Row := do
  let (address, word, text) ← fields? line.toList
  return ⟨← readAddress? address, ← readWord? word, .ofList text⟩

namespace Entry

/-- What is read from the line of an entry. -/
def row (e : Entry) : Row :=
  ⟨e.address.toNat, e.word, e.text⟩

variable (e : Entry)

theorem spaced_text : Spaced (' ' :: e.text.toList) := by
  rw [text]
  cases e.instruction with
  | none => exact Unbroken.spaced_cons (by decide)
  | some i => exact i.spaced_mnemonic

theorem colon_notMem_text : ':' ∉ e.text.toList := by
  rw [text]
  cases e.instruction with
  | none => decide
  | some i => exact i.colon_notMem_mnemonic

/-- What stands in front of the colon. -/
def front : List Char :=
  '0' :: 'x' :: Hexadecimal.paddedDigits 3 e.address.toNat

/-- What stands behind the colon and a blank. -/
def back : List Char :=
  Hexadecimal.paddedDigits 4 e.word.toNat ++ [' ', ' '] ++ e.text.toList

theorem toList_line : e.line.toList = e.front ++ [':', ' '] ++ e.back := by
  simp [line, front, back]

theorem colon_notMem_front : ':' ∉ e.front := by
  have digits : ':' ∉ Hexadecimal.paddedDigits 3 e.address.toNat :=
    Hexadecimal.notMem_paddedDigits (by decide)
  simp [front, digits]

theorem colon_notMem_back : ':' ∉ e.back := by
  have digits : ':' ∉ Hexadecimal.paddedDigits 4 e.word.toNat :=
    Hexadecimal.notMem_paddedDigits (by decide)
  simp [back, digits, e.colon_notMem_text]

theorem blank_notMem_word : ' ' ∉ Hexadecimal.paddedDigits 4 e.word.toNat :=
  Hexadecimal.notMem_paddedDigits (by decide)

theorem fields?_line : fields? e.line.toList =
    some (e.front, Hexadecimal.paddedDigits 4 e.word.toNat, e.text.toList) := by
  simp only [fields?, toList_line, cut_append e.colon_notMem_front, Option.bind_some, back,
    cut_append e.blank_notMem_word, Option.map_some]

/-- The line of an entry has no other parts than those that it is read by. -/
theorem fields?_of_split {address word text : List Char}
    (split : e.line.toList = address ++ [':', ' '] ++ (word ++ [' ', ' '] ++ text)) :
    fields? e.line.toList = some (address, word, text) := by
  have colon : ¬ [':', ' '] <:+: [' '] ++ e.back := by
    intro more
    have mem := more.subset List.mem_cons_self
    simp [e.colon_notMem_back] at mem
  rw [toList_line] at split
  obtain ⟨rfl, rest⟩ := append_mark_inj e.colon_notMem_front colon split
  obtain ⟨rfl, rfl⟩ := append_mark_inj e.blank_notMem_word e.spaced_text.not_infix rest
  exact e.fields?_line

theorem readLine?_line : readLine? e.line = some e.row := by
  have word := Hexadecimal.length_paddedDigits_four e.word.toNat_lt
  simp [readLine?, fields?_line, front, readAddress?, readWord?, word, row]

end Entry

/-! ## Listings -/

variable {rom rom' : List UInt8}

/-- The rows of a listing, where each of its lines spells one. -/
def readLines? (lines : List String) : Option (List Row) :=
  lines.mapM readLine?

theorem readLines?_lines (rom : List UInt8) :
    readLines? (lines rom) = some ((disassemble rom).map Entry.row) :=
  mapM_map_eq_some Entry.readLine?_line _

theorem toNat_addressOf (k : ℕ) : (addressOf k).toNat = (0x200 + 2 * k) % 65536 := by
  simp [addressOf, Layout.programStart]

/-- The addresses of a program that is not longer than they reach are all different. -/
theorem nodup_addresses (within : rom.length ≤ 65536) :
    (((disassemble rom).map Entry.row).map Row.address).Nodup := by
  have addresses : ((disassemble rom).map Entry.row).map Row.address =
      (List.range (rom.length / 2)).map fun k => (0x200 + 2 * k) % 65536 := by
    refine List.ext_getElem (by simp) fun k _ _ => ?_
    simp [disassemble, entry, Entry.row, toNat_addressOf]
  rw [addresses]
  refine List.Nodup.map_on ?_ List.nodup_range
  intro j hj k hk same
  rw [List.mem_range] at hj hk
  omega

theorem bytes_rows (rom : List UInt8) :
    bytes (((disassemble rom).map Entry.row).map Row.word) = rom.take (2 * (rom.length / 2)) := by
  rw [← bytes_words, ← map_word_disassemble]
  simp [Entry.row, Function.comp_def]

/-- A last odd byte makes no difference to the words. -/
theorem words_eq_iff : words rom = words rom' ↔
    rom.take (2 * (rom.length / 2)) = rom'.take (2 * (rom'.length / 2)) := by
  rw [← bytes_words, ← bytes_words]
  constructor
  · exact congrArg bytes
  · intro same
    have read := congrArg words same
    have (ws : List Word) : words (bytes ws) = ws := by
      simpa using words_bytes_append ws none
    rwa [this, this] at read

/-- Programs have the same listing if and only if they are the same but for an odd byte at the
end of each. -/
theorem lines_eq_iff (rom rom' : List UInt8) : lines rom = lines rom' ↔
    rom.take (2 * (rom.length / 2)) = rom'.take (2 * (rom'.length / 2)) := by
  constructor
  · intro same
    have read := congrArg readLines? same
    rw [readLines?_lines, readLines?_lines, Option.some.injEq] at read
    rw [← bytes_rows, read, bytes_rows]
  · intro same
    rw [lines, lines, disassemble, disassemble, words_eq_iff.2 same]

/-- The lines of a listing give these rows, and the rows give the program. -/
structure ReadsBack (rom : List UInt8) (output : List String) (rows : List Row) : Prop where
  count : output.length = rom.length / 2
  /-- There is one way to split a line at its marks. -/
  parts : ∀ line ∈ output, ∀ address word text : List Char,
    line.toList = address ++ [':', ' '] ++ (word ++ [' ', ' '] ++ text) →
      fields? line.toList = some (address, word, text)
  read : readLines? output = some rows
  row : ∀ k high low, rom[2 * k]? = some high → rom[2 * k + 1]? = some low →
    ∃ row, rows[k]? = some row ∧ row.address = (0x200 + 2 * k) % 65536 ∧
      row.word.toNat = high.toNat * 256 + low.toNat ∧
      (row.text = "???" ↔ Instruction.decode? row.word = none) ∧
      ∀ i, Instruction.decode? row.word = some i → row.text = i.mnemonic
  addresses : (rows.map Row.address).Nodup
  whole : bytes (rows.map Row.word) = rom.take (2 * (rom.length / 2))

theorem text_entry_eq_iff (w : Word) (k : ℕ) :
    (entry w k).text = "???" ↔ Instruction.decode? w = none := by
  simp only [Entry.text, entry]
  cases Instruction.decode? w with
  | none => simp
  | some i => simp [i.mnemonic_ne]

theorem reads_back (within : rom.length ≤ 65536) :
    ReadsBack rom (lines rom) ((disassemble rom).map Entry.row) where
  count := length_lines rom
  parts := by
    intro line listed address word text split
    obtain ⟨e, -, rfl⟩ := List.mem_map.1 listed
    exact e.fields?_of_split split
  read := readLines?_lines rom
  row := by
    intro k high low first second
    refine ⟨(entry (.ofBytes high low) k).row, ?_, toNat_addressOf k, Word.toNat_ofBytes high low,
      text_entry_eq_iff _ k, ?_⟩
    · rw [List.getElem?_map, getElem?_disassemble first second, Option.map_some]
    · intro i decoded
      change Instruction.decode? (.ofBytes high low) = some i at decoded
      simp [Entry.row, Entry.text, entry, decoded]
  addresses := nodup_addresses within
  whole := bytes_rows rom

/-- A listing loses nothing but a last odd byte. A start that is asked for one ends with it,
also where the program would be too long to be loaded. Each line, split at its marks, reads
back as its address, which starts over behind the last one there is, as its word, and as a
text that tells whether the word is an instruction and which; no two addresses are the same;
and the words are the bytes of the program. So two starts end with the same listing only if
their programs are the same but for an odd byte at the end. The other program may be longer
than 65536 bytes, where a listing needs a build that lets its products start over. -/
theorem start_reads_back (shown : Selection) (part : String) (a : CommandLine.Arguments)
    (noise : Noise) (rom : List UInt8) (asked : a.disassemble = true)
    (within : rom.length ≤ 65536) :
    (∃ output rows, Launch.start shown part a noise (.ok rom) =
        .ended { code := 0, output := output, errors := shown.warnings } ∧
        ReadsBack rom output rows) ∧
      ∀ rom', Launch.start shown part a noise (.ok rom) =
          Launch.start shown part a noise (.ok rom') ↔
        rom.take (2 * (rom.length / 2)) = rom'.take (2 * (rom'.length / 2)) := by
  have listed (rom : List UInt8) : Launch.start shown part a noise (.ok rom) =
      .ended { code := 0, output := lines rom, errors := shown.warnings } := by
    simp [Launch.start, asked, Launch.list, Launch.after]
  refine ⟨⟨lines rom, _, listed rom, reads_back within⟩, fun rom' => ?_⟩
  rw [listed, listed, ← lines_eq_iff]
  simp

/-- A journal that shows no entry. -/
def silent : Selection :=
  { warnings := [], passes := fun _ _ _ => false }

/-- The arguments that ask for the listing of a file. -/
def listing : CommandLine.Arguments where
  rom := .ofText "long.ch8"
  scale := 10
  cyclesPerFrame := 10
  seed := none
  anyPixelCollision := false
  disassemble := true

/-- The last line of a program that no memory holds has an address in front of the first one's,
since addresses have started over. -/
theorem start_reads_back_around :
    ∃ output rows, Launch.start silent "main" listing (.ofSeed 0)
        (.ok (List.replicate 65535 0xFF)) = .ended { code := 0, output := output } ∧
      output.length = 32767 ∧ readLines? output = some rows ∧
      rows[32766]? = some ⟨0x1FC, 0xFFFF, "???"⟩ := by
  have length : (List.replicate 65535 (0xFF : UInt8)).length = 65535 := List.length_replicate
  obtain ⟨⟨output, rows, ended, back⟩, -⟩ := start_reads_back silent "main" listing (.ofSeed 0)
    (List.replicate 65535 0xFF) rfl (by omega)
  obtain ⟨⟨address, word, text⟩, found, rfl, number, unknown, -⟩ := back.row 32766 0xFF 0xFF
    (List.getElem?_replicate_of_lt (by decide)) (List.getElem?_replicate_of_lt (by decide))
  obtain rfl : word = 0xFFFF := UInt16.toNat_inj.1 number
  have data : Instruction.decode? 0xFFFF = none := by decide
  obtain rfl : text = "???" := unknown.2 data
  have count := back.count
  exact ⟨output, rows, ended, by omega, back.read, found⟩

end Listing
end Chip8
