import Chip8.Proofs.Assembly
import Chip8.Text.Decimal
import Mathlib.Data.List.Basic

/-!
# Mnemonics are unambiguous

A mnemonic is read back from its text. Its words are split at the blanks, since neither the
first word nor an operand holds a blank or a comma; each operand is told by its text, since
registers, bytes, addresses, heights and names all look different; and the first word together
with the kinds of the operands tells the instruction, although eleven forms share the word
`LD`. So instructions with the same text are the same, and as no word loses a bit when it is
decoded, the texts of a program determine its bytes.

## Main definitions

* `Operand.ofText?` — the operand with a text.
* `Instruction.ofParts?`, `Instruction.ofMnemonic?` — the instruction with a word and operands,
  and the one with a text.
* `Listing.mnemonics` — the texts of the instructions in a program.

## Main statements

* `Instruction.ofMnemonic?_mnemonic` — a mnemonic is read back.
* `Listing.mnemonics_eq_iff` — the texts determine the bytes.
-/

namespace Chip8

/-! ## Texts -/

/-- A text without commas and blanks. -/
def Solid (text : List Char) : Prop :=
  ',' ∉ text ∧ ' ' ∉ text

instance (text : List Char) : Decidable (Solid text) :=
  inferInstanceAs (Decidable (_ ∧ _))

theorem Solid.filter_comma {text : List Char} (solid : Solid text) :
    text.filter (· ≠ ',') = text := by
  refine List.filter_eq_self.2 fun c mem => decide_eq_true ?_
  rintro rfl
  exact solid.1 mem

/-- Without the commas only blanks stand between solid texts. -/
theorem filter_comma_intercalate {texts : List (List Char)} (solid : ∀ text ∈ texts, Solid text) :
    ([',', ' '].intercalate texts).filter (· ≠ ',') = [' '].intercalate texts := by
  induction texts with
  | nil => rfl
  | cons first rest ih =>
    have here := (solid first List.mem_cons_self).filter_comma
    have later := ih fun text mem => solid text (List.mem_cons_of_mem _ mem)
    cases rest with
    | nil => rw [List.intercalate_singleton, List.intercalate_singleton, here]
    | cons second rest =>
      rw [List.intercalate_cons_cons, List.intercalate_cons_cons, List.filter_append,
        List.filter_append, here, later]
      rfl

/-- What is read back piece by piece is read back as a whole. -/
theorem mapM_map_eq_some {α β γ : Type} {write : α → β} {read : β → Option γ} {part : α → γ}
    (reads : ∀ a, read (write a) = some (part a)) (xs : List α) :
    (xs.map write).mapM read = some (xs.map part) := by
  induction xs with
  | nil => rfl
  | cons x xs ih => simp [reads, ih]

/-! ## Numerals -/

namespace Hexadecimal

variable {c : Char} {cs : List Char} {sofar n width : ℕ}

/-- What stands for a number consists of digits. -/
theorem digitValue?_ne_none (read : valueFrom? sofar cs = some n) (hc : c ∈ cs) :
    digitValue? c ≠ none := by
  induction cs generalizing sofar with
  | nil => cases hc
  | cons d ds ih =>
    obtain ⟨value, digit, rest⟩ := Option.bind_eq_some_iff.1 read
    rcases List.mem_cons.1 hc with rfl | hc
    · simp [digit]
    · exact ih rest hc

theorem notMem_paddedDigits (other : digitValue? c = none) : c ∉ paddedDigits width n := by
  intro hc
  have read := value?_paddedDigits width n
  rw [value?] at read
  split at read
  · cases read
  · exact digitValue?_ne_none read hc other

theorem le_length_paddedDigits (width n : ℕ) : width ≤ (paddedDigits width n).length := by
  rw [paddedDigits, List.length_append, List.length_replicate]
  omega

/-- A number has one more digit than what is left without its last one. -/
theorem length_digits_le (shorter : (digits (n / 16)).length ≤ width) :
    (digits n).length ≤ width + 1 := by
  by_cases one : n < 16
  · simp [digits_of_lt one]
  · simpa [digits_of_le (Nat.le_of_not_lt one)] using shorter

theorem length_paddedDigits (fits : (digits n).length ≤ width) :
    (paddedDigits width n).length = width := by
  rw [paddedDigits, List.length_append, List.length_replicate]
  omega

theorem length_digits_of_lt (one : n < 16) : (digits n).length ≤ 1 := by
  simp [digits_of_lt one]

/-- The numeral of a byte has two digits. -/
theorem length_paddedDigits_two (small : n < 256) : (paddedDigits 2 n).length = 2 := by
  have first : n / 16 < 16 := by omega
  exact length_paddedDigits (length_digits_le (length_digits_of_lt first))

/-- The numeral of a word has four digits. -/
theorem length_paddedDigits_four (small : n < 65536) : (paddedDigits 4 n).length = 4 := by
  have first : n / 16 / 16 / 16 < 16 := by omega
  exact length_paddedDigits
    (length_digits_le (length_digits_le (length_digits_le (length_digits_of_lt first))))

end Hexadecimal

/-! ## Operands -/

namespace Operand

/-- The operand that a text stands for. -/
def ofText? : List Char → Option Operand
  | ['I'] => some .index
  | ['[', 'I', ']'] => some .cells
  | ['D', 'T'] => some .delayTimer
  | ['S', 'T'] => some .soundTimer
  | ['K'] => some .key
  | ['F'] => some .glyph
  | ['B'] => some .digits
  | 'V' :: numeral =>
    (Hexadecimal.value? numeral).bind fun n =>
      if small : n < 16 then some (.register ⟨n, small⟩) else none
  | '0' :: 'x' :: numeral =>
    (Hexadecimal.value? numeral).bind fun n =>
      if numeral.length = 2 then some (.byte (.ofNat n))
      else if small : n < 4096 then some (.address ⟨n, small⟩) else none
  | numeral =>
    (Decimal.value? numeral).bind fun n =>
      if small : n < 16 then some (.height ⟨n, small⟩) else none

theorem toList_text_register (x : Register) :
    (register x).text.toList = 'V' :: Hexadecimal.paddedDigits 1 x := by
  simp [text]

theorem toList_text_byte (kk : UInt8) :
    (byte kk).text.toList = '0' :: 'x' :: Hexadecimal.paddedDigits 2 kk.toNat :=
  Hexadecimal.toList_marked 2 kk.toNat

theorem toList_text_address (target : Address) :
    (address target).text.toList = '0' :: 'x' :: Hexadecimal.paddedDigits 3 target :=
  Hexadecimal.toList_marked 3 target

/-- An operand is read back from its text. -/
theorem ofText?_text (o : Operand) : ofText? o.text.toList = some o := by
  cases o with
  | register x =>
    rw [toList_text_register, ofText?, Hexadecimal.value?_paddedDigits, Option.bind_some,
      dif_pos x.isLt]
  | byte kk =>
    rw [toList_text_byte, ofText?, Hexadecimal.value?_paddedDigits, Option.bind_some,
      if_pos (Hexadecimal.length_paddedDigits_two kk.toNat_lt), UInt8.ofNat_toNat]
  | address target =>
    have longer := Hexadecimal.le_length_paddedDigits 3 target
    rw [toList_text_address, ofText?, Hexadecimal.value?_paddedDigits, Option.bind_some,
      if_neg (by omega), dif_pos target.isLt]
  | height n =>
    have all : ∀ n : Fin 16, ofText? (height n).text.toList = some (height n) := by decide
    exact all n
  | _ => rfl

/-- What operands are written with beside digits. -/
def marks : List Char :=
  ['V', 'x', 'I', '[', ']', 'T', 'S', 'K']

/-- What stands for an operand consists of digits and marks. -/
theorem digit_or_mark (o : Operand) :
    ∀ c ∈ o.text.toList, Hexadecimal.digitValue? c ≠ none ∨ c ∈ marks := by
  have numeral (width n : ℕ) : ∀ c ∈ Hexadecimal.paddedDigits width n,
      Hexadecimal.digitValue? c ≠ none ∨ c ∈ marks :=
    fun c mem => .inl fun other => Hexadecimal.notMem_paddedDigits other mem
  cases o with
  | register x =>
    rw [toList_text_register]
    exact List.forall_mem_cons.2 ⟨by decide, numeral 1 x⟩
  | byte kk =>
    rw [toList_text_byte, List.forall_mem_cons, List.forall_mem_cons]
    exact ⟨by decide, by decide, numeral 2 kk.toNat⟩
  | address target =>
    rw [toList_text_address, List.forall_mem_cons, List.forall_mem_cons]
    exact ⟨by decide, by decide, numeral 3 target⟩
  | height n =>
    have all : ∀ n : Fin 16, ((height n).text.toList.all fun c =>
        Hexadecimal.digitValue? c ≠ none) = true := by decide
    intro c mem
    exact .inl (of_decide_eq_true (List.all_eq_true.1 (all n) c mem))
  | _ => simp [text, marks, Hexadecimal.digitValue?]

theorem notMem_text {c : Char} (o : Operand) (other : Hexadecimal.digitValue? c = none)
    (unused : c ∉ marks) : c ∉ o.text.toList := by
  intro mem
  rcases o.digit_or_mark c mem with digit | used
  · exact digit other
  · exact unused used

theorem solid_text (o : Operand) : Solid o.text.toList :=
  ⟨o.notMem_text (by decide) (by decide), o.notMem_text (by decide) (by decide)⟩

end Operand

/-! ## Instructions -/

/-- The operation on two registers with a word. -/
def Alu.ofOperation? : String → Option Alu
  | "LD" => some .copy
  | "OR" => some .or
  | "AND" => some .and
  | "XOR" => some .xor
  | "ADD" => some .add
  | "SUB" => some .sub
  | "SHR" => some .shiftRight
  | "SUBN" => some .subFrom
  | "SHL" => some .shiftLeft
  | _ => none

namespace Instruction

/-- The instruction with a word and operands. -/
def ofParts? (operation : String) : List Operand → Option Instruction
  | [] =>
    match operation with
    | "CLS" => some .clear
    | "RET" => some .ret
    | _ => none
  | [.address target] =>
    match operation with
    | "SYS" => some (.sys target)
    | "JP" => some (.jump target)
    | "CALL" => some (.call target)
    | _ => none
  | [.register x] =>
    match operation with
    | "SKP" => some (.skipIf (.keyDown x))
    | "SKNP" => some (.skipIf (.keyUp x))
    | _ => none
  | [.register x, .byte kk] =>
    match operation with
    | "SE" => some (.skipIf (.isByte x kk))
    | "SNE" => some (.skipIf (.isNotByte x kk))
    | "LD" => some (.setByte x kk)
    | "ADD" => some (.addByte x kk)
    | "RND" => some (.random x kk)
    | _ => none
  | [.register x, .register y] =>
    match operation with
    | "SE" => some (.skipIf (.same x y))
    | "SNE" => some (.skipIf (.differ x y))
    | other => (Alu.ofOperation? other).map fun op => .alu op x y
  | [.index, .register x] => some (.addIndex x)
  | [.index, .address target] => some (.setIndex target)
  | [.register _, .address target] => some (.jumpPlus target)
  | [.register x, .register y, .height n] => some (.draw x y n)
  | [.register x, .delayTimer] => some (.readDelay x)
  | [.register x, .key] => some (.awaitKey x)
  | [.delayTimer, .register x] => some (.setDelay x)
  | [.soundTimer, .register x] => some (.setSound x)
  | [.glyph, .register x] => some (.glyph x)
  | [.digits, .register x] => some (.decimal x)
  | [.cells, .register x] => some (.save x)
  | [.register x, .cells] => some (.restore x)
  | _ => none

theorem ofParts?_parts (i : Instruction) : ofParts? i.operation i.operands = some i := by
  cases i with
  | skipIf condition => cases condition <;> rfl
  | alu op x y => cases op <;> rfl
  | _ => rfl

/-- The first word of an instruction consists of capital letters. -/
theorem isUpper_of_mem_operation {i : Instruction} {c : Char} (mem : c ∈ i.operation.toList) :
    c.isUpper = true := by
  revert c
  cases i with
  | skipIf condition => cases condition <;> simp [operation, Condition.operation]
  | alu op x y => cases op <;> simp [operation, Alu.operation]
  | _ => simp [operation]

theorem notMem_operation {c : Char} (i : Instruction) (other : c.isUpper = false) :
    c ∉ i.operation.toList := by
  intro mem
  rw [isUpper_of_mem_operation mem] at other
  cases other

theorem solid_operation (i : Instruction) : Solid i.operation.toList :=
  ⟨i.notMem_operation (by decide), i.notMem_operation (by decide)⟩

/-- The instruction that a text stands for. Its commas are not looked at. -/
def ofMnemonic? (text : String) : Option Instruction :=
  match (text.toList.filter (· ≠ ',')).splitOn ' ' with
  | operation :: operands =>
    (operands.mapM Operand.ofText?).bind (ofParts? (.ofList operation))
  | [] => none

theorem mnemonic_of_nil {i : Instruction} (bare : i.operands = []) :
    i.mnemonic = i.operation := by
  simp [mnemonic, bare]

theorem toList_mnemonic {i : Instruction} (operands : i.operands ≠ []) :
    i.mnemonic.toList = i.operation.toList ++
      ' ' :: [',', ' '].intercalate (i.operands.map fun o => o.text.toList) := by
  simp [mnemonic, operands, String.toList_intercalate, Function.comp_def]

/-- The text of an instruction without its commas. -/
theorem filter_comma_mnemonic (i : Instruction) :
    i.mnemonic.toList.filter (· ≠ ',') =
      [' '].intercalate (i.operation.toList :: i.operands.map fun o => o.text.toList) := by
  have operation := i.solid_operation.filter_comma
  have solid : ∀ text ∈ i.operands.map fun o => o.text.toList, Solid text := by
    intro text mem
    obtain ⟨o, -, rfl⟩ := List.mem_map.1 mem
    exact o.solid_text
  have operands := filter_comma_intercalate solid
  cases given : i.operands with
  | nil =>
    rw [mnemonic_of_nil given, operation]
    exact List.intercalate_singleton.symm
  | cons o os =>
    have some : i.operands ≠ [] := given ▸ List.cons_ne_nil o os
    rw [toList_mnemonic some, List.filter_append, List.filter_cons_of_pos (by decide), operation,
      operands, given, List.map_cons, List.intercalate_cons_cons, List.append_assoc]
    rfl

/-- The words of a text are the first word of the instruction and its operands. -/
theorem splitOn_mnemonic (i : Instruction) :
    (i.mnemonic.toList.filter (· ≠ ',')).splitOn ' ' =
      i.operation.toList :: i.operands.map fun o => o.text.toList := by
  rw [filter_comma_mnemonic]
  refine List.splitOn_intercalate ' ' ?_ (List.cons_ne_nil _ _)
  intro text mem
  rcases List.mem_cons.1 mem with rfl | mem
  · exact i.solid_operation.2
  · obtain ⟨o, -, rfl⟩ := List.mem_map.1 mem
    exact o.solid_text.2

theorem mapM_ofText? (os : List Operand) :
    (os.map fun o => o.text.toList).mapM Operand.ofText? = some os := by
  simpa using mapM_map_eq_some Operand.ofText?_text os

/-- Every mnemonic is read back. -/
theorem ofMnemonic?_mnemonic (i : Instruction) : ofMnemonic? i.mnemonic = some i := by
  rw [ofMnemonic?, splitOn_mnemonic]
  simp only [mapM_ofText?, Option.bind_some, String.ofList_toList, ofParts?_parts]

/-- Instructions with the same text are the same. -/
theorem mnemonic_injective : Function.Injective mnemonic := by
  intro i j same
  have read := congrArg ofMnemonic? same
  simpa only [ofMnemonic?_mnemonic, Option.some.injEq] using read

end Instruction

/-! ## Programs -/

namespace Listing

/-- The texts of the instructions that a program spells, in their order. -/
def mnemonics (rom : List UInt8) : List String :=
  ((disassemble rom).filterMap Entry.instruction).map Instruction.mnemonic

/-- Every word of a program is an instruction. -/
def Decodes (rom : List UInt8) : Prop :=
  ∀ e ∈ disassemble rom, e.instruction ≠ none

instance : DecidablePred Decodes := fun rom =>
  inferInstanceAs (Decidable (∀ e ∈ disassemble rom, e.instruction ≠ none))

/-- Where every entry has its instruction, the instructions have the words of the entries. -/
theorem map_encode_filterMap {es : List Entry}
    (known : ∀ e ∈ es, e.instruction ≠ none ∧ e.instruction = Instruction.decode? e.word) :
    (es.filterMap Entry.instruction).map Instruction.encode = es.map Entry.word := by
  induction es with
  | nil => rfl
  | cons e es ih =>
    obtain ⟨listed, read⟩ := known e List.mem_cons_self
    obtain ⟨i, found⟩ := Option.ne_none_iff_exists'.1 listed
    have word := (Instruction.encode_of_decode? (read.symm.trans found)).1
    rw [List.filterMap_cons_some found, List.map_cons, List.map_cons, word,
      ih fun e mem => known e (List.mem_cons_of_mem _ mem)]

/-- The instructions of a program have its words. -/
theorem map_encode_of_decodes {rom : List UInt8} (decodes : Decodes rom) :
    ((disassemble rom).filterMap Entry.instruction).map Instruction.encode = words rom := by
  rw [← map_word_disassemble]
  refine map_encode_filterMap fun e listed => ?_
  exact ⟨decodes e listed, instruction_of_mem_disassemble listed⟩

/-- A program of whole words is written back from its instructions. -/
theorem assemble_of_decodes {rom : List UInt8} (even : 2 ∣ rom.length) (decodes : Decodes rom) :
    assemble ((disassemble rom).filterMap Entry.instruction) = rom := by
  rw [assemble, map_encode_of_decodes decodes, bytes_words, Nat.mul_div_cancel' even,
    List.take_length]

/-- The texts of a program determine it. Two programs of whole words, each of them an
instruction, have the same texts only if they are the same byte for byte, whatever their
length. No text depends on an address; only to list more than 65536 bytes at all, a build has
to let its products start over. -/
theorem mnemonics_eq_iff (rom rom' : List UInt8) (even : 2 ∣ rom.length)
    (even' : 2 ∣ rom'.length) (decodes : Decodes rom) (decodes' : Decodes rom') :
    mnemonics rom = mnemonics rom' ↔ rom = rom' := by
  constructor
  · intro same
    have instructions := List.map_injective_iff.2 Instruction.mnemonic_injective same
    rw [← assemble_of_decodes even decodes, instructions, assemble_of_decodes even' decodes']
  · rintro rfl
    rfl

/-- Five forms that share the word `LD`, against the same with two of them exchanged. -/
theorem mnemonics_eq_iff_exchanged :
    mnemonics [0x61, 0x02, 0x81, 0x20, 0xA0, 0x12, 0xF1, 0x55, 0xF1, 0x65] ≠
      mnemonics [0x61, 0x02, 0x81, 0x20, 0xA0, 0x12, 0xF1, 0x65, 0xF1, 0x55] := by
  have distinct := (mnemonics_eq_iff [0x61, 0x02, 0x81, 0x20, 0xA0, 0x12, 0xF1, 0x55, 0xF1, 0x65]
    [0x61, 0x02, 0x81, 0x20, 0xA0, 0x12, 0xF1, 0x65, 0xF1, 0x55] (by decide) (by decide)
    (by decide +kernel) (by decide +kernel)).1
  intro same
  exact absurd (distinct same) (by decide)

end Listing
end Chip8
