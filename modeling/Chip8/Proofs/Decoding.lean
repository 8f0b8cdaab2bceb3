import Chip8.Instruction.Encoding
import Mathlib.Data.Fintype.Basic
import Mathlib.Tactic.FinCases

/-!
# Instructions with plain operands

A decoder cuts operands out of a word by masks and shifts, and what it makes of them are plain
numbers: nothing in a command says that a number names a register or a cell of memory. Words
are classified by three masks, the most specific first.

## Main definitions

* `Command` — one form for each pattern of words, with plain numbers for operands.
* `Command.decode?` — the command of a word.
* `Command.ofInstruction`, `Command.instruction?` — instructions as commands, and back where the
  operands are as wide as those of a word.

## Main statements

* `Command.decode?_eq` — decoding by masks is decoding by nibbles.
* `Command.instruction?_ofInstruction` — the operands of an instruction are wide enough.
-/

namespace Chip8

/-- An instruction as a decoder makes it. -/
inductive Command where
  | sys (nnn : Word)
  | clear
  | ret
  | jump (nnn : Word)
  | call (nnn : Word)
  | skipByte (x : ℕ) (kk : UInt8)
  | skipNotByte (x : ℕ) (kk : UInt8)
  | skipSame (x y : ℕ)
  | setByte (x : ℕ) (kk : UInt8)
  | addByte (x : ℕ) (kk : UInt8)
  | copy (x y : ℕ)
  | or (x y : ℕ)
  | and (x y : ℕ)
  | xor (x y : ℕ)
  | add (x y : ℕ)
  | sub (x y : ℕ)
  | shiftRight (x y : ℕ)
  | subFrom (x y : ℕ)
  | shiftLeft (x y : ℕ)
  | skipDiffer (x y : ℕ)
  | setIndex (nnn : Word)
  | jumpPlus (nnn : Word)
  | random (x : ℕ) (kk : UInt8)
  | draw (x y : ℕ) (n : UInt8)
  | skipDown (x : ℕ)
  | skipUp (x : ℕ)
  | readDelay (x : ℕ)
  | awaitKey (x : ℕ)
  | setDelay (x : ℕ)
  | setSound (x : ℕ)
  | addIndex (x : ℕ)
  | glyph (x : ℕ)
  | decimal (x : ℕ)
  | save (x : ℕ)
  | restore (x : ℕ)
  deriving DecidableEq

namespace Command

/-! ## Decoding by masks -/

/-- The operand slices of a word. -/
def sliceX (w : Word) : ℕ := ((w &&& 0x0F00) >>> 8).toNat
def sliceY (w : Word) : ℕ := ((w &&& 0x00F0) >>> 4).toNat
def sliceKk (w : Word) : UInt8 := (w &&& 0x00FF).toUInt8
def sliceN (w : Word) : UInt8 := (w &&& 0x000F).toUInt8
def sliceNnn (w : Word) : Word := w &&& 0x0FFF

/-- The patterns that fix the first and the last nibble. -/
def nibbleForms (x y : ℕ) : List (Word × Command) :=
  [(0x5000, .skipSame x y), (0x8000, .copy x y), (0x8001, .or x y), (0x8002, .and x y),
    (0x8003, .xor x y), (0x8004, .add x y), (0x8005, .sub x y), (0x8006, .shiftRight x y),
    (0x8007, .subFrom x y), (0x800E, .shiftLeft x y), (0x9000, .skipDiffer x y)]

/-- The patterns that fix the first nibble and the low byte. -/
def byteForms (x : ℕ) : List (Word × Command) :=
  [(0xE09E, .skipDown x), (0xE0A1, .skipUp x), (0xF007, .readDelay x), (0xF00A, .awaitKey x),
    (0xF015, .setDelay x), (0xF018, .setSound x), (0xF01E, .addIndex x), (0xF029, .glyph x),
    (0xF033, .decimal x), (0xF055, .save x), (0xF065, .restore x)]

/-- The patterns that fix the first nibble only. -/
def leadForms (x y : ℕ) (kk n : UInt8) (nnn : Word) : List (Word × Command) :=
  [(0x0000, .sys nnn), (0x1000, .jump nnn), (0x2000, .call nnn), (0x3000, .skipByte x kk),
    (0x4000, .skipNotByte x kk), (0x6000, .setByte x kk), (0x7000, .addByte x kk),
    (0xA000, .setIndex nnn), (0xB000, .jumpPlus nnn), (0xC000, .random x kk),
    (0xD000, .draw x y n)]

/-- The command of a word: whole words first, then the patterns from the most specific mask to
the least. -/
def decode? (w : Word) : Option Command :=
  let x := sliceX w
  let y := sliceY w
  if w = 0x00E0 then some .clear
  else if w = 0x00EE then some .ret
  else
    (nibbleForms x y).lookup (w &&& 0xF00F) <|> (byteForms x).lookup (w &&& 0xF0FF) <|>
      (leadForms x y (sliceKk w) (sliceN w) (sliceNnn w)).lookup (w &&& 0xF000)

/-! ## Masks -/

/-- The nibbles of a masked word. -/
theorem toNat_and (w mask : Word) :
    (w &&& mask).toNat =
      4096 * (w.toNat / 4096 &&& mask.toNat / 4096) +
        256 * (w.toNat / 256 % 16 &&& mask.toNat / 256 % 16) +
        16 * (w.toNat / 16 % 16 &&& mask.toNat / 16 % 16) +
        (w.toNat % 16 &&& mask.toNat % 16) := by
  rw [UInt16.toNat_and]
  generalize w.toNat = a
  generalize mask.toNat = b
  have first : (a &&& b) / 4096 = a / 4096 &&& b / 4096 := Nat.and_div_two_pow (n := 12)
  have second : (a &&& b) / 256 % 16 = a / 256 % 16 &&& b / 256 % 16 := by
    rw [Nat.and_div_two_pow (n := 8), Nat.and_mod_two_pow (n := 4)]
  have third : (a &&& b) / 16 % 16 = a / 16 % 16 &&& b / 16 % 16 := by
    rw [Nat.and_div_two_pow (n := 4), Nat.and_mod_two_pow (n := 4)]
  have last : (a &&& b) % 16 = a % 16 &&& b % 16 := Nat.and_mod_two_pow (n := 4)
  omega

theorem and_fifteen (a : ℕ) : a &&& 15 = a % 16 :=
  Nat.and_two_pow_sub_one_eq_mod a 4

variable (w : Word)

theorem and_nibbles : w &&& 0xF00F = .ofNibbles w.lead 0 0 w.n := by
  have small := w.toNat_lt
  apply UInt16.toNat_inj.1
  rw [toNat_and, Word.toNat_ofNibbles]
  change 4096 * (w.toNat / 4096 &&& 15) + 256 * (w.toNat / 256 % 16 &&& 0) +
    16 * (w.toNat / 16 % 16 &&& 0) + (w.toNat % 16 &&& 15) =
      w.toNat / 4096 * 4096 + 0 * 256 + 0 * 16 + w.toNat % 16
  simp only [and_fifteen, Nat.and_zero]
  omega

theorem and_byte : w &&& 0xF0FF = .ofByte w.lead 0 w.kk := by
  have small := w.toNat_lt
  apply UInt16.toNat_inj.1
  rw [toNat_and, Word.toNat_ofByte, Word.toNat_kk]
  change 4096 * (w.toNat / 4096 &&& 15) + 256 * (w.toNat / 256 % 16 &&& 0) +
    16 * (w.toNat / 16 % 16 &&& 15) + (w.toNat % 16 &&& 15) =
      w.toNat / 4096 * 4096 + 0 * 256 + w.toNat % 256
  simp only [and_fifteen, Nat.and_zero]
  omega

theorem and_lead : w &&& 0xF000 = .ofNibbles w.lead 0 0 0 := by
  have small := w.toNat_lt
  apply UInt16.toNat_inj.1
  rw [toNat_and, Word.toNat_ofNibbles]
  change 4096 * (w.toNat / 4096 &&& 15) + 256 * (w.toNat / 256 % 16 &&& 0) +
    16 * (w.toNat / 16 % 16 &&& 0) + (w.toNat % 16 &&& 0) =
      w.toNat / 4096 * 4096 + 0 * 256 + 0 * 16 + 0
  simp only [and_fifteen, Nat.and_zero]
  omega

theorem sliceX_eq : sliceX w = w.x := by
  have masked : (w &&& 0x0F00).toNat = 256 * (w.toNat / 256 % 16) := by
    rw [toNat_and]
    change 4096 * (w.toNat / 4096 &&& 0) + 256 * (w.toNat / 256 % 16 &&& 15) +
      16 * (w.toNat / 16 % 16 &&& 0) + (w.toNat % 16 &&& 0) = _
    simp only [and_fifteen, Nat.and_zero]
    omega
  rw [sliceX, UInt16.toNat_shiftRight, masked, Nat.shiftRight_eq_div_pow]
  change 256 * (w.toNat / 256 % 16) / 256 = w.toNat / 256 % 16
  omega

theorem sliceY_eq : sliceY w = w.y := by
  have masked : (w &&& 0x00F0).toNat = 16 * (w.toNat / 16 % 16) := by
    rw [toNat_and]
    change 4096 * (w.toNat / 4096 &&& 0) + 256 * (w.toNat / 256 % 16 &&& 0) +
      16 * (w.toNat / 16 % 16 &&& 15) + (w.toNat % 16 &&& 0) = _
    simp only [and_fifteen, Nat.and_zero]
    omega
  rw [sliceY, UInt16.toNat_shiftRight, masked, Nat.shiftRight_eq_div_pow]
  change 16 * (w.toNat / 16 % 16) / 16 = w.toNat / 16 % 16
  omega

theorem sliceKk_eq : sliceKk w = w.kk := by
  apply UInt8.toNat_inj.1
  rw [sliceKk, UInt16.toNat_toUInt8, UInt16.toNat_and, Word.toNat_kk]
  change (w.toNat &&& 255) % 256 = _
  rw [Nat.and_two_pow_sub_one_eq_mod w.toNat 8]
  omega

theorem sliceN_eq : sliceN w = .ofNat w.n := by
  apply UInt8.toNat_inj.1
  rw [sliceN, UInt16.toNat_toUInt8, UInt16.toNat_and, UInt8.toNat_ofNat', Word.val_n]
  change (w.toNat &&& 15) % 256 = _
  rw [and_fifteen]

theorem sliceNnn_eq : sliceNnn w = .ofNat w.nnn := by
  apply UInt16.toNat_inj.1
  rw [sliceNnn, UInt16.toNat_and, UInt16.toNat_ofNat', Word.val_nnn]
  change w.toNat &&& 4095 = _
  rw [Nat.and_two_pow_sub_one_eq_mod w.toNat 12]
  omega

/-! ## Instructions as commands -/

/-- An instruction with plain operands. -/
def ofInstruction : Instruction → Command
  | .sys target => .sys (.ofNat target)
  | .clear => .clear
  | .ret => .ret
  | .jump target => .jump (.ofNat target)
  | .call target => .call (.ofNat target)
  | .skipIf (.isByte x kk) => .skipByte x kk
  | .skipIf (.isNotByte x kk) => .skipNotByte x kk
  | .skipIf (.same x y) => .skipSame x y
  | .setByte x kk => .setByte x kk
  | .addByte x kk => .addByte x kk
  | .alu .copy x y => .copy x y
  | .alu .or x y => .or x y
  | .alu .and x y => .and x y
  | .alu .xor x y => .xor x y
  | .alu .add x y => .add x y
  | .alu .sub x y => .sub x y
  | .alu .shiftRight x y => .shiftRight x y
  | .alu .subFrom x y => .subFrom x y
  | .alu .shiftLeft x y => .shiftLeft x y
  | .skipIf (.differ x y) => .skipDiffer x y
  | .setIndex target => .setIndex (.ofNat target)
  | .jumpPlus target => .jumpPlus (.ofNat target)
  | .random x mask => .random x mask
  | .draw x y height => .draw x y (.ofNat height)
  | .skipIf (.keyDown x) => .skipDown x
  | .skipIf (.keyUp x) => .skipUp x
  | .readDelay x => .readDelay x
  | .awaitKey x => .awaitKey x
  | .setDelay x => .setDelay x
  | .setSound x => .setSound x
  | .addIndex x => .addIndex x
  | .glyph x => .glyph x
  | .decimal x => .decimal x
  | .save x => .save x
  | .restore x => .restore x

/-- The number as one below `n`. -/
def below? (n k : ℕ) : Option (Fin n) :=
  if h : k < n then some ⟨k, h⟩ else none

@[simp] theorem below?_val {n : ℕ} (k : Fin n) : below? n k = some k :=
  dif_pos k.isLt

/-- The instruction that a command is, if its operands are as wide as those of a word. -/
def instruction? : Command → Option Instruction
  | .sys nnn => (below? 4096 nnn.toNat).map .sys
  | .clear => some .clear
  | .ret => some .ret
  | .jump nnn => (below? 4096 nnn.toNat).map .jump
  | .call nnn => (below? 4096 nnn.toNat).map .call
  | .skipByte x kk => (below? 16 x).map fun x => .skipIf (.isByte x kk)
  | .skipNotByte x kk => (below? 16 x).map fun x => .skipIf (.isNotByte x kk)
  | .skipSame x y => onRegisters x y fun x y => .skipIf (.same x y)
  | .setByte x kk => (below? 16 x).map (.setByte · kk)
  | .addByte x kk => (below? 16 x).map (.addByte · kk)
  | .copy x y => onRegisters x y (.alu .copy)
  | .or x y => onRegisters x y (.alu .or)
  | .and x y => onRegisters x y (.alu .and)
  | .xor x y => onRegisters x y (.alu .xor)
  | .add x y => onRegisters x y (.alu .add)
  | .sub x y => onRegisters x y (.alu .sub)
  | .shiftRight x y => onRegisters x y (.alu .shiftRight)
  | .subFrom x y => onRegisters x y (.alu .subFrom)
  | .shiftLeft x y => onRegisters x y (.alu .shiftLeft)
  | .skipDiffer x y => onRegisters x y fun x y => .skipIf (.differ x y)
  | .setIndex nnn => (below? 4096 nnn.toNat).map .setIndex
  | .jumpPlus nnn => (below? 4096 nnn.toNat).map .jumpPlus
  | .random x kk => (below? 16 x).map (.random · kk)
  | .draw x y n => do
    let height ← below? 16 n.toNat
    onRegisters x y (.draw · · height)
  | .skipDown x => (below? 16 x).map fun x => .skipIf (.keyDown x)
  | .skipUp x => (below? 16 x).map fun x => .skipIf (.keyUp x)
  | .readDelay x => (below? 16 x).map .readDelay
  | .awaitKey x => (below? 16 x).map .awaitKey
  | .setDelay x => (below? 16 x).map .setDelay
  | .setSound x => (below? 16 x).map .setSound
  | .addIndex x => (below? 16 x).map .addIndex
  | .glyph x => (below? 16 x).map .glyph
  | .decimal x => (below? 16 x).map .decimal
  | .save x => (below? 16 x).map .save
  | .restore x => (below? 16 x).map .restore
where
  onRegisters (x y : ℕ) (f : Register → Register → Instruction) : Option Instruction := do
    let x ← below? 16 x
    let y ← below? 16 y
    some (f x y)

/-- Every operand of an instruction is as wide as one of a word. -/
theorem instruction?_ofInstruction (i : Instruction) : (ofInstruction i).instruction? = some i := by
  have address (target : Address) : below? 4096 (UInt16.ofNat target).toNat = some target := by
    rw [UInt16.toNat_ofNat', Nat.mod_eq_of_lt (by omega), below?_val]
  have height (n : Fin 16) : below? 16 (UInt8.ofNat n).toNat = some n := by
    rw [UInt8.toNat_ofNat', Nat.mod_eq_of_lt (by omega), below?_val]
  cases i with
  | skipIf condition =>
    cases condition <;> simp only [ofInstruction, instruction?, instruction?.onRegisters,
      below?_val, Option.map_some, Option.bind_eq_bind, Option.bind_some]
  | alu op x y =>
    cases op <;> simp only [ofInstruction, instruction?, instruction?.onRegisters, below?_val,
      Option.bind_eq_bind, Option.bind_some]
  | _ =>
    simp only [ofInstruction, instruction?, instruction?.onRegisters, below?_val, address, height,
      Option.map_some, Option.bind_eq_bind, Option.bind_some]

/-! ## The two decoders -/

/-- No form fits a word if none of those with its lead has its low byte. -/
theorem lookup_eq_none {forms : List (Word × Command)} {v : Word}
    (apart : ∀ f ∈ forms, f.1.lead = v.lead → f.1.kk ≠ v.kk) : forms.lookup v = none := by
  rw [List.lookup_eq_none_iff]
  intro f mem
  rw [bne_iff_ne]
  rintro rfl
  exact apart f mem rfl rfl

/-- Only the leads `5`, `8` and `9` have patterns with a last nibble. -/
theorem lookup_nibbleForms_eq_none (x y : ℕ) {lead : Fin 16} (n : Fin 16)
    (other : lead ∉ [0x5, 0x8, 0x9]) :
    (nibbleForms x y).lookup (.ofNibbles lead 0 0 n) = none := by
  have leads : ∀ f ∈ nibbleForms x y, f.1.lead ∈ ([0x5, 0x8, 0x9] : List (Fin 16)) := by
    simp only [nibbleForms, List.forall_mem_cons]
    decide
  refine lookup_eq_none fun f mem same => absurd (leads f mem) ?_
  rwa [same, Word.lead_ofNibbles]

/-- Only the leads `E` and `F` have patterns with a low byte. -/
theorem lookup_byteForms_eq_none (x : ℕ) {lead : Fin 16} (kk : UInt8)
    (other : lead ∉ [0xE, 0xF]) : (byteForms x).lookup (.ofByte lead 0 kk) = none := by
  have leads : ∀ f ∈ byteForms x, f.1.lead ∈ ([0xE, 0xF] : List (Fin 16)) := by
    simp only [byteForms, List.forall_mem_cons]
    decide
  refine lookup_eq_none fun f mem same => absurd (leads f mem) ?_
  rwa [same, Word.lead_ofByte]

variable {w}

/-- A word that starts with a nibble other than `0` is neither of the two whole words. -/
theorem ne_of_lead {v : Word} (zero : v.lead = 0) (other : w.lead ≠ 0) : w ≠ v := by
  rintro rfl
  exact other zero

/-- Family `0` has its two whole words first. -/
theorem decode?_of_zero (lead : w.lead = 0x0) :
    decode? w = some (ofInstruction (Instruction.ofZeroFamily w.nnn)) := by
  have word := w.ofAddress_slices
  rw [lead] at word
  have nibbles : (nibbleForms w.x w.y).lookup (.ofNibbles 0x0 0 0 w.n) = none :=
    lookup_nibbleForms_eq_none w.x w.y w.n (by decide)
  have byte : (byteForms w.x).lookup (.ofByte 0x0 0 w.kk) = none :=
    lookup_byteForms_eq_none w.x w.kk (by decide)
  have clear : w = 0x00E0 ↔ w.nnn = 0x0E0 :=
    ⟨fun same => congrArg Word.nnn same, fun same => by rw [← word, same]; rfl⟩
  have ret : w = 0x00EE ↔ w.nnn = 0x0EE :=
    ⟨fun same => congrArg Word.nnn same, fun same => by rw [← word, same]; rfl⟩
  simp only [decode?, and_nibbles, and_byte, and_lead, lead, sliceX_eq, sliceY_eq, sliceKk_eq,
    sliceN_eq, sliceNnn_eq, nibbles, byte, clear, ret, Instruction.ofZeroFamily]
  split
  · rfl
  · split <;> rfl

theorem decode?_of_ne_zero (lead : w.lead ≠ 0x0) :
    decode? w = ((nibbleForms w.x w.y).lookup (.ofNibbles w.lead 0 0 w.n) <|>
      (byteForms w.x).lookup (.ofByte w.lead 0 w.kk) <|>
        (leadForms w.x w.y w.kk (.ofNat w.n) (.ofNat w.nnn)).lookup
          (.ofNibbles w.lead 0 0 0)) := by
  rw [decode?, if_neg (ne_of_lead rfl lead), if_neg (ne_of_lead rfl lead), and_nibbles, and_byte,
    and_lead, sliceX_eq, sliceY_eq, sliceKk_eq, sliceN_eq, sliceNnn_eq]

/-- The families `5`, `8` and `9` are told apart further by their last nibble. -/
theorem decode?_of_nibble (family : w.lead ∈ [0x5, 0x8, 0x9]) :
    decode? w = (Instruction.decode? w).map ofInstruction := by
  have ⟨zero, other⟩ : w.lead ≠ 0 ∧ w.lead ∉ [0xE, 0xF] := by
    revert family
    generalize w.lead = lead
    revert lead
    decide
  rw [decode?_of_ne_zero zero, lookup_byteForms_eq_none w.x w.kk other, Instruction.decode?]
  generalize w.lead = lead at family
  generalize w.n = n
  simp only [List.mem_cons, List.not_mem_nil, or_false] at family
  rcases family with rfl | rfl | rfl <;> fin_cases n <;> rfl

/-- The families `E` and `F` are told apart further by their low byte. -/
theorem decode?_of_byte (family : w.lead ∈ [0xE, 0xF]) :
    decode? w = (Instruction.decode? w).map ofInstruction := by
  have ⟨zero, other⟩ : w.lead ≠ 0 ∧ w.lead ∉ [0x5, 0x8, 0x9] := by
    revert family
    generalize w.lead = lead
    revert lead
    decide
  rw [decode?_of_ne_zero zero, lookup_nibbleForms_eq_none w.x w.y w.n other, Instruction.decode?]
  generalize w.lead = lead at family
  generalize w.kk = kk
  have unknown {lead : Fin 16} {bytes : List UInt8} (other : kk ∉ bytes)
      (all : ∀ f ∈ byteForms w.x, f.1.lead = lead → f.1.kk ∈ bytes) :
      (byteForms w.x).lookup (.ofByte lead 0 kk) = none := by
    refine lookup_eq_none ?_
    rw [Word.lead_ofByte, Word.kk_ofByte]
    rintro f mem same rfl
    exact other (all f mem same)
  simp only [List.mem_cons, List.not_mem_nil, or_false] at family
  rcases family with rfl | rfl
  · change _ = (Instruction.ofKeyFamily? w.x kk).map ofInstruction
    unfold Instruction.ofKeyFamily?
    split
    case h_3 =>
      have other : kk ∉ [0x9E, 0xA1] := by
        simp only [List.mem_cons, List.not_mem_nil, or_false, not_or]
        and_intros <;> assumption
      rw [unknown other (by simp only [byteForms, List.forall_mem_cons]; decide)]
      rfl
    all_goals rfl
  · change _ = (Instruction.ofIndexFamily? w.x kk).map ofInstruction
    unfold Instruction.ofIndexFamily?
    split
    case h_10 =>
      have other : kk ∉ [0x07, 0x0A, 0x15, 0x18, 0x1E, 0x29, 0x33, 0x55, 0x65] := by
        simp only [List.mem_cons, List.not_mem_nil, or_false, not_or]
        and_intros <;> assumption
      rw [unknown other (by simp only [byteForms, List.forall_mem_cons]; decide)]
      rfl
    all_goals rfl

/-- The other families have one pattern each. -/
theorem decode?_of_lead (zero : w.lead ≠ 0) (nibble : w.lead ∉ [0x5, 0x8, 0x9])
    (byte : w.lead ∉ [0xE, 0xF]) : decode? w = (Instruction.decode? w).map ofInstruction := by
  rw [decode?_of_ne_zero zero, lookup_nibbleForms_eq_none w.x w.y w.n nibble,
    lookup_byteForms_eq_none w.x w.kk byte, Instruction.decode?]
  generalize w.lead = lead at zero nibble byte
  fin_cases lead
  case «0» => exact absurd rfl zero
  case «5» | «8» | «9» => exact absurd (by decide) nibble
  case «14» | «15» => exact absurd (by decide) byte
  all_goals rfl

/-- Decoding by masks is decoding by nibbles. -/
theorem decode?_eq (w : Word) : decode? w = (Instruction.decode? w).map ofInstruction := by
  by_cases zero : w.lead = 0
  · rw [decode?_of_zero zero, Instruction.decode?]
    simp only [zero]
    rfl
  by_cases nibble : w.lead ∈ [0x5, 0x8, 0x9]
  · exact decode?_of_nibble nibble
  by_cases byte : w.lead ∈ [0xE, 0xF]
  · exact decode?_of_byte byte
  exact decode?_of_lead zero nibble byte

end Command
end Chip8
