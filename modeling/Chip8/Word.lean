/-!
# Instruction words

An instruction is one sixteen-bit word, stored with its high byte first. Its four
nibbles are a leading one, which chooses the family, and up to three of operands.
The operand slices overlap, and each is defined for every word, whatever the word
turns out to mean.

## Main definitions

* `Word.ofBytes high low` — the word held by two neighbouring cells of memory.
* `Word.lead`, `Word.x`, `Word.y`, `Word.n`, `Word.kk`, `Word.nnn` — the slices.
* `Word.ofNibbles`, `Word.ofByte`, `Word.ofAddress` — a word put together from its
  slices, in the three layouts that instructions use.
-/

namespace Chip8

/-- A sixteen-bit value: an instruction word, the program counter or the register `I`. -/
abbrev Word := UInt16

/-- The number of one of the sixteen registers `V0` to `VF`. -/
abbrev Register := Fin 16

/-- A twelve-bit operand, which can name every cell of memory. -/
abbrev Address := Fin 4096

/-- Registers and nibbles have numerals. -/
instance neZero_sixteen : @NeZero Nat Zero.ofOfNat0 16 :=
  ⟨by decide⟩

namespace Word

/-! ## Bytes -/

/-- The word whose high byte is stored first. -/
def ofBytes (high low : UInt8) : Word :=
  .ofNat (high.toNat * 256 + low.toNat)

/-- The byte of a word that is stored first. -/
def high (w : Word) : UInt8 :=
  .ofNat (w.toNat / 256)

/-- The low byte, which is also the operand of the instructions that take a byte. -/
def kk (w : Word) : UInt8 :=
  .ofNat (w.toNat % 256)

@[simp] theorem toNat_ofBytes (high low : UInt8) :
    (ofBytes high low).toNat = high.toNat * 256 + low.toNat := by
  have h := high.toNat_lt
  have l := low.toNat_lt
  simp only [ofBytes, UInt16.toNat_ofNat']
  omega

@[simp] theorem toNat_high (w : Word) : w.high.toNat = w.toNat / 256 := by
  have h := w.toNat_lt
  simp only [high, UInt8.toNat_ofNat']
  omega

@[simp] theorem toNat_kk (w : Word) : w.kk.toNat = w.toNat % 256 := by
  simp only [kk, UInt8.toNat_ofNat']
  omega

@[simp] theorem high_ofBytes (high low : UInt8) : (ofBytes high low).high = high := by
  have l := low.toNat_lt
  exact UInt8.toNat_inj.1 (by rw [toNat_high, toNat_ofBytes]; omega)

@[simp] theorem kk_ofBytes (high low : UInt8) : (ofBytes high low).kk = low := by
  have l := low.toNat_lt
  exact UInt8.toNat_inj.1 (by rw [toNat_kk, toNat_ofBytes]; omega)

@[simp] theorem ofBytes_high_kk (w : Word) : ofBytes w.high w.kk = w :=
  UInt16.toNat_inj.1 (by rw [toNat_ofBytes, toNat_high, toNat_kk]; omega)

/-! ## Operand slices -/

/-- The leading nibble, bits 12 to 15. -/
def lead (w : Word) : Fin 16 :=
  ⟨w.toNat / 4096, by have := w.toNat_lt; omega⟩

/-- The first register operand, bits 8 to 11. -/
def x (w : Word) : Register :=
  ⟨w.toNat / 256 % 16, by omega⟩

/-- The second register operand, bits 4 to 7. -/
def y (w : Word) : Register :=
  ⟨w.toNat / 16 % 16, by omega⟩

/-- The last nibble, bits 0 to 3: the height of a sprite. -/
def n (w : Word) : Fin 16 :=
  ⟨w.toNat % 16, by omega⟩

/-- The address operand, bits 0 to 11. -/
def nnn (w : Word) : Address :=
  ⟨w.toNat % 4096, by omega⟩

@[simp] theorem val_lead (w : Word) : w.lead.val = w.toNat / 4096 := rfl
@[simp] theorem val_x (w : Word) : w.x.val = w.toNat / 256 % 16 := rfl
@[simp] theorem val_y (w : Word) : w.y.val = w.toNat / 16 % 16 := rfl
@[simp] theorem val_n (w : Word) : w.n.val = w.toNat % 16 := rfl
@[simp] theorem val_nnn (w : Word) : w.nnn.val = w.toNat % 4096 := rfl

/-! ## Layouts -/

/-- The layout of an instruction on two registers, with a last nibble of its own. -/
def ofNibbles (lead : Fin 16) (x y : Register) (n : Fin 16) : Word :=
  .ofNat (lead.val * 4096 + x.val * 256 + y.val * 16 + n.val)

/-- The layout of an instruction on a register and a byte. -/
def ofByte (lead : Fin 16) (x : Register) (kk : UInt8) : Word :=
  .ofNat (lead.val * 4096 + x.val * 256 + kk.toNat)

/-- The layout of an instruction on an address. -/
def ofAddress (lead : Fin 16) (nnn : Address) : Word :=
  .ofNat (lead.val * 4096 + nnn.val)

@[simp] theorem toNat_ofNibbles (lead : Fin 16) (x y : Register) (n : Fin 16) :
    (ofNibbles lead x y n).toNat = lead.val * 4096 + x.val * 256 + y.val * 16 + n.val := by
  simp only [ofNibbles, UInt16.toNat_ofNat']
  omega

@[simp] theorem toNat_ofByte (lead : Fin 16) (x : Register) (kk : UInt8) :
    (ofByte lead x kk).toNat = lead.val * 4096 + x.val * 256 + kk.toNat := by
  have h := kk.toNat_lt
  simp only [ofByte, UInt16.toNat_ofNat']
  omega

@[simp] theorem toNat_ofAddress (lead : Fin 16) (nnn : Address) :
    (ofAddress lead nnn).toNat = lead.val * 4096 + nnn.val := by
  simp only [ofAddress, UInt16.toNat_ofNat']
  omega

section

variable (lead : Fin 16) (x y n : Fin 16) (kk : UInt8) (target : Address)

@[simp] theorem lead_ofNibbles : (ofNibbles lead x y n).lead = lead :=
  Fin.ext (by simp only [val_lead, toNat_ofNibbles]; omega)

@[simp] theorem x_ofNibbles : (ofNibbles lead x y n).x = x :=
  Fin.ext (by simp only [val_x, toNat_ofNibbles]; omega)

@[simp] theorem y_ofNibbles : (ofNibbles lead x y n).y = y :=
  Fin.ext (by simp only [val_y, toNat_ofNibbles]; omega)

@[simp] theorem n_ofNibbles : (ofNibbles lead x y n).n = n :=
  Fin.ext (by simp only [val_n, toNat_ofNibbles]; omega)

@[simp] theorem lead_ofByte : (ofByte lead x kk).lead = lead :=
  Fin.ext (by have := kk.toNat_lt; simp only [val_lead, toNat_ofByte]; omega)

@[simp] theorem x_ofByte : (ofByte lead x kk).x = x :=
  Fin.ext (by have := kk.toNat_lt; simp only [val_x, toNat_ofByte]; omega)

@[simp] theorem kk_ofByte : (ofByte lead x kk).kk = kk :=
  UInt8.toNat_inj.1 (by have := kk.toNat_lt; simp only [toNat_kk, toNat_ofByte]; omega)

@[simp] theorem lead_ofAddress : (ofAddress lead target).lead = lead :=
  Fin.ext (by simp only [val_lead, toNat_ofAddress]; omega)

@[simp] theorem nnn_ofAddress : (ofAddress lead target).nnn = target :=
  Fin.ext (by simp only [val_nnn, toNat_ofAddress]; omega)

end

/-- A word is its four nibbles. -/
theorem ofNibbles_slices (w : Word) : ofNibbles w.lead w.x w.y w.n = w :=
  UInt16.toNat_inj.1 (by simp only [toNat_ofNibbles, val_lead, val_x, val_y, val_n]; omega)

/-- A word is its two leading nibbles and its low byte. -/
theorem ofByte_slices (w : Word) : ofByte w.lead w.x w.kk = w :=
  UInt16.toNat_inj.1 (by simp only [toNat_ofByte, val_lead, val_x, toNat_kk]; omega)

/-- A word is its leading nibble and its address operand. -/
theorem ofAddress_slices (w : Word) : ofAddress w.lead w.nnn = w :=
  UInt16.toNat_inj.1 (by simp only [toNat_ofAddress, val_lead, val_nnn]; omega)

end Word
end Chip8
