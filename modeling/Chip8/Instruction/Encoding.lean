import Chip8.Instruction

/-!
# Instructions as words

`encode` writes an instruction as its word and `decode?` reads a word. The leading
nibble chooses the family; the families `5`, `8` and `9` look at the last nibble too,
`E` and `F` at the low byte, and family `0` sets two words apart from its other ones.
Words outside the patterns stand for no instruction.

Reading undoes writing (`decode?_encode`) and writing undoes reading
(`encode_of_decode?`), so the patterns neither overlap nor lose a bit. The one
exception is by design: `sys` cannot name the two addresses whose words mean `clear`
and `ret`, which is what `Instruction.Canonical` says.

## Main definitions

* `Instruction.encode`, `Instruction.decode?` — the two directions.
* `Instruction.Canonical` — the instructions that have a word of their own.
-/

namespace Chip8

/-! ## Operations on two registers -/

/-- The last nibble that chooses an operation. -/
def Alu.nibble : Alu → Fin 16
  | .copy => 0x0
  | .or => 0x1
  | .and => 0x2
  | .xor => 0x3
  | .add => 0x4
  | .sub => 0x5
  | .shiftRight => 0x6
  | .subFrom => 0x7
  | .shiftLeft => 0xE

/-- The operation that a last nibble chooses. -/
def Alu.ofNibble? (n : Fin 16) : Option Alu :=
  match n with
  | 0x0 => some .copy
  | 0x1 => some .or
  | 0x2 => some .and
  | 0x3 => some .xor
  | 0x4 => some .add
  | 0x5 => some .sub
  | 0x6 => some .shiftRight
  | 0x7 => some .subFrom
  | 0xE => some .shiftLeft
  | _ => none

theorem Alu.ofNibble?_eq_some_iff {n : Fin 16} {op : Alu} :
    Alu.ofNibble? n = some op ↔ n = op.nibble := by
  revert n
  cases op <;> decide

namespace Instruction

/-! ## Writing -/

/-- The word of an instruction. -/
def encode : Instruction → Word
  | .sys target => .ofAddress 0x0 target
  | .clear => .ofAddress 0x0 0x0E0
  | .ret => .ofAddress 0x0 0x0EE
  | .jump target => .ofAddress 0x1 target
  | .call target => .ofAddress 0x2 target
  | .skipIf (.isByte x kk) => .ofByte 0x3 x kk
  | .skipIf (.isNotByte x kk) => .ofByte 0x4 x kk
  | .skipIf (.same x y) => .ofNibbles 0x5 x y 0x0
  | .setByte x kk => .ofByte 0x6 x kk
  | .addByte x kk => .ofByte 0x7 x kk
  | .alu op x y => .ofNibbles 0x8 x y op.nibble
  | .skipIf (.differ x y) => .ofNibbles 0x9 x y 0x0
  | .setIndex target => .ofAddress 0xA target
  | .jumpPlus target => .ofAddress 0xB target
  | .random x mask => .ofByte 0xC x mask
  | .draw x y height => .ofNibbles 0xD x y height
  | .skipIf (.keyDown x) => .ofByte 0xE x 0x9E
  | .skipIf (.keyUp x) => .ofByte 0xE x 0xA1
  | .readDelay x => .ofByte 0xF x 0x07
  | .awaitKey x => .ofByte 0xF x 0x0A
  | .setDelay x => .ofByte 0xF x 0x15
  | .setSound x => .ofByte 0xF x 0x18
  | .addIndex x => .ofByte 0xF x 0x1E
  | .glyph x => .ofByte 0xF x 0x29
  | .decimal x => .ofByte 0xF x 0x33
  | .save x => .ofByte 0xF x 0x55
  | .restore x => .ofByte 0xF x 0x65

/-! ## Reading -/

/-- Family `0`: two words of their own, and machine-code calls otherwise. -/
def ofZeroFamily (target : Address) : Instruction :=
  if target = 0x0E0 then .clear
  else if target = 0x0EE then .ret
  else .sys target

/-- Family `E`: the skips that look at a key. -/
def ofKeyFamily? (x : Register) (kk : UInt8) : Option Instruction :=
  match kk with
  | 0x9E => some (.skipIf (.keyDown x))
  | 0xA1 => some (.skipIf (.keyUp x))
  | _ => none

/-- Family `F`: timers, the key wait, and what works on `I`. -/
def ofIndexFamily? (x : Register) (kk : UInt8) : Option Instruction :=
  match kk with
  | 0x07 => some (.readDelay x)
  | 0x0A => some (.awaitKey x)
  | 0x15 => some (.setDelay x)
  | 0x18 => some (.setSound x)
  | 0x1E => some (.addIndex x)
  | 0x29 => some (.glyph x)
  | 0x33 => some (.decimal x)
  | 0x55 => some (.save x)
  | 0x65 => some (.restore x)
  | _ => none

/-- The instruction that a word stands for, if any. The last case is family `F`. -/
def decode? (w : Word) : Option Instruction :=
  match w.lead with
  | 0x0 => some (ofZeroFamily w.nnn)
  | 0x1 => some (.jump w.nnn)
  | 0x2 => some (.call w.nnn)
  | 0x3 => some (.skipIf (.isByte w.x w.kk))
  | 0x4 => some (.skipIf (.isNotByte w.x w.kk))
  | 0x5 => if w.n = 0 then some (.skipIf (.same w.x w.y)) else none
  | 0x6 => some (.setByte w.x w.kk)
  | 0x7 => some (.addByte w.x w.kk)
  | 0x8 => (Alu.ofNibble? w.n).map fun op => .alu op w.x w.y
  | 0x9 => if w.n = 0 then some (.skipIf (.differ w.x w.y)) else none
  | 0xA => some (.setIndex w.nnn)
  | 0xB => some (.jumpPlus w.nnn)
  | 0xC => some (.random w.x w.kk)
  | 0xD => some (.draw w.x w.y w.n)
  | 0xE => ofKeyFamily? w.x w.kk
  | _ => ofIndexFamily? w.x w.kk

/-- An instruction that has a word of its own: every one but a machine-code call to
one of the two addresses whose words mean `clear` and `ret`. -/
def Canonical : Instruction → Prop
  | .sys target => target ≠ 0x0E0 ∧ target ≠ 0x0EE
  | _ => True

instance : DecidablePred Canonical := fun i => by
  unfold Canonical
  split <;> infer_instance

/-! ## The two directions -/

/-- Every canonical instruction is read back from its word. -/
theorem decode?_encode {i : Instruction} (h : i.Canonical) : decode? i.encode = some i := by
  cases i with
  | sys target => simp [encode, decode?, ofZeroFamily, h.1, h.2]
  | skipIf condition => cases condition <;> simp [encode, decode?, ofKeyFamily?]
  | alu op x y => simp [encode, decode?, Alu.ofNibble?_eq_some_iff]
  | _ => simp [encode, decode?, ofZeroFamily, ofIndexFamily?]

theorem encode_ofZeroFamily (target : Address) :
    (ofZeroFamily target).encode = .ofAddress 0x0 target ∧ (ofZeroFamily target).Canonical := by
  unfold ofZeroFamily
  split
  · simp [encode, Canonical, *]
  · split <;> simp_all [encode, Canonical]

theorem encode_of_ofKeyFamily? {x : Register} {kk : UInt8} {i : Instruction}
    (h : ofKeyFamily? x kk = some i) : i.encode = .ofByte 0xE x kk ∧ i.Canonical := by
  unfold ofKeyFamily? at h
  split at h <;> cases h <;> exact ⟨rfl, trivial⟩

theorem encode_of_ofIndexFamily? {x : Register} {kk : UInt8} {i : Instruction}
    (h : ofIndexFamily? x kk = some i) : i.encode = .ofByte 0xF x kk ∧ i.Canonical := by
  unfold ofIndexFamily? at h
  split at h <;> cases h <;> exact ⟨rfl, trivial⟩

/-- What a word stands for is canonical and has that word. -/
theorem encode_of_decode? {w : Word} {i : Instruction} (h : decode? w = some i) :
    i.encode = w ∧ i.Canonical := by
  have address := w.ofAddress_slices
  have byte := w.ofByte_slices
  have nibbles := w.ofNibbles_slices
  unfold decode? at h
  split at h
  case h_1 l => cases h; rw [← address, l]; simpa [l] using encode_ofZeroFamily w.nnn
  case h_2 l => cases h; rw [l] at address; exact ⟨address, trivial⟩
  case h_3 l => cases h; rw [l] at address; exact ⟨address, trivial⟩
  case h_4 l => cases h; rw [l] at byte; exact ⟨byte, trivial⟩
  case h_5 l => cases h; rw [l] at byte; exact ⟨byte, trivial⟩
  case h_6 l =>
    split at h <;> cases h
    rename_i n
    rw [l, n] at nibbles
    exact ⟨nibbles, trivial⟩
  case h_7 l => cases h; rw [l] at byte; exact ⟨byte, trivial⟩
  case h_8 l => cases h; rw [l] at byte; exact ⟨byte, trivial⟩
  case h_9 l =>
    obtain ⟨op, hop, rfl⟩ := Option.map_eq_some_iff.1 h
    rw [l, Alu.ofNibble?_eq_some_iff.1 hop] at nibbles
    exact ⟨nibbles, trivial⟩
  case h_10 l =>
    split at h <;> cases h
    rename_i n
    rw [l, n] at nibbles
    exact ⟨nibbles, trivial⟩
  case h_11 l => cases h; rw [l] at address; exact ⟨address, trivial⟩
  case h_12 l => cases h; rw [l] at address; exact ⟨address, trivial⟩
  case h_13 l => cases h; rw [l] at byte; exact ⟨byte, trivial⟩
  case h_14 l => cases h; rw [l] at nibbles; exact ⟨nibbles, trivial⟩
  case h_15 l => rw [← byte, l]; simpa [l] using encode_of_ofKeyFamily? h
  case h_16 =>
    have l : w.lead = 0xF := by grind
    rw [← byte, l]
    simpa [l] using encode_of_ofIndexFamily? h

/-- A word stands for an instruction exactly when that instruction is canonical and
has this word. -/
theorem decode?_eq_some_iff {w : Word} {i : Instruction} :
    decode? w = some i ↔ i.Canonical ∧ i.encode = w :=
  ⟨fun h => (encode_of_decode? h).symm, fun ⟨h, e⟩ => e ▸ decode?_encode h⟩

end Instruction
end Chip8
