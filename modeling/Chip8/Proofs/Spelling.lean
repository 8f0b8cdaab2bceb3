import Chip8.CommandLine.Reader
import Mathlib.Data.List.Nodup

/-!
# The spellings of a choice

What is asked for on a command line is a file name, some of the settings with a number that
they accept, and some of the switches. It is spelled item by item, in any order: a number may
have a plus and zeros in front, and it is attached to the name of its setting or follows it. A
file name is any run of bytes that is not empty and does not look like an option.

## Main definitions

* `Numeral`, `FileName`, `Given`, `Choice` — what can be asked for, and how it is written.
* `Item`, `Item.spelling` — one part of a choice, and the arguments that it is spelled with.
* `Choice.items`, `Choice.arguments` — the parts, and what they ask for.

## Main statements

* `Setting.read?_argument`, `Setting.range_of_read?` — which values a setting accepts.
* `Choice.mem_items`, `Choice.nodup_kinds` — the items of a choice.
-/

namespace Chip8

/-! ## Numerals -/

namespace Decimal

theorem ofDigitChars_replicate_zero (zeros : ℕ) :
    Nat.ofDigitChars 10 (List.replicate zeros '0') 0 = 0 := by
  induction zeros with
  | zero => rfl
  | succ zeros ih =>
    rw [List.replicate_succ, Nat.ofDigitChars_cons]
    exact ih

variable {digits : List Char}

/-- A run of digits is also a number with an optional plus, since it does not begin with one. -/
theorem unsigned?_of_isDigit (all : ∀ c ∈ digits, c.isDigit = true) :
    unsigned? digits = value? digits := by
  rw [unsigned?]
  rintro rest rfl
  exact absurd (all '+' List.mem_cons_self) (by decide)

/-- A number that does not begin with a minus is not signed. -/
theorem signed?_of_head?_ne {text : List Char} (first : text.head? ≠ some '-') :
    signed? text = (unsigned? text).map Int.ofNat := by
  unfold signed?
  split
  · exact absurd rfl first
  · cases unsigned? text <;> rfl

end Decimal

namespace CommandLine

namespace Argument

theorem toNat_ofNat_byte (b : UInt8) : (Char.ofNat b.toNat).toNat = b.toNat := by
  have small := b.toNat_lt
  have valid : b.toNat.isValidChar := .inl (by omega)
  rw [Char.ofNat, dif_pos valid]
  rfl

/-- A text of basic Latin characters takes a byte for each of them. -/
theorem latin_ofText {text : String} (basic : ∀ c ∈ text.toList, c.toNat < 0x80) :
    (ofText text).latin = text.toList := by
  rw [ofText, latin, Utf8.encode]
  generalize text.toList = cs at basic
  induction cs with
  | nil => rfl
  | cons c cs ih =>
    have small := basic c List.mem_cons_self
    have byte : (UInt8.ofNat c.toNat).toNat = c.toNat := by
      rw [UInt8.toNat_ofNat']
      omega
    rw [List.flatMap_cons, Utf8.bytes, if_pos small, List.singleton_append, List.map_cons,
      List.map_cons, ih fun d mem => basic d (List.mem_cons_of_mem _ mem), byte, Char.ofNat_toNat]

/-- A dash is one byte. -/
theorem dashed_eq_false_iff {a : Argument} : a.dashed = false ↔ a.latin.head? ≠ some '-' := by
  cases a with
  | nil => simp [dashed, latin]
  | cons b rest =>
    have dash : Char.ofNat b.toNat = '-' ↔ b = 0x2D := by
      constructor
      · intro same
        have number := congrArg Char.toNat same
        rw [toNat_ofNat_byte] at number
        exact UInt8.toNat_inj.1 number
      · rintro rfl
        rfl
    simp [dashed, latin, dash]

end Argument

/-- A decimal number as it can be written. -/
structure Numeral where
  /-- Whether a plus stands in front. -/
  plus : Bool
  /-- How many zeros are written that need not be. -/
  zeros : ℕ
  value : ℕ
  deriving DecidableEq

namespace Numeral

variable (n : Numeral)

/-- The digits of a number, with the zeros that need not be written. -/
def digits : List Char :=
  List.replicate n.zeros '0' ++ Nat.toDigits 10 n.value

def text : String :=
  .ofList (if n.plus then '+' :: n.digits else n.digits)

theorem isDigit_of_mem_digits : ∀ c ∈ n.digits, c.isDigit = true := by
  intro c mem
  rcases List.mem_append.1 mem with zero | digit
  · rw [List.eq_of_mem_replicate zero]
    rfl
  · exact Nat.isDigit_of_mem_toDigits (by decide) (by decide) digit

theorem value?_digits : Decimal.value? n.digits = some n.value := by
  have filled : n.digits ≠ [] := by simp [digits, Nat.toDigits_ne_nil]
  have all : n.digits.all Char.isDigit = true := List.all_eq_true.2 n.isDigit_of_mem_digits
  rw [Decimal.value?, if_pos ⟨filled, all⟩, digits, Nat.ofDigitChars_append,
    Decimal.ofDigitChars_replicate_zero, Nat.ofDigitChars_ten_toDigits]

/-- How a number is written in an argument. -/
def argument : Argument :=
  .ofText n.text

theorem mem_text {c : Char} (mem : c ∈ n.text.toList) : c = '+' ∨ c.isDigit = true := by
  rw [text, String.toList_ofList] at mem
  cases plus : n.plus with
  | true =>
    rw [plus] at mem
    exact (List.mem_cons.1 mem).imp_right (n.isDigit_of_mem_digits c)
  | false =>
    rw [plus] at mem
    exact .inr (n.isDigit_of_mem_digits c mem)

theorem latin_argument : n.argument.latin = n.text.toList := by
  refine Argument.latin_ofText fun c mem => ?_
  rcases n.mem_text mem with rfl | digit
  · decide
  · obtain ⟨-, high⟩ := Char.isDigit_iff_toNat.1 digit
    exact Nat.lt_of_le_of_lt high (by decide)

theorem unsigned?_argument : Decimal.unsigned? n.argument.latin = some n.value := by
  rw [latin_argument, text, String.toList_ofList]
  cases n.plus with
  | true => exact n.value?_digits
  | false =>
    exact (Decimal.unsigned?_of_isDigit n.isDigit_of_mem_digits).trans n.value?_digits

theorem head?_argument_ne : n.argument.latin.head? ≠ some '-' := by
  rw [latin_argument]
  intro head
  rcases n.mem_text (List.mem_of_head? head) with same | digit
  · cases same
  · cases digit

/-- A number does not look like an option. -/
theorem dashed_argument : n.argument.dashed = false :=
  Argument.dashed_eq_false_iff.2 n.head?_argument_ne

end Numeral

/-! ## Settings -/

namespace Setting

theorem number?_argument (s : Setting) (n : Numeral) :
    s.number? n.argument = some (n.value : Int) := by
  cases s with
  | scale | cyclesPerFrame =>
    rw [number?, Decimal.signed?_of_head?_ne n.head?_argument_ne, n.unsigned?_argument]
    rfl
  | seed =>
    rw [number?, n.unsigned?_argument]
    rfl

theorem between_eq_some_iff {least most value : ℕ} {i : Int} :
    between least most i = some value ↔ i = value ∧ least ≤ value ∧ value ≤ most := by
  rw [between]
  split <;> simp <;> omega

/-- A setting accepts every spelling of the numbers in its range. -/
theorem read?_argument {s : Setting} {n : Numeral} (low : s.least ≤ n.value)
    (high : n.value ≤ s.most) : s.read? n.argument = some n.value := by
  rw [read?, number?_argument, Option.bind_some]
  exact between_eq_some_iff.2 ⟨rfl, low, high⟩

/-- A setting accepts only numbers in its range. -/
theorem range_of_read? {s : Setting} {v : Argument} {value : ℕ}
    (read : s.read? v = some value) : s.least ≤ value ∧ value ≤ s.most := by
  obtain ⟨i, -, within⟩ := Option.bind_eq_some_iff.1 read
  exact (between_eq_some_iff.1 within).2

end Setting

/-! ## Choices and their spellings -/

/-- A name that can be given to a program file on the command line. -/
structure FileName where
  name : Argument
  filled : name ≠ []
  bare : name.dashed = false
  deriving DecidableEq

/-- The value of a setting, with the way in which it is written. -/
structure Given (s : Setting) extends Numeral where
  low : s.least ≤ value
  high : value ≤ s.most
  /-- Whether the value is attached to the name of the setting or stands apart. -/
  attached : Bool
  deriving DecidableEq

/-- What one part of a command line is about. -/
inductive Kind where
  | file
  | setting (s : Setting)
  | switch (s : Switch)
  deriving DecidableEq

namespace Kind

def all : List Kind :=
  .file :: Setting.all.map .setting ++ Switch.all.map .switch

theorem mem_all (k : Kind) : k ∈ all := by
  cases k with
  | file => decide
  | setting s => cases s <;> decide
  | switch s => cases s <;> decide

theorem nodup_all : all.Nodup := by decide

end Kind

/-- A part of a command line that means something by itself. -/
inductive Item where
  | file (file : FileName)
  | setting (s : Setting) (given : Given s)
  | switch (s : Switch)
  deriving DecidableEq

namespace Item

def kind : Item → Kind
  | .file _ => .file
  | .setting s _ => .setting s
  | .switch s => .switch s

/-- The arguments that an item is spelled with. -/
def spelling : Item → List Argument
  | .file f => [f.name]
  | .setting s given =>
    if given.attached then [s.argument.attach given.argument]
    else [s.argument, given.argument]
  | .switch s => [s.argument]

end Item

/-- What can be asked for: a file, the settings that are given, and the switches that are
turned on. -/
structure Choice where
  file : FileName
  settings : (s : Setting) → Option (Given s)
  switches : Switch → Bool

namespace Choice

variable (c : Choice)

/-- The item of a kind, if there is one. -/
def item? : Kind → Option Item
  | .file => some (.file c.file)
  | .setting s => (c.settings s).map (.setting s)
  | .switch s => if c.switches s then some (.switch s) else none

/-- The items of a choice, in one of their orders. -/
def items : List Item :=
  Kind.all.filterMap c.item?

/-- The value that is chosen for a setting. -/
def value? (s : Setting) : Option ℕ :=
  (c.settings s).map fun given => given.value

/-- The arguments that are asked for. -/
def arguments : Arguments where
  rom := c.file.name
  scale := (c.value? .scale).getD 10
  cyclesPerFrame := (c.value? .cyclesPerFrame).getD 10
  seed := c.value? .seed
  anyPixelCollision := c.switches .anyPixelCollision
  disassemble := c.switches .disassemble

variable {c} {k : Kind} {i : Item}

theorem kind_of_item? (given : c.item? k = some i) : i.kind = k := by
  cases k with
  | file =>
    cases given
    rfl
  | setting s =>
    obtain ⟨value, -, rfl⟩ := Option.map_eq_some_iff.1 given
    rfl
  | switch s =>
    obtain ⟨-, rfl⟩ : c.switches s = true ∧ .switch s = i := by simpa [item?] using given
    rfl

theorem mem_items : i ∈ c.items ↔ c.item? i.kind = some i := by
  constructor
  · intro mem
    obtain ⟨k, -, given⟩ := List.mem_filterMap.1 mem
    rwa [kind_of_item? given]
  · exact fun given => List.mem_filterMap.2 ⟨i.kind, i.kind.mem_all, given⟩

/-- A choice has no two items of a kind. -/
theorem nodup_kinds (c : Choice) : (c.items.map Item.kind).Nodup := by
  rw [items, List.map_filterMap]
  refine Kind.nodup_all.filterMap fun k k' kind first second => ?_
  obtain ⟨i, given, rfl⟩ := Option.map_eq_some_iff.1 first
  obtain ⟨j, given', same⟩ := Option.map_eq_some_iff.1 second
  rw [← kind_of_item? given, ← kind_of_item? given', same]

end Choice

end CommandLine
end Chip8
