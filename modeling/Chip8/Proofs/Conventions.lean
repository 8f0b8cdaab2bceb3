import Chip8.CommandLine.Conventional
import Mathlib.Tactic.Common

/-!
# The conventions are kept

The reader that keeps to the conventions does what readers promise. What it has found at a
place is what it comes to once it has checked what it holds back, and it expects an item
wherever that is acceptable.

## Main definitions

* `Reading.Stands` — options may come, and what has been given is acceptable so far.

## Main statements

* `Reading.Stands.takes` — where a step from such a place leads.
* `conventional_documented` — the reader does what readers promise.
-/

namespace Chip8.CommandLine

/-! ## Choices -/

namespace Chosen

variable {c c' : Chosen} {name value : Argument}

theorem takeFile_eq_ok_iff :
    c.takeFile name = .ok c' ↔ name ≠ [] ∧ c' = c.withFile name := by
  cases name with
  | nil => simp [takeFile]
  | cons b rest => simp [takeFile, eq_comm]

theorem takeValue_eq_ok_iff {s : Setting} : c.takeValue s value = .ok c' ↔
    c.values s = none ∧ ∃ n, s.read? value = some n ∧ c' = c.withValue s n := by
  cases before : c.values s with
  | some n => simp [takeValue, before]
  | none => cases read : s.read? value <;> simp [takeValue, before, read, eq_comm]

theorem turnOn_eq_ok_iff {s : Switch} :
    c.turnOn s = .ok c' ↔ c.switches s = false ∧ c' = c.withSwitch s := by
  cases before : c.switches s <;> simp [turnOn, before, eq_comm]

end Chosen

/-! ## Places -/

namespace Reading

variable {r r' : Reading} {c c' : Chosen} {a name : Argument}
  {next : Chosen → Except Refusal Chosen} {pending : Pending}

theorem found_of_settle (settled : r.settle = .ok c) : r.found = c := by
  rw [found, settled]

/-- The name of a file, once read, is known to be there, taken or held back. -/
theorem hasFile_of_settle (settled : r.settle = .ok c) : r.hasFile = c.rom.isSome := by
  rw [settle] at settled
  rw [hasFile]
  split at settled
  · next nothing =>
    cases settled
    simp [nothing]
  · next held =>
    obtain ⟨-, rfl⟩ := Chosen.takeFile_eq_ok_iff.1 settled
    simp [held, Chosen.withFile]
  · cases settled
  · next held =>
    obtain ⟨-, n, -, rfl⟩ := Chosen.takeValue_eq_ok_iff.1 settled
    simp [held, Chosen.withValue]

theorem settleThen_eq_ok_iff : r.settleThen next pending = .ok r' ↔
    ∃ c c', r.settle = .ok c ∧ next c = .ok c' ∧
      r' = { r with chosen := c', pending := pending } := by
  rw [settleThen]
  cases r.settle with
  | error refusal => simp
  | ok c =>
    cases done : next c with
    | error refusal => simp [done]
    | ok c' => simp [done, eq_comm]

/-- Two dashes have not been read, and what has been given is acceptable so far. -/
structure Stands (r : Reading) (c : Chosen) : Prop where
  options : r.literal = false
  settled : r.settle = .ok c

theorem stands_of_expects (open' : r.expects = .item) : r.Stands r.found := by
  cases literal : r.literal with
  | true => simp [expects, literal] at open'
  | false =>
    cases settled : r.settle with
    | ok c =>
      rw [found_of_settle settled]
      exact ⟨literal, settled⟩
    | error refusal =>
      simp only [expects, literal, settled, Bool.false_eq_true, if_false] at open'
      split at open' <;> simp_all

theorem awaits_of_expects {s : Setting} (awaits : r.expects = .value s) :
    r.literal = false ∧ r.pending = .value s none := by
  cases literal : r.literal with
  | true => simp [expects, literal] at awaits
  | false =>
    refine ⟨rfl, ?_⟩
    simp only [expects, literal, Bool.false_eq_true, if_false] at awaits
    split at awaits <;> simp_all

/-- Where an item is expected, it is read as what its argument alone shows. -/
theorem Stands.takes (stands : r'.Stands c') (read : r.read a = .ok r') :
    conventional.Takes r a c' .item := by
  refine ⟨r', read, found_of_settle stands.settled, ?_⟩
  change r'.expects = _
  rw [expects, stands.options, stands.settled]
  rfl

namespace Stands

theorem read_eq (stands : r.Stands c) (a : Argument) :
    r.read a = r.readToken (.ofArgument a) := by
  rw [read, stands.options]
  rfl

theorem settleThen (stands : r.Stands c) (done : next c = .ok c') (pending : Pending) :
    r.settleThen next pending = .ok { r with chosen := c', pending := pending } :=
  settleThen_eq_ok_iff.2 ⟨c, c', stands.settled, done, rfl⟩

theorem read_attached {s : Setting} {v : Argument} {n : ℕ} (stands : r.Stands c)
    (lacks : c.values s = none) (accepted : s.read? v = some n) :
    r.read (s.argument.attach v) =
      .ok { r with chosen := c.withValue s n, pending := .nothing } := by
  rw [stands.read_eq, Token.ofArgument_attach]
  exact stands.settleThen (Chosen.takeValue_eq_ok_iff.2 ⟨lacks, n, accepted, rfl⟩) .nothing

theorem read_named (stands : r.Stands c) (s : Setting) :
    r.read s.argument = .ok { r with chosen := c, pending := .value s none } := by
  rw [stands.read_eq, Token.ofArgument_setting]
  exact stands.settleThen rfl (.value s none)

theorem read_switch {s : Switch} (stands : r.Stands c) (off : c.switches s = false) :
    r.read s.argument = .ok { r with chosen := c.withSwitch s, pending := .nothing } := by
  rw [stands.read_eq, Token.ofArgument_switch]
  exact stands.settleThen (Chosen.turnOn_eq_ok_iff.2 ⟨off, rfl⟩) .nothing

/-- What is neither awaited as a value nor an option is a file name. -/
theorem read_file (stands : r.Stands c) (lacks : c.rom = none) (bare : name.dashed = false) :
    r.read name = .ok { r with chosen := c, pending := .file name } := by
  have settled := stands.settled
  have hasFile : r.hasFile = false := by
    rw [hasFile_of_settle settled, lacks, Option.isSome_none]
  rw [stands.read_eq, Token.ofArgument_of_dashed bare, readToken]
  split
  · next awaiting => simp [settle, awaiting] at settled
  · rw [readFile, hasFile]
    exact stands.settleThen rfl (.file name)

end Stands

/-! ## What an argument adds -/

/-- What one argument can add to what has been found. -/
inductive Adds (c : Chosen) : Chosen → Prop where
  | nothing : Adds c c
  | file {name : Argument} (filled : name ≠ []) : Adds c (c.withFile name)
  | value {s : Setting} {v : Argument} {n : ℕ} (accepted : s.read? v = some n) :
      Adds c (c.withValue s n)
  | switch (s : Switch) : Adds c (c.withSwitch s)

theorem adds_of_readFile (read : r.readFile name = .ok r') : Adds r.found r'.found := by
  rw [readFile] at read
  split at read
  · cases read
  · obtain ⟨c, c', settled, same, rfl⟩ := settleThen_eq_ok_iff.1 read
    cases same
    rw [found_of_settle settled]
    -- The name is held back, and found if it is acceptable.
    cases name with
    | nil => exact .nothing
    | cons b rest => exact .file (List.cons_ne_nil b rest)

theorem adds_of_readToken {token : Token} (read : r.readToken token = .ok r') :
    Adds r.found r'.found := by
  cases token with
  | unknown => cases read
  | attached => cases read
  | help =>
    rw [readToken] at read
    obtain ⟨c, c', -, refused, -⟩ := settleThen_eq_ok_iff.1 read
    cases refused
  | separator =>
    cases read
    exact .nothing
  | switch s =>
    obtain ⟨c, c', settled, on, rfl⟩ := settleThen_eq_ok_iff.1 read
    obtain ⟨-, rfl⟩ := Chosen.turnOn_eq_ok_iff.1 on
    rw [found_of_settle settled]
    exact .switch s
  | setting s value =>
    cases value with
    | none =>
      rw [readToken] at read
      obtain ⟨c, c', settled, same, rfl⟩ := settleThen_eq_ok_iff.1 read
      cases same
      rw [found_of_settle settled]
      exact .nothing
    | some v =>
      obtain ⟨c, c', settled, taken, rfl⟩ := settleThen_eq_ok_iff.1 read
      obtain ⟨-, n, accepted, rfl⟩ := Chosen.takeValue_eq_ok_iff.1 taken
      rw [found_of_settle settled]
      exact .value accepted
  | plain a =>
    rw [readToken] at read
    split at read
    · next s awaiting =>
      cases read
      have before : r.found = r.chosen := by simp [found, settle, awaiting]
      rw [before]
      cases taken : r.chosen.takeValue s a with
      | error refusal => simpa [found, settle, taken] using Adds.nothing
      | ok c =>
        obtain ⟨-, n, accepted, rfl⟩ := Chosen.takeValue_eq_ok_iff.1 taken
        simpa [found, settle, taken] using Adds.value accepted
    · exact adds_of_readFile read

theorem adds_of_read (read : r.read a = .ok r') : Adds r.found r'.found := by
  rw [Reading.read] at read
  split at read
  · exact adds_of_readFile read
  · exact adds_of_readToken read

theorem Adds.values {s : Setting} {n : ℕ} (adds : Adds c c') (given : c'.values s = some n) :
    c.values s = some n ∨ ∃ v, s.read? v = some n := by
  cases adds with
  | nothing | file | switch => exact .inl given
  | @value t v k accepted =>
    by_cases here : s = t
    · subst here
      obtain rfl : k = n := by simpa [Chosen.withValue] using given
      exact .inr ⟨v, accepted⟩
    · exact .inl (by simpa [Chosen.withValue, here] using given)

theorem Adds.rom (adds : Adds c c') (named : c'.rom = some name) :
    c.rom = some name ∨ name ≠ [] := by
  cases adds with
  | nothing | value | switch => exact .inl named
  | file filled =>
    cases named
    exact .inr filled

end Reading

/-- The reader that keeps to the conventions does what readers promise. -/
theorem conventional_documented : conventional.Documented where
  start_found := rfl
  start_expects := rfl
  attached := by
    intro r s v n open' lacks accepted
    have stands := Reading.stands_of_expects open'
    refine Reading.Stands.takes ?_ (stands.read_attached lacks accepted)
    exact ⟨stands.options, rfl⟩
  named := by
    intro r s open' _
    have stands := Reading.stands_of_expects open'
    refine ⟨_, stands.read_named s, rfl, ?_⟩
    change Reading.expects _ = _
    rw [Reading.expects, stands.options]
    rfl
  apart := by
    intro r s v n awaits lacks bare accepted
    obtain ⟨options, awaiting⟩ := Reading.awaits_of_expects awaits
    have before : conventional.found r = r.chosen := by
      simp [conventional, Reading.found, Reading.settle, awaiting]
    rw [before] at lacks ⊢
    have read : r.read v = .ok { r with pending := .value s (some v) } := by
      simp [Reading.read, options, Token.ofArgument_of_dashed bare, Reading.readToken, awaiting]
    refine Reading.Stands.takes ?_ read
    exact ⟨options, Chosen.takeValue_eq_ok_iff.2 ⟨lacks, n, accepted, rfl⟩⟩
  switched := by
    intro r s open' off
    have stands := Reading.stands_of_expects open'
    refine Reading.Stands.takes ?_ (stands.read_switch off)
    exact ⟨stands.options, rfl⟩
  placed := by
    intro r name open' lacks filled bare
    have stands := Reading.stands_of_expects open'
    refine Reading.Stands.takes ?_ (stands.read_file lacks bare)
    exact ⟨stands.options, Chosen.takeFile_eq_ok_iff.2 ⟨filled, rfl⟩⟩
  ended := by
    intro (r : Reading) open'
    have stands := Reading.stands_of_expects open'
    change r.finish = _
    rw [Reading.finish, stands.settled]
    rfl
  answered := by
    intro (r : Reading) a asked
    change r.finish = _ at asked
    rw [Reading.finish] at asked
    split at asked
    · cases asked
    · next c settled =>
      change r.found.arguments = _
      rw [Reading.found_of_settle settled, asked]
  checked := fun read given => (Reading.adds_of_read read).values given
  filled := fun read named => (Reading.adds_of_read read).rom named

end Chip8.CommandLine
