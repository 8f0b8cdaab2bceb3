import Chip8.CommandLine.Reader

/-!
# Arguments one by one

What a single argument is, as far as that can be seen without the arguments around it.
An argument that begins with a dash is an option, except a lone dash; a value may be
attached to an option by an equals sign.

## Main definitions

* `Token` — the kinds of arguments.
* `Token.ofArgument` — the kind of an argument.
-/

namespace Chip8.CommandLine

/-- The kinds of arguments. -/
inductive Token where
  /-- A file name or the value of a setting. -/
  | plain (a : Argument)
  /-- A setting, with the value attached to it, if there is one. -/
  | setting (s : Setting) (value : Option Argument)
  | switch (s : Switch)
  /-- Two dashes, after which every argument is plain. -/
  | separator
  | help
  /-- A value attached to an option that takes none. -/
  | attached
  /-- An option that there is not. -/
  | unknown
  deriving DecidableEq

namespace Token

/-- The option of a name, with the value attached to it. -/
def ofName (name : Argument) (value : Option Argument) : Token :=
  match Setting.all.find? (fun s => .ofText s.name = name) with
  | some s => .setting s value
  | none =>
    match Switch.all.find? (fun s => .ofText s.name = name), value with
    | some s, none => .switch s
    | some _, some _ => .attached
    | none, none => if name = .ofText "help" then .help else .unknown
    | none, some _ => if name = .ofText "help" then .attached else .unknown

/-- The option that stands after two dashes. -/
def ofOption (option : List UInt8) : Token :=
  let name := option.takeWhile (· ≠ 0x3D)
  match option.dropWhile (· ≠ 0x3D) with
  | [] => ofName name none
  | _ :: value => ofName name (some value)

/-- The kind of an argument. After a single dash, only a leading `h` means anything. -/
def ofArgument (a : Argument) : Token :=
  match a with
  | [0x2D, 0x2D] => .separator
  | 0x2D :: 0x2D :: option => ofOption option
  | [0x2D] => .plain a
  | 0x2D :: 0x68 :: _ => .help
  | 0x2D :: _ => .unknown
  | _ => .plain a

/-! ## Options -/

variable {a : Argument} {option : List UInt8}

/-- What does not begin with a dash is plain. -/
theorem ofArgument_of_dashed (bare : a.dashed = false) : ofArgument a = .plain a := by
  have first : a.head? ≠ some 0x2D := of_decide_eq_false bare
  unfold ofArgument
  split <;> simp_all

theorem ofArgument_dashes (filled : option ≠ []) :
    ofArgument (0x2D :: 0x2D :: option) = ofOption option := by
  cases option with
  | nil => exact absurd rfl filled
  | cons b rest => rfl

theorem ofOption_append (bare : 0x3D ∉ option) (value : List UInt8) :
    ofOption (option ++ 0x3D :: value) = ofName option (some value) := by
  have all : ∀ b ∈ option, decide (b ≠ 0x3D) = true :=
    fun b mem => decide_eq_true fun same => bare (same ▸ mem)
  rw [ofOption, List.takeWhile_append_of_pos all, List.dropWhile_append_of_pos all]
  simp

theorem ofArgument_setting (s : Setting) : ofArgument s.argument = .setting s none := by
  cases s <;> decide

theorem ofArgument_attach (s : Setting) (value : Argument) :
    ofArgument (s.argument.attach value) = .setting s (some value) := by
  have split : s.argument = 0x2D :: 0x2D :: Argument.ofText s.name := by cases s <;> decide
  have bare : 0x3D ∉ Argument.ofText s.name := by cases s <;> decide
  have found : ofName (.ofText s.name) (some value) = .setting s (some value) := by
    cases s <;> rfl
  rw [split, Argument.attach, List.cons_append, List.cons_append, ofArgument_dashes (by simp),
    ofOption_append bare, found]

theorem ofArgument_switch (s : Switch) : ofArgument s.argument = .switch s := by
  cases s <;> decide

end Token
end Chip8.CommandLine
