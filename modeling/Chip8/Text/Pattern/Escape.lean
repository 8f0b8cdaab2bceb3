import Chip8.Text.Pattern
import Chip8.Text.Pattern.Cursor

/-!
# Escapes in patterns

What a backslash and the characters after it stand for: a character, a set of
characters with a name of one letter, or a condition on a place.

## Main definitions

* `Pattern.Anchor`, `Pattern.Atom` — the smallest parts of patterns.
* `Pattern.Escape.read` — the atom that begins with a backslash.
-/

namespace Chip8.Pattern

/-- A condition on a place, which depends on the flags that are in force. -/
inductive Anchor where
  | lineStart
  | lineStop
  | start
  | stop
  | word (e : Edge)
  deriving DecidableEq

/-- The smallest parts of patterns. -/
inductive Atom where
  /-- A character; it may be written as the number of a byte. -/
  | char (c : Char) (isByte : Bool)
  /-- A set with a name of one letter, or all characters outside it. -/
  | named (set : CharSet) (negated : Bool)
  /-- A set of the Unicode character database, by its name. -/
  | property (name : String)
  | anchor (a : Anchor)
  /-- Any character that does not end a line. -/
  | dot
  deriving DecidableEq

/-- A part of a pattern, the piece of text that it takes up and the place after it. -/
structure Found (α : Type) where
  value : α
  span : Span
  after : Cursor

namespace Escape

/-- The characters that stand for themselves only after a backslash. -/
def isMeta (c : Char) : Bool :=
  "\\.+*?()|[]\x7b\x7d^$#&-~".toList.contains c

/-- Whether a character stands for itself after a backslash. -/
def isPlain (c : Char) : Bool :=
  c.toNat < 0x80 && !c.isAlphanum && c ≠ '<' && c ≠ '>'

/-- The character that a letter stands for after a backslash. -/
def control? : Char → Option Char
  | 'a' => some '\x07'
  | 'f' => some '\x0C'
  | 't' => some '\t'
  | 'n' => some '\n'
  | 'r' => some '\r'
  | 'v' => some '\x0B'
  | _ => none

/-- The condition that a letter stands for after a backslash. -/
def anchor? : Char → Option Anchor
  | 'A' => some .start
  | 'z' => some .stop
  | 'B' => some (.word .noEdge)
  | '<' => some (.word .start)
  | '>' => some (.word .stop)
  | _ => none

/-- The set that a letter stands for after a backslash, a capital meaning the rest. -/
def named? : Char → Option Atom
  | 'd' => some (.named .digit false)
  | 's' => some (.named .space false)
  | 'w' => some (.named .word false)
  | 'D' => some (.named .digit true)
  | 'S' => some (.named .space true)
  | 'W' => some (.named .word true)
  | _ => none

/-! ## Characters by number -/

/-- What a hexadecimal digit counts. -/
def digit? (c : Char) : Option Nat :=
  if c.isDigit then some (c.toNat - '0'.toNat)
  else if 'a' ≤ c ∧ c ≤ 'f' then some (c.toNat - 'a'.toNat + 10)
  else if 'A' ≤ c ∧ c ≤ 'F' then some (c.toNat - 'A'.toNat + 10)
  else none

/-- The number that hexadecimal digits stand for. -/
def value (digits : List Char) : Nat :=
  digits.foldl (fun n c => n * 16 + (digit? c).getD 0) 0

/-- The character with a number, if there is one. -/
def scalar? (n : Nat) : Option Char :=
  if h : n.isValidChar then some (.ofNatAux n h) else none

/-- A number of a fixed count of digits; `read` has those read so far, the last in
front. -/
def readFixed (start c : Cursor) (read : List Char) : Nat → Except Mistake (Char × Cursor)
  | 0 =>
    match scalar? (value read.reverse) with
    | none => .error (.blame .hexInvalid (start.spanTo c))
    | some ch => .ok (ch, c)
  | left + 1 =>
    match c.head? with
    | none => .error (.blame .escapeUnfinished c.here)
    | some d =>
      if (digit? d).isSome then readFixed start c.advance (d :: read) left
      else .error (.blame .hexInvalidDigit c.span)

/-- A number of any count of digits between braces, `c` being at the first brace. -/
def readBraced (c : Cursor) : Except Mistake (Char × Cursor) :=
  let run := c.advance.takeRun fun d => (digit? d).isSome
  match run.2.head? with
  | none => .error (.blame .escapeUnfinished (c.spanTo run.2))
  | some d =>
    if d ≠ '\x7d' then .error (.blame .hexInvalidDigit run.2.span)
    else
      let after := run.2.advance
      if run.1.isEmpty then .error (.blame .hexEmpty (c.spanTo after))
      else
        match scalar? (value run.1) with
        | none => .error (.blame .hexInvalid (c.next.spanTo run.2))
        | some ch => .ok (ch, after)

/-- A character by its number, `c` being at the letter that says how many digits there
are. -/
def readNumber (start c : Cursor) (count : Nat) : Except Mistake (Found Atom) :=
  let digits := c.advance
  match digits.head? with
  | none => .error (.blame .escapeUnfinished digits.here)
  | some '\x7b' =>
    match readBraced digits with
    | .error mistake => .error mistake
    | .ok (ch, after) => .ok ⟨.char ch false, start.spanTo after, after⟩
  | some _ =>
    match readFixed digits digits [] count with
    | .error mistake => .error mistake
    | .ok (ch, after) => .ok ⟨.char ch (count = 2), start.spanTo after, after⟩

/-! ## Properties and words -/

/-- A property of characters, `c` being at its letter. -/
def readProperty (start c : Cursor) : Except Mistake (Found Atom) :=
  let name := c.advance
  match name.head? with
  | none => .error (.blame .escapeUnfinished name.here)
  | some '\x7b' =>
    let run := name.advance.takeRun (· ≠ '\x7d')
    let after := run.2.next
    if run.2.head?.isNone then .error (.blame .escapeUnfinished run.2.here)
    else .ok ⟨.property (.ofList run.1), start.spanTo after, after⟩
  | some '\\' => .error (.blame .propertyInvalid name.span)
  | some letter => .ok ⟨.property letter.toString, start.spanTo name.advance, name.advance⟩

/-- The condition that a name in braces stands for. -/
def edge? : String → Option Edge
  | "start" => some .start
  | "end" => some .stop
  | "start-half" => some .outsideBefore
  | "end-half" => some .outsideAfter
  | _ => none

/-- The edge of a word, `c` being after its letter. A name in braces may follow; braces
that hold something else are left to be read as a number of repetitions. -/
def readWordEdge (start c : Cursor) : Except Mistake (Found Atom) :=
  let plain : Found Atom := ⟨.anchor (.word .edge), start.spanTo c, c⟩
  if c.head? ≠ some '\x7b' then .ok plain
  else
    let name := c.advance
    let run := name.takeRun fun d => d.isAlpha || d = '-'
    match name.head? with
    | none => .error (.blame .wordEdgeUnfinished (start.spanTo name))
    | some _ =>
      if run.1.isEmpty then .ok plain
      else if run.2.head? ≠ some '\x7d' then .error (.blame .wordEdgeUnclosed (c.spanTo run.2))
      else
        match edge? (.ofList run.1) with
        | none => .error (.blame .wordEdgeUnrecognized (name.spanTo run.2))
        | some e => .ok ⟨.anchor (.word e), start.spanTo run.2.next, run.2.next⟩

/-! ## All escapes -/

/-- The atom that begins with the backslash at `start`. -/
def read (start : Cursor) : Except Mistake (Found Atom) :=
  let c := start.next
  let after := c.next
  let found (a : Atom) : Found Atom := ⟨a, start.spanTo after, after⟩
  match c.head? with
  | none => .error (.blame .escapeUnfinished (start.spanTo c))
  | some 'x' => readNumber start c 2
  | some 'u' => readNumber start c 4
  | some 'U' => readNumber start c 8
  | some 'p' | some 'P' => readProperty start c
  | some 'b' => readWordEdge start after
  | some d =>
    if d.isDigit then .error (.blame .backreference (start.spanTo after))
    else if isMeta d || isPlain d then .ok (found (.char d false))
    else
      match named? d, control? d, anchor? d with
      | some a, _, _ => .ok (found a)
      | _, some ch, _ => .ok (found (.char ch false))
      | _, _, some a => .ok (found (.anchor a))
      | _, _, _ => .error (.blame .escapeUnrecognized (start.spanTo after))

end Escape
end Chip8.Pattern
