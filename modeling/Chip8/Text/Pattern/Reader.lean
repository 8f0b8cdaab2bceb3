import Chip8.Text.Pattern.Bracket

/-!
# Reading patterns

A pattern is read from left to right, part by part. Groups that have not been closed
are kept with what was read before them.

## Main definitions

* `Pattern.Enclosing`, `Pattern.Reading` — what has been read.
* `Tree.ofText` — the pattern that is written in a text.
-/

namespace Chip8.Pattern

/-- A row of parts that is being read, and the alternatives before it. -/
structure Branching where
  /-- Where the first alternative begins. -/
  opened : Span
  /-- Where the row begins. -/
  start : Span
  /-- The parts since the group began or the last bar, the last in front. -/
  parts : List Tree := []
  /-- The alternatives before the last bar, the last in front. -/
  branches : List Tree := []

namespace Branching

/-- What begins at a place. -/
def beginningAt (here : Span) : Branching :=
  { opened := here, start := here }

/-- The row that has been read, up to a place. -/
def row (b : Branching) (stop : Span) : Tree :=
  match b.parts with
  | [] => .nothing (b.start.through stop)
  | [t] => t
  | parts => .row parts.reverse (b.start.through stop)

/-- What has been read, up to a place. -/
def tree (b : Branching) (stop : Span) : Tree :=
  if b.branches.isEmpty then b.row stop
  else .choice (b.row stop :: b.branches).reverse (b.opened.through stop)

/-- One more part. -/
def add (b : Branching) (t : Tree) : Branching :=
  { b with parts := t :: b.parts }

/-- A new alternative, the last one ending at a place and this one beginning at another. -/
def bar (b : Branching) (stop next : Span) : Branching :=
  { b with start := next, parts := [], branches := b.row stop :: b.branches }

end Branching

/-- A group around the place that is being read. -/
structure Enclosing where
  /-- The parenthesis that opens the group inside. -/
  opened : Span
  kind : GroupKind
  /-- What was read before the group. -/
  before : Branching
  spaced : Bool

/-- A place in a pattern. -/
structure Reading where
  cursor : Cursor
  branching : Branching
  /-- The groups around the place, the innermost in front. -/
  outer : List Enclosing := []
  /-- The number of the last group whose piece is remembered. -/
  groups : Nat := 0
  /-- The names of groups, and where they stand. -/
  names : List (String × Span) := []

namespace Reading

/-- The place after a part. -/
def push (r : Reading) (t : Tree) (after : Cursor) : Reading :=
  { r with cursor := after, branching := r.branching.add t }

/-! ## Groups -/

/-- The place after some flags, which can say whether blanks are passed over. -/
def spacing (flags : List Group.Flag) (c after : Cursor) : Cursor :=
  { after with spaced := (Group.state? 'x' false flags).getD c.spaced }

/-- The place after a parenthesis has opened a group. -/
def openGroup (r : Reading) (kind : GroupKind) (after : Cursor) : Reading :=
  { r with
    cursor := after, branching := .beginningAt after.here
    outer := ⟨r.cursor.span, kind, r.branching, r.cursor.spaced⟩ :: r.outer }

/-- The place after a parenthesis has opened a group with a number. -/
def openNumbered (r : Reading) (after : Cursor) : Reading :=
  { r.openGroup (.numbered (r.groups + 1)) after with groups := r.groups + 1 }

/-- The place after an opening parenthesis. -/
def openParenthesis (r : Reading) : Except Mistake Reading :=
  match Group.read r.cursor with
  | .error mistake => .error mistake
  | .ok (.group none, after) => .ok (r.openNumbered after)
  | .ok (.group (some (name, span)), after) =>
    match r.names.find? fun n => n.1 = name with
    | some n => .error (.misread .groupNameDuplicate span (some n.2))
    | none => .ok { r.openNumbered after with names := (name, span) :: r.names }
  | .ok (.flaggedGroup flags, after) =>
    .ok (r.openGroup (.flagged flags) (spacing flags r.cursor after))
  | .ok (.setting flags, after) =>
    .ok (r.push (.setting flags (r.cursor.spanTo after)) (spacing flags r.cursor after))

/-- The place after a closing parenthesis. -/
def closeParenthesis (r : Reading) : Except Mistake Reading :=
  match r.outer with
  | [] => .error (.blame .groupUnopened r.cursor.span)
  | e :: outer =>
    let after := { r.cursor.next with spaced := e.spaced }
    let group := .group e.kind (r.branching.tree r.cursor.here) (e.opened.through after.here)
    .ok { r with cursor := after, branching := e.before.add group, outer := outer }

/-- The place after a bar between alternatives. -/
def bar (r : Reading) : Reading :=
  let after := r.cursor.next
  { r with cursor := after, branching := r.branching.bar r.cursor.here after.here }

/-! ## Repetitions -/

/-- The place after a question mark, which asks for few repetitions rather than many
and so changes nothing about what is found. -/
def pastQuestion (c : Cursor) : Cursor :=
  if c.head? = some '?' then c.next else c

/-- The last part, which is repeated from here, and those before it. Flags cannot be
repeated. -/
def last (r : Reading) : Except Mistake (Tree × List Tree) :=
  match r.branching.parts with
  | [] | .setting .. :: _ => .error (.blame .repetitionMissing r.cursor.here)
  | t :: before => .ok (t, before)

/-- The place after the last part of a row has been repeated. -/
def repeatLast (r : Reading) (t : Tree) (before : List Tree) (least : Nat) (most : Option Nat)
    (after : Cursor) : Reading :=
  let repeated := .repeated t least most (t.span.through after.here)
  { r with cursor := after, branching := { r.branching with parts := repeated :: before } }

/-- The place after a sign that repeats the last part. -/
def repeatBy (r : Reading) (least : Nat) (most : Option Nat) : Except Mistake Reading :=
  match r.last with
  | .error mistake => .error mistake
  | .ok (t, before) => .ok (r.repeatLast t before least most (pastQuestion r.cursor.next))

/-- The least and the greatest number of repetitions in braces, and the place of the
closing brace. -/
def counts (start : Cursor) : Except Mistake ((Nat × Option Nat) × Cursor) :=
  let first := start.advance
  let least := first.decimal
  let unclosed (c : Cursor) : Except Mistake ((Nat × Option Nat) × Cursor) :=
    .error (.blame .countUnclosed (start.spanTo c))
  if first.head?.isNone then unclosed first
  else
    match least.2.head? with
    | none => unclosed least.2
    | some ',' =>
      let second := least.2.advance
      match second.head?, least.1 with
      | none, _ => unclosed second
      | _, .error mistake => .error mistake
      | some '\x7d', .ok n => .ok ((n, none), second)
      | some _, .ok n =>
        let most := second.decimal
        match most.1 with
        | .error mistake => .error mistake
        | .ok m => .ok ((n, some m), most.2)
    | some _ =>
      match least.1 with
      | .error mistake => .error mistake
      | .ok n => .ok ((n, some n), least.2)

/-- The place after a number of repetitions in braces. -/
def repeatCounted (r : Reading) : Except Mistake Reading :=
  match r.last with
  | .error mistake => .error mistake
  | .ok (t, before) =>
    match counts r.cursor with
    | .error mistake => .error mistake
    | .ok ((least, most), c) =>
      if c.head? ≠ some '\x7d' then .error (.blame .countUnclosed (r.cursor.spanTo c))
      else
        let after := pastQuestion c.advance
        if most.any (· < least) then .error (.blame .countInvalid (r.cursor.spanTo after))
        else .ok (r.repeatLast t before least most after)

/-! ## All parts -/

/-- The place after an atom. -/
def pushAtom (r : Reading) (found : Found Atom) : Reading :=
  r.push (.atom found.value found.span) found.after

/-- The place after one part, `a` being its first character. -/
def readPart (r : Reading) (a : Char) : Except Mistake Reading :=
  let atom (value : Atom) : Except Mistake Reading :=
    .ok (r.pushAtom ⟨value, r.cursor.span, r.cursor.next⟩)
  match a with
  | '(' => r.openParenthesis
  | ')' => r.closeParenthesis
  | '|' => .ok r.bar
  | '?' => r.repeatBy 0 (some 1)
  | '*' => r.repeatBy 0 none
  | '+' => r.repeatBy 1 none
  | '\x7b' => r.repeatCounted
  | '[' =>
    match Bracket.read r.cursor with
    | .error mistake => .error mistake
    | .ok set => .ok (r.push (.bracket set.negated set.inside set.span) set.after)
  | '\\' =>
    match Escape.read r.cursor with
    | .error mistake => .error mistake
    | .ok found => .ok (r.pushAtom found)
  | '.' => atom .dot
  | '^' => atom (.anchor .lineStart)
  | '$' => atom (.anchor .lineStop)
  | c => atom (.char c false)

/-- What has been read at the end of a pattern. -/
def finish (r : Reading) : Except Mistake Tree :=
  match r.outer with
  | e :: _ => .error (.blame .groupUnclosed e.opened)
  | [] => .ok (r.branching.tree r.cursor.here)

/-- Reads the rest of a pattern, in at most `fuel` parts. -/
def readFrom : Nat → Reading → Except Mistake Tree
  | 0, r => r.finish
  | fuel + 1, r =>
    let r := { r with cursor := r.cursor.skip }
    match r.cursor.head? with
    | none => r.finish
    | some a =>
      match r.readPart a with
      | .error mistake => .error mistake
      | .ok r => readFrom fuel r

end Reading

/-- The pattern that is written in a text. Each part takes up a character, so there are
no more parts than characters. -/
def Tree.ofText (text : String) : Except Mistake Tree :=
  let start : Cursor := { rest := text.toList }
  Reading.readFrom (text.length + 1) { cursor := start, branching := .beginningAt start.here }

end Chip8.Pattern
