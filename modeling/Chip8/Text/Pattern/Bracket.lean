import Chip8.Text.Pattern.Tree

/-!
# Sets in brackets

A set of characters is written in brackets as a row of characters, ranges and other
sets, or as what remains of two such rows after an operation on them. Brackets may
stand in brackets.

## Main definitions

* `Bracket.Level`, `Bracket.Reading` — brackets that are being read.
* `Bracket.read` — the set that a bracket opens.
-/

namespace Chip8.Pattern.Bracket

/-- A bracket that has been opened and not closed. -/
structure Level where
  /-- The bracket and what cannot be an ordinary member. -/
  opened : Span
  negated : Bool
  /-- Where the row of members begins that is being read. -/
  start : Span
  /-- The members since the bracket or the last operation, the last in front. -/
  members : List Item := []
  /-- The last operation, with the set in front of it. -/
  pending : Option (Operation × Item) := none

namespace Level

/-- The level with one more member. -/
def add (l : Level) (item : Item) : Level :=
  { l with members := item :: l.members }

/-- The row of members that has been read so far. -/
def row (l : Level) : Item :=
  match l.members with
  | [] => .nothing l.start
  | [item] => item
  | last :: before =>
    .row l.members.reverse (((before.getLastD last).span).through last.span)

/-- What has been read so far. -/
def item (l : Level) : Item :=
  match l.pending with
  | none => l.row
  | some (op, before) => .operation op before l.row

/-- The level after an operation. -/
def operate (l : Level) (op : Operation) (start : Span) : Level :=
  { l with start := start, members := [], pending := some (op, l.item) }

end Level

/-- A place in brackets. -/
structure Reading where
  cursor : Cursor
  level : Level
  /-- The brackets around the innermost one. -/
  outer : List Level := []

/-- A character that stands for itself at the start of brackets. -/
def plain (c : Cursor) (ch : Char) : Item :=
  .atom (.char ch false) c.span

/-- The dashes at a place, which stand for themselves at the start of brackets, the last
in front; `read` has those read so far. -/
def dashes (c : Cursor) (read : List Item) : Nat → List Item × Cursor
  | 0 => (read, c)
  | n + 1 => dashes c.advance (plain c '-' :: read) n

/-- The place after a bracket has been opened, `c` being at the bracket. -/
def openAt (c : Cursor) : Except Mistake (Level × Cursor) :=
  let unclosed (span : Span) : Except Mistake (Level × Cursor) :=
    .error (.blame .classUnclosed span)
  let first := c.advance
  let negated := first.head? = some '^'
  let start := if negated then first.advance else first
  let run := dashes start [] (start.takeRun (· = '-')).1.length
  if start.head?.isNone then unclosed (c.spanTo start)
  else if !run.1.isEmpty then
    if run.2.head?.isNone then unclosed c.here
    else .ok (⟨c.spanTo run.2, negated, start.here, run.1, none⟩, run.2)
  else if start.head? = some ']' then
    let after := start.advance
    if after.head?.isNone then unclosed (c.spanTo after)
    else .ok (⟨c.spanTo after, negated, start.here, [plain start ']'], none⟩, after)
  else .ok (⟨c.spanTo start, negated, start.here, [], none⟩, start)

/-- A set by its name between colons, in brackets of its own, `c` being at the bracket. -/
def readNamed? (c : Cursor) : Option (Item × Cursor) :=
  match c.after? "[:" with
  | none => none
  | some first =>
    let negated := first.head? = some '^'
    let start := if negated then first.next else first
    let name := start.rest.takeWhile (· ≠ ':')
    match (start.forward name.length).after? ":]", CharSet.named? (.ofList name) with
    | some after, some set => some (.named set negated (c.spanTo after), after)
    | _, _ => none

/-- A character or an escape. -/
def readAtom (c : Cursor) : Except Mistake (Found Atom) :=
  match c.head? with
  | some '\\' => Escape.read c
  | some d => .ok ⟨.char d false, c.span, c.next⟩
  | none => .error (.blame .classUnclosed c.here)

/-- A character that bounds a range. -/
def bound (found : Found Atom) : Except Mistake Bound :=
  match found.value with
  | .char c isByte => .ok ⟨c, isByte, found.span⟩
  | _ => .error (.blame .classRangeLiteral found.span)

/-- A member that is not a range. -/
def member (found : Found Atom) : Except Mistake Item :=
  match found.value with
  | .anchor _ | .dot => .error (.blame .classEscapeInvalid found.span)
  | a => .ok (.atom a found.span)

namespace Reading

/-- The mistake that no bracket closes the innermost one. -/
def unclosed (r : Reading) : Mistake :=
  .blame .classUnclosed r.level.opened

/-- The place after a member. -/
def add (r : Reading) (item : Item) (after : Cursor) : Reading :=
  { r with cursor := after, level := r.level.add item }

/-- The place after a range from `low` to the atom at `c`. -/
def addRange (r : Reading) (low : Found Atom) (c : Cursor) : Except Mistake Reading :=
  match readAtom c with
  | .error mistake => .error mistake
  | .ok high =>
    match bound low, bound high with
    | .error mistake, _ => .error mistake
    | _, .error mistake => .error mistake
    | .ok a, .ok b =>
      if b.char < a.char then .error (.blame .classRangeInvalid (a.span.through b.span))
      else .ok (r.add (.range a b) high.after)

/-- The place after a character, an escape or a range. -/
def addMember (r : Reading) : Except Mistake Reading :=
  match readAtom r.cursor with
  | .error mistake => .error mistake
  | .ok low =>
    let c := low.after.skip
    if c.head?.isNone then .error r.unclosed
    else if c.head? ≠ some '-' || c.advance.head? = some ']' || c.advance.head? = some '-' then
      match member low with
      | .error mistake => .error mistake
      | .ok item => .ok (r.add item c)
    else if c.advance.head?.isNone then .error r.unclosed
    else r.addRange low c.advance

/-- The place after an operation, if one comes next. -/
def operate? (r : Reading) : Option Reading :=
  let go (start : String) (op : Operation) : Option Reading :=
    (r.cursor.after? start).map fun after =>
      { r with cursor := after, level := r.level.operate op after.here }
  go "&&" .both <|> go "--" .without <|> go "~~" .exactlyOne

end Reading

/-- A set in brackets, and the place after it. -/
structure Set where
  negated : Bool
  inside : Item
  span : Span
  after : Cursor

/-- The set whose closing bracket is at the place. -/
def Reading.close (r : Reading) : Set :=
  let after := r.cursor.next
  ⟨r.level.negated, r.level.item, ⟨r.level.opened.start, after.position⟩, after⟩

/-- Reads brackets up to the one that closes the first, in at most `fuel` parts. -/
def readFrom : Nat → Reading → Except Mistake Set
  | 0, r => .error r.unclosed
  | fuel + 1, r =>
    let r := { r with cursor := r.cursor.skip }
    let c := r.cursor
    match c.head? with
    | none => .error r.unclosed
    | some '[' =>
      match readNamed? c with
      | some (item, after) => readFrom fuel (r.add item after)
      | none =>
        match openAt c with
        | .error mistake => .error mistake
        | .ok (level, after) => readFrom fuel ⟨after, level, r.level :: r.outer⟩
    | some ']' =>
      let closed := r.close
      match r.outer with
      | [] => .ok closed
      | level :: outer =>
        let item := .nested closed.negated closed.inside closed.span
        readFrom fuel ⟨closed.after, level.add item, outer⟩
    | some _ =>
      match r.operate? with
      | some r => readFrom fuel r
      | none =>
        match r.addMember with
        | .error mistake => .error mistake
        | .ok r => readFrom fuel r

/-- The set that the bracket at `c` opens. Each member and each bracket takes up a
character, so there are no more of them than characters. -/
def read (c : Cursor) : Except Mistake Set :=
  match openAt c with
  | .error mistake => .error mistake
  | .ok (level, after) => readFrom (after.rest.length + 1) { cursor := after, level := level }

end Chip8.Pattern.Bracket
