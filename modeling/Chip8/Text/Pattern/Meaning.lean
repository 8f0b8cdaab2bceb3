import Chip8.Text.Pattern.Normal
import Chip8.Text.Pattern.Tree

/-!
# Meanings of patterns

What a part of a pattern means depends on the flags that are in force. Letter case and
the sets with a name of one letter are known for bytes only, so where the characters of
all scripts are matched, a pattern that asks for them is refused.

## Main definitions

* `Pattern.Flags` — the flags.
* `Atom.meaning`, `Item.set`, `Tree.meaning` — the meanings of what is written.
-/

namespace Chip8.Pattern

/-- The flags that change meanings. -/
structure Flags where
  /-- Whether the case of letters does not count. -/
  anyCase : Bool := false
  /-- Whether the characters of all scripts are matched, and not bytes. -/
  allScripts : Bool := true
  /-- Whether lines have their own starts and ends. -/
  lines : Bool := false
  /-- Whether a line break counts as any other character. -/
  breaks : Bool := false
  /-- Whether carriage returns are line breaks, too. -/
  returns : Bool := false
  deriving DecidableEq

namespace Flags

/-- The flags after some have been set. -/
def set (f : Flags) (flags : List Group.Flag) : Flags :=
  let state (letter : Char) (now : Bool) : Bool := (Group.state? letter false flags).getD now
  { anyCase := state 'i' f.anyCase
    allScripts := state 'u' f.allScripts
    lines := state 'm' f.lines
    breaks := state 's' f.breaks
    returns := state 'R' f.returns }

/-- A set of bytes with its letters in the cases that count. -/
def fold (f : Flags) (set : CharSet) : CharSet :=
  if f.anyCase then .anyCase set else set

/-- The condition that an anchor is. -/
def place (f : Flags) : Anchor → Place
  | .lineStart => if f.lines then .lineStart f.returns else .start
  | .lineStop => if f.lines then .lineStop f.returns else .stop
  | .start => .start
  | .stop => .stop
  | .word e => .word e f.allScripts

/-- The characters that a dot stands for. -/
def dot (f : Flags) : CharSet :=
  if f.breaks then .all
  else if f.returns then .others (.union (.single '\n') (.single '\r'))
  else .others (.single '\n')

end Flags

/-- A mistake with just this piece to blame. -/
def refuse {α : Type} (cause : Cause) (span : Span) : Except Mistake α :=
  .error (.blame cause span)

/-! ## Named sets -/

/-- A property's name in small letters, without the characters that do not count and
without an `is` in front. -/
def propertyName (name : String) : List Char :=
  let start := if name.toLower.toList.take 2 = ['i', 's'] then 2 else 0
  (name.toList.drop start).filterMap fun c =>
    if c = ' ' || c = '_' || c = '-' || 0x80 ≤ c.toNat then none else some c.toLower

/-- The set with the name of one letter, or all characters outside it. -/
def namedSet (f : Flags) (set : CharSet) (negated : Bool) (span : Span) :
    Except Mistake CharSet :=
  if f.allScripts then refuse .namedClassUnavailable span
  else if negated then refuse .notText span
  else .ok set

/-- A set of the Unicode character database, none of which is known. Three names stand
for general categories in the first place, and so for values of a property. -/
def propertySet (f : Flags) (name : String) (span : Span) : Except Mistake CharSet :=
  if !f.allScripts then refuse .notByte span
  else if ["cf", "lc", "sc"].contains (String.ofList (propertyName name)) then
    refuse .propertyValueUnknown span
  else refuse .propertyUnknown span

/-! ## Atoms -/

/-- The meaning of an atom outside brackets. -/
def Atom.meaning (f : Flags) (span : Span) : Atom → Except Mistake Pattern
  | .char c isByte =>
    if !f.allScripts && isByte && 0x80 ≤ c.toNat then refuse .notText span
    else if f.allScripts && f.anyCase then refuse .caseUnavailable span
    else .ok (ofSet (f.fold (.single c)))
  | .named set negated => (namedSet f set negated span).map ofSet
  | .property name => (propertySet f name span).map ofSet
  | .dot => if f.allScripts then .ok (ofSet f.dot) else refuse .notText span
  | .anchor a => .ok (.place (f.place a))

/-! ## Brackets -/

/-- Whether an item has characters of its own, outside brackets in it. -/
def Item.hasMembers : Item → Bool
  | atom _ _ | range _ _ | named _ _ _ => true
  | row items _ => items.any fun
    | .nested _ _ _ => false
    | _ => true
  | nothing _ | nested _ _ _ | operation _ _ _ => false

/-- A set whose letters have to be found in any case, if that is possible: nothing has to
be known about the case of what is in nested brackets, where all is in any case, or
nothing is. -/
def foldItem (f : Flags) (item : Item) (set : CharSet) (span : Span) : Except Mistake CharSet :=
  if f.allScripts && f.anyCase && item.hasMembers then refuse .caseUnavailable span
  else .ok (if f.allScripts then set else f.fold set)

/-- A set in brackets, or all characters outside it. -/
def bracketed (f : Flags) (item : Item) (set : CharSet) (negated : Bool) (span : Span) :
    Except Mistake CharSet :=
  match foldItem f item set span with
  | .error mistake => .error mistake
  | .ok set =>
    if !negated then .ok set
    else if f.allScripts then .ok (.others set)
    else refuse .notText span

/-- The character that bounds a range. -/
def Bound.meaning (f : Flags) (b : Bound) : Except Mistake Char :=
  if f.allScripts || b.char.toNat < 0x80 then .ok b.char
  else refuse (if b.isByte then .notText else .notByte) b.span

/-- The set of an atom in brackets. -/
def Atom.set (f : Flags) (span : Span) : Atom → Except Mistake CharSet
  | .char c isByte => (Bound.meaning f ⟨c, isByte, span⟩).map .single
  | .named set negated => namedSet f set negated span
  | .property name => propertySet f name span
  | .dot | .anchor _ => refuse .classEscapeInvalid span

mutual

/-- The set of what stands in brackets. -/
def Item.set (f : Flags) : Item → Except Mistake CharSet
  | .nothing _ => .ok .none
  | .atom a span => a.set f span
  | .range low high =>
    match low.meaning f, high.meaning f with
    | .error mistake, _ => .error mistake
    | _, .error mistake => .error mistake
    | .ok low, .ok high => .ok (.range low high)
  | .named set negated span => bracketed f (.named set negated span) set negated span
  | .nested negated inside span =>
    match inside.set f with
    | .error mistake => .error mistake
    | .ok set => bracketed f inside set negated span
  | .row items _ => Item.setOfRow f .none items
  | .operation op a b =>
    match a.set f with
    | .error mistake => .error mistake
    | .ok first =>
      match b.set f with
      | .error mistake => .error mistake
      | .ok second =>
        match foldItem f b second b.span, foldItem f a first a.span with
        | .error mistake, _ => .error mistake
        | _, .error mistake => .error mistake
        | .ok second, .ok first => .ok (op.apply first second)

/-- The set of a row, together with the set of what comes before it. -/
def Item.setOfRow (f : Flags) (before : CharSet) : List Item → Except Mistake CharSet
  | [] => .ok before
  | item :: rest =>
    match item.set f with
    | .error mistake => .error mistake
    | .ok set => Item.setOfRow f (.union before set) rest

end

/-! ## Trees -/

mutual

/-- The meaning of what is written, and the flags that are in force after it. -/
def Tree.meaning (f : Flags) : Tree → Except Mistake (Pattern × Flags)
  | .nothing _ => .ok (.empty, f)
  | .atom a span => (a.meaning f span).map (·, f)
  | .bracket negated inside span =>
    match inside.set f with
    | .error mistake => .error mistake
    | .ok set => (bracketed f inside set negated span).map (ofSet ·, f)
  | .setting flags _ => .ok (.empty, f.set flags)
  | .repeated t least most _ =>
    match t.meaning f with
    | .error mistake => .error mistake
    | .ok (p, f) => .ok (p.times least most, f)
  | .group kind inside _ =>
    match kind with
    | .numbered number => (inside.meaning f).map fun m => (.group number m.1, f)
    | .flagged flags => (inside.meaning (f.set flags)).map fun m => (m.1, f)
  | .row parts _ => (Tree.meanings f [] parts).map fun m => (Pattern.row m.1, m.2)
  | .choice branches _ => (Tree.meanings f [] branches).map fun m =>
      (Pattern.choice m.1, m.2)

/-- The meanings of some parts after others, which are given with the last in front, and
the flags that are in force after them. -/
def Tree.meanings (f : Flags) (before : List Pattern) :
    List Tree → Except Mistake (List Pattern × Flags)
  | [] => .ok (before.reverse, f)
  | t :: rest =>
    match t.meaning f with
    | .error mistake => .error mistake
    | .ok (p, f) => Tree.meanings f (p :: before) rest

end

end Chip8.Pattern
