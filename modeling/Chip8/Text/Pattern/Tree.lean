import Chip8.Text.Pattern.Escape
import Chip8.Text.Pattern.Group

/-!
# Patterns as they are written

A pattern is written as a tree of parts in parts. Every part knows the piece of text
that it takes up, so that it can be pointed out.

## Main definitions

* `Pattern.Item` — what stands in brackets.
* `Pattern.Tree` — a pattern as it is written.
* `Tree.tooDeep?` — the first part that lies too deep in others.
-/

namespace Chip8.Pattern

/-- An operation on two sets. -/
inductive Operation where
  | both
  | without
  | exactlyOne
  deriving DecidableEq

/-- The set that an operation makes of two sets. -/
def Operation.apply : Operation → CharSet → CharSet → CharSet
  | both, a, b => .both a b
  | without, a, b => .without a b
  | exactlyOne, a, b => .exactlyOne a b

/-- A character that bounds a range; it may be written as the number of a byte. -/
structure Bound where
  char : Char
  isByte : Bool
  span : Span

/-- What stands in brackets. -/
inductive Item where
  | nothing (span : Span)
  | atom (a : Atom) (span : Span)
  | range (low high : Bound)
  /-- A set with a name between colons, or all characters outside it. -/
  | named (set : CharSet) (negated : Bool) (span : Span)
  /-- Brackets in brackets. -/
  | nested (negated : Bool) (inside : Item) (span : Span)
  | row (items : List Item) (span : Span)
  | operation (op : Operation) (a b : Item)

/-- The piece of text that an item takes up. -/
def Item.span : Item → Span
  | nothing span | atom _ span | named _ _ span | nested _ _ span | row _ span => span
  | range low high => low.span.through high.span
  | operation _ a b => a.span.through b.span

/-- A group of a pattern. -/
inductive GroupKind where
  /-- Its piece is remembered under a number. -/
  | numbered (number : Nat)
  | flagged (flags : List Group.Flag)

/-- A pattern as it is written. -/
inductive Tree where
  | nothing (span : Span)
  | atom (a : Atom) (span : Span)
  | bracket (negated : Bool) (inside : Item) (span : Span)
  /-- Flags for what follows in the group around them. -/
  | setting (flags : List Group.Flag) (span : Span)
  | repeated (t : Tree) (least : Nat) (most : Option Nat) (span : Span)
  | group (kind : GroupKind) (inside : Tree) (span : Span)
  | row (parts : List Tree) (span : Span)
  | choice (branches : List Tree) (span : Span)

/-- The piece of text that a part takes up. -/
def Tree.span : Tree → Span
  | nothing span | atom _ span | bracket _ _ span | setting _ span | repeated _ _ _ span
  | group _ _ span | row _ span | choice _ span => span

/-! ## Depth -/

/-- How many parts may lie in each other. -/
def depthLimit : Nat := 250

mutual

/-- The first item that lies too deep, `left` being how many may still lie in each
other. -/
def Item.tooDeep? (left : Nat) : Item → Option Span
  | nothing _ | atom _ _ | range _ _ | named _ _ _ => none
  | nested _ inside span =>
    match left with
    | 0 => some span
    | left + 1 => inside.tooDeep? left
  | row items span =>
    match left with
    | 0 => some span
    | left + 1 => Item.anyTooDeep? left items
  | operation op a b =>
    match left with
    | 0 => some (operation op a b).span
    | left + 1 => a.tooDeep? left <|> b.tooDeep? left

/-- The first of some items that lies too deep, or has one in it that does. -/
def Item.anyTooDeep? (left : Nat) : List Item → Option Span
  | [] => none
  | item :: rest => item.tooDeep? left <|> Item.anyTooDeep? left rest

end

mutual

/-- The first part that lies too deep, `left` being how many may still lie in each
other. -/
def Tree.tooDeep? (left : Nat) : Tree → Option Span
  | nothing _ | atom _ _ | setting _ _ => none
  | bracket _ inside span =>
    match left with
    | 0 => some span
    | left + 1 => inside.tooDeep? left
  | repeated t _ _ span | group _ t span =>
    match left with
    | 0 => some span
    | left + 1 => t.tooDeep? left
  | row parts span | choice parts span =>
    match left with
    | 0 => some span
    | left + 1 => Tree.anyTooDeep? left parts

/-- The first of some parts that lies too deep, or has one in it that does. -/
def Tree.anyTooDeep? (left : Nat) : List Tree → Option Span
  | [] => none
  | t :: rest => t.tooDeep? left <|> Tree.anyTooDeep? left rest

end

end Chip8.Pattern
