import Chip8.Text.CharSet.Ranges
import Chip8.Text.Pattern

/-!
# Patterns in normal form

Patterns are put together from smaller ones so that what can be said in a simpler way
is said so: rows and alternatives do not stand in each other, literals side by side are
one literal, alternatives of one character are a set, and what all alternatives begin
with stands in front of them. Nothing that is found changes.

## Main definitions

* `Pattern.ofSet`, `Pattern.row`, `Pattern.choice`, `Pattern.times` — patterns in normal
  form.
* `Pattern.shortest?`, `Pattern.takesNoText` — how long pieces are.
-/

namespace Chip8.Pattern

/-! ## Lengths -/

/-- The length of the shortest pieces, if there can be any. -/
def shortest? : Pattern → Option Nat
  | empty | place _ => some 0
  | literal cs => some cs.length
  | one set => if set = .none then none else some 1
  | group _ p => p.shortest?
  | seq a b => a.shortest?.bind fun m => b.shortest?.map (m + ·)
  | either a b => a.shortest?.bind fun m => b.shortest?.map (min m)
  | repeated p least _ => p.shortest?.map (· * least)

/-- Whether all pieces are empty, in a way that shows at once. -/
def takesNoText : Pattern → Bool
  | empty | place _ => true
  | literal _ | one _ => false
  | group _ p => p.takesNoText
  | seq a b | either a b => a.takesNoText && b.takesNoText
  | repeated p _ most => most.isSome && p.takesNoText

/-! ## Sets -/

/-- One character of a set. -/
def ofSet (s : CharSet) : Pattern :=
  match s.ranges with
  | [(low, high)] => if low = high then literal [.ofNat low] else one s.normal
  | _ => one s.normal

/-! ## Rows -/

/-- The parts of a row. -/
def parts : Pattern → List Pattern
  | seq a b => a :: b.parts
  | p => [p]

/-- The row of some parts. -/
def ofParts : List Pattern → Pattern
  | [] => empty
  | [p] => p
  | p :: rest => seq p (ofParts rest)

/-- Parts with one in front; two literals become one, and the empty pattern is left
out. -/
def glue : Pattern → List Pattern → List Pattern
  | empty, rest => rest
  | literal a, literal b :: rest => literal (a ++ b) :: rest
  | p, rest => p :: rest

/-- The row of some patterns. -/
def row (ps : List Pattern) : Pattern :=
  ofParts ((ps.flatMap parts).foldr glue [])

/-! ## Alternatives -/

/-- The alternatives of a pattern. -/
def branches : Pattern → List Pattern
  | either a b => a :: b.branches
  | p => [p]

/-- The choice between some alternatives. -/
def ofBranches : List Pattern → Pattern
  | [] => one .none
  | [p] => p
  | p :: rest => either p (ofBranches rest)

/-- The set of a literal of one character. -/
def letter? : Pattern → Option CharSet
  | literal [c] => some (.single c)
  | _ => none

/-- The set of a pattern for one character. -/
def set? : Pattern → Option CharSet
  | one set => some set
  | _ => none

/-- The choice between some patterns. It is a set if they all are literals of one
character, or all are sets; else `otherwise` makes it from the alternatives. -/
def choiceBy (otherwise : List Pattern → Pattern) (ps : List Pattern) : Pattern :=
  let all := ps.flatMap branches
  match all.mapM letter? <|> all.mapM set? with
  | some sets => ofSet (.ofList sets)
  | none => otherwise all

/-- What two rows both begin with. -/
def agreement : List Pattern → List Pattern → List Pattern
  | a :: as, b :: bs => if a = b then a :: agreement as bs else []
  | _, _ => []

/-- What all alternatives begin with; one that is no row has no beginning. -/
def beginning : List Pattern → List Pattern
  | [] => []
  | [seq a b] => (seq a b).parts
  | seq a b :: rest => agreement (seq a b).parts (beginning rest)
  | _ => []

/-- The choice between alternatives, what they all begin with being in front. -/
def factored (all : List Pattern) : Pattern :=
  let start := beginning all
  if start.isEmpty then ofBranches all
  else
    let ends := all.map fun p => row (p.parts.drop start.length)
    row (start ++ [choiceBy ofBranches ends])

/-- The choice between some patterns. -/
def choice (ps : List Pattern) : Pattern :=
  choiceBy factored ps

/-! ## Repetitions -/

/-- A pattern a number of times. What takes up no text need not be repeated. -/
def times (p : Pattern) (least : Nat) (most : Option Nat) : Pattern :=
  let brief := p.takesNoText
  let least := if brief then min least 1 else least
  let most := if brief then some (most.elim 1 (min · 1)) else most
  if most = some 0 then empty
  else if least = 1 && most = some 1 then p
  else repeated p least most

end Chip8.Pattern
