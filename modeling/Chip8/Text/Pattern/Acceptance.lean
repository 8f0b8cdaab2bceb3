import Chip8.Text.Pattern.Meaning
import Chip8.Text.Pattern.Reader
import Chip8.Text.Pattern.Sample
import Chip8.Text.Pattern.Size

/-!
# Which texts are patterns

A text is a pattern if it is written well, nests its parts not too deep, asks for nothing
that is unknown, and comes to machines that are not too large. The first of these that
fails is what is wrong with it.

## Main definitions

* `Pattern.fault?` — why a pattern cannot be searched for.
* `Pattern.ofText` — the pattern that a text describes.
-/

namespace Chip8.Pattern

/-- Whether a pattern asks which characters of all scripts make up words. -/
def asksForWords : Pattern → Bool
  | place p => p.asksForWords
  | group _ p | repeated p _ _ => p.asksForWords
  | seq a b | either a b => a.asksForWords || b.asksForWords
  | empty | literal _ | one _ => false

/-- Why a pattern cannot be searched for, if it cannot. -/
def fault? (p : Pattern) : Option Mistake :=
  if p.isPlain then none
  else if Mistake.sizeLimit < p.machineSize false then some .tooLarge
  else if p.asksForWords then some .unbuildable
  else if Mistake.sizeLimit < p.machineSize true then some .tooLarge
  else none

/-- The pattern that is written as a tree. -/
def ofTree (tree : Tree) : Except Mistake Pattern :=
  match tree.meaning {} with
  | .error mistake => .error mistake
  | .ok (p, _) =>
    match p.fault? with
    | some mistake => .error mistake
    | none => .ok p

/-- The pattern that a text describes. -/
def ofText (text : String) : Except Mistake Pattern :=
  match Tree.ofText text with
  | .error mistake => .error mistake
  | .ok tree =>
    match tree.tooDeep? depthLimit with
    | some span => .error (.blame .nestedTooDeep span)
    | none => ofTree tree

end Chip8.Pattern
