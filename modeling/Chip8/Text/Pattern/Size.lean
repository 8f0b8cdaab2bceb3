import Chip8.Text.Pattern.Normal
import Chip8.Text.CharSet.Rows

/-!
# The sizes of patterns

A pattern is searched for by two machines, one of which reads a text forwards and the
other backwards. Their sizes in bytes depend on how many states they need and on how the
states are joined. The machine that reads forwards also remembers where groups begin and
end.

## Main definitions

* `Pattern.size` — the size of the part of a machine that a pattern comes to.
* `Pattern.machineSize` — the size of a whole machine.
-/

namespace Chip8.Pattern

/-- The bytes of a state. -/
def stateSize : Nat := 32

/-- The bytes of a step from a state, over a range of bytes. -/
def stepSize : Nat := 8

/-- The bytes of a link from a state to one of several others. -/
def linkSize : Nat := 4

/-! ## Sets -/

/-- The ranges that some rows begin with. -/
def heads (rows : List Utf8.Row) : Utf8.Row :=
  (rows.filterMap List.head?).eraseDups

/-- What comes after a range in the rows that begin with it. -/
def following {α : Type} [DecidableEq α] (head : α) (rows : List (List α)) : List (List α) :=
  rows.filterMap fun
    | a :: rest => if a = head then some rest else none
    | [] => none

/-- What may come in rows of at most `n` ranges, and after each range of them. -/
def forks : Nat → List Utf8.Row → List (List Utf8.Row)
  | 0, _ => []
  | n + 1, rows =>
    if rows.all List.isEmpty then []
    else rows :: (heads rows).flatMap fun head => forks n (following head rows)

/-- The size of what reads one character of a set. What comes after different ranges is
shared where it is the same; backwards, what comes before them is. -/
def setSize (backwards : Bool) (s : CharSet) : Nat :=
  let rows := s.byteRows
  if rows.all fun row => row.length ≤ 1 then 2 * stateSize + stepSize * rows.length
  else if backwards then
    let starts := rows.flatMap fun row => (List.range row.length).map fun n => row.take (n + 1)
    2 * stateSize + linkSize * rows.length + stateSize * starts.eraseDups.length
  else
    let all := (forks 4 rows).eraseDups
    stateSize + (all.map fun rows => stateSize + stepSize * (heads rows).length).foldl (· + ·) 0

/-! ## Alternatives -/

/-- Texts between those that are empty. -/
def chunks : List (List Nat) → List (List (List Nat))
  | [] => [[]]
  | [] :: rest => [] :: chunks rest
  | text :: rest =>
    match chunks rest with
    | [] => [[text]]
    | chunk :: others => (text :: chunk) :: others

/-- Chunks of which at most one at the start is empty. -/
def trimChunks : List (List (List Nat)) → List (List (List Nat))
  | [] :: [] :: rest => trimChunks ([] :: rest)
  | all => all

/-- The size of what reads one of some texts of at most `n` bytes, the first of them
that fits. Texts share what they begin with up to a text that ends before. -/
def textsSize : Nat → List (List Nat) → Nat
  | 0, _ => 0
  | n + 1, texts =>
    if texts.all List.isEmpty then 0
    else
      let all := trimChunks (chunks texts)
      let full := all.filter fun chunk => !chunk.isEmpty
      stateSize + linkSize * (full.length + (all.length - 1)) +
        (full.map fun chunk =>
          let first := (chunk.filterMap List.head?).eraseDups
          stateSize + (if first.length = 1 then 0 else stepSize * first.length) +
            (first.map fun byte => textsSize n (following byte chunk)).sum).sum

/-- The size of what reads one of some literals. -/
def literalsSize (backwards : Bool) (texts : List (List Char)) : Nat :=
  let all := texts.map fun cs => if backwards then (Utf8.encode cs).reverse else Utf8.encode cs
  stateSize + textsSize ((all.map List.length).foldl max 0 + 1) all

/-! ## Patterns -/

/-- The size of repetitions of what has a size of its own and may take up no text. -/
def timesSize (size : Nat) (mayBeEmpty : Bool) (least : Nat) : Option Nat → Nat
  | none =>
    if least = 0 then
      if mayBeEmpty then size + 3 * stateSize + 4 * linkSize else size + stateSize + 2 * linkSize
    else least * size + stateSize + 2 * linkSize
  | some most =>
    if least = 0 && most = 1 then size + 2 * stateSize + 2 * linkSize
    else if least = most then least * size
    else
      (if least = 0 then stateSize else least * size) + stateSize
        + (most - least) * (size + stateSize + 2 * linkSize)

/-- What has to be known about a part of a machine. -/
structure Extent where
  /-- Its size, if it is no choice. -/
  single : Option Nat
  /-- The size of its alternatives, with the links that lead to them. -/
  linked : Nat
  /-- The texts of its alternatives, if they are all literals. -/
  texts : Option (List (List Char))

namespace Extent

/-- What is no choice. -/
def ofSize (size : Nat) : Extent :=
  ⟨some size, linkSize + size, none⟩

/-- The size of a part of a machine. -/
def size (backwards : Bool) (e : Extent) : Nat :=
  match e.single, e.texts with
  | some size, _ => size
  | none, some texts => literalsSize backwards texts
  | none, none => 2 * stateSize + e.linked

/-- A choice with one more alternative, of some size, in front. -/
def choice (size : Nat) (texts : Option (List (List Char))) (rest : Extent) : Extent :=
  { single := none
    linked := linkSize + size + rest.linked
    texts := texts.bind fun first => rest.texts.map (first ++ ·) }

end Extent

/-- What has to be known about the part of a machine that a pattern comes to. -/
def extent (backwards : Bool) : Pattern → Extent
  | empty | place _ => .ofSize stateSize
  | literal cs =>
    { Extent.ofSize (stateSize * (Utf8.encode cs).length) with texts := some [cs] }
  | one set => .ofSize (setSize backwards set)
  | group _ p =>
    .ofSize ((p.extent backwards).size backwards + if backwards then 0 else 2 * stateSize)
  | seq a b => .ofSize ((a.extent backwards).size backwards + (b.extent backwards).size backwards)
  | either a b =>
    let first := a.extent backwards
    .choice (first.size backwards) first.texts (b.extent backwards)
  | repeated p least most =>
    let mayBeEmpty := !p.shortest?.any (0 < ·)
    .ofSize (timesSize ((p.extent backwards).size backwards) mayBeEmpty least most)

/-- The size of the part of a machine that a pattern comes to. -/
def size (backwards : Bool) (p : Pattern) : Nat :=
  (p.extent backwards).size backwards

/-! ## Machines -/

/-- Whether pieces begin at the start of a text, in a way that shows at once. -/
def beginsText : Pattern → Bool
  | place p => p = .start
  | group _ p => p.beginsText
  | seq a b => a.beginsText || a.takesNoText && b.beginsText
  | either a b => a.beginsText && b.beginsText
  | repeated p least _ => 0 < least && p.beginsText
  | empty | literal _ | one _ => false

/-- Whether pieces end where a text ends, in a way that shows at once. -/
def endsText : Pattern → Bool
  | place p => p = .stop
  | group _ p => p.endsText
  | seq a b => b.endsText || b.takesNoText && a.endsText
  | either a b => a.endsText && b.endsText
  | repeated p least _ => 0 < least && p.endsText
  | empty | literal _ | one _ => false

/-- The size of what passes over the text before a piece. -/
def approachSize (anchored : Bool) : Nat :=
  if anchored then stateSize else 3 * stateSize + stepSize + 2 * linkSize

/-- The size of a machine that reads forwards or backwards. Forwards, all of a piece
counts as a group. -/
def machineSize (p : Pattern) (backwards : Bool) : Nat :=
  if backwards then approachSize p.endsText + p.size true + stateSize
  else approachSize p.beginsText + (group 0 p).size false + stateSize

end Chip8.Pattern
