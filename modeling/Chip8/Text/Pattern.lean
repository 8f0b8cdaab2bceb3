import Chip8.Text.CharSet

/-!
# Patterns to search for

A pattern describes pieces of a text. Where a piece can end depends on where it
begins, so a pattern is understood as a step from places in a text to places in it.

## Main definitions

* `Edge`, `Place` — conditions on a place in a text.
* `Pattern` — a description of pieces of text.
* `Pattern.reach` — the places where a piece can end that begins at one of some places.
* `Pattern.foundIn` — whether a text has a piece that a pattern describes.
-/

namespace Chip8

/-- Where a place may lie, seen from the words of a text. -/
inductive Edge where
  /-- Just one of the characters beside it belongs to a word. -/
  | edge
  | noEdge
  /-- A word begins here. -/
  | start
  | stop
  /-- No word goes on from before. -/
  | outsideBefore
  /-- No word goes on from here. -/
  | outsideAfter
  deriving DecidableEq

/-- Whether a place lies so, if there is part of a word before it or after it. -/
def Edge.holds (before after : Bool) : Edge → Bool
  | edge => before != after
  | noEdge => before == after
  | start => !before && after
  | stop => before && !after
  | outsideBefore => !before
  | outsideAfter => !after

/-- A condition on a place in a text, which takes up none of it. -/
inductive Place where
  | start
  | stop
  /-- A line begins here; a carriage return may count as a line break, too. -/
  | lineStart (returns : Bool)
  | lineStop (returns : Bool)
  /-- A place between words, which may be words of all scripts. -/
  | word (e : Edge) (allScripts : Bool)
  deriving DecidableEq

namespace Place

/-- Whether a condition holds between two characters, of which one or both may be
missing. The words of all scripts are not known, and those of basic Latin letters stand
for them. -/
def between (before after : Option Char) : Place → Bool
  | start => before.isNone
  | stop => after.isNone
  | lineStart false => before.all (· = '\n')
  | lineStop false => after.all (· = '\n')
  | lineStart true => before.all fun c => c = '\n' || c = '\r' && after ≠ some '\n'
  | lineStop true => after.all fun c => c = '\r' || c = '\n' && before ≠ some '\r'
  | word e _ => e.holds (before.any CharSet.word.contains) (after.any CharSet.word.contains)

/-- Whether a condition holds before the character of a given number. -/
def holds (text : List Char) (i : Nat) (p : Place) : Bool :=
  p.between (if i = 0 then none else text[i - 1]?) text[i]?

/-- Whether a condition asks which characters of all scripts make up words. -/
def asksForWords : Place → Bool
  | word _ allScripts => allScripts
  | _ => false

end Place

/-- A description of pieces of text. -/
inductive Pattern where
  | empty
  /-- Just these characters. -/
  | literal (text : List Char)
  /-- One character of a set. -/
  | one (set : CharSet)
  | place (p : Place)
  /-- A piece that is remembered under a number. -/
  | group (number : Nat) (p : Pattern)
  | seq (first second : Pattern)
  | either (a b : Pattern)
  /-- At least `least` pieces in a row, and at most `most`, if there is a limit. -/
  | repeated (p : Pattern) (least : Nat) (most : Option Nat)
  deriving DecidableEq

namespace Pattern

/-! ## Places -/

/-- Some places together with others. -/
def join (places more : List Nat) : List Nat :=
  places ++ more.filter fun i => !places.contains i

/-- The places that one to `n` steps lead to from `places`. Those of `seen` have been
stepped from before, or are among `places`, and are not stepped from again. -/
def several (step : List Nat → List Nat) : Nat → List Nat → List Nat → List Nat
  | 0, _, _ => []
  | n + 1, seen, places =>
    let after := step places
    let fresh := after.filter fun i => !seen.contains i
    if fresh.isEmpty then after else join after (several step n (seen ++ fresh) fresh)

/-- The places after a character of a set. -/
def past (text : List Char) (set : CharSet) (places : List Nat) : List Nat :=
  (places.filter fun i => (text[i]?.map set.contains).getD false).map (· + 1)

/-- The places where a piece of the text can end that begins at one of some places. No
step leads backwards, so more steps than the text has characters lead nowhere new. -/
def reach (text : List Char) : Pattern → List Nat → List Nat
  | empty, places => places
  | literal cs, places => cs.foldl (fun places c => past text (.single c) places) places
  | one set, places => past text set places
  | place p, places => places.filter fun i => p.holds text i
  | group _ p, places => p.reach text places
  | seq first second, places => second.reach text (first.reach text places)
  | either a b, places => join (a.reach text places) (b.reach text places)
  | repeated p least most, places =>
    if places.isEmpty then []
    else
      let far := text.length + 1
      let start := Nat.repeat (p.reach text) (min (least - 1) far) places
      let more := most.elim far fun most => min (most - (least - 1)) far
      let after := several (p.reach text) more start start
      if least = 0 then join places after else after

/-- Whether a text has a piece that a pattern describes. -/
def foundIn (p : Pattern) (text : String) : Bool :=
  !(p.reach text.toList (List.range (text.length + 1))).isEmpty

end Pattern
end Chip8
