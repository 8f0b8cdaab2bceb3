import Chip8.Text.Letter
import Chip8.Text.Pattern.Cursor

/-!
# Openings of groups

A group of a pattern opens with a parenthesis. A question mark after it announces a
name, or flags, which hold for the group or, when no group follows, for the rest of
the group around them.

## Main definitions

* `Group.Flag` — one flag of an opening, or the mark that turns flags off.
* `Group.Opening` — what a parenthesis opens.
* `Group.read` — the opening at a place.
-/

namespace Chip8.Pattern.Group

/-- One flag by its letter, or the mark after which flags are turned off. -/
structure Flag where
  letter : Option Char
  span : Span

/-- Whether flags turn one on or off, if they mention it; `off` says what they do now. -/
def state? (letter : Char) (off : Bool) : List Flag → Option Bool
  | [] => none
  | ⟨none, _⟩ :: rest => state? letter true rest
  | ⟨some l, _⟩ :: rest => if l = letter then some !off else state? letter off rest

/-- What a parenthesis opens. -/
inductive Opening where
  /-- A group whose piece is remembered, with a name and its place, if it has one. -/
  | group (name : Option (String × Span))
  | flaggedGroup (flags : List Flag)
  /-- Flags for the rest of the group around them. -/
  | setting (flags : List Flag)

/-- Whether a character may stand in a name. -/
def isNameChar (first : Bool) (c : Char) : Bool :=
  c = '_' || Letter.isLetter c || !first && (Letter.isNumber c || ".[]".toList.contains c)

/-- The first place in a name whose character may not stand there. -/
def badPlace? (first : Bool) (c : Cursor) : List Char → Option Cursor
  | [] => none
  | a :: rest => if isNameChar first a then badPlace? false c.next rest else some c

/-- A name up to its closing mark, `c` being at its first character. -/
def readName (c : Cursor) : Except Mistake (Opening × Cursor) :=
  let name := c.rest.takeWhile (· ≠ '>')
  let stop := c.forward name.length
  match badPlace? true c name with
  | some bad => .error (.blame .groupNameInvalid bad.span)
  | none =>
    if stop.head?.isNone then .error (.blame .groupNameUnfinished stop.here)
    else if name.isEmpty then .error (.blame .groupNameEmpty c.here)
    else .ok (.group (some (.ofList name, c.spanTo stop)), stop.next)

/-- The flag at a place, if the character there can be one. -/
def flag? (c : Char) : Option (Option Char) :=
  if c = '-' then some none
  else if "imsUuRx".toList.contains c then some (some c)
  else none

/-- Adds a flag to those read before, of which the last is in front. -/
def addFlag (flags : List Flag) (c : Char) (span : Span) : Except Mistake (List Flag) :=
  match flag? c with
  | none => .error (.blame .flagUnrecognized span)
  | some letter =>
    match flags.find? fun f => f.letter = letter with
    | some f =>
      let cause := if letter.isNone then .flagRepeatedNegation else .flagDuplicate
      .error (.misread cause span (some f.span))
    | none => .ok (⟨letter, span⟩ :: flags)

/-- Flags up to the colon or the parenthesis after them; those of `flags` come before,
the last in front. -/
def readFlags (c : Cursor) (flags : List Flag) : List Char → Except Mistake (List Flag × Cursor)
  | [] => .error (.blame .flagUnfinished c.here)
  | a :: rest =>
    if a = ':' ∨ a = ')' then
      match flags with
      | ⟨none, span⟩ :: _ => .error (.blame .flagDanglingNegation span)
      | _ => .ok (flags.reverse, c)
    else
      match addFlag flags a c.span with
      | .error mistake => .error mistake
      | .ok flags => readFlags c.next flags rest

/-- What follows a question mark, `c` being after it. -/
def readFlagged (start mark c : Cursor) : Except Mistake (Opening × Cursor) :=
  if c.head?.isNone then .error (.blame .groupUnclosed start.span)
  else
    match readFlags c [] c.rest with
    | .error mistake => .error mistake
    | .ok (flags, stop) =>
      if stop.head? = some ':' then .ok (.flaggedGroup flags, stop.next)
      else if flags.isEmpty then .error (.blame .repetitionMissing mark.here)
      else .ok (.setting flags, stop.next)

/-- The opening whose parenthesis is at `start`, and the place after it. -/
def read (start : Cursor) : Except Mistake (Opening × Cursor) :=
  let c := start.next.skip
  let looks := ["?=", "?!", "?<=", "?<!"].findSome? c.after?
  match looks, c.after? "?P<" <|> c.after? "?<", c.after? "?" with
  | some after, _, _ => .error (.blame .lookAround (start.spanTo after))
  | none, some name, _ => readName name
  | none, none, some flags => readFlagged start c flags
  | none, none, none => .ok (.group none, c)

end Chip8.Pattern.Group
