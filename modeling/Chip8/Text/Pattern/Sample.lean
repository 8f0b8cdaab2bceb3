import Chip8.Text.Pattern.Normal
import Chip8.Text.CharSet.Rows

/-!
# Texts that pieces begin with

A pattern is looked at for a few texts of bytes, one of which each piece begins with. If
these texts are all that there is to find, they are searched for themselves, and no
machine is needed.

## Main definitions

* `Sample` — a text that a piece begins with, or consists of.
* `Pattern.samples?` — the samples of a pattern, the one that is preferred in front.
* `Pattern.isPlain` — whether a pattern stands for just a few texts.
-/

namespace Chip8

/-- A text that a piece begins with. -/
structure Sample where
  bytes : List Nat
  /-- Whether the piece ends there. -/
  whole : Bool
  deriving DecidableEq

namespace Sample

/-- A sample with its first `n` bytes only. -/
def keep (n : Nat) (s : Sample) : Sample :=
  if s.bytes.length ≤ n then s else ⟨s.bytes.take n, false⟩

/-- The sample that a piece goes on from. -/
def unfinished (s : Sample) : Sample :=
  { s with whole := false }

/-- One sample after another. -/
def append (s t : Sample) : Sample :=
  ⟨s.bytes ++ t.bytes, t.whole⟩

/-- Samples without those that only repeat the one before. -/
def dedup : List Sample → List Sample
  | [] => []
  | s :: rest =>
    match dedup rest with
    | [] => [s]
    | t :: others =>
      if s.bytes = t.bytes then ⟨s.bytes, s.whole && t.whole⟩ :: others else s :: t :: others

/-- Samples without those that begin with one before them. -/
def distinct (all : List Sample) : List Sample :=
  all.foldl (fun kept s =>
    if kept.any fun t => t.bytes.isPrefixOf s.bytes then kept else kept ++ [s]) []

/-- The bytes that two texts both begin with. -/
def agreement : List Nat → List Nat → List Nat
  | a :: as, b :: bs => if a = b then a :: agreement as bs else []
  | _, _ => []

/-- The bytes that all samples begin with. -/
def beginning : List Sample → List Nat
  | [] => []
  | [s] => s.bytes
  | s :: rest => agreement s.bytes (beginning rest)

end Sample

/-- Some samples, or none if there would be too many. -/
abbrev Samples := Option (List Sample)

namespace Samples

/-- The most samples that there may be. -/
def limit : Nat := 250

/-- Whether there would be more samples than may be, `n` being their number. -/
def exceeds (a b : Samples) (n : Nat → Nat → Nat) : Bool :=
  match a, b with
  | some xs, some ys => limit < n xs.length ys.length
  | _, _ => false

/-- Every sample with its first `n` bytes only. -/
def keep (n : Nat) : Samples → Samples :=
  Option.map (List.map (Sample.keep n))

/-- The samples of a piece after another. -/
def cross (a b : Samples) : Samples :=
  let joined : Samples :=
    match a, (if exceeds a b (· * ·) then none else b) with
    | none, _ => none
    | some xs, none =>
      if xs.any fun s => s.bytes.isEmpty then none else some (xs.map Sample.unfinished)
    | some xs, some ys =>
      some (Sample.dedup (xs.flatMap fun s => if s.whole then ys.map s.append else [s]))
  joined.keep 100

/-- The samples of one of two pieces. -/
def union (a b : Samples) : Samples :=
  let both (a b : Samples) : Samples :=
    match a, b with
    | some xs, some ys => some (Sample.dedup (xs ++ ys))
    | _, _ => none
  if exceeds a b (· + ·) then
    let a := (a.keep 4).map Sample.dedup
    let b := (b.keep 4).map Sample.dedup
    if exceeds a b (· + ·) then none else both a b
  else both a b

/-- Whether a piece goes on from every sample. -/
def isUnfinished : Samples → Bool
  | none => true
  | some xs => xs.all fun s => !s.whole

/-- The samples of a piece after others, if these do not go on anyway. -/
def followedBy (done a : Samples) : Samples :=
  if done.isUnfinished then done else done.cross a

/-- The sample of an empty piece. -/
def empty : Samples := some [⟨[], true⟩]

/-- Samples that pieces go on from. -/
def unfinished : Samples → Samples :=
  Option.map (List.map Sample.unfinished)

/-- The samples of pieces in a row. -/
def times (a : Samples) (least : Nat) (most : Option Nat) : Samples :=
  if least = 0 then union (if most = some 1 then a else a.unfinished) empty
  else
    let row := Nat.repeat (followedBy · a) (min least 10) empty
    if most = some least && least ≤ 10 then row else row.unfinished

end Samples

namespace Pattern

/-- The samples of one character of a set. -/
def setSamples? (s : CharSet) : Samples :=
  let ranges := s.ranges
  if 10 < (ranges.map fun r => r.2 + 1 - r.1).foldl (· + ·) 0 then none
  else some (ranges.flatMap fun r =>
    (List.range (r.2 + 1 - r.1)).map fun k => ⟨Utf8.bytes (r.1 + k), true⟩)

/-- The samples of a pattern after others. -/
def samplesAfter (done : Samples) : Pattern → Samples
  | seq a b => b.samplesAfter (a.samplesAfter done)
  | empty | place _ => done.followedBy .empty
  | literal cs => done.followedBy (Samples.keep 100 (some [⟨Utf8.encode cs, true⟩]))
  | one set => done.followedBy (setSamples? set)
  | group _ p => done.followedBy (p.samplesAfter .empty)
  | either a b => done.followedBy ((a.samplesAfter .empty).union (b.samplesAfter .empty))
  | repeated p least most => done.followedBy ((p.samplesAfter .empty).times least most)

/-- The samples of a pattern. -/
def samples? (p : Pattern) : Samples :=
  p.samplesAfter .empty

/-- Whether a pattern has no groups that are remembered and no conditions on places. -/
def isFree : Pattern → Bool
  | group _ _ | place _ => false
  | seq a b | either a b => a.isFree && b.isFree
  | repeated p _ _ => p.isFree
  | empty | literal _ | one _ => true

/-- The bytes that texts are full of. -/
def commonBytes : List Nat :=
  ("\n\r (),-./0129:_abcdefghilmnoprstuvxy|".toList).map Char.toNat

/-- Samples cut down to fewer bytes while there are more than a number of them. -/
def cutDown : List (Nat × Nat) → List Sample → List Sample
  | [], all => all
  | (bytes, most) :: rest, all =>
    if all.length ≤ most then all
    else cutDown rest (Sample.distinct (all.map (Sample.keep bytes)))

/-- Whether some samples are searched for whole: few bytes would be searched for that they
all begin with, if these are seldom met with or are many. -/
def areWhole (all : List Sample) : Bool :=
  let kept := Sample.distinct all
  let start := Sample.beginning kept
  let whole := kept.all Sample.whole
  let isRare := start.head?.any fun byte => byte < 0x80 && !commonBytes.contains byte
  let cut : List Sample :=
    if 1 < all.length && start.length ≤ 3 && isRare then kept.map (Sample.keep 1)
    else if 4 < start.length || 1 < start.length && !(whole && kept.length ≤ 16) then
      kept.map (Sample.keep start.length)
    else
      let fewer := cutDown [(5, 10), (4, 10), (3, 64), (2, 64), (1, 10)] kept
      if 64 < fewer.length || fewer.any fun s => s.bytes.length ≤ 2 then kept else fewer
  cut.all Sample.whole

/-- Whether a pattern stands for just a few texts. -/
def isPlain (p : Pattern) : Bool :=
  p.isFree &&
    match p.samples? with
    | none => false
    | some all => !all.isEmpty && all.all (fun s => !s.bytes.isEmpty) && areWhole all

end Pattern
end Chip8
