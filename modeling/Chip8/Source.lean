import Chip8.Layout
import Chip8.Text.Quoted
import Chip8.Text.Record

/-!
# Where programs come from

A program is read from a source that gives its bytes piece by piece and then ends, or
fails. An empty piece tells that the source has ended. Only a source that ends has
contents; whatever a failing one gave before is lost. An interruption is no failure, since
reading goes on after it.

## Main definitions

* `ReadError` — why a source fails.
* `Source`, `Source.contents` — a source, and the bytes that it gives up to its end.
* `LoadError` — why a program cannot be loaded.
-/

namespace Chip8

/-- Why a source fails. -/
inductive ReadError where
  /-- The system refused to open or to read a file. -/
  | system (code : Nat) (kind message : String)
  /-- The reader gave a reason of its own. -/
  | reported (message : String)
  deriving DecidableEq

namespace ReadError

/-- There is no file of that name. -/
def notFound : ReadError :=
  .system 2 "NotFound" "No such file or directory"

/-- The name is that of a directory. -/
def isDirectory : ReadError :=
  .system 21 "IsADirectory" "Is a directory"

/-- A directory is expected where there is a file. -/
def notDirectory : ReadError :=
  .system 20 "NotADirectory" "Not a directory"

/-- The name is longer than any name of a file. -/
def nameTooLong : ReadError :=
  .system 36 "InvalidFilename" "File name too long"

/-- The text of the cause. -/
def message : ReadError → String
  | .system code _ message => message ++ " (os error " ++ Nat.repr code ++ ")"
  | .reported message => message

/-- The cause as a record. -/
def record : ReadError → String
  | .system code kind message =>
    Record.render "Os"
      [("code", Nat.repr code), ("kind", kind), ("message", Quoted.encode message)]
  | .reported message =>
    Record.render "Custom" [("kind", "Other"), ("error", Quoted.encode message)]

end ReadError

/-- A reader of bytes: the pieces that it gives one after another, and the failure it
ends with, if it does not end well. -/
structure Source where
  pieces : List (List UInt8)
  failure : Option ReadError := none

namespace Source

/-- A source that gives these bytes at once and ends. -/
def ofBytes (bytes : List UInt8) : Source :=
  { pieces := [bytes] }

/-- A source that fails before it has given anything. -/
def broken (error : ReadError) : Source :=
  { pieces := [], failure := some error }

/-- The bytes of pieces, read until one is empty or there are no more, which may be a
failure. -/
def collect (failure : Option ReadError) : List (List UInt8) → Except ReadError (List UInt8)
  | [] =>
    match failure with
    | some error => .error error
    | none => .ok []
  | piece :: rest =>
    if piece.isEmpty then .ok [] else (collect failure rest).map (piece ++ ·)

/-- All bytes of a source that ends well. -/
def contents (source : Source) : Except ReadError (List UInt8) :=
  collect source.failure source.pieces

@[simp] theorem contents_ofBytes (bytes : List UInt8) :
    (ofBytes bytes).contents = .ok bytes := by
  cases bytes with
  | nil => rfl
  | cons b rest =>
    rw [ofBytes, contents, collect, collect]
    exact congrArg Except.ok (List.append_nil _)

/-- A source that fails before it has ended has no contents. -/
theorem contents_of_failure {source : Source} {error : ReadError}
    (fails : source.failure = some error) (open' : [] ∉ source.pieces) :
    source.contents = .error error := by
  rw [contents, fails]
  generalize source.pieces = pieces at open'
  induction pieces with
  | nil => rfl
  | cons piece rest ih =>
    have filled : piece.isEmpty = false := by
      rw [List.isEmpty_eq_false_iff]
      rintro rfl
      exact open' List.mem_cons_self
    rw [collect, filled, ih fun mem => open' (List.mem_cons_of_mem _ mem)]
    rfl

/-- A source that ends has given the pieces in front of an empty one, or all of them. -/
theorem contents_of_end {source : Source} (ends : source.failure = none ∨ [] ∈ source.pieces) :
    source.contents = .ok (source.pieces.takeWhile fun piece => !piece.isEmpty).flatten := by
  rw [contents]
  generalize source.pieces = pieces at ends
  induction pieces with
  | nil =>
    rw [ends.resolve_right List.not_mem_nil]
    rfl
  | cons piece rest ih =>
    cases empty : piece.isEmpty with
    | true => simp [collect, empty]
    | false =>
      have later : source.failure = none ∨ [] ∈ rest := by
        refine ends.imp_right fun mem => (List.mem_cons.1 mem).resolve_left ?_
        rintro rfl
        cases empty
      rw [collect, empty, ih later, List.takeWhile_cons, empty]
      rfl

end Source

/-- Why a program cannot be loaded. -/
inductive LoadError where
  /-- The program has more bytes than memory has room for. -/
  | tooLarge (size : Nat)
  /-- The program cannot be read. -/
  | unreadable (cause : ReadError)
  deriving DecidableEq

namespace LoadError

/-- The text of an error. -/
def message : LoadError → String
  | .tooLarge size =>
    "ROM is " ++ Nat.repr size ++ " bytes, at most " ++ Nat.repr Layout.programLimit
      ++ " fit in program memory"
  | .unreadable cause => cause.message

/-- The error as a record. -/
def record : LoadError → String
  | .tooLarge size =>
    Record.render "RomTooLarge"
      [("size", Nat.repr size), ("max", Nat.repr Layout.programLimit)]
  | .unreadable cause => Record.tagged "Io" cause.record

end LoadError
end Chip8
