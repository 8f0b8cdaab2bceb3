import Chip8.Text.Pattern.Acceptance
import Chip8.Verbosity

/-!
# Which entries of a journal are shown

A setting chooses the entries that are shown. It lists directives, separated by commas:
a degree of detail, the name of a part of the program, or both with an equals sign
between them. After a slash comes a pattern that has to be found in an entry. What
cannot be understood is complained about and left out.

## Main definitions

* `Directive` — a degree of detail, for all parts or for one.
* `Complaint` — what is wrong with a setting, and `Complaint.lines`, its text.
* `Filter`, `Filter.ofText` — the choice that a setting makes.
* `Filter.passes`, `Filter.selection` — whether an entry is shown.
-/

namespace Chip8

/-- A degree of detail for the parts of the program whose name begins with `part`, or
for all. -/
structure Directive where
  part : Option String
  verbosity : Verbosity
  deriving DecidableEq

/-- What is wrong with a setting. -/
inductive Complaint where
  /-- This is no directive. -/
  | directive (text : String)
  /-- The setting has more than one slash. -/
  | slashes (text : String)
  /-- The pattern cannot be used. -/
  | pattern (text : String) (mistake : Pattern.Mistake)
  deriving DecidableEq

namespace Complaint

/-- What a complaint says. -/
def text : Complaint → String
  | directive text => "invalid logging spec '" ++ text ++ "'"
  | slashes text => "invalid logging spec '" ++ text ++ "' (too many '/'s)"
  | pattern text mistake => "invalid regex filter - " ++ mistake.text text

/-- The lines that a complaint is made in. -/
def lines (c : Complaint) : List String :=
  Lines.ofText ("warning: " ++ c.text ++ ", ignoring it\n")

end Complaint

namespace Directive

/-- The directive that a text without commas stands for. -/
def ofText (text : String) : Except Complaint Directive :=
  match text.splitOn "=" with
  | [word] =>
    match Verbosity.ofText? word with
    | some v => .ok ⟨none, v⟩
    | none => .ok ⟨some word, .trace⟩
  | [part, degree] =>
    let degree := Blank.trim degree
    if degree.isEmpty then .ok ⟨some part, .trace⟩
    else
      match Verbosity.ofText? degree with
      | some v => .ok ⟨some part, v⟩
      | none => .error (.directive degree)
  | _ => .error (.directive text)

/-- Whether a directive is about a part. -/
def covers (d : Directive) (part : String) : Bool :=
  d.part.all fun start => start.toList.isPrefixOf part.toList

/-- How closely a directive names a part. -/
def closeness (d : Directive) : Nat :=
  (d.part.map String.length).getD 0

/-- Directives with one more, which takes the place of one about the same part. -/
def insert (d : Directive) : List Directive → List Directive
  | [] => [d]
  | e :: rest => if e.part = d.part then d :: rest else e :: insert d rest

/-- The directive among several that counts for a part: the one that names it most
closely, and the last of those that name it equally closely. -/
def best? (part : String) : List Directive → Option Directive
  | [] => none
  | d :: rest =>
    match best? part rest with
    | none => if d.covers part then some d else none
    | some e => if d.covers part && e.closeness < d.closeness then some d else some e

end Directive

/-- The choice that a setting makes. -/
structure Filter where
  directives : List Directive := []
  /-- What has to be found in an entry, if something has. -/
  pattern : Option Pattern := none
  /-- What was wrong with the setting. -/
  complaints : List Complaint := []

namespace Filter

/-- The filter with one more directive, if a text stands for one. -/
def add (f : Filter) (text : String) : Filter :=
  let text := Blank.trim text
  if text.isEmpty then f
  else
    match Directive.ofText text with
    | .ok d => { f with directives := d.insert f.directives }
    | .error c => { f with complaints := f.complaints ++ [c] }

/-- The filter with a pattern, if a text describes one. -/
def search (f : Filter) (text : String) : Filter :=
  match Pattern.ofText text with
  | .ok p => { f with pattern := some p }
  | .error mistake => { f with complaints := f.complaints ++ [.pattern text mistake] }

/-- The directives of a text. -/
def ofDirectives (text : String) : Filter :=
  (text.splitOn ",").foldl add {}

/-- The choice that a setting makes. -/
def ofText (text : String) : Filter :=
  match text.splitOn "/" with
  | [directives, pattern] => (ofDirectives directives).search pattern
  | [directives] => ofDirectives directives
  | _ => { complaints := [.slashes text] }

/-- The degree of detail that a part of the program is shown in; without directives,
only errors are shown. -/
def verbosity (f : Filter) (part : String) : Verbosity :=
  if f.directives.isEmpty then .error
  else ((Directive.best? part f.directives).map Directive.verbosity).getD .off

/-- Whether an entry of a part of the program is shown. -/
def passes (f : Filter) (part : String) (level : Verbosity) (text : String) : Bool :=
  (f.verbosity part).admits level && f.pattern.all fun p => p.foundIn text

/-- The lines in which the setting is complained about. -/
def warnings (f : Filter) : List String :=
  f.complaints.flatMap Complaint.lines

/-- The selection of entries that a filter makes. -/
def selection (f : Filter) : Selection :=
  { warnings := f.warnings, passes := f.passes }

end Filter
end Chip8
