/-!
# Written records

Values that are shown to a programmer are written as a name with its fields in
braces, `Name { first: 1, second: 2 }`, and a value that may be absent as `None`
or `Some(1)`.

## Main definitions

* `Record.render name fields` — a name and its fields, in the order given.
* `Record.optional` — a value that may be absent.
* `Record.tagged name value` — a name around one value.
-/

namespace Chip8.Record

/-- One field: its name, a colon and its value. -/
def field (f : String × String) : String :=
  f.1 ++ ": " ++ f.2

/-- A name with its fields in braces; a name without fields stands alone. -/
def render (name : String) (fields : List (String × String)) : String :=
  if fields.isEmpty then name
  else name ++ " \x7b " ++ ", ".intercalate (fields.map field) ++ " \x7d"

/-- A name with one unnamed value in parentheses. -/
def tagged (name value : String) : String :=
  name ++ "(" ++ value ++ ")"

/-- A value that may be absent. -/
def optional : Option String → String
  | none => "None"
  | some value => tagged "Some" value

end Chip8.Record
