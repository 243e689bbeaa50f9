import RSource.OrderedMap
import RSource.Text.Trim

/-! # Package descriptions

A description file consists of fields `Name: value`, one a line. A line that starts with a blank
continues the field above it; any other line without a field name ends it. -/

namespace RSource.Package

structure Description where
  fields : OrderedMap String := .empty
  deriving Repr, Inhabited

namespace Description

/-- The fields read so far and the field that a continuation line goes to. -/
structure Progress where
  fields : OrderedMap String := .empty
  current? : Option String := none

def field? (line : Text) : Option (String × String) :=
  let name := line.takeWhile (· != ':')
  if name.length < line.length ∧ ¬name.isEmpty ∧ ¬name.contains ' ' then
    some (String.ofList name, String.ofList (Text.trim (line.drop (name.length + 1))))
  else none

def continued (value : String) (line : Text) : String :=
  let more := String.ofList (Text.trim line)
  if more.isEmpty then value else if value.isEmpty then more else value ++ " " ++ more

def addLine (p : Progress) (line : Text) : Progress :=
  if line.head? = some ' ' ∨ line.head? = some '\t' then
    match p.current?.bind fun name => (p.fields.get? name).map fun value => (name, value) with
    | some (name, value) => { p with fields := p.fields.insert name (continued value line) }
    | none => p
  else
    match field? line with
    | some (name, value) => ⟨p.fields.insert name value, some name⟩
    | none => { p with current? := none }

def parse (source : Text) : Description :=
  ⟨((Text.lines source).foldl addLine {}).fields⟩

def get? (d : Description) (name : String) : Option String :=
  d.fields.get? name

/-- What the package is for: its description or, without one, its title. -/
def summary? (d : Description) : Option String :=
  ((d.get? "Description").or (d.get? "Title")).filter fun s => !s.isEmpty

/-- The package named by an item of a dependency list, without its version constraint. -/
def dependency (item : Text) : String :=
  String.ofList (Text.trim ((Text.trim item).takeWhile (· != '(')))

def depends (d : Description) : List String :=
  match d.get? "Depends" with
  | none => []
  | some value =>
    ((Text.splitAll (· == ',') value.toList).map dependency).filter fun n => !n.isEmpty && n != "R"

end Description

end RSource.Package
