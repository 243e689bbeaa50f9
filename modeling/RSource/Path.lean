import RSource.Text.Trim

/-! # Paths

A path is kept as it was written. Two spellings are the same path when they have the same steps:
repeated slashes, a slash at the end and dots in between do not count. -/

namespace RSource

abbrev Path := String

namespace Path

def pieces (p : Path) : List String :=
  (Text.splitAll (· == '/') p.toList).map String.ofList

def isAbsolute (p : Path) : Bool :=
  p.toList.head? == some '/'

/-- The steps of the path: a dot counts only at the start of a relative path. -/
def steps (p : Path) : List String :=
  let named := p.pieces.filter fun s => s != "" && s != "."
  if p.pieces.head? = some "." then "." :: named else named

def same (p q : Path) : Bool :=
  p.isAbsolute == q.isAbsolute && p.steps == q.steps

def join (dir : Path) (name : String) : Path :=
  if dir.isEmpty then name
  else if dir.toList.getLast? = some '/' then dir ++ name
  else dir ++ "/" ++ name

def distinct (ps : List Path) : List Path :=
  ps.foldl (fun seen p => if seen.any (same p) then seen else seen ++ [p]) []

/-- The part of a file name behind its last dot, if something stands before the dot. -/
def fileExtension? (name : String) : Option String :=
  match (Text.splitAll (· == '.') name.toList).reverse with
  | last :: before =>
    if before.isEmpty ∨ name = ".." ∨ before = [[]] then none else some (String.ofList last)
  | [] => none

def isSourceName (name : String) : Bool :=
  fileExtension? name == some "R" || fileExtension? name == some "r"

end Path

end RSource
