import RSource.Path
import RSource.Text.Bytes

/-! # File trees

A file tree in memory: the entries of a file system by their position, a list of names from the
root. A file that is no UTF-8 text is known by its size only. A disk is a file tree together with
the directory at which relative paths start. -/

namespace RSource

inductive Content where
  | text (t : Text)
  | binary (size : Nat)
  deriving Repr, Inhabited

def Content.size : Content → Nat
  | text t => t.byteLength
  | binary n => n

def Content.text? : Content → Option Text
  | text t => some t
  | binary _ => none

/-- A file or a directory, with the time of its last change in seconds. -/
inductive Entry where
  | file (content : Content) (modified : Nat)
  | directory (modified : Nat)
  deriving Repr, Inhabited

abbrev Position := List String

structure FileTree where
  entries : List (Position × Entry) := []
  deriving Repr, Inhabited

namespace FileTree

/-- The entry at a position; the root is a directory. -/
def entry? (t : FileTree) (p : Position) : Option Entry :=
  if p.isEmpty then some (.directory 0) else t.entries.lookup p

def isDirectory (t : FileTree) (p : Position) : Bool :=
  match t.entry? p with
  | some (.directory _) => true
  | _ => false

def nameIn? (p : Position) (e : Position × Entry) : Option String :=
  if e.1.dropLast = p then e.1.getLast? else none

def namesIn (t : FileTree) (p : Position) : List String :=
  (t.entries.filterMap (nameIn? p)).mergeSort fun a b => a ≤ b

def set (t : FileTree) (p : Position) (e : Entry) : FileTree :=
  ⟨(p, e) :: t.entries.filter fun x => x.1 != p⟩

/-- The tree with a directory at every position on the way to `p` and at `p` itself; the new ones
have the time 0. -/
def makeDirectories (t : FileTree) (p : Position) : FileTree :=
  (List.range p.length).foldl (fun t i =>
    let q := p.take (i + 1)
    if t.isDirectory q then t else t.set q (.directory 0)) t

def touch (t : FileTree) (p : Position) (modified : Nat) : FileTree :=
  if p.isEmpty || !t.isDirectory p then t else t.set p (.directory modified)

def write (t : FileTree) (p : Position) (content : Content) (modified : Nat) : FileTree :=
  (t.makeDirectories p.dropLast).set p (.file content modified)

def remove (t : FileTree) (p : Position) : FileTree :=
  ⟨t.entries.filter fun x => !p.isPrefixOf x.1⟩

end FileTree

structure Disk where
  tree : FileTree := {}
  current : Position := []
  deriving Repr, Inhabited

namespace Disk

/-- The position after one piece of a path: an empty piece or a dot stays in a directory, two dots
leave it. -/
def step (d : Disk) (p : Position) (piece : String) : Option Position :=
  if piece = "" ∨ piece = "." then if d.tree.isDirectory p then some p else none
  else if piece = ".." then if d.tree.isDirectory p then some p.dropLast else none
  else some (p ++ [piece])

def position? (d : Disk) (path : Path) : Option Position :=
  if path.isEmpty then none
  else path.pieces.foldlM d.step (if path.isAbsolute then [] else d.current)

def entry? (d : Disk) (path : Path) : Option Entry :=
  (d.position? path).bind d.tree.entry?

def exists? (d : Disk) (path : Path) : Bool :=
  (d.entry? path).isSome

def isDirectory (d : Disk) (path : Path) : Bool :=
  match d.entry? path with
  | some (.directory _) => true
  | _ => false

def isFile (d : Disk) (path : Path) : Bool :=
  match d.entry? path with
  | some (.file ..) => true
  | _ => false

def read? (d : Disk) (path : Path) : Option Text :=
  match d.entry? path with
  | some (.file content _) => content.text?
  | _ => none

/-- The names in the directory at a path, sorted; none if there is no directory. -/
def namesIn (d : Disk) (path : Path) : List String :=
  match d.position? path with
  | some p => if d.tree.isDirectory p then d.tree.namesIn p else []
  | none => []

end Disk

end RSource
