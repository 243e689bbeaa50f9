import RSource.FileTree
import RSource.Package.Description
import RSource.Package.Namespace
import RSource.Signature.Formals

/-! # Package metadata

What is known of a package once it has been read: what it is for, what it depends on, the functions
it defines and the names it exports. -/

namespace RSource.Package

/-- The metadata of a package. `exports` may hold names without a known signature. -/
structure Metadata where
  name : String
  description? : Option String := none
  depends : List String := []
  exports : List String := []
  functions : OrderedMap Signature := .empty
  deriving Repr, Inhabited

namespace Metadata

def isExported (m : Metadata) (name : String) : Bool :=
  m.exports.contains name

def addFunction (m : Metadata) (s : Signature) : Metadata :=
  { m with functions := m.functions.insert s.name (s.inPackage m.name) }

def exporting (m : Metadata) (name : String) : Metadata :=
  if m.isExported name then m else { m with exports := m.exports ++ [name] }

def withFunction (m : Metadata) (s : Signature) : Metadata :=
  (m.exporting s.name).addFunction s

def exportedSignature? (m : Metadata) (name : String) : Option Signature :=
  (m.functions.get? name).filter fun _ => m.isExported name

def exportedFunctions (m : Metadata) : List Signature :=
  m.functions.values.filter fun s => m.isExported s.name

end Metadata

def sourceFiles (disk : Disk) (dir : Path) : List Path :=
  ((disk.namesIn dir).filter Path.isSourceName).filterMap fun name =>
    let path := dir.join name
    if disk.isFile path then some path else none

/-- The exported names of a package with the given functions: what the namespace says or, without
one, every function whose name does not start with a dot. -/
def resolveExports [Matcher] (namespace? : Option Namespace) (functions : List String) : List String :=
  match namespace? with
  | none => functions.filter fun name => name.toList.head? != some '.'
  | some ns =>
    let patterns := ns.readPatterns
    (ns.exports ++ ns.methods ++ functions.filter (ns.isExported patterns)).eraseDups

/-- The functions defined by the source files of a package, with those of later files in place of
earlier ones of the same name. -/
def definedFunctions (disk : Disk) (name : String) (dir : Path) : OrderedMap Signature :=
  let sources := (sourceFiles disk (dir.join "R")).filterMap disk.read?
  (sources.flatMap Signature.extract).foldl
    (fun fs s => fs.insert s.name (s.inPackage name)) .empty

def load [Matcher] (disk : Disk) (name : String) (dir : Path) : Metadata :=
  let description := (disk.read? (dir.join "DESCRIPTION")).map Description.parse
  let ns := (disk.read? (dir.join "NAMESPACE")).map Namespace.parse
  let functions := definedFunctions disk name dir
  { name
    description? := description.bind Description.summary?
    depends := (description.map Description.depends).getD []
    exports := resolveExports ns functions.names
    functions }

/-- What is looked at to see whether a package has changed: the latest time among the entries that
its metadata is read from, and the total size and the number of the files among them. -/
structure Stamp where
  modified : Nat := 0
  bytes : Nat := 0
  files : Nat := 0
  deriving DecidableEq, Repr, Inhabited

def Stamp.add (s : Stamp) : Option Entry → Stamp
  | some (.file content modified) => ⟨max s.modified modified, s.bytes + content.size, s.files + 1⟩
  | some (.directory modified) => { s with modified := max s.modified modified }
  | none => s

def stampOf (disk : Disk) (dir : Path) : Stamp :=
  let paths := [dir.join "DESCRIPTION", dir.join "NAMESPACE", dir.join "R"]
    ++ sourceFiles disk (dir.join "R")
  paths.foldl (fun s path => s.add (disk.entry? path)) {}

end RSource.Package
