import RSource.Package.Memo
import RSource.Package.Metadata

/-! # The package index

The index knows the packages in a list of library directories and packages registered in memory. A
scan finds the packages; the metadata of a package is read when it is first asked for and kept until
a scan finds the package changed. Answers to lookups are remembered until the next scan or
registration. Every scan raises the generation, and an answer is remembered only if no scan came
between its start and its end. -/

namespace RSource.Package

def attachedPackages : List String :=
  ["base", "stats", "graphics", "grDevices", "utils", "datasets", "methods"]

def defaultMemoSize : Nat := 512

/-- Metadata with the directory and the stamp of the package when it was read; a package registered
in memory has no directory. -/
structure Loaded where
  directory : Path
  stamp? : Option Stamp
  metadata : Metadata
  deriving Repr, Inhabited

def Loaded.isRegistered (l : Loaded) : Bool :=
  l.directory.isEmpty

/-- A package index that remembers answers in a memory of type `μ`. `packages` gives the directory of
every known package, empty for one registered in memory; `loads` counts the packages read from disk. -/
structure Index (μ : Type := Memo (List Signature)) where
  libraryPaths : List Path
  packages : OrderedMap Path := .empty
  loaded : OrderedMap Loaded := .empty
  memo : μ
  generation : Nat := 0
  loads : Nat := 0
  deriving Repr

namespace Index

variable {μ : Type}

def new [Memory μ (List Signature)] (libraryPaths : List Path) (memoSize : Nat) : Index μ :=
  { libraryPaths, memo := Memory.new (max 1 memoSize) }

/-! ## Scanning -/

def isHidden (name : String) : Bool :=
  name.toList.head? == some '.' || "00LOCK".toList.isPrefixOf name.toList

def packagesIn (disk : Disk) (root : Path) : List (String × Path) :=
  (disk.namesIn root).filterMap fun name =>
    let path := root.join name
    if disk.isDirectory path && !isHidden name then some (name, path) else none

/-- The packages in the library directories; a name found in an earlier directory wins. -/
def discover (disk : Disk) (roots : List Path) : OrderedMap Path :=
  (roots.flatMap (packagesIn disk)).foldl
    (fun found (name, path) => if found.contains name then found else found.insert name path) .empty

def isUnchanged (disk : Disk) (found : OrderedMap Path) (name : String) (l : Loaded) : Bool :=
  (found.get? name).any (Path.same l.directory) && l.stamp? == some (stampOf disk l.directory)

/-- Looks for the packages again. Registered packages stay unless a package of their name was found;
metadata stays if the package is still registered or unchanged. Gives the number of packages
found. -/
def scan [Memory μ (List Signature)] (disk : Disk) (i : Index μ) : Nat × Index μ :=
  let found := discover disk i.libraryPaths
  let registered := i.packages.entries.filter fun (name, dir) => dir.isEmpty && !found.contains name
  let packages : OrderedMap Path := ⟨found.entries ++ registered⟩
  let stays (name : String) (l : Loaded) : Bool :=
    if l.isRegistered then (packages.get? name).any (·.isEmpty)
    else isUnchanged disk found name l
  (found.entries.length,
    { i with
      packages
      loaded := ⟨i.loaded.entries.filter fun (name, l) => stays name l⟩
      memo := Memory.clear i.memo
      generation := i.generation + 1 })

/-! ## Metadata -/

/-- Keeps metadata that was read in the given generation, unless a scan came in between or the
package has metadata already. -/
def keep (i : Index μ) (name : String) (generation : Nat) (l : Loaded) : Metadata × Index μ :=
  if i.generation ≠ generation then (l.metadata, i)
  else
    match i.loaded.get? name with
    | some earlier => (earlier.metadata, i)
    | none => (l.metadata, { i with loaded := i.loaded.insert name l })

def metadata? [Matcher] (disk : Disk) (i : Index μ) (name : String) : Option Metadata × Index μ :=
  match i.loaded.get? name with
  | some l => (some l.metadata, i)
  | none =>
    match i.packages.get? name with
    | none => (none, i)
    | some dir =>
      let stamp? := if dir.isEmpty then none else some (stampOf disk dir)
      let l : Loaded := ⟨dir, stamp?, load disk name dir⟩
      let (m, i') := { i with loads := i.loads + 1 }.keep name i.generation l
      (some m, i')

def loadedMetadata? (i : Index μ) (name : String) : Option Metadata :=
  (i.loaded.get? name).map (·.metadata)

def populate [Matcher] (disk : Disk) (i : Index μ) : Index μ :=
  i.packages.names.foldl (fun i name => (i.metadata? disk name).2) i

def register [Memory μ (List Signature)] (i : Index μ) (m : Metadata) : Index μ :=
  { i with
    packages := if i.packages.contains m.name then i.packages else i.packages.insert m.name ""
    loaded := i.loaded.insert m.name ⟨"", none, m⟩
    memo := Memory.clear i.memo }

/-! ## Lookup -/

/-- A name split at its package: the package, the name in it, and whether internal functions are
meant. -/
structure Qualified where
  package : String
  name : String
  isInternal : Bool
  deriving DecidableEq, Repr, Inhabited

def splitOnce? (separator : Text) (t : Text) : Option (Text × Text) :=
  (Token.find? separator t).map fun n => (t.take n, t.drop (n + separator.length))

def qualified? (name : String) : Option Qualified :=
  match splitOnce? ":::".toList name.toList with
  | some (package, function) => some ⟨String.ofList package, String.ofList function, true⟩
  | none =>
    (splitOnce? "::".toList name.toList).map fun (package, function) =>
      ⟨String.ofList package, String.ofList function, false⟩

def searchOrder (i : Index μ) : List String :=
  attachedPackages.filter i.packages.contains
    ++ i.packages.names.filter fun name => !attachedPackages.contains name

def searchIn [Matcher] (disk : Disk) (name : String) : List String → Index μ → List Signature × Index μ
  | [], i => ([], i)
  | package :: rest, i =>
    let (m, i) := i.metadata? disk package
    let (more, i) := searchIn disk name rest i
    ((m.bind (·.exportedSignature? name)).toList ++ more, i)

def search [Matcher] (disk : Disk) (i : Index μ) (name : String) : List Signature × Index μ :=
  match qualified? name with
  | some q =>
    let (m, i) := i.metadata? disk q.package
    let found := m.bind fun m =>
      if q.isInternal then m.functions.get? q.name else m.exportedSignature? q.name
    (found.toList, i)
  | none => searchIn disk name i.searchOrder i

def remembered? [Memory μ (List Signature)] (i : Index μ) (name : String) :
    Option (List Signature) × Index μ :=
  let (answer, memo) := Memory.get? i.memo name
  (answer, { i with memo })

/-- Remembers an answer found in the given generation, unless a scan came in between. -/
def remember [Memory μ (List Signature)] (i : Index μ) (name : String) (generation : Nat)
    (answer : List Signature) : Index μ :=
  if i.generation = generation then { i with memo := Memory.put i.memo name answer } else i

def lookup [Matcher] [Memory μ (List Signature)] (disk : Disk) (i : Index μ) (name : String) :
    List Signature × Index μ :=
  match i.remembered? name with
  | (some answer, i') => (answer, i')
  | (none, i') =>
    let (answer, i'') := i'.search disk name
    (answer, i''.remember name i.generation answer)

end Index

end RSource.Package
