import RSource.Call.Active
import RSource.Package.Index

/-! # The phases of an analysis

An analysis of a directory of R files goes through phases: finding the files, tokenizing them,
building their trees, looking up every function they call, and resolving the active parameter at
every call. Each phase gives a line that sums up what it saw. -/

namespace RSource

/-- A phase by its name, with the line that sums it up. The line is computed when it is asked for,
so that the time it takes can be measured. -/
structure Phase where
  name : String
  detail : Thunk String

namespace Phase

def phaseNames : List String :=
  ["scan", "tokenize", "parse", "packages", "resolve"]

def skippedDirectories : List String :=
  [".git", ".svn", ".hg", "node_modules", ".Rproj.user", "renv", "packrat", ".vscode", ".idea",
    "target"]

def positionLe (p q : Position) : Bool :=
  match p, q with
  | [], _ => true
  | _, [] => false
  | a :: p, b :: q => if a = b then positionLe p q else a < b

def sourceBelow? (root : Position) (e : Position × Entry) : Option (Position × Text) :=
  match e.2 with
  | .directory _ => none
  | .file content _ =>
    if root.isPrefixOf e.1 then
      let inner := e.1.drop root.length
      if inner.dropLast.any skippedDirectories.contains then none
      else if (e.1.getLast?.map Path.isSourceName).getD false then
        content.text?.map fun t => (e.1, t)
      else none
    else none

def sourceTexts (disk : Disk) (path : Path) : List Text :=
  match disk.position? path with
  | none => []
  | some root =>
    ((disk.tree.entries.filterMap (sourceBelow? root)).mergeSort
      fun a b => positionLe a.1 b.1).map (·.2)

structure File where
  text : Text
  tree : Tree

def File.calls (f : File) : List Tree :=
  f.tree.nodes.filter fun t => t.kind == .call

def calledNames (files : List File) : List String :=
  let names := files.flatMap fun f => f.calls.filterMap fun c => c.calleeName? f.text
  names.eraseDups.mergeSort fun a b => a ≤ b

def signaturesOf (disk : Disk) : List String → Package.Index → List (String × List Signature)
  | [], _ => []
  | name :: rest, i =>
    let (found, i) := i.lookup disk name
    let more := signaturesOf disk rest i
    if found.isEmpty then more else (name, found) :: more

/-- The calls of the files to functions with signatures, each with whether its first parameter can
be resolved. -/
def resolutions (files : List File) (signatures : List (String × List Signature)) : List Bool :=
  files.flatMap fun f => f.calls.filterMap fun c =>
    c.callParts?.bind fun (_, list) =>
      ((c.calleeName? f.text).bind fun name => signatures.lookup name).map fun candidates =>
        (Call.active? f.tree f.text (list.span.start + 1) candidates false).isSome

def run (disk : Disk) (path : Path) (libraryPaths : List Path) (only : Option String) :
    List Phase :=
  let texts : Thunk (List Text) := .mk fun _ => sourceTexts disk path
  let tokens : Thunk (List (Text × List Token)) :=
    .mk fun _ => texts.get.map fun t => (t, Token.tokenizeAll t)
  let files : Thunk (List File) :=
    .mk fun _ => tokens.get.map fun (t, ts) => ⟨t, Grammar.build t ts⟩
  let index : Thunk (Nat × Package.Index) :=
    .mk fun _ => (Package.Index.new libraryPaths Package.defaultMemoSize).scan disk
  let called : Thunk (List String) := .mk fun _ => calledNames files.get
  let signatures : Thunk (List (String × List Signature)) :=
    .mk fun _ => signaturesOf disk called.get index.get.2
  let all : List Phase :=
    [⟨"scan", .mk fun _ => s!"{texts.get.length} files"⟩,
      ⟨"tokenize", .mk fun _ =>
        let count := tokens.get.foldl (fun n (_, ts) => n + ts.length) 0
        s!"{tokens.get.length} files, {count} tokens"⟩,
      ⟨"parse", .mk fun _ =>
        let flawed := files.get.countP fun f => f.tree.hasErrors
        s!"{files.get.length} files parsed ({flawed} with syntax errors)"⟩,
      ⟨"packages", .mk fun _ =>
        let found := signatures.get.length
        s!"{index.get.1} packages, {called.get.length} called names, {found} with signatures"⟩,
      ⟨"resolve", .mk fun _ =>
        let rs := resolutions files.get signatures.get
        let resolved := rs.count true
        s!"{rs.length} calls with signatures, {resolved} resolved"⟩]
  match only with
  | some name => all.filter fun p => p.name == name
  | none => all

end Phase

end RSource
