import RSource.Command.Program

/-! # The command line

The layer around the program. It takes a picture of the part of the file system that the arguments
and the environment name, asks the program what to do, and does it. -/

namespace RSource.Command

def readEnvironment : IO Package.Environment := do
  let values ← ["HOME", "R_LIBS", "R_LIBS_USER"].filterMapM fun name => do
    return (← IO.getEnv name).map fun value => (name, value)
  return ⟨values⟩

def contentOf (bytes : ByteArray) : Content :=
  match String.fromUTF8? bytes with
  | some s => .text s.toList
  | none => .binary bytes.size

def isRead (name : String) : Bool :=
  Path.isSourceName name || name == "DESCRIPTION" || name == "NAMESPACE"

/-- The tree with the file or directory at a path put at a position. What cannot be read is left
out. -/
partial def addEntry (tree : FileTree) (position : Position) (path : Path) : IO FileTree := do
  let file := (← IO.currentDir) / path
  try
    let modified := (← file.metadata).modified.sec.toNat
    if ← file.isDir then
      let entries ← file.readDir
      entries.foldlM (fun tree e => do
          if (← e.path.isDir) || isRead e.fileName then
            addEntry tree (position ++ [e.fileName]) (path.join e.fileName)
          else return tree)
        ((tree.makeDirectories position).touch position modified)
    else
      let bytes ← IO.FS.readBinFile file
      return tree.write position (contentOf bytes) modified
  catch _ => return tree

def addParents (disk : Disk) (path : Path) : IO Disk := do
  let parts := (List.range path.pieces.length).map fun n =>
    String.intercalate "/" (path.pieces.take n)
  parts.foldlM (fun disk (part : Path) => do
      if ← ((← IO.currentDir) / part).isDir then
        match disk.position? part with
        | some position => return { disk with tree := disk.tree.makeDirectories position }
        | none => return disk
      else return disk)
    disk

def addPath (disk : Disk) (path : Path) : IO Disk := do
  let disk ← addParents disk path
  match disk.position? path with
  | some position => return { disk with tree := ← addEntry disk.tree position path }
  | none => return disk

def readDisk (env : Package.Environment) (arguments : List String) : IO Disk := do
  let current := (Path.steps (← IO.currentDir).toString)
  let start : Disk := ⟨FileTree.makeDirectories {} current, current⟩
  let libraries := Package.listedIn env "R_LIBS" ++ Package.listedIn env "R_LIBS_USER"
    ++ Package.usualLibraries env
  let disk ← (arguments ++ libraries).foldlM addPath start
  let named := arguments.flatMap fun path =>
    match readSettings disk path with
    | .ok settings => settings.packages.libraryPaths
    | .error _ => []
  named.foldlM addPath disk

def measure (phase : Phase) : IO Phase.Measured := do
  let start ← IO.monoNanosNow
  let detail ← IO.lazyPure fun _ => phase.detail.get
  let stop ← IO.monoNanosNow
  return ⟨phase.name, stop - start, none, detail⟩

end RSource.Command

open RSource Command in
def main (arguments : List String) : IO UInt32 := do
  let env ← readEnvironment
  let disk ← readDisk env arguments
  match program disk env arguments with
  | .print text => IO.print text; return 0
  | .fail message => IO.eprintln ("Error: " ++ message); return 1
  | .time options =>
    let measured ← (options.phases disk).mapM measure
    IO.print (options.report measured)
    return 0
