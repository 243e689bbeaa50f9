import RSource.Command.Options
import RSource.Help
import RSource.Json.Read
import RSource.Listing
import RSource.Package.Library
import RSource.Phase.Report

/-! # Running commands

What the commands do, given a disk and an environment. A command gives the text it prints, or the
reason why it failed. -/

namespace RSource.Command

inductive RunError where
  | unreadableFile (path : Path)
  | unreadableSettings (path : Path)
  | malformedSettings (path : Path)
  deriving DecidableEq, Repr, Inhabited

def RunError.message : RunError → String
  | unreadableFile path => "failed to read " ++ path
  | unreadableSettings path => "failed to read config file " ++ path
  | malformedSettings path => "invalid JSON in config file " ++ path

def readFile (disk : Disk) (path : Path) : Except RunError Text :=
  match disk.read? path with
  | some text => .ok text
  | none => .error (.unreadableFile path)

def readSettings (disk : Disk) (path : Path) : Except RunError Settings :=
  match disk.read? path with
  | none => .error (.unreadableSettings path)
  | some text =>
    match Json.parse? text with
    | some json => .ok (Settings.ofJson json)
    | none => .error (.malformedSettings path)

def settingsOf (disk : Disk) : Option Path → Except RunError Settings
  | some path => readSettings disk path
  | none => .ok {}

/-- The index for a command: the library directories given to it are searched before those of the
settings. -/
def indexFor (disk : Disk) (env : Package.Environment) (settings : Settings) (given : List Path) :
    Package.Index :=
  .ofSettings disk env
    { settings.packages with libraryPaths := given ++ settings.packages.libraryPaths }

def Listing.run (disk : Disk) (o : Listing Path) : Except RunError String := do
  let text ← readFile disk o.file
  return listing text o.trivia o.tree

def Helping.run (disk : Disk) (env : Package.Environment) (o : Helping Path Nat) :
    Except RunError String := do
  let settings ← settingsOf disk o.settings?
  let text ← readFile disk o.file
  let (_, index) := (indexFor disk env settings o.libraryPaths).scan disk
  let matchBeginnings := settings.matchBeginnings || o.matchBeginnings
  let (help, _) := Help.at? disk index matchBeginnings (Document.Snapshot.parse 0 text) o.offset
  return if o.json then (Help.toJson help).pretty ++ "\n" else Help.render help

def packageLines (disk : Disk) (index : Package.Index) (functions : Bool) (name : String) :
    String :=
  match index.packages.get? name with
  | none => ""
  | some dir =>
    let head := Phase.padRight 24 name ++ " " ++ dir ++ "\n"
    if functions then
      let exported := ((index.metadata? disk name).1.map (·.exportedFunctions)).getD []
      let sorted := exported.mergeSort fun a b => a.name ≤ b.name
      head ++ String.join (sorted.map fun s => "    " ++ s.label ++ "\n")
    else head

def Inventory.run (disk : Disk) (env : Package.Environment) (o : Inventory) :
    Except RunError String := do
  let settings ← settingsOf disk o.settings?
  let (count, index) := (indexFor disk env settings o.libraryPaths).scan disk
  let head := s!"{count} packages in {index.libraryPaths.length} library paths\n"
  return head ++ String.join (index.searchOrder.map (packageLines disk index o.functions))

def Timing.phases (disk : Disk) (o : Timing Path) : List Phase :=
  Phase.run disk o.path o.libraryPaths o.only

def Timing.report (o : Timing Path) (measured : List Phase.Measured) : String :=
  if o.csv then Phase.csv measured else Phase.table measured

end RSource.Command
