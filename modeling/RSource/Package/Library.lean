import RSource.Package.Index
import RSource.Settings

/-! # Library directories

Where packages are looked for: the directories of the settings, then those of the environment, then
the usual places that exist. -/

namespace RSource.Package

structure Environment where
  values : List (String × String) := []
  deriving Repr, Inhabited

def Environment.get? (e : Environment) (name : String) : Option String :=
  e.values.lookup name

def usualLibraries (env : Environment) : List Path :=
  let system := ["/usr/lib/R/library", "/usr/local/lib/R/library", "/usr/lib64/R/library"]
  match env.get? "HOME" with
  | some home =>
    system ++ ["4.4", "4.3"].map fun version => home ++ "/R/x86_64-pc-linux-gnu-library/" ++ version
  | none => system

def listedIn (env : Environment) (name : String) : List Path :=
  match env.get? name with
  | some value => (value.splitOn ":").filter fun p => !p.isEmpty
  | none => []

def libraryDirectories (disk : Disk) (env : Environment) (settings : Settings.Packages) :
    List Path :=
  let byDefault :=
    if settings.useDefaultLibraryPaths then
      listedIn env "R_LIBS" ++ listedIn env "R_LIBS_USER"
        ++ (usualLibraries env).filter disk.isDirectory
    else []
  Path.distinct (settings.libraryPaths ++ byDefault)

/-- The index that the settings ask for; without packages it has no library directory. -/
def Index.ofSettings (disk : Disk) (env : Environment) (settings : Settings.Packages) : Index :=
  let paths := if settings.enabled then libraryDirectories disk env settings else []
  .new paths settings.lookupCacheSize

end RSource.Package
