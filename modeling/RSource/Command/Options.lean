import RSource.FileTree
import RSource.Phase

/-! # Command-line options

The options of the commands and how they are read. Arguments are read from left to right, and the
first one that does not fit is reported; what is missing is reported at the end. -/

namespace RSource.Command

inductive UsageError where
  | missingFile
  | severalFiles
  | missingPath
  | severalPaths
  | missingOffset
  | missingValue (flag : String)
  | missingDirectory (flag : String)
  | missingPhase (flag : String)
  | unknownFlag (flag : String)
  | unknownArgument (argument : String)
  | badOffset (value : String)
  | unknownPhase (name : String)
  | noSuchPath (path : Path)
  deriving DecidableEq, Repr, Inhabited

def UsageError.message : UsageError → String
  | missingFile => "Missing required <file> argument"
  | severalFiles => "Multiple files provided; expected exactly one"
  | missingPath => "Missing required <path> argument"
  | severalPaths => "Multiple paths provided; expected exactly one"
  | missingOffset => "Missing required --offset"
  | missingValue flag => flag ++ " requires a value"
  | missingDirectory flag => flag ++ " requires a directory"
  | missingPhase flag => flag ++ " requires a phase name"
  | unknownFlag flag => "Unknown flag: '" ++ flag ++ "'"
  | unknownArgument argument => "Unknown argument: '" ++ argument ++ "'"
  | badOffset value => "Invalid offset '" ++ value ++ "'"
  | unknownPhase name =>
    "Unknown phase '" ++ name ++ "'. Valid phases: " ++ String.intercalate ", " Phase.phaseNames
  | noSuchPath path => "Path does not exist: " ++ path

def isFlag (argument : String) : Bool :=
  argument.toList.head? == some '-'

/-- The unsigned 64-bit number written by the text, with or without a plus sign. -/
def offset? (value : String) : Option Nat :=
  let digits :=
    match value.toList with
    | '+' :: ds => ds
    | ds => ds
  if digits.isEmpty || !digits.all Char.isDigit then none
  else
    let n := digits.foldl (fun n d => n * 10 + (d.toNat - '0'.toNat)) 0
    if n < Nat.pow 2 64 then some n else none

/-! ## Listing the tokens of a file -/

structure Listing (file : Type) where
  file : file
  trivia : Bool := false
  tree : Bool := false

def Listing.readFrom (o : Listing (Option Path)) : List String →
    Except UsageError (Listing (Option Path))
  | [] => .ok o
  | "--trivia" :: rest => readFrom { o with trivia := true } rest
  | "--ast" :: rest => readFrom { o with tree := true } rest
  | argument :: rest =>
    if isFlag argument then .error (.unknownFlag argument)
    else if o.file.isSome then .error .severalFiles
    else readFrom { o with file := some argument } rest

def Listing.read (arguments : List String) : Except UsageError (Listing Path) := do
  let o ← readFrom { file := none } arguments
  match o.file with
  | some file => return { file, trivia := o.trivia, tree := o.tree }
  | none => .error .missingFile

/-! ## Signature help -/

structure Helping (file offset : Type) where
  file : file
  offset : offset
  libraryPaths : List Path := []
  matchBeginnings : Bool := false
  json : Bool := false
  settings? : Option Path := none

def Helping.readFrom (o : Helping (Option Path) (Option Nat)) : List String →
    Except UsageError (Helping (Option Path) (Option Nat))
  | [] => .ok o
  | ["--offset"] => .error (.missingValue "--offset")
  | ["--lib-path"] => .error (.missingValue "--lib-path")
  | ["--config"] => .error (.missingValue "--config")
  | "--offset" :: value :: rest =>
    match offset? value with
    | some n => readFrom { o with offset := some n } rest
    | none => .error (.badOffset value)
  | "--lib-path" :: value :: rest =>
    readFrom { o with libraryPaths := o.libraryPaths ++ [value] } rest
  | "--config" :: value :: rest => readFrom { o with settings? := some value } rest
  | "--partial-match" :: rest => readFrom { o with matchBeginnings := true } rest
  | "--json" :: rest => readFrom { o with json := true } rest
  | argument :: rest =>
    if isFlag argument then .error (.unknownFlag argument)
    else if o.file.isSome then .error .severalFiles
    else readFrom { o with file := some argument } rest

def Helping.read (arguments : List String) : Except UsageError (Helping Path Nat) := do
  let o ← readFrom { file := none, offset := none } arguments
  match o.file, o.offset with
  | some file, some offset =>
    return {
      file, offset
      libraryPaths := o.libraryPaths
      matchBeginnings := o.matchBeginnings
      json := o.json
      settings? := o.settings? }
  | none, _ => .error .missingFile
  | some _, none => .error .missingOffset

/-! ## Listing packages -/

structure Inventory where
  libraryPaths : List Path := []
  functions : Bool := false
  settings? : Option Path := none

def Inventory.readFrom (o : Inventory) : List String → Except UsageError Inventory
  | [] => .ok o
  | ["--lib-path"] => .error (.missingValue "--lib-path")
  | ["--config"] => .error (.missingValue "--config")
  | "--lib-path" :: value :: rest =>
    readFrom { o with libraryPaths := o.libraryPaths ++ [value] } rest
  | "--config" :: value :: rest => readFrom { o with settings? := some value } rest
  | "--functions" :: rest => readFrom { o with functions := true } rest
  | argument :: _ => .error (.unknownArgument argument)

def Inventory.read (arguments : List String) : Except UsageError Inventory :=
  Inventory.readFrom {} arguments

/-! ## Timing the phases of an analysis -/

structure Timing (path : Type) where
  path : path
  csv : Bool := false
  only : Option String := none
  libraryPaths : List Path := []

def Timing.readFrom (o : Timing (Option Path)) : List String →
    Except UsageError (Timing (Option Path))
  | [] => .ok o
  | "--csv" :: rest => readFrom { o with csv := true } rest
  | ["--only"] => .error (.missingPhase "--only")
  | ["--lib-path"] => .error (.missingDirectory "--lib-path")
  | "--only" :: value :: rest =>
    if Phase.phaseNames.contains value then readFrom { o with only := some value } rest
    else .error (.unknownPhase value)
  | "--lib-path" :: value :: rest =>
    readFrom { o with libraryPaths := o.libraryPaths ++ [value] } rest
  | argument :: rest =>
    if isFlag argument then .error (.unknownFlag argument)
    else if o.path.isSome then .error .severalPaths
    else readFrom { o with path := some argument } rest

/-- Reads the arguments of `analysis-stats`; the path must exist. -/
def Timing.read (disk : Disk) (arguments : List String) : Except UsageError (Timing Path) := do
  let o ← readFrom { path := none } arguments
  match o.path with
  | none => .error .missingPath
  | some path =>
    if disk.exists? path then
      return { path, csv := o.csv, only := o.only, libraryPaths := o.libraryPaths }
    else .error (.noSuchPath path)

end RSource.Command
