import RSource.Json

/-! # Settings

The settings are given as a JSON object. A key that is missing or holds a value of the wrong kind
keeps its default. -/

namespace RSource

structure Settings.Tree where
  /-- A rebuild is requested after every edit. -/
  rebuildOnEdit : Bool := true
  /-- Only the edited region is tokenized again. -/
  incrementalRelex : Bool := true
  /-- How long a reader waits for a requested rebuild before it builds itself. -/
  readyTimeoutMs : Nat := 2000
  deriving DecidableEq, Repr, Inhabited

structure Settings.Packages where
  enabled : Bool := true
  /-- The library directories searched first. -/
  libraryPaths : List String := []
  /-- The library directories of the environment are searched too. -/
  useDefaultLibraryPaths : Bool := true
  /-- How many answers to lookups are remembered. -/
  lookupCacheSize : Nat := 512
  deriving DecidableEq, Repr, Inhabited

structure Settings where
  /-- A named argument may go to the only parameter that its name begins. -/
  matchBeginnings : Bool := false
  tree : Settings.Tree := {}
  packages : Settings.Packages := {}
  deriving DecidableEq, Repr, Inhabited

namespace Settings

def at? (settings : Json) (group key : String) : Option Json :=
  (settings.member? group).bind (·.member? key)

def flagAt (settings : Json) (group key : String) (default : Bool) : Bool :=
  ((at? settings group key).bind Json.bool?).getD default

def numberAt (settings : Json) (group key : String) (default : Nat) : Nat :=
  ((at? settings group key).bind Json.natural?).getD default

def isPath (s : String) : Bool :=
  !s.isEmpty && !s.toList.contains '\x00'

def ofJson (settings : Json) : Settings :=
  { matchBeginnings := flagAt settings "signature" "partialArgumentNameMatch" false
    tree :=
      { rebuildOnEdit := flagAt settings "tree" "rebuildOnEdit" true
        incrementalRelex := flagAt settings "tree" "incrementalRelex" true
        readyTimeoutMs := numberAt settings "tree" "readyTimeoutMs" 2000 }
    packages :=
      { enabled := flagAt settings "packages" "enabled" true
        libraryPaths :=
          match (at? settings "packages" "libraryPaths").bind Json.array? with
          | some paths => (paths.filterMap Json.string?).filter isPath
          | none => []
        useDefaultLibraryPaths := flagAt settings "packages" "useDefaultLibraryPaths" true
        lookupCacheSize := max 1 (numberAt settings "packages" "lookupCacheSize" 512) } }

end Settings

end RSource
