import RSource.Pattern.Property.Script.Shared
import RSource.Pattern.Property.Script.Table

/-! # Scripts

A character belongs to one script and may be used with several. Scripts are asked for by name or by
code. -/

namespace RSource.Pattern.Property

def foldName (name : String) : String :=
  String.ofList ((name.toList.filter (· != '_')).map Char.toLower)

/-- The older codes of two scripts. -/
def formerCode? : String → Option String
  | "qaac" => some "Copt"
  | "qaai" => some "Zinh"
  | _ => none

def findScript? (name : String) : Option Script :=
  scripts.find? fun s =>
    foldName s.name == name || foldName s.code == name || formerCode? name == some s.code

def script? (name : String) : Option CharSet :=
  (findScript? name).map (·.characters)

def sharedRanges : List (Nat × Nat) :=
  sharedCharacters.map fun s => (s.lo, s.hi)

/-- The characters that are used with the script: those listed with it, and those that belong to it
and are not listed at all. -/
def Script.used (s : Script) : CharSet :=
  let listed := sharedCharacters.filter fun x => (x.codes.splitOn " ").contains s.code
  (s.characters.diff (.ofRanges sharedRanges)).union
    (.ofRanges (listed.map fun x => (x.lo, x.hi)))

def scriptExtension? (name : String) : Option CharSet :=
  (findScript? name).map (·.used)

end RSource.Pattern.Property
