import RSource.Call.Active
import RSource.Document.Snapshot
import RSource.Json.Write
import RSource.Package.Index
import RSource.Text.Quoted

/-! # Signature help

Signature help answers, for a caret in a document, which function is being called, which signatures
it has, and which parameter the caret is at. Functions that the document itself defines come before
those of packages. -/

namespace RSource

/-- The signatures of the function called at a caret, with the one that fits best and its active
parameter. -/
structure Help where
  functionName : String
  signatures : List Signature
  activeSignature : Nat
  activeParameter : Nat
  deriving DecidableEq, Repr, Inhabited

namespace Help

/-- The signatures of a name that is not qualified, as the text defines it. -/
def localSignatures (source : Text) (name : String) : List Signature :=
  if (Token.find? "::".toList name.toList).isSome then []
  else (Signature.extract source).filter fun s => s.name == name

def at? (disk : Disk) (index : Package.Index) (matchBeginnings : Bool) (s : Document.Snapshot)
    (caret : Nat) : Option Help × Package.Index :=
  match Call.find? s.tree caret with
  | none => (none, index)
  | some site =>
    match site.call.calleeName? s.text with
    | none => (none, index)
    | some name =>
      let (found, index) := index.lookup disk name
      let signatures := localSignatures s.text name ++ found
      let active := Call.activeAt? site s.text caret signatures matchBeginnings
      (active.map fun a => ⟨name, signatures, a.signature, a.parameter⟩, index)

def line (help : Help) (s : Signature) (i : Nat) : String :=
  let marker := if i = help.activeSignature then "* " else "  "
  let package := (s.package?.map fun p => "  [" ++ p ++ "]").getD ""
  marker ++ s.label ++ package ++ "\n"

def render : Option Help → String
  | none => "No signature help at this position\n"
  | some help =>
    let lines := help.signatures.zipIdx.map fun (s, i) => help.line s i
    let active := help.signatures[help.activeSignature]?.bind fun s =>
      s.parameters[help.activeParameter]?
    let last := (active.map fun p =>
      s!"active parameter: {p.name} ({help.activeParameter})\n").getD ""
    String.join lines ++ last

def parameterJson (p : Parameter) : Json :=
  .object [("name", .string p.name),
    ("default_value", (p.default?.map Json.string).getD .null),
    ("is_variadic", .bool p.isVariadic)]

def signatureJson (s : Signature) : Json :=
  .object ([("name", .string s.name), ("parameters", .array (s.parameters.map parameterJson))]
    ++ (s.package?.map fun p => ("package", Json.string p)).toList)

def toJson : Option Help → Json
  | none => .null
  | some help =>
    .object [("functionName", .string help.functionName),
      ("signatures", .array (help.signatures.map signatureJson)),
      ("activeSignature", .natural help.activeSignature),
      ("activeParameter", .natural help.activeParameter)]

def describeEngine (index : Package.Index) (matchBeginnings : Bool) : String :=
  let paths := String.intercalate ", " (index.libraryPaths.map fun p => Text.quote p.toList)
  let flag := if matchBeginnings then "true" else "false"
  "SignatureHelpEngine \x7b index: PackageIndex \x7b lib_paths: [" ++ paths ++ "], .. \x7d, "
    ++ "config: SignatureConfig \x7b partial_argument_name_match: " ++ flag ++ " \x7d \x7d"

end Help

end RSource
