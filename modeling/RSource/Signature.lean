/-! # Signatures

The formal parameters of a function, and the label under which a signature is shown. -/

namespace RSource

def variadicName : String := "..."

/-- A formal parameter with the source text of its default, and whether it takes all further
arguments. -/
structure Parameter where
  name : String
  default? : Option String
  isVariadic : Bool
  deriving DecidableEq, Repr, Inhabited

namespace Parameter

def of (name : String) (default? : Option String := none) : Parameter :=
  ⟨name, default?, name == variadicName⟩

def label (p : Parameter) : String :=
  match p.default? with
  | some d => p.name ++ " = " ++ d
  | none => p.name

end Parameter

structure Signature where
  name : String
  parameters : List Parameter
  package? : Option String := none
  deriving DecidableEq, Repr, Inhabited

namespace Signature

def variadicIndex? (s : Signature) : Option Nat :=
  s.parameters.findIdx? (·.isVariadic)

def parameterIndex? (s : Signature) (name : String) : Option Nat :=
  s.parameters.findIdx? (·.name == name)

def label (s : Signature) : String :=
  s.name ++ "(" ++ String.intercalate ", " (s.parameters.map Parameter.label) ++ ")"

def inPackage (s : Signature) (package : String) : Signature :=
  { s with package? := some package }

end Signature

end RSource
