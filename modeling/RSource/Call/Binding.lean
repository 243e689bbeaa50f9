import RSource.Signature

/-! # Binding arguments to parameters

Arguments find their parameters in four passes. A named argument goes to the parameter of that
name; with partial matching it may then go to the only parameter left that its name begins; other
named arguments go to the variadic parameter. At last the unnamed arguments fill the parameters
before the variadic one from left to right, and the variadic one takes the surplus. Only the
variadic parameter takes more than one argument. -/

namespace RSource.Call

structure Argument where
  slot : Nat
  name? : Option String
  start : Nat
  deriving DecidableEq, Repr, Inhabited

/-- Where an argument went. A name that begins several parameters is ambiguous. -/
inductive Binding where
  | parameter (index : Nat)
  | unmatched
  | ambiguous
  deriving DecidableEq, Repr, Inhabited

def fill (filled : List Nat) : Binding → List Nat
  | .parameter i => i :: filled
  | _ => filled

/-- One pass over the arguments in order: `choose` binds an argument that is not bound yet, given
the parameters filled so far, or leaves it to a later pass. -/
def pass (choose : List Nat → Argument → Option Binding) (filled : List Nat) :
    List (Argument × Option Binding) → List (Argument × Option Binding) × List Nat
  | [] => ([], filled)
  | (a, some b) :: rest =>
    let (rest, filled) := pass choose filled rest
    ((a, some b) :: rest, filled)
  | (a, none) :: rest =>
    match choose filled a with
    | none =>
      let (rest, filled) := pass choose filled rest
      ((a, none) :: rest, filled)
    | some b =>
      let (rest, filled) := pass choose (fill filled b) rest
      ((a, some b) :: rest, filled)

variable (s : Signature)

/-- The parameters below this index can be bound by position or by the beginning of their name. -/
def positionalLimit : Nat :=
  s.variadicIndex?.getD s.parameters.length

/-- By the name of a parameter that is not variadic; a repeated name binds only once. -/
def byName (filled : List Nat) (a : Argument) : Option Binding :=
  a.name?.bind fun name =>
    (s.parameters.findIdx? fun p => !p.isVariadic && p.name == name).map fun i =>
      if filled.contains i then .unmatched else .parameter i

def begunBy (filled : List Nat) (name : String) : List Nat :=
  (List.range (positionalLimit s)).filter fun i =>
    !filled.contains i && (s.parameters[i]?.any fun p => name.toList.isPrefixOf p.name.toList)

def byBeginning (filled : List Nat) (a : Argument) : Option Binding :=
  a.name?.bind fun name =>
    match begunBy s filled name with
    | [] => none
    | [i] => some (.parameter i)
    | _ => some .ambiguous

/-- A named argument that fits nowhere goes to the variadic parameter. -/
def bySurplusName (_ : List Nat) (a : Argument) : Option Binding :=
  a.name?.bind fun _ => s.variadicIndex?.map .parameter

def firstLeft? (filled : List Nat) : Option Nat :=
  (List.range (positionalLimit s)).find? fun i => !filled.contains i

/-- By position, and the surplus to the variadic parameter. -/
def byPosition (filled : List Nat) (a : Argument) : Option Binding :=
  match a.name? with
  | some _ => none
  | none => ((firstLeft? s filled).or s.variadicIndex?).map .parameter

structure Outcome where
  bindings : List Binding
  filled : List Nat

def bind (arguments : List Argument) (allowBeginnings : Bool) : Outcome :=
  let start := arguments.map fun a => (a, none)
  let (bound, filled) := pass (byName s) [] start
  let (bound, filled) :=
    if allowBeginnings then pass (byBeginning s) filled bound else (bound, filled)
  let (bound, filled) := pass (bySurplusName s) filled bound
  let (bound, filled) := pass (byPosition s) filled bound
  ⟨bound.map fun (_, b) => b.getD .unmatched, filled⟩

/-- How badly a call fits a signature: ambiguous arguments weigh most, then unmatched arguments,
then parameters without a default that got no argument. -/
structure Misfit where
  ambiguous : Nat
  unmatched : Nat
  missing : Nat
  deriving DecidableEq, Repr, Inhabited

def Misfit.less (a b : Misfit) : Bool :=
  a.ambiguous < b.ambiguous || a.ambiguous == b.ambiguous
    && (a.unmatched < b.unmatched || a.unmatched == b.unmatched && a.missing < b.missing)

def missing (filled : List Nat) : List Nat :=
  (List.range s.parameters.length).filter fun i =>
    !filled.contains i && (s.parameters[i]?.any fun p => !p.isVariadic && p.default?.isNone)

def misfit (o : Outcome) : Misfit :=
  ⟨o.bindings.count .ambiguous, o.bindings.count .unmatched, (missing s o.filled).length⟩

/-- The parameter to which an argument that bound to nothing is attributed. -/
def attributed? (o : Outcome) : Option Nat :=
  (firstLeft? s o.filled).or s.variadicIndex?

end RSource.Call
